import RouteLane.Config.Schema
import RouteLane.Domain.Validation
import RouteLane.Policy.Planner

/-!
# Migrating a configuration

A document of any schema becomes a configuration of the current one: its profiles are made
inactive, their lanes get proper names, and each has to be valid.  The unversioned schema
knows no profiles; its rules and interfaces become the rules and lanes of one.
-/

namespace RouteLane

open Fallible

/-- What the configuration uses of libraries and of derived code. -/
structure ConfigLibrary extends NetworkText where
  toLowercase : String → String
  debugDomainError : DomainError → String

/-- Nothing but whitespace. -/
def isBlank (text : String) : Bool := (trim text.toList).isEmpty

/-! ## The unversioned schema -/

/-- The interfaces of the document, in the order they come. -/
def legacyInterfaces (state : PersistedState) : List String :=
  state.rules.foldl
    (fun interfaces rule =>
      if isBlank rule.interface = false ∧ rule.interface ∉ interfaces then
        interfaces ++ [rule.interface]
      else interfaces)
    (state.altInterface.filter fun interface => !isBlank interface).toList

def legacyLaneId (index : ℕ) : LaneId :=
  if index = 0 then "default" else "legacy-" ++ toString (index + 1)

/-- The lane of an interface. -/
def legacyLane (entry : String × ℕ) : Lane where
  id := legacyLaneId entry.2
  name := if entry.2 = 0 then "Default" else "Legacy " ++ toString (entry.2 + 1)
  interface := entry.1
  fallbackLane := none
  failurePolicy := .inactive

/-- `legacy_target`. -/
def legacyTarget (text : NetworkText) (rule : PersistedRule) : Except String RuleTarget :=
  if rule.isDomain then .ok (.domain rule.targetStr)
  else
    match text.parseNetwork rule.targetStr.toList with
    | some network => .ok (.cidr network)
    | none =>
      match text.parseAddress rule.targetStr.toList with
      | some address => .ok (.ip address)
      | none => .error ("invalid legacy target '" ++ rule.targetStr ++ "'")

/-- The rule a legacy rule becomes.  No two interfaces are the same, so the first lane of an
interface is the one the map has for it. -/
def legacyRule (text : NetworkText) (lanes : List Lane) (entry : PersistedRule × ℕ) :
    Except String Rule :=
  match lanes.find? fun lane => lane.interface == entry.1.interface with
  | none => .error ("legacy rule '" ++ entry.1.targetStr ++ "' has no usable interface")
  | some lane => do
    let target ← legacyTarget text entry.1
    return { id := "legacy-" ++ toString (entry.2 + 1), enabled := true
             priority := if entry.2 + 1 < 2 ^ 32 then entry.2 + 1 else 2 ^ 32 - 1
             source := .any, target := target, action := .route lane.id }

/-- `RoutingPolicy::default`. -/
def RoutingPolicy.default : RoutingPolicy := ⟨.preserveSystem, .followSystemDefault, [], true⟩

/-- `migrate_legacy`. -/
def migrateLegacy (text : NetworkText) (state : PersistedState) : Except String ConfigV4 := do
  let lanes := (legacyInterfaces state).zipIdx.map legacyLane
  let rules ← state.rules.zipIdx.mapM (legacyRule text lanes)
  return { schemaVersion := currentSchemaVersion
           routingNoticePending := true
           language := state.language
           profiles :=
             if lanes.isEmpty && rules.isEmpty then []
             else [⟨"default", "Default", false, lanes, rules, .default⟩] }

/-! ## Every schema -/

/-- `Profile::from` a profile of version 3. -/
def ProfileV3.toProfile (old : ProfileV3) : Profile where
  id := old.id
  name := old.name
  enabled := false
  lanes := old.lanes
  rules := old.rules
  routing := ⟨.preserveSystem, old.routing.primary, old.routing.backups,
    old.routing.automaticFailover⟩

/-- `Profile::from` a profile of version 2. -/
def ProfileV2.toProfile (old : ProfileV2) : Profile :=
  ⟨old.id, old.name, false, old.lanes, old.rules, .default⟩

/-- The name `normalize_lane_names` gives a lane: its own, trimmed, or its id. -/
def Lane.withProperName (lane : Lane) : Lane :=
  { lane with
    name := if isBlank lane.name then lane.id else String.ofList (trim lane.name.toList) }

/-- `normalize_lane_names`. -/
def normalizeLaneNames (profile : Profile) : Profile :=
  { profile with lanes := profile.lanes.map Lane.withProperName }

/-- The loop of `validate_config_profiles`. -/
def checkConfigProfiles (toLowercase : String → String) :
    List ProfileId → List String → List Profile → Except String Unit
  | _, _, [] => .ok ()
  | ids, names, profile :: rest =>
    let canonicalName := toLowercase (String.ofList (trim profile.name.toList))
    if profile.id ∈ ids then .error ("duplicate profile id '" ++ profile.id ++ "'")
    else if canonicalName ∈ names then
      .error ("duplicate profile name '" ++ profile.name ++ "'")
    else checkConfigProfiles toLowercase (profile.id :: ids) (canonicalName :: names) rest

section Migration

variable (library : ConfigLibrary)

/-- What `into_current` makes of a profile. -/
def currentProfile (profile : Profile) : Except String Profile := do
  let profile := normalizeLaneNames { profile with enabled := false }
  (validateProfile library.toLowercase profile).mapError fun e =>
    "invalid profile after migration: " ++ library.debugDomainError e
  return profile

/-- The document as one of the current schema, its profiles as they are. -/
def ConfigDocument.migrate : ConfigDocument → Except String ConfigV4
  | .v4 current => .ok current
  | .v3 old => .ok ⟨currentSchemaVersion, true, old.language, old.profiles.map ProfileV3.toProfile⟩
  | .v2 old => .ok ⟨currentSchemaVersion, true, old.language, old.profiles.map ProfileV2.toProfile⟩
  | .legacy state => migrateLegacy library.toNetworkText state

/-- `ConfigDocument::into_current`. -/
def ConfigDocument.intoCurrent (document : ConfigDocument) : Except String ConfigV4 := do
  let current ← document.migrate library
  let profiles ← current.profiles.mapM (currentProfile library)
  checkConfigProfiles library.toLowercase [] [] profiles
  return { current with schemaVersion := currentSchemaVersion, profiles := profiles }

end Migration

/-! ## What is accepted -/

/-- The profile `into_current` makes of one, valid or not. -/
def properProfile (profile : Profile) : Profile :=
  normalizeLaneNames { profile with enabled := false }

section Accepted

variable {library : ConfigLibrary} {document : ConfigDocument} {config current : ConfigV4}
  {profile : Profile}

theorem currentProfile_eq_ok (profile profile' : Profile) :
    currentProfile library profile = .ok profile' ↔
      (properProfile profile).Valid library.toLowercase ∧ profile' = properProfile profile := by
  rw [currentProfile, check_eq_ok, mapError_eq_ok, ← validateProfile_eq_ok]
  refine and_congr Iff.rfl ?_
  constructor
  · exact fun h => (Except.ok.inj h).symm
  · rintro rfl
    rfl

/-- `into_current` in terms of the document migrated as it is. -/
theorem intoCurrent_eq_ok : document.intoCurrent library = .ok config ↔
    ∃ current, document.migrate library = .ok current ∧
      (∀ profile ∈ current.profiles, (properProfile profile).Valid library.toLowercase) ∧
      checkConfigProfiles library.toLowercase [] [] (current.profiles.map properProfile) = .ok () ∧
      config = { current with
        schemaVersion := currentSchemaVersion, profiles := current.profiles.map properProfile } := by
  rw [ConfigDocument.intoCurrent]
  simp only [bind_eq_ok, mapM_eq_ok_iff currentProfile_eq_ok]
  constructor
  · rintro ⟨current, hcurrent, profiles, ⟨hvalid, rfl⟩, _, hcheck, h⟩
    exact ⟨current, hcurrent, hvalid, hcheck, (Except.ok.inj h).symm⟩
  · rintro ⟨current, hcurrent, hvalid, hcheck, rfl⟩
    exact ⟨current, hcurrent, _, ⟨hvalid, rfl⟩, (), hcheck, rfl⟩

/-- The check of the profiles goes by their ids and names. -/
theorem checkConfigProfiles_map {g : Profile → Profile} (hid : ∀ profile, (g profile).id = profile.id)
    (hname : ∀ profile, (g profile).name = profile.name) {toLowercase : String → String}
    (profiles : List Profile) (ids : List ProfileId) (names : List String) :
    checkConfigProfiles toLowercase ids names (profiles.map g) =
      checkConfigProfiles toLowercase ids names profiles := by
  induction profiles generalizing ids names with
  | nil => rfl
  | cons profile rest ih =>
    rw [List.map_cons, checkConfigProfiles, checkConfigProfiles]
    simp only [hid, hname, ih]

end Accepted

/-! ## Versions 2 and 3 -/

/-- A profile is kept but for its lanes' names, where they are no proper ones, and is inactive. -/
structure Keeps (lanes : List Lane) (rules : List Rule) (profile : Profile) : Prop where
  lanes : List.Forall₂ (fun old lane => { lane with name := old.name } = old ∧
    (trim old.name.toList = old.name.toList → old.name ≠ "" → lane = old)) lanes profile.lanes
  rules : profile.rules = rules
  inactive : profile.enabled = false

theorem forall₂_withProperName (lanes : List Lane) :
    List.Forall₂ (fun old lane => { lane with name := old.name } = old ∧
      (trim old.name.toList = old.name.toList → old.name ≠ "" → lane = old)) lanes
      (lanes.map Lane.withProperName) := by
  rw [List.forall₂_map_right_iff, List.forall₂_same]
  intro lane _
  refine ⟨rfl, ?_⟩
  intro htrimmed hne
  have hblank : isBlank lane.name = false := by
    rw [isBlank, htrimmed, List.isEmpty_eq_false_iff]
    exact fun hnil => hne (String.toList_eq_nil_iff.1 hnil)
  rw [Lane.withProperName, hblank, htrimmed]
  simp

/-- A profile of which `toProfile` keeps the lanes and the rules. -/
theorem keeps_properProfile (profile : Profile) :
    Keeps profile.lanes profile.rules (properProfile profile) :=
  ⟨forall₂_withProperName profile.lanes, rfl, rfl⟩

/-! ## The unversioned schema -/

def ConfigV4.lanes (config : ConfigV4) : List Lane := config.profiles.flatMap Profile.lanes

def ConfigV4.rules (config : ConfigV4) : List Rule := config.profiles.flatMap Profile.rules

/-- The target a legacy rule stands for. -/
inductive StandsFor (text : NetworkText) (rule : PersistedRule) : RuleTarget → Prop
  | domain (h : rule.isDomain = true) : StandsFor text rule (.domain rule.targetStr)
  | network {network : IpNet} (h : rule.isDomain = false)
      (hnetwork : text.parseNetwork rule.targetStr.toList = some network) :
      StandsFor text rule (.cidr network)
  | address {address : IpAddr} (h : rule.isDomain = false)
      (hnetwork : text.parseNetwork rule.targetStr.toList = none)
      (haddress : text.parseAddress rule.targetStr.toList = some address) :
      StandsFor text rule (.ip address)

/-- The interfaces a legacy document uses, in its rules or as its default. -/
def UsesInterface (state : PersistedState) (interface : String) : Prop :=
  isBlank interface = false ∧
    (state.altInterface = some interface ∨ ∃ rule ∈ state.rules, rule.interface = interface)

/-- What a legacy rule is to be after the migration: enabled, for every process, with its
target, and on the one lane with its interface. -/
structure MigratedRule (text : NetworkText) (lanes : List Lane) (old : PersistedRule)
    (rule : Rule) : Prop where
  enabled : rule.enabled = true
  source : rule.source = .any
  target : StandsFor text old rule.target
  action : ∃ lane ∈ lanes, rule.action = .route lane.id ∧ lane.interface = old.interface ∧
    ∀ other ∈ lanes, other.interface = old.interface → other = lane

section Legacy

variable {text : NetworkText} {state : PersistedState}

theorem legacyTarget_eq_ok {rule : PersistedRule} {target : RuleTarget} :
    legacyTarget text rule = .ok target ↔ StandsFor text rule target := by
  rw [legacyTarget]
  constructor
  · intro h
    split at h
    · next hdomain => cases h; exact .domain hdomain
    · next hdomain =>
      have hdomain := Bool.not_eq_true _ ▸ hdomain
      split at h
      · next hnetwork => cases h; exact .network hdomain hnetwork
      · next hnetwork =>
        split at h
        · next haddress => cases h; exact .address hdomain hnetwork haddress
        · cases h
  · intro h
    cases h with
    | domain h => rw [if_pos h]
    | network h hnetwork => simp [h, hnetwork]
    | address h hnetwork haddress => simp [h, hnetwork, haddress]

/-- The loop over the rules, from the interfaces found before it. -/
theorem legacyInterfaces_foldl (rules : List PersistedRule) {start : List String}
    (hstart : start.Nodup) :
    let interfaces := rules.foldl (fun interfaces rule =>
      if isBlank rule.interface = false ∧ rule.interface ∉ interfaces then
        interfaces ++ [rule.interface]
      else interfaces) start
    interfaces.Nodup ∧ ∀ interface, interface ∈ interfaces ↔ interface ∈ start ∨
      isBlank interface = false ∧ ∃ rule ∈ rules, rule.interface = interface := by
  induction rules generalizing start with
  | nil => simp [hstart]
  | cons rule rest ih =>
    rw [List.foldl_cons]
    by_cases hnew : isBlank rule.interface = false ∧ rule.interface ∉ start
    · rw [if_pos hnew]
      obtain ⟨hnodup, hmem⟩ := ih (List.nodup_append.2 ⟨hstart, List.nodup_singleton _, by
        rintro a ha b hb rfl
        rw [List.mem_singleton.1 hb] at ha
        exact hnew.2 ha⟩)
      refine ⟨hnodup, fun interface => ?_⟩
      rw [hmem, List.mem_append, List.mem_singleton, List.exists_mem_cons_iff]
      constructor
      · rintro ((h | rfl) | ⟨hblank, h⟩)
        · exact Or.inl h
        · exact Or.inr ⟨hnew.1, Or.inl rfl⟩
        · exact Or.inr ⟨hblank, Or.inr h⟩
      · rintro (h | ⟨hblank, rfl | h⟩)
        · exact Or.inl (Or.inl h)
        · exact Or.inl (Or.inr rfl)
        · exact Or.inr ⟨hblank, h⟩
    · rw [if_neg hnew]
      obtain ⟨hnodup, hmem⟩ := ih hstart
      refine ⟨hnodup, fun interface => ?_⟩
      rw [hmem, List.exists_mem_cons_iff]
      constructor
      · rintro (h | ⟨hblank, h⟩)
        · exact Or.inl h
        · exact Or.inr ⟨hblank, Or.inr h⟩
      · rintro (h | ⟨hblank, rfl | h⟩)
        · exact Or.inl h
        · exact Or.inl (by_contra fun hstart => hnew ⟨hblank, hstart⟩)
        · exact Or.inr ⟨hblank, h⟩

theorem nodup_legacyInterfaces (state : PersistedState) : (legacyInterfaces state).Nodup := by
  refine (legacyInterfaces_foldl state.rules ?_).1
  cases state.altInterface.filter fun interface => !isBlank interface with
  | none => exact List.nodup_nil
  | some interface => exact List.nodup_singleton interface

/-- Every interface the document uses, once. -/
theorem mem_legacyInterfaces {interface : String} :
    interface ∈ legacyInterfaces state ↔ UsesInterface state interface := by
  have hstart : interface ∈ (state.altInterface.filter fun interface => !isBlank interface).toList ↔
      state.altInterface = some interface ∧ isBlank interface = false := by
    simp [Option.mem_toList, Option.filter_eq_some_iff]
  have hnodup : (state.altInterface.filter fun interface => !isBlank interface).toList.Nodup := by
    cases state.altInterface.filter fun interface => !isBlank interface with
    | none => exact List.nodup_nil
    | some interface => exact List.nodup_singleton interface
  rw [legacyInterfaces, (legacyInterfaces_foldl state.rules hnodup).2, hstart, UsesInterface]
  tauto

theorem map_interface_legacyLanes (state : PersistedState) :
    ((legacyInterfaces state).zipIdx.map legacyLane).map Lane.interface = legacyInterfaces state := by
  rw [List.map_map]
  exact List.zipIdx_map_fst 0 (legacyInterfaces state)

/-- The rule at a place of the document, once its interface and its target are understood. -/
theorem legacyRule_eq_ok {entry : PersistedRule × ℕ} {rule : Rule} {lanes : List Lane} :
    legacyRule text lanes entry = .ok rule ↔ ∃ lane target,
      lanes.find? (fun lane => lane.interface == entry.1.interface) = some lane ∧
      StandsFor text entry.1 target ∧
      rule = { id := "legacy-" ++ toString (entry.2 + 1), enabled := true
               priority := if entry.2 + 1 < 2 ^ 32 then entry.2 + 1 else 2 ^ 32 - 1
               source := .any, target := target, action := .route lane.id } := by
  rw [legacyRule]
  cases hfind : lanes.find? fun lane => lane.interface == entry.1.interface with
  | none => simp
  | some lane =>
    simp only [bind_eq_ok, legacyTarget_eq_ok]
    constructor
    · rintro ⟨target, htarget, h⟩
      exact ⟨lane, target, rfl, htarget, (Except.ok.inj h).symm⟩
    · rintro ⟨_, target, hlane, htarget, rfl⟩
      obtain rfl := Option.some.inj hlane
      exact ⟨target, htarget, rfl⟩

/-- Every interface of the rules that is not blank has its lane. -/
theorem find?_legacyLane {rule : PersistedRule} (hrule : rule ∈ state.rules) :
    (∃ lane, ((legacyInterfaces state).zipIdx.map legacyLane).find?
      (fun lane => lane.interface == rule.interface) = some lane) ↔
      isBlank rule.interface = false := by
  have hmem : rule.interface ∈ ((legacyInterfaces state).zipIdx.map legacyLane).map Lane.interface ↔
      isBlank rule.interface = false := by
    rw [map_interface_legacyLanes, mem_legacyInterfaces, UsesInterface]
    exact and_iff_left (Or.inr ⟨rule, hrule, rfl⟩)
  rw [← hmem, ← Option.isSome_iff_exists, List.find?_isSome, List.mem_map]
  simp only [beq_iff_eq]

/-- The migration of a legacy document fails at a rule without an interface or without a
target, and nowhere else. -/
theorem migrateLegacy_ok_iff : (∃ config, migrateLegacy text state = .ok config) ↔
    ∀ rule ∈ state.rules, isBlank rule.interface = false ∧ ∃ target, StandsFor text rule target := by
  have hrule : ∀ entry ∈ state.rules.zipIdx,
      ((∃ rule, legacyRule text ((legacyInterfaces state).zipIdx.map legacyLane) entry = .ok rule) ↔
        isBlank entry.1.interface = false ∧ ∃ target, StandsFor text entry.1 target) := by
    intro entry hmem
    rw [← find?_legacyLane (List.fst_mem_of_mem_zipIdx hmem)]
    constructor
    · rintro ⟨rule, h⟩
      obtain ⟨lane, target, hlane, htarget, -⟩ := legacyRule_eq_ok.1 h
      exact ⟨⟨lane, hlane⟩, target, htarget⟩
    · rintro ⟨⟨lane, hlane⟩, target, htarget⟩
      exact ⟨_, legacyRule_eq_ok.2 ⟨lane, target, hlane, htarget, rfl⟩⟩
  simp only [migrateLegacy, bind_eq_ok]
  constructor
  · rintro ⟨config, rules, hrules, -⟩ rule hmem
    obtain ⟨entry, hentry, rfl⟩ : ∃ entry ∈ state.rules.zipIdx, entry.1 = rule := by
      rw [← List.mem_map, List.zipIdx_map_fst]
      exact hmem
    exact (hrule entry hentry).1 (ok_of_mapM hrules hentry)
  · intro h
    obtain ⟨rules, hrules⟩ := ok_mapM fun entry hmem =>
      (hrule entry hmem).2 (h entry.1 (List.fst_mem_of_mem_zipIdx hmem))
    exact ⟨_, rules, hrules, rfl⟩

/-- The name of a generated lane ends in no whitespace. -/
theorem trim_legacyName (n : ℕ) :
    trim ("Legacy " ++ toString n).toList = ("Legacy " ++ toString n).toList := by
  have hlist : ("Legacy " ++ toString n).toList = 'L' :: "egacy ".toList ++ Nat.toDigits 10 n := by
    rw [String.toList_append, Nat.toString_eq_repr, Nat.toList_repr]
    rfl
  rw [hlist, trim, List.cons_append, List.dropWhile_cons_of_neg (by decide)]
  refine trimEndMatches_of_last fun c hc => ?_
  rw [← List.cons_append, List.getLast?_append_of_ne_nil _ Nat.toDigits_ne_nil] at hc
  have hdigit := Nat.isDigit_of_mem_toDigits (by decide) (by decide) (List.mem_of_getLast? hc)
  simp only [Char.isDigit, Bool.and_eq_true, decide_eq_true_eq, ge_iff_le, UInt32.le_iff_toNat_le]
    at hdigit
  have hle : 48 ≤ c.toNat ∧ c.toNat ≤ 57 := hdigit
  simp only [isWhitespace, Bool.or_eq_false_iff, Bool.and_eq_false_iff, decide_eq_false_iff_not,
    beq_eq_false_iff_ne]
  omega

theorem trim_legacyLane_name (entry : String × ℕ) :
    trim (legacyLane entry).name.toList = (legacyLane entry).name.toList := by
  rw [legacyLane]
  by_cases hzero : entry.2 = 0
  · simp only [if_pos hzero]
    decide
  · simp only [if_neg hzero, trim_legacyName]

theorem isBlank_legacyLane_name (entry : String × ℕ) :
    isBlank (legacyLane entry).name = false := by
  rw [isBlank, trim_legacyLane_name, legacyLane]
  by_cases hzero : entry.2 = 0
  · simp [if_pos hzero]
  · simp [if_neg hzero, String.toList_append]

theorem withProperName_legacyLane (entry : String × ℕ) :
    (legacyLane entry).withProperName = legacyLane entry := by
  rw [Lane.withProperName, isBlank_legacyLane_name, trim_legacyLane_name]
  simp

/-- The lanes of a legacy document have their proper names from the start. -/
theorem properProfile_of_migrateLegacy {config : ConfigV4}
    (h : migrateLegacy text state = .ok config) :
    ∀ profile ∈ config.profiles, properProfile profile = profile := by
  rw [migrateLegacy] at h
  obtain ⟨rules, -, h⟩ := bind_eq_ok.1 h
  obtain rfl := Except.ok.inj h
  intro profile hprofile
  simp only at hprofile
  split at hprofile
  · exact absurd hprofile List.not_mem_nil
  · rw [List.mem_singleton.1 hprofile, properProfile, normalizeLaneNames]
    simp only [List.map_map]
    congr 1
    exact List.map_congr_left fun entry _ => withProperName_legacyLane entry

/-- The parts of the one profile of a legacy document, which is there when it has any. -/
theorem parts_of_migrateLegacy {config : ConfigV4} (h : migrateLegacy text state = .ok config) :
    state.rules.zipIdx.mapM (legacyRule text ((legacyInterfaces state).zipIdx.map legacyLane)) =
        .ok config.rules ∧
      config.lanes = (legacyInterfaces state).zipIdx.map legacyLane ∧
      config.profiles.length ≤ 1 ∧
      ∀ profile ∈ config.profiles, profile.lanes = config.lanes ∧ profile.rules = config.rules := by
  rw [migrateLegacy] at h
  obtain ⟨rules, hrules, h⟩ := bind_eq_ok.1 h
  obtain rfl := Except.ok.inj h
  simp only [ConfigV4.lanes, ConfigV4.rules]
  split
  · next hempty =>
    simp only [Bool.and_eq_true, List.isEmpty_iff] at hempty
    obtain ⟨hlanes, rfl⟩ := hempty
    simpa [hlanes] using hrules
  · simpa using hrules

/-- The rules come with rising priorities, as long as a priority can hold their number. -/
theorem priorities_of_legacyRules {lanes : List Lane} {rules : List Rule}
    (h : state.rules.zipIdx.mapM (legacyRule text lanes) = .ok rules)
    (hfew : state.rules.length < 2 ^ 32) : rules.Pairwise fun a b => a.priority < b.priority := by
  have hpriorities : state.rules.zipIdx.map
      (fun entry => if entry.2 + 1 < 2 ^ 32 then entry.2 + 1 else 2 ^ 32 - 1) =
        rules.map Rule.priority := by
    rw [← List.forall₂_eq_eq_eq, List.forall₂_map_left_iff, List.forall₂_map_right_iff]
    refine (forall₂_of_mapM h).imp fun entry rule hrule => ?_
    obtain ⟨lane, target, -, -, rfl⟩ := legacyRule_eq_ok.1 hrule
    rfl
  have hplaces : state.rules.zipIdx.Pairwise fun a b => a.2 < b.2 := by
    rw [← List.pairwise_map, List.zipIdx_map_snd]
    exact List.pairwise_lt_range'
  rw [← List.pairwise_map, ← hpriorities, List.pairwise_map]
  refine hplaces.imp_of_mem fun {a b} ha hb hlt => ?_
  have := List.snd_lt_of_mem_zipIdx hb
  rw [if_pos (by omega), if_pos (by omega)]
  omega

/-- One by one, what the rules become. -/
theorem migratedRules {rules : List Rule}
    (h : state.rules.zipIdx.mapM (legacyRule text ((legacyInterfaces state).zipIdx.map legacyLane)) =
      .ok rules) :
    List.Forall₂ (MigratedRule text ((legacyInterfaces state).zipIdx.map legacyLane))
      state.rules rules := by
  rw [← List.zipIdx_map_fst 0 state.rules, List.forall₂_map_left_iff]
  refine (forall₂_of_mapM h).imp fun entry rule hrule => ?_
  obtain ⟨lane, target, hfind, htarget, rfl⟩ := legacyRule_eq_ok.1 hrule
  have hlane := List.mem_of_find?_eq_some hfind
  have hinterface : lane.interface = entry.1.interface := by simpa using List.find?_some hfind
  refine ⟨rfl, rfl, htarget, lane, hlane, rfl, hinterface, ?_⟩
  have hnodup : (((legacyInterfaces state).zipIdx.map legacyLane).map Lane.interface).Nodup := by
    rw [map_interface_legacyLanes]
    exact nodup_legacyInterfaces state
  intro other hother heq
  exact List.inj_on_of_nodup_map hnodup hother hlane (heq.trans hinterface.symm)

end Legacy

/-- Enabled rules with rising priorities are in their execution order. -/
theorem executionOrder_eq_self {rules : List Rule} (henabled : ∀ rule ∈ rules, rule.enabled = true)
    (hrising : rules.Pairwise fun a b => a.priority < b.priority) : executionOrder rules = rules := by
  rw [executionOrder, List.filter_eq_self.2 henabled]
  exact (hrising.imp fun hlt => Or.inl hlt).insertionSort_eq

/-! ## What a migration keeps -/

/-- What a legacy document says is what the configuration says: its rules and no others, in
their order, each on the lane of its interface, and a lane for every interface it uses. -/
structure KeepsIntent (text : NetworkText) (state : PersistedState) (config : ConfigV4) : Prop where
  profiles : config.profiles.length ≤ 1
  inactive : ∀ profile ∈ config.profiles, profile.enabled = false
  rules : List.Forall₂ (MigratedRule text config.lanes) state.rules config.rules
  order : executionOrder config.rules = config.rules
  laneIds : (config.lanes.map Lane.id).Nodup
  nodup : (config.lanes.map Lane.interface).Nodup
  lanes : ∀ interface, interface ∈ config.lanes.map Lane.interface ↔ UsesInterface state interface

section Intent

variable {library : ConfigLibrary} {state : PersistedState} {config : ConfigV4}

theorem checkConfigProfiles_of_length_le_one {toLowercase : String → String}
    {profiles : List Profile} (h : profiles.length ≤ 1) :
    checkConfigProfiles toLowercase [] [] profiles = .ok () := by
  match profiles with
  | [] => rfl
  | [profile] => simp [checkConfigProfiles]

/-- A legacy document is migrated as it is, if what comes out is valid. -/
theorem legacy_intoCurrent_eq_ok : (ConfigDocument.legacy state).intoCurrent library = .ok config ↔
    migrateLegacy library.toNetworkText state = .ok config ∧
      ∀ profile ∈ config.profiles, profile.Valid library.toLowercase := by
  have hsame : ∀ current, migrateLegacy library.toNetworkText state = .ok current →
      { current with
        schemaVersion := currentSchemaVersion, profiles := current.profiles.map properProfile } =
          current := by
    intro current hcurrent
    have hprofiles : current.profiles.map properProfile = current.profiles :=
      (List.map_congr_left (properProfile_of_migrateLegacy hcurrent)).trans (List.map_id' _)
    rw [hprofiles]
    rw [migrateLegacy] at hcurrent
    obtain ⟨rules, -, h⟩ := bind_eq_ok.1 hcurrent
    obtain rfl := Except.ok.inj h
    rfl
  rw [intoCurrent_eq_ok]
  constructor
  · rintro ⟨current, hcurrent, hvalid, -, rfl⟩
    rw [hsame current hcurrent]
    refine ⟨hcurrent, fun profile hprofile => ?_⟩
    rw [← properProfile_of_migrateLegacy hcurrent profile hprofile]
    exact hvalid profile hprofile
  · rintro ⟨hcurrent, hvalid⟩
    refine ⟨config, hcurrent, fun profile hprofile => ?_, ?_, (hsame config hcurrent).symm⟩
    · rw [properProfile_of_migrateLegacy hcurrent profile hprofile]
      exact hvalid profile hprofile
    · refine checkConfigProfiles_of_length_le_one ?_
      rw [List.length_map]
      exact (parts_of_migrateLegacy hcurrent).2.2.1

theorem inactive_of_intoCurrent {document : ConfigDocument}
    (h : document.intoCurrent library = .ok config) :
    ∀ profile ∈ config.profiles, profile.enabled = false := by
  obtain ⟨current, -, -, -, rfl⟩ := intoCurrent_eq_ok.1 h
  exact List.forall_mem_map.2 fun profile _ => rfl

theorem keepsIntent (h : (ConfigDocument.legacy state).intoCurrent library = .ok config) :
    KeepsIntent library.toNetworkText state config := by
  obtain ⟨hmigrated, hvalid⟩ := legacy_intoCurrent_eq_ok.1 h
  obtain ⟨hrules, hlanes, hlength, hparts⟩ := parts_of_migrateLegacy hmigrated
  have hrenamed : List.Forall₂ (MigratedRule library.toNetworkText config.lanes) state.rules
      config.rules := by
    rw [hlanes]
    exact migratedRules hrules
  have hinterfaces : config.lanes.map Lane.interface = legacyInterfaces state := by
    rw [hlanes, map_interface_legacyLanes]
  -- What a valid profile is bounded by: without a profile there is nothing to bound.
  have hbounds : config.rules.length ≤ 10000 ∧ (config.lanes.map Lane.id).Nodup := by
    cases hprofiles : config.profiles with
    | nil => simp [ConfigV4.rules, ConfigV4.lanes, hprofiles]
    | cons profile rest =>
      have hmem : profile ∈ config.profiles := hprofiles ▸ List.mem_cons_self
      obtain ⟨hlanes', hrules'⟩ := hparts profile hmem
      rw [← hlanes', ← hrules']
      exact ⟨(hvalid profile hmem).rules_le, (hvalid profile hmem).laneIds⟩
  have henabled : ∀ rule ∈ config.rules, rule.enabled = true := by
    refine forall_of_mapM hrules fun entry _ rule hrule => ?_
    obtain ⟨lane, target, -, -, rfl⟩ := legacyRule_eq_ok.1 hrule
    rfl
  have hfew : state.rules.length < 2 ^ 32 := by
    rw [hrenamed.length_eq]
    omega
  refine ⟨hlength, inactive_of_intoCurrent h, hrenamed,
    executionOrder_eq_self henabled (priorities_of_legacyRules hrules hfew), hbounds.2, ?_, ?_⟩
  · rw [hinterfaces]
    exact nodup_legacyInterfaces state
  · rw [hinterfaces]
    exact fun interface => mem_legacyInterfaces

/-- A legacy document is refused at a rule without an interface or without a target, or with
the profile it makes. -/
theorem legacy_refused_iff :
    (∃ e, (ConfigDocument.legacy state).intoCurrent library = .error e) ↔
      (∃ rule ∈ state.rules, isBlank rule.interface = true) ∨
      (∃ rule ∈ state.rules, ¬∃ target, StandsFor library.toNetworkText rule target) ∨
      ∃ config, migrateLegacy library.toNetworkText state = .ok config ∧
        ∃ profile ∈ config.profiles, validateProfile library.toLowercase profile ≠ .ok () := by
  have hresult : (∃ e, (ConfigDocument.legacy state).intoCurrent library = .error e) ↔
      ¬∃ config, (ConfigDocument.legacy state).intoCurrent library = .ok config := by
    cases (ConfigDocument.legacy state).intoCurrent library <;> simp
  have hmigrated : (∃ config, migrateLegacy library.toNetworkText state = .ok config) ↔
      ∀ rule ∈ state.rules, isBlank rule.interface = false ∧
        ∃ target, StandsFor library.toNetworkText rule target := migrateLegacy_ok_iff
  simp only [hresult, legacy_intoCurrent_eq_ok, ne_eq, validateProfile_eq_ok]
  by_cases hrules : ∃ config, migrateLegacy library.toNetworkText state = .ok config
  · have hgood := hmigrated.1 hrules
    obtain ⟨config, hconfig⟩ := hrules
    constructor
    · intro hnone
      refine Or.inr (Or.inr ⟨config, hconfig, ?_⟩)
      by_contra hall
      push Not at hall
      exact hnone ⟨config, hconfig, hall⟩
    · rintro (⟨rule, hrule, hblank⟩ | ⟨rule, hrule, htarget⟩ | ⟨config', hconfig', profile, hprofile,
        hinvalid⟩) ⟨config'', hconfig'', hvalid⟩
      · rw [(hgood rule hrule).1] at hblank
        cases hblank
      · exact htarget (hgood rule hrule).2
      · rw [hconfig'] at hconfig''
        obtain rfl := Except.ok.inj hconfig''
        exact hinvalid (hvalid profile hprofile)
  · constructor
    · intro _
      rw [hmigrated] at hrules
      push Not at hrules
      obtain ⟨rule, hrule, hbad⟩ := hrules
      cases hblank : isBlank rule.interface with
      | true => exact Or.inl ⟨rule, hrule, hblank⟩
      | false => exact Or.inr (Or.inl ⟨rule, hrule, fun ⟨target, h⟩ => hbad hblank target h⟩)
    · rintro - ⟨config, hconfig, -⟩
      exact hrules ⟨config, hconfig⟩

end Intent

/-- What a profile of version 3 says is what the profile says. -/
structure ProfileV3.KeptBy (old : ProfileV3) (profile : Profile) : Prop extends
    Keeps old.lanes old.rules profile where
  id : profile.id = old.id
  name : profile.name = old.name
  primary : profile.routing.primary = old.routing.primary
  backups : profile.routing.backups = old.routing.backups
  automaticFailover : profile.routing.automaticFailover = old.routing.automaticFailover

/-- What a profile of version 2 says is what the profile says. -/
structure ProfileV2.KeptBy (old : ProfileV2) (profile : Profile) : Prop extends
    Keeps old.lanes old.rules profile where
  id : profile.id = old.id
  name : profile.name = old.name

/-- A legacy document is migrated with its intent, or it has a rule without an interface or
without a target, or a profile that is not valid.  The profiles of versions 2 and 3 are
migrated one by one, with all they have. -/
theorem migration_keepsIntent (library : ConfigLibrary) :
    (∀ state config, (ConfigDocument.legacy state).intoCurrent library = .ok config →
      KeepsIntent library.toNetworkText state config) ∧
    (∀ state, (∃ e, (ConfigDocument.legacy state).intoCurrent library = .error e) ↔
      (∃ rule ∈ state.rules, isBlank rule.interface = true) ∨
      (∃ rule ∈ state.rules, ¬∃ target, StandsFor library.toNetworkText rule target) ∨
      ∃ config, migrateLegacy library.toNetworkText state = .ok config ∧
        ∃ profile ∈ config.profiles, validateProfile library.toLowercase profile ≠ .ok ()) ∧
    (∀ old config, (ConfigDocument.v3 old).intoCurrent library = .ok config →
      List.Forall₂ ProfileV3.KeptBy old.profiles config.profiles) ∧
    (∀ old config, (ConfigDocument.v2 old).intoCurrent library = .ok config →
      List.Forall₂ ProfileV2.KeptBy old.profiles config.profiles) := by
  refine ⟨fun state config h => keepsIntent h, fun state => legacy_refused_iff, ?_, ?_⟩
  · intro old config h
    obtain ⟨current, hcurrent, -, -, rfl⟩ := intoCurrent_eq_ok.1 h
    obtain rfl := Except.ok.inj hcurrent
    rw [List.map_map, List.forall₂_map_right_iff, List.forall₂_same]
    exact fun profile _ => ⟨keeps_properProfile profile.toProfile, rfl, rfl, rfl, rfl, rfl⟩
  · intro old config h
    obtain ⟨current, hcurrent, -, -, rfl⟩ := intoCurrent_eq_ok.1 h
    obtain rfl := Except.ok.inj hcurrent
    rw [List.map_map, List.forall₂_map_right_iff, List.forall₂_same]
    exact fun profile _ => ⟨keeps_properProfile profile.toProfile, rfl, rfl⟩

/-- A document with a domain on one interface and a default interface that is another. -/
theorem migration_keepsIntent_twoInterfaces :
    let library : ConfigLibrary := ⟨.numbers, id, fun _ => ""⟩
    let state : PersistedState := ⟨.en, some "eth0", [⟨"example.org", true, "wg0"⟩]⟩
    let lanes : List Lane := [⟨"default", "Default", "eth0", none, .inactive⟩,
      ⟨"legacy-2", "Legacy 2", "wg0", none, .inactive⟩]
    let rules : List Rule :=
      [⟨"legacy-1", true, 1, .any, .domain "example.org", .route "legacy-2"⟩]
    KeepsIntent library.toNetworkText state
      ⟨4, true, .en, [⟨"default", "Default", false, lanes, rules, .default⟩]⟩ := by
  intro library state lanes rules
  refine (migration_keepsIntent library).1 state _ ?_
  decide

end RouteLane
