import RouteLane.Config.Migration

/-!
# Saving and loading

The repository writes a configuration as it is, if it is valid, and migrates what it reads.  A
configuration that was loaded can be saved, and comes back as it was where every lane without a
name has an id that can be its name: the id is taken as it is, and names are trimmed.
-/

namespace RouteLane

open Fallible JsonValue

section Repository

variable (library : ConfigLibrary)

/-- What `save` makes of a profile. -/
def profileToSave (profile : Profile) : Except String Profile := do
  let profile := { profile with enabled := false }
  (validateProfile library.toLowercase profile).mapError fun e =>
    "refusing to save invalid profile: " ++ library.debugDomainError e
  return profile

/-- `ConfigRepository::save`, up to the document it writes. -/
def ConfigV4.save (config : ConfigV4) : Except String JsonValue := do
  let profiles ← config.profiles.mapM (profileToSave library)
  checkConfigProfiles library.toLowercase [] [] profiles
  return (Codec.configV4 library.toNetworkText).encode
    { config with schemaVersion := currentSchemaVersion, profiles := profiles }

/-- The end of `load_config_file`. -/
def loadConfig (json : Except String JsonValue) : Except String ConfigV4 := do
  let document ← ConfigDocument.fromJson library.toNetworkText json
  document.intoCurrent library

end Repository

/-! ## What is read fits -/

section Read

variable {α : Type} {c : Codec α} {P : α → Prop} {fields : List (String × JsonValue)}
  {key : String} {a : α}

theorem of_readField (hc : ∀ v a, c.decode v = .ok a → P a) (h : readField c fields key = .ok a) :
    P a := by
  rw [readField] at h
  cases hv : fields.lookup key with
  | none => rw [hv] at h; cases h
  | some v => rw [hv] at h; exact hc v a h

theorem of_readDefault {d : α} (hd : P d) (hc : ∀ v a, c.decode v = .ok a → P a)
    (h : readDefault c fields key d = .ok a) : P a := by
  rw [readDefault] at h
  cases hv : fields.lookup key with
  | none => rw [hv] at h; exact Except.ok.inj h ▸ hd
  | some v => rw [hv] at h; exact hc v a h

theorem of_list {v : JsonValue} {l : List α} (hc : ∀ v a, c.decode v = .ok a → P a)
    (h : c.list.decode v = .ok l) : ∀ a ∈ l, P a := by
  cases v with
  | array items => exact forall_of_mapM h fun v _ a ha => hc v a ha
  | _ => cases h

theorem of_readItems {read : JsonValue → Except String α} {l : List α}
    (hread : ∀ v a, read v = .ok a → P a) (h : readItems read fields key = .ok l) :
    ∀ a ∈ l, P a := by
  rw [readItems] at h
  split at h
  · exact Except.ok.inj h ▸ fun a ha => absurd ha List.not_mem_nil
  · exact forall_of_mapM h fun v _ a ha => hread v a ha
  · cases h

end Read

/-- The rules of a document that has them in profiles. -/
def ConfigDocument.rules : ConfigDocument → List Rule
  | .v4 current => current.rules
  | .v3 old => old.profiles.flatMap ProfileV3.rules
  | .v2 old => old.profiles.flatMap ProfileV2.rules
  | .legacy _ => []

/-- The lanes of a document that has them in profiles. -/
def ConfigDocument.lanes : ConfigDocument → List Lane
  | .v4 current => current.lanes
  | .v3 old => old.profiles.flatMap ProfileV3.lanes
  | .v2 old => old.profiles.flatMap ProfileV2.lanes
  | .legacy _ => []

section Fit

variable {text : NetworkText} {v : JsonValue}

theorem lt_of_decode_number {n : ℕ} (h : Codec.number.decode v = .ok n) : n < 2 ^ 32 := by
  cases v with
  | number m =>
    simp only [Codec.number] at h
    split at h
    · next hlt => exact Except.ok.inj h ▸ hlt
    · cases h
  | _ => cases h

theorem priority_lt_of_decode {rule : Rule} (h : (Codec.rule text).decode v = .ok rule) :
    rule.priority < 2 ^ 32 := by
  obtain ⟨_, _, h⟩ := bind_eq_ok.1 h
  obtain ⟨_, _, h⟩ := bind_eq_ok.1 h
  obtain ⟨_, _, h⟩ := bind_eq_ok.1 h
  obtain ⟨priority, hpriority, h⟩ := bind_eq_ok.1 h
  obtain ⟨_, _, h⟩ := bind_eq_ok.1 h
  obtain ⟨_, _, h⟩ := bind_eq_ok.1 h
  obtain ⟨_, _, h⟩ := bind_eq_ok.1 h
  obtain rfl := Except.ok.inj h
  exact of_readField (P := fun n => n < 2 ^ 32) (fun _ _ => lt_of_decode_number) hpriority

theorem prioritiesFit_of_readField {fields : List (String × JsonValue)} {key : String}
    {rules : List Rule} (h : readField (Codec.rule text).list fields key = .ok rules) :
    PrioritiesFit rules :=
  of_readField (P := PrioritiesFit)
    (fun _ _ => of_list fun _ _ => priority_lt_of_decode) h

theorem profile_fits {profile : Profile} (h : (Codec.profile text).decode v = .ok profile) :
    PrioritiesFit profile.rules := by
  obtain ⟨_, _, h⟩ := bind_eq_ok.1 h
  obtain ⟨_, _, h⟩ := bind_eq_ok.1 h
  obtain ⟨_, _, h⟩ := bind_eq_ok.1 h
  obtain ⟨_, _, h⟩ := bind_eq_ok.1 h
  obtain ⟨_, _, h⟩ := bind_eq_ok.1 h
  obtain ⟨rules, hrules, h⟩ := bind_eq_ok.1 h
  obtain ⟨_, _, h⟩ := bind_eq_ok.1 h
  obtain rfl := Except.ok.inj h
  exact prioritiesFit_of_readField hrules

theorem profileV3_fits {profile : ProfileV3} (h : readProfileV3 text v = .ok profile) :
    PrioritiesFit profile.rules := by
  obtain ⟨_, _, h⟩ := bind_eq_ok.1 h
  obtain ⟨_, _, h⟩ := bind_eq_ok.1 h
  obtain ⟨_, _, h⟩ := bind_eq_ok.1 h
  obtain ⟨_, _, h⟩ := bind_eq_ok.1 h
  obtain ⟨_, _, h⟩ := bind_eq_ok.1 h
  obtain ⟨rules, hrules, h⟩ := bind_eq_ok.1 h
  obtain ⟨_, _, h⟩ := bind_eq_ok.1 h
  obtain rfl := Except.ok.inj h
  exact prioritiesFit_of_readField hrules

theorem profileV2_fits {profile : ProfileV2} (h : readProfileV2 text v = .ok profile) :
    PrioritiesFit profile.rules := by
  obtain ⟨_, _, h⟩ := bind_eq_ok.1 h
  obtain ⟨_, _, h⟩ := bind_eq_ok.1 h
  obtain ⟨_, _, h⟩ := bind_eq_ok.1 h
  obtain ⟨_, _, h⟩ := bind_eq_ok.1 h
  obtain ⟨_, _, h⟩ := bind_eq_ok.1 h
  obtain ⟨rules, hrules, h⟩ := bind_eq_ok.1 h
  obtain rfl := Except.ok.inj h
  exact prioritiesFit_of_readField hrules

theorem configV4_fits {config : ConfigV4} (h : (Codec.configV4 text).decode v = .ok config) :
    PrioritiesFit config.rules := by
  obtain ⟨_, _, h⟩ := bind_eq_ok.1 h
  obtain ⟨_, _, h⟩ := bind_eq_ok.1 h
  obtain ⟨_, _, h⟩ := bind_eq_ok.1 h
  obtain ⟨_, _, h⟩ := bind_eq_ok.1 h
  obtain ⟨profiles, hprofiles, h⟩ := bind_eq_ok.1 h
  obtain rfl := Except.ok.inj h
  refine List.forall_mem_flatMap.2 ?_
  exact of_readDefault (P := fun profiles => ∀ profile ∈ profiles, PrioritiesFit profile.rules)
    (fun _ hnil => absurd hnil List.not_mem_nil)
    (fun _ _ => of_list fun _ _ => profile_fits) hprofiles

theorem configV3_fits {config : ConfigV3} (h : readConfigV3 text v = .ok config) :
    PrioritiesFit (config.profiles.flatMap ProfileV3.rules) := by
  obtain ⟨_, _, h⟩ := bind_eq_ok.1 h
  obtain ⟨_, _, h⟩ := bind_eq_ok.1 h
  obtain ⟨_, _, h⟩ := bind_eq_ok.1 h
  obtain ⟨_, _, h⟩ := bind_eq_ok.1 h
  obtain ⟨profiles, hprofiles, h⟩ := bind_eq_ok.1 h
  obtain rfl := Except.ok.inj h
  exact List.forall_mem_flatMap.2 (of_readItems (fun _ _ => profileV3_fits) hprofiles)

theorem configV2_fits {config : ConfigV2} (h : readConfigV2 text v = .ok config) :
    PrioritiesFit (config.profiles.flatMap ProfileV2.rules) := by
  obtain ⟨_, _, h⟩ := bind_eq_ok.1 h
  obtain ⟨_, _, h⟩ := bind_eq_ok.1 h
  obtain ⟨_, _, h⟩ := bind_eq_ok.1 h
  obtain ⟨profiles, hprofiles, h⟩ := bind_eq_ok.1 h
  obtain rfl := Except.ok.inj h
  exact List.forall_mem_flatMap.2 (of_readItems (fun _ _ => profileV2_fits) hprofiles)

/-- The priorities of a document that was read. -/
theorem fromJson_fits {json : Except String JsonValue} {document : ConfigDocument}
    (h : ConfigDocument.fromJson text json = .ok document) : PrioritiesFit document.rules := by
  obtain ⟨value, _, h⟩ := bind_eq_ok.1 h
  simp only at h
  cases hroot : value.toValue.asObject with
  | none => rw [hroot] at h; cases h
  | some root =>
    rw [hroot] at h
    simp only at h
    split at h
    · split at h
      · obtain ⟨current, hcurrent, h⟩ := bind_eq_ok.1 h
        exact Except.ok.inj h ▸ configV4_fits (mapError_eq_ok.1 hcurrent)
      · obtain ⟨old, hold, h⟩ := bind_eq_ok.1 h
        exact Except.ok.inj h ▸ configV3_fits (mapError_eq_ok.1 hold)
      · obtain ⟨old, hold, h⟩ := bind_eq_ok.1 h
        exact Except.ok.inj h ▸ configV2_fits (mapError_eq_ok.1 hold)
      · cases h
      · cases h
    · split at h
      · obtain ⟨state, _, h⟩ := bind_eq_ok.1 h
        exact Except.ok.inj h ▸ fun rule hrule => absurd hrule List.not_mem_nil
      · cases h

end Fit

/-! ## Loading twice -/

section Again

variable {library : ConfigLibrary} {document : ConfigDocument} {config current : ConfigV4}

/-- A lane that has its proper name keeps it, unless the name is an id that could be trimmed. -/
theorem withProperName_twice {lane : Lane} (hnamed : isBlank lane.withProperName.name = false) :
    lane.withProperName.withProperName = lane.withProperName ↔
      (isBlank lane.name = true → trim lane.id.toList = lane.id.toList) := by
  rw [Lane.withProperName, hnamed]
  simp only [Bool.false_eq_true, if_false]
  rw [Lane.withProperName]
  cases hblank : isBlank lane.name with
  | false => simp [trim_trim]
  | true =>
    simp only [if_true, forall_const, Lane.mk.injEq, true_and, and_true]
    constructor
    · intro h
      rw [← String.toList_ofList (l := trim lane.id.toList), h]
    · intro h
      rw [h, String.ofList_toList]

theorem isBlank_of_named {toLowercase : String → String} {name : String}
    (h : laneNameKey toLowercase name ≠ none) : isBlank name = false := by
  simp only [laneNameKey] at h
  split at h
  · exact absurd rfl h
  · next hblank => exact Bool.not_eq_true _ ▸ hblank

/-- Names are compared as they are trimmed. -/
theorem laneNameKey_withProperName {toLowercase : String → String} {lane : Lane}
    (hblank : isBlank lane.name = false) :
    laneNameKey toLowercase lane.withProperName.name = laneNameKey toLowercase lane.name := by
  rw [Lane.withProperName, hblank]
  simp [laneNameKey, trim_trim]

/-- A valid profile is valid with the names of its lanes trimmed. -/
theorem valid_normalizeLaneNames {toLowercase : String → String} {profile : Profile}
    (h : profile.Valid toLowercase) : (normalizeLaneNames profile).Valid toLowercase := by
  have hkey : ∀ lane ∈ profile.lanes, laneNameKey toLowercase lane.withProperName.name =
      laneNameKey toLowercase lane.name :=
    fun lane hlane => laneNameKey_withProperName (isBlank_of_named (h.named lane hlane))
  refine h.relabel (g := Lane.withProperName) (fun _ => rfl) (fun _ => rfl) ?_ ?_
  · intro lane hlane
    rw [hkey lane hlane]
    exact h.named lane hlane
  · rw [List.map_congr_left hkey]
    exact h.laneNames

/-- The profile of a loaded configuration is still valid when it is loaded again. -/
theorem properProfile_valid_again {profile : Profile}
    (h : (properProfile profile).Valid library.toLowercase) :
    (properProfile (properProfile profile)).Valid library.toLowercase := by
  have hkey : ∀ lane ∈ (properProfile profile).lanes,
      laneNameKey library.toLowercase lane.withProperName.name =
        laneNameKey library.toLowercase lane.name :=
    fun lane hlane => laneNameKey_withProperName (isBlank_of_named (h.named lane hlane))
  refine h.relabel (g := Lane.withProperName) (fun _ => rfl) (fun _ => rfl) ?_ ?_
  · intro lane hlane
    rw [hkey lane hlane]
    exact h.named lane hlane
  · rw [List.map_congr_left hkey]
    exact h.laneNames

theorem properProfile_twice {profile : Profile}
    (h : (properProfile profile).Valid library.toLowercase) :
    properProfile (properProfile profile) = properProfile profile ↔
      ∀ lane ∈ profile.lanes, isBlank lane.name = true → trim lane.id.toList = lane.id.toList := by
  have hlanes : properProfile (properProfile profile) = properProfile profile ↔
      (profile.lanes.map Lane.withProperName).map Lane.withProperName =
        profile.lanes.map Lane.withProperName := by
    simp [properProfile, normalizeLaneNames]
  rw [hlanes, List.map_map, List.map_inj_left]
  refine forall₂_congr fun lane hlane => withProperName_twice ?_
  exact isBlank_of_named (h.named _ (List.mem_map_of_mem hlane))

/-- A loaded configuration is saved as it is. -/
theorem save_of_intoCurrent (h : document.intoCurrent library = .ok config) :
    config.save library = .ok ((Codec.configV4 library.toNetworkText).encode config) := by
  obtain ⟨current, -, hvalid, hcheck, rfl⟩ := intoCurrent_eq_ok.1 h
  have hsaved : ∀ profile saved, profileToSave library profile = .ok saved ↔
      Profile.Valid library.toLowercase { profile with enabled := false } ∧
        saved = { profile with enabled := false } := by
    intro profile saved
    rw [profileToSave, check_eq_ok, mapError_eq_ok, ← validateProfile_eq_ok]
    exact and_congr Iff.rfl ⟨fun h => (Except.ok.inj h).symm, fun h => h ▸ rfl⟩
  rw [ConfigV4.save]
  refine bind_eq_ok.2 ⟨_, (mapM_eq_ok_iff hsaved).2 ⟨List.forall_mem_map.2 hvalid, rfl⟩, ?_⟩
  rw [List.map_map]
  exact check_eq_ok.2 ⟨hcheck, rfl⟩

/-- A configuration that was loaded is loaded again, with its lanes named once more. -/
theorem intoCurrent_of_intoCurrent (h : document.intoCurrent library = .ok config) :
    (ConfigDocument.v4 config).intoCurrent library =
      .ok { config with profiles := config.profiles.map properProfile } := by
  obtain ⟨current, -, hvalid, hcheck, rfl⟩ := intoCurrent_eq_ok.1 h
  refine intoCurrent_eq_ok.2 ⟨_, rfl, ?_, ?_, rfl⟩
  · exact List.forall_mem_map.2 fun profile hprofile =>
      properProfile_valid_again (hvalid profile hprofile)
  · rw [checkConfigProfiles_map (g := properProfile) (fun _ => rfl) fun _ => rfl]
    exact hcheck

/-- The priorities of the configuration are those of the document, or counted. -/
theorem migrate_fits (h : document.migrate library = .ok current)
    (hfit : PrioritiesFit document.rules) : PrioritiesFit current.rules := by
  cases document with
  | v4 document => exact Except.ok.inj h ▸ hfit
  | v3 old =>
    obtain rfl := Except.ok.inj h
    rw [ConfigV4.rules, List.flatMap_map]
    exact hfit
  | v2 old =>
    obtain rfl := Except.ok.inj h
    rw [ConfigV4.rules, List.flatMap_map]
    exact hfit
  | legacy state =>
    refine forall_of_mapM (parts_of_migrateLegacy h).1 fun entry _ rule hrule => ?_
    obtain ⟨lane, target, -, -, rfl⟩ := legacyRule_eq_ok.1 hrule
    simp only
    split <;> omega

/-- The lanes without a name are those of the document: a generated lane has one. -/
theorem migrate_unnamed (h : document.migrate library = .ok current) :
    (∀ lane ∈ current.lanes, isBlank lane.name = true → trim lane.id.toList = lane.id.toList) ↔
      ∀ lane ∈ document.lanes, isBlank lane.name = true → trim lane.id.toList = lane.id.toList := by
  cases document with
  | v4 document =>
    obtain rfl := Except.ok.inj h
    exact Iff.rfl
  | v3 old =>
    obtain rfl := Except.ok.inj h
    rw [ConfigV4.lanes, List.flatMap_map]
    exact Iff.rfl
  | v2 old =>
    obtain rfl := Except.ok.inj h
    rw [ConfigV4.lanes, List.flatMap_map]
    exact Iff.rfl
  | legacy state =>
    rw [(parts_of_migrateLegacy h).2.1]
    refine iff_of_true (List.forall_mem_map.2 fun entry _ hblank => ?_)
      fun lane hlane => absurd hlane List.not_mem_nil
    rw [isBlank_legacyLane_name] at hblank
    cases hblank

/-- A loaded configuration can be saved and is loaded again, and it is the same exactly where
the lanes of the document that have no name have an id without whitespace at its ends. -/
theorem savedAndLoaded_iff {library : ConfigLibrary} {json : Except String JsonValue}
    {document : ConfigDocument} {config : ConfigV4}
    (hread : ConfigDocument.fromJson library.toNetworkText json = .ok document)
    (hload : document.intoCurrent library = .ok config) :
    (∃ saved, config.save library = .ok saved ∧ loadConfig library (.ok saved) = .ok config) ↔
      ∀ lane ∈ document.lanes, isBlank lane.name = true →
        trim lane.id.toList = lane.id.toList := by
  obtain ⟨current, hcurrent, hvalid, hcheck, hconfig⟩ := intoCurrent_eq_ok.1 hload
  have hfit : ∀ profile ∈ config.profiles, PrioritiesFit profile.rules := by
    have hrules := migrate_fits hcurrent (fromJson_fits hread)
    rw [hconfig]
    exact List.forall_mem_map.2 (List.forall_mem_flatMap.1 hrules)
  have hversion : config.schemaVersion = currentSchemaVersion := by rw [hconfig]
  -- What is saved is read as the configuration, whose lanes are then named once more.
  have hagain : loadConfig library (.ok ((Codec.configV4 library.toNetworkText).encode config)) =
      .ok { config with profiles := config.profiles.map properProfile } := by
    rw [loadConfig, fromJson_encode hversion hfit]
    exact intoCurrent_of_intoCurrent hload
  have hsame : loadConfig library (.ok ((Codec.configV4 library.toNetworkText).encode config)) =
      .ok config ↔ ∀ profile ∈ current.profiles,
        properProfile (properProfile profile) = properProfile profile := by
    rw [hagain, hconfig]
    simp [List.map_inj_left]
  have hlanes : (∀ profile ∈ current.profiles,
      properProfile (properProfile profile) = properProfile profile) ↔
        ∀ lane ∈ current.lanes, isBlank lane.name = true →
          trim lane.id.toList = lane.id.toList := by
    rw [ConfigV4.lanes, List.forall_mem_flatMap]
    exact forall₂_congr fun profile hprofile => properProfile_twice (hvalid profile hprofile)
  rw [save_of_intoCurrent hload, ← migrate_unnamed hcurrent, ← hlanes, ← hsame]
  simp

end Again

/-- A document of version 2 with one lane, which has an id and a name. -/
def oneLaneDocument (id name : String) : JsonValue :=
  .object [("schema_version", .number 2), ("profiles", .array [.object
    [("id", .string "default"), ("name", .string "Default"), ("enabled", .bool false),
      ("lanes", .array [.object [("id", .string id), ("name", .string name),
        ("interface", .string "eth0"), ("fallback_lane", .null),
        ("failure_policy", .string "Inactive")]]),
      ("rules", .array [])]])]

def oneLaneConfig (id name : String) : ConfigV4 :=
  ⟨4, true, .tr, [⟨"default", "Default", false, [⟨id, name, "eth0", none, .inactive⟩], [], .default⟩]⟩

theorem savedAndLoaded_office :
    let library : ConfigLibrary := ⟨.numbers, id, fun _ => ""⟩
    ∃ saved, (oneLaneConfig "office" "office").save library = .ok saved ∧
      loadConfig library (.ok saved) = .ok (oneLaneConfig "office" "office") := by
  intro library
  have hread : ConfigDocument.fromJson library.toNetworkText (.ok (oneLaneDocument "office" "")) =
      .ok (.v2 ⟨2, .tr, [⟨"default", "Default", false, [⟨"office", "", "eth0", none, .inactive⟩],
        []⟩]⟩) := by
    decide
  refine (savedAndLoaded_iff hread ?_).2 ?_
  · decide
  · decide

/-- A lane without a name, whose id begins with a space: the name it gets is another one the
next time. -/
theorem savedAndLoaded_space :
    let library : ConfigLibrary := ⟨.numbers, id, fun _ => ""⟩
    loadConfig library (.ok (oneLaneDocument " office" "")) =
        .ok (oneLaneConfig " office" " office") ∧
      ¬∃ saved, (oneLaneConfig " office" " office").save library = .ok saved ∧
        loadConfig library (.ok saved) = .ok (oneLaneConfig " office" " office") := by
  intro library
  have hload : loadConfig library (.ok (oneLaneDocument " office" "")) =
      .ok (oneLaneConfig " office" " office") := by
    decide
  refine ⟨hload, ?_⟩
  rintro ⟨saved, hsaved, hagain⟩
  have hencoded : (oneLaneConfig " office" " office").save library =
      .ok ((Codec.configV4 library.toNetworkText).encode (oneLaneConfig " office" " office")) := by
    rfl
  rw [hencoded] at hsaved
  rw [← Except.ok.inj hsaved, loadConfig,
    fromJson_encode rfl fun profile hprofile => by simp_all [oneLaneConfig, PrioritiesFit]] at hagain
  exact absurd hagain (by decide)

/-- A profile that is in use, with blanks around the name of its lane. -/
def workProfile : Profile :=
  ⟨"w", "W", true, [⟨"a", " A ", "eth0", none, .block⟩], [], .default⟩

end RouteLane
