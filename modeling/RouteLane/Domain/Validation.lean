import RouteLane.Domain.Profile
import RouteLane.Lib.FirstMatch
import RouteLane.Lib.Walks

/-!
# What a valid profile is

`validate_profile` goes through a profile loop by loop.  What it accepts is said here as a
whole: the clauses of `Profile.Valid`, one for each thing a loop looks at, and each loop
accepts exactly what its clauses say.
-/

namespace RouteLane

open Fallible

/-! ## Elements seen once -/

section Fresh

variable {α : Type} {seen l : List α} {a : α}

/-- The elements of a list are none of those seen, and none of them comes twice. -/
def Fresh (seen l : List α) : Prop := l.Nodup ∧ ∀ a ∈ l, a ∉ seen

theorem fresh_nil : Fresh seen [] := ⟨List.nodup_nil, fun _ h => absurd h List.not_mem_nil⟩

theorem fresh_cons : Fresh seen (a :: l) ↔ a ∉ seen ∧ Fresh (a :: seen) l := by
  unfold Fresh
  rw [List.nodup_cons, List.forall_mem_cons]
  constructor
  · rintro ⟨⟨hnew, hnodup⟩, hseen, hrest⟩
    refine ⟨hseen, hnodup, fun b hb hmem => ?_⟩
    rcases List.mem_cons.1 hmem with rfl | hmem
    · exact hnew hb
    · exact hrest b hb hmem
  · rintro ⟨hseen, hnodup, hrest⟩
    exact ⟨⟨fun hmem => hrest a hmem List.mem_cons_self, hnodup⟩, hseen,
      fun b hb hmem => hrest b hb (List.mem_cons_of_mem _ hmem)⟩

theorem fresh_empty : Fresh [] l ↔ l.Nodup := by simp [Fresh]

end Fresh

/-! ## Lanes -/

section Lanes

variable {toLowercase : String → String} {lanes rest : List Lane}

theorem checkLanes_eq_ok {ids : List LaneId} {names : List String} :
    checkLanes toLowercase ids names rest = .ok () ↔
      Fresh ids (rest.map Lane.id) ∧
      (∀ lane ∈ rest, laneNameKey toLowercase lane.name ≠ none) ∧
      Fresh (names.map some) (rest.map fun lane => laneNameKey toLowercase lane.name) := by
  induction rest generalizing ids names with
  | nil => simp [checkLanes, fresh_nil]
  | cons lane rest ih =>
    rw [checkLanes, guard_eq_ok, List.map_cons, fresh_cons, List.map_cons, fresh_cons,
      List.forall_mem_cons]
    cases hkey : laneNameKey toLowercase lane.name with
    | none => simp
    | some name =>
      have hnames : some name ∉ names.map some ↔ name ∉ names := by simp
      rw [guard_eq_ok, ih, hnames, List.map_cons]
      tauto

/-- The fallback of a lane is the fallback of a lane of the profile. -/
theorem fallbackOf_eq_some {id next : LaneId} (h : fallbackOf lanes id = some next) :
    ∃ lane ∈ lanes, lane.id = id ∧ lane.fallbackLane = some next := by
  obtain ⟨lane, hfind, hnext⟩ := Option.bind_eq_some_iff.1 h
  exact ⟨lane, List.mem_of_find?_eq_some hfind, by simpa using List.find?_some hfind, hnext⟩

theorem mem_ids_of_fallbackOf (lanes : List Lane) (id next : LaneId)
    (h : fallbackOf lanes id = some next) : id ∈ lanes.map Lane.id := by
  obtain ⟨lane, hlane, hid, -⟩ := fallbackOf_eq_some h
  exact List.mem_map.2 ⟨lane, hlane, hid⟩

/-- With distinct ids the fallback is that of the lane with the id. -/
theorem fallbackOf_of_mem (hnodup : (lanes.map Lane.id).Nodup) {lane : Lane}
    (hlane : lane ∈ lanes) : fallbackOf lanes lane.id = lane.fallbackLane := by
  have hfind : lanes.find? (fun candidate => candidate.id == lane.id) = some lane :=
    FirstMatch.find?_key_of_mem hnodup hlane
  rw [fallbackOf, hfind, Option.bind_some]

theorem walkCycles_eq_cycles (fuel : ℕ) (visited : List LaneId) (current : LaneId) :
    walkCycles lanes fuel visited current =
      Walks.cycles (fallbackOf lanes) fuel visited current := by
  induction fuel generalizing visited current with
  | zero => rfl
  | succ fuel ih =>
    rw [walkCycles, Walks.cycles]
    cases fallbackOf lanes current with
    | none => rfl
    | some next => simp only [ih]

/-- The walk of the code from a lane ends as the loop it is does. -/
theorem walkCycles_outcome (id : LaneId) : Walks.Outcome (fallbackOf lanes) [] id
    (walkCycles lanes (lanes.length + 1) [] id) := by
  have houtcome := Walks.cycles_outcome (mem_ids_of_fallbackOf lanes) id
  rwa [List.length_map, ← walkCycles_eq_cycles] at houtcome

theorem walkCycles_eq_true_iff (id : LaneId) :
    walkCycles lanes (lanes.length + 1) [] id = true ↔ Walks.Cyclic (fallbackOf lanes) id := by
  have hpool := Walks.cycles_eq_true_iff (mem_ids_of_fallbackOf lanes) id
  rwa [List.length_map, ← walkCycles_eq_cycles] at hpool

theorem walkCycles_eq_false_iff (id : LaneId) :
    walkCycles lanes (lanes.length + 1) [] id = false ↔ Walks.Ends (fallbackOf lanes) id := by
  have hpool := Walks.cycles_eq_false_iff (mem_ids_of_fallbackOf lanes) id
  rwa [List.length_map, ← walkCycles_eq_cycles] at hpool

theorem checkFallbacks_eq_ok :
    checkFallbacks lanes rest = .ok () ↔ ∀ lane ∈ rest, ∀ next, lane.fallbackLane = some next →
      next ∈ lanes.map Lane.id ∧ next ≠ lane.id := by
  induction rest with
  | nil => simp [checkFallbacks]
  | cons lane rest ih =>
    rw [checkFallbacks, List.forall_mem_cons]
    cases lane.fallbackLane with
    | none => simp [ih]
    | some next =>
      simp only [guard_eq_ok, not_not, ih, Option.some.injEq, forall_eq', and_assoc]

theorem checkCycles_eq_ok :
    checkCycles lanes rest = .ok () ↔
      ∀ lane ∈ rest, Walks.Ends (fallbackOf lanes) lane.id := by
  induction rest with
  | nil => simp [checkCycles]
  | cons lane rest ih =>
    rw [checkCycles, guard_eq_ok, ih, List.forall_mem_cons, Bool.not_eq_true,
      walkCycles_eq_false_iff]

end Lanes

/-! ## The routing policy -/

section Routing

variable {lanes : List Lane} {policy : RoutingPolicy}

theorem checkBackups_eq_ok {primary : PrimarySelection} {seen backups : List LaneId} :
    checkBackups lanes primary seen backups = .ok () ↔
      (∀ id ∈ backups, id ∈ lanes.map Lane.id ∧ primary ≠ .lane id) ∧ Fresh seen backups := by
  induction backups generalizing seen with
  | nil => simp [checkBackups, fresh_nil]
  | cons id backups ih =>
    rw [checkBackups, guard_eq_ok, guard_eq_ok, guard_eq_ok, ih, fresh_cons, List.forall_mem_cons,
      not_not]
    tauto

/-- The lanes a routing policy names are lanes of the profile, and none has two parts in it. -/
structure RoutingPolicy.Valid (policy : RoutingPolicy) (lanes : List Lane) : Prop where
  primary : ∀ id, policy.primary = .lane id → id ∈ lanes.map Lane.id
  backups : ∀ id ∈ policy.backups, id ∈ lanes.map Lane.id ∧ policy.primary ≠ .lane id
  nodup : policy.backups.Nodup

theorem validate_eq_ok : policy.validate lanes = .ok () ↔ policy.Valid lanes := by
  rw [RoutingPolicy.validate]
  cases hprimary : policy.primary with
  | followSystemDefault =>
    rw [checkBackups_eq_ok, fresh_empty]
    constructor
    · rintro ⟨hbackups, hnodup⟩
      refine ⟨fun id hid => ?_, by rwa [hprimary], hnodup⟩
      rw [hprimary] at hid
      cases hid
    · intro h
      exact ⟨hprimary ▸ h.backups, h.nodup⟩
  | lane id =>
    rw [guard_eq_ok, not_not, checkBackups_eq_ok, fresh_empty]
    constructor
    · rintro ⟨hknown, hbackups, hnodup⟩
      refine ⟨fun other hother => ?_, by rwa [hprimary], hnodup⟩
      rw [hprimary] at hother
      exact PrimarySelection.lane.inj hother ▸ hknown
    · intro h
      exact ⟨h.primary id hprimary, hprimary ▸ h.backups, h.nodup⟩

end Routing

/-! ## Rules -/

/-- The desktop id of an application rule, where it has one. -/
def Rule.desktopId (rule : Rule) : Option String :=
  match rule.source with
  | .any => none
  | .application selector => selector.desktopId.filter fun id => !id.isEmpty

/-- An application rule names an executable, routes, and has no destination. -/
def Rule.ApplicationValid (rule : Rule) : Prop :=
  ∀ selector, rule.source = .application selector →
    selector.executablePath.isEmpty = false ∧ rule.target = .any ∧ rule.action.isRoute = true

section Rules

variable {rules : List Rule} {rule : Rule}

theorem applicationValid_of_any (h : rule.source = .any) : rule.ApplicationValid := by
  intro selector hselector
  rw [h] at hselector
  cases hselector

theorem desktopId_of_any (h : rule.source = .any) : rule.desktopId = none := by
  rw [Rule.desktopId, h]

theorem checkApplication_eq_ok {desktopIds desktopIds' : List String} :
    checkApplication desktopIds rule = .ok desktopIds' ↔ rule.ApplicationValid ∧
      (∀ id ∈ rule.desktopId, id ∉ desktopIds) ∧
      rule.desktopId.toList ++ desktopIds = desktopIds' := by
  unfold checkApplication
  cases hsource : rule.source with
  | any =>
    simp [applicationValid_of_any hsource, desktopId_of_any hsource]
  | application selector =>
    have hvalid : rule.ApplicationValid ↔ selector.executablePath.isEmpty = false ∧
        rule.target = .any ∧ rule.action.isRoute = true := by
      unfold Rule.ApplicationValid
      simp [hsource]
    have hdesktop : rule.desktopId = selector.desktopId.filter fun id => !id.isEmpty := by
      rw [Rule.desktopId, hsource]
    rw [hvalid, hdesktop]
    simp only [guard_eq_ok, not_or, not_not, Bool.not_eq_true, Bool.not_eq_false]
    cases selector.desktopId.filter fun id => !id.isEmpty with
    | none => simp [and_assoc]
    | some id =>
      simp only [guard_eq_ok, Option.mem_def, Option.some.injEq, forall_eq', Option.toList_some,
        List.singleton_append, Except.ok.injEq, and_assoc]

theorem checkRules_eq_ok {ids : List RuleId} {desktopIds : List String}
    {contents : List (RuleKey × RuleId)} :
    checkRules ids desktopIds contents rules = .ok () ↔
      Fresh ids (rules.map Rule.id) ∧ (∀ rule ∈ rules, rule.ApplicationValid) ∧
      Fresh desktopIds (rules.filterMap Rule.desktopId) ∧
      Fresh (contents.map Prod.fst) (rules.map Rule.duplicateKey) := by
  induction rules generalizing ids desktopIds contents with
  | nil => simp [checkRules, fresh_nil]
  | cons rule rest ih =>
    have hdesktop : Fresh desktopIds ((rule :: rest).filterMap Rule.desktopId) ↔
        (∀ id ∈ rule.desktopId, id ∉ desktopIds) ∧
        Fresh (rule.desktopId.toList ++ desktopIds) (rest.filterMap Rule.desktopId) := by
      rw [List.filterMap_cons]
      cases rule.desktopId with
      | none => simp
      | some id => simp [fresh_cons]
    have hlookup : contents.lookup rule.duplicateKey = none ↔
        rule.duplicateKey ∉ contents.map Prod.fst := by
      rw [List.lookup_eq_none_iff, List.mem_map, not_exists]
      constructor
      · rintro h entry ⟨hentry, heq⟩
        have hne := h entry hentry
        rw [heq] at hne
        simp at hne
      · intro h entry hentry
        exact bne_iff_ne.2 fun heq => h entry ⟨hentry, heq.symm⟩
    rw [checkRules, guard_eq_ok, List.map_cons, fresh_cons, List.map_cons, fresh_cons, hdesktop,
      List.forall_mem_cons, ← hlookup]
    cases happlication : checkApplication desktopIds rule with
    | error e =>
      have hnot : ¬(rule.ApplicationValid ∧ ∀ id ∈ rule.desktopId, id ∉ desktopIds) := by
        rintro ⟨hvalid, hnew⟩
        rw [checkApplication_eq_ok.2 ⟨hvalid, hnew, rfl⟩] at happlication
        cases happlication
      simp only [reduceCtorEq, and_false, false_iff]
      tauto
    | ok desktopIds' =>
      obtain ⟨hvalid, hnew, rfl⟩ := checkApplication_eq_ok.1 happlication
      cases contents.lookup rule.duplicateKey with
      | some existing => simp
      | none =>
        simp only [ih, List.map_cons]
        tauto

theorem checkRouteLanes_eq_ok {lanes : List Lane} :
    checkRouteLanes lanes rules = .ok () ↔
      ∀ rule ∈ rules, ∀ id, rule.action = .route id → id ∈ lanes.map Lane.id := by
  induction rules with
  | nil => simp [checkRouteLanes]
  | cons rule rest ih =>
    rw [checkRouteLanes, List.forall_mem_cons]
    cases rule.action with
    | route id =>
      simp only [RuleAction.route.injEq, forall_eq']
      split
      · rename_i hknown
        rw [ih, and_iff_right hknown]
      · rename_i hunknown
        simp [hunknown]
    | direct => simp [ih]
    | block => simp [ih]

end Rules

/-! ## Profiles -/

/-- What `validate_profile` looks at before it looks for cycles. -/
structure Profile.Sound (toLowercase : String → String) (profile : Profile) : Prop where
  lanes_le : profile.lanes.length ≤ 100
  rules_le : profile.rules.length ≤ 10000
  laneIds : (profile.lanes.map Lane.id).Nodup
  named : ∀ lane ∈ profile.lanes, laneNameKey toLowercase lane.name ≠ none
  laneNames : (profile.lanes.map fun lane => laneNameKey toLowercase lane.name).Nodup
  routing : profile.routing.Valid profile.lanes
  ruleIds : (profile.rules.map Rule.id).Nodup
  applications : ∀ rule ∈ profile.rules, rule.ApplicationValid
  desktopIds : (profile.rules.filterMap Rule.desktopId).Nodup
  contents : (profile.rules.map Rule.duplicateKey).Nodup
  routes : ∀ rule ∈ profile.rules, ∀ id, rule.action = .route id → id ∈ profile.lanes.map Lane.id
  fallbacks : ∀ lane ∈ profile.lanes, ∀ next, lane.fallbackLane = some next →
    next ∈ profile.lanes.map Lane.id ∧ next ≠ lane.id

/-- What `validate_profile` accepts. -/
structure Profile.Valid (toLowercase : String → String) (profile : Profile) : Prop
    extends profile.Sound toLowercase where
  acyclic : ∀ lane ∈ profile.lanes, Walks.Ends (fallbackOf profile.lanes) lane.id

section Profiles

variable {toLowercase : String → String} {profile : Profile}

theorem checkLanes_nil_eq_ok :
    checkLanes toLowercase [] [] profile.lanes = .ok () ↔
      (profile.lanes.map Lane.id).Nodup ∧
      (∀ lane ∈ profile.lanes, laneNameKey toLowercase lane.name ≠ none) ∧
      (profile.lanes.map fun lane => laneNameKey toLowercase lane.name).Nodup := by
  rw [checkLanes_eq_ok, List.map_nil, fresh_empty, fresh_empty]

theorem checkRules_nil_eq_ok {rules : List Rule} :
    checkRules [] [] [] rules = .ok () ↔
      (rules.map Rule.id).Nodup ∧ (∀ rule ∈ rules, rule.ApplicationValid) ∧
      (rules.filterMap Rule.desktopId).Nodup ∧ (rules.map Rule.duplicateKey).Nodup := by
  rw [checkRules_eq_ok, List.map_nil, fresh_empty, fresh_empty, fresh_empty]

/-- A profile is accepted exactly when it is valid. -/
theorem validateProfile_eq_ok :
    validateProfile toLowercase profile = .ok () ↔ profile.Valid toLowercase := by
  rw [validateProfile]
  simp only [check_eq_ok, failIf_eq_ok, not_lt, checkLanes_nil_eq_ok, validate_eq_ok,
    checkRules_nil_eq_ok, checkRouteLanes_eq_ok, checkFallbacks_eq_ok, checkCycles_eq_ok]
  constructor
  · rintro ⟨hlanes, hrules, ⟨hids, hnamed, hnames⟩, hrouting, ⟨hruleIds, happs, hdesktop, hkeys⟩,
      hroutes, hfallbacks, hends⟩
    exact ⟨⟨hlanes, hrules, hids, hnamed, hnames, hrouting, hruleIds, happs, hdesktop, hkeys,
      hroutes, hfallbacks⟩, hends⟩
  · intro h
    exact ⟨h.lanes_le, h.rules_le, ⟨h.laneIds, h.named, h.laneNames⟩, h.routing,
      ⟨h.ruleIds, h.applications, h.desktopIds, h.contents⟩, h.routes, h.fallbacks, h.acyclic⟩

end Profiles

/-! ## Lanes of a valid profile that change -/

section Changes

variable {toLowercase : String → String} {profile : Profile} {lanes lanes' : List Lane}

theorem RoutingPolicy.Valid.mono {policy : RoutingPolicy} (h : policy.Valid lanes)
    (hlanes : ∀ id ∈ lanes.map Lane.id, id ∈ lanes'.map Lane.id) : policy.Valid lanes' where
  primary id hid := hlanes id (h.primary id hid)
  backups id hid := ⟨hlanes id (h.backups id hid).1, (h.backups id hid).2⟩
  nodup := h.nodup

/-- The walk along the fallbacks of a valid profile ends wherever it starts. -/
theorem Profile.Valid.ends (h : profile.Valid toLowercase) (id : LaneId) :
    Walks.Ends (fallbackOf profile.lanes) id := by
  cases hnext : fallbackOf profile.lanes id with
  | none => exact .stop hnext
  | some next =>
    obtain ⟨lane, hlane, rfl, -⟩ := fallbackOf_eq_some hnext
    exact h.acyclic lane hlane

/-- Lanes whose fallbacks are fallbacks of the lanes of a valid profile have no cycle. -/
theorem Profile.Valid.ends_of_sub (h : profile.Valid toLowercase)
    (hsub : ∀ lane ∈ lanes', ∀ next, lane.fallbackLane = some next →
      ∃ lane' ∈ profile.lanes, lane'.id = lane.id ∧ lane'.fallbackLane = some next) :
    ∀ id, Walks.Ends (fallbackOf lanes') id := by
  intro id
  refine (h.ends id).mono ?_
  intro current next hnext
  obtain ⟨lane, hlane, rfl, hfallback⟩ := fallbackOf_eq_some hnext
  obtain ⟨lane', hlane', hid, hfallback'⟩ := hsub lane hlane next hfallback
  rw [← hid, fallbackOf_of_mem h.laneIds hlane', hfallback']

/-- New names that are names, and different ones, leave a profile valid. -/
theorem Profile.Valid.relabel (h : profile.Valid toLowercase) {g : Lane → Lane}
    (hid : ∀ lane, (g lane).id = lane.id)
    (hfallback : ∀ lane, (g lane).fallbackLane = lane.fallbackLane)
    (hnamed : ∀ lane ∈ profile.lanes, laneNameKey toLowercase (g lane).name ≠ none)
    (hnames : (profile.lanes.map fun lane => laneNameKey toLowercase (g lane).name).Nodup) :
    Profile.Valid toLowercase { profile with lanes := profile.lanes.map g } := by
  have hids : (profile.lanes.map g).map Lane.id = profile.lanes.map Lane.id := by
    rw [List.map_map]
    exact List.map_congr_left fun lane _ => hid lane
  refine { h with
    lanes_le := ?_, laneIds := hids ▸ h.laneIds, named := List.forall_mem_map.2 hnamed
    laneNames := ?_
    routing := h.routing.mono fun id hmem => hids ▸ hmem
    routes := fun rule hrule id hroute => hids ▸ h.routes rule hrule id hroute
    fallbacks := List.forall_mem_map.2 ?_
    acyclic := fun lane _ => h.ends_of_sub (List.forall_mem_map.2 ?_) lane.id }
  · rw [List.length_map]
    exact h.lanes_le
  · rw [List.map_map]
    exact hnames
  · intro lane hlane next hnext
    rw [hfallback] at hnext
    rw [hids, hid]
    exact h.fallbacks lane hlane next hnext
  · intro lane hlane next hnext
    exact ⟨lane, hlane, (hid lane).symm, (hfallback lane) ▸ hnext⟩

end Changes

/-! ## Execution order -/

instance : Std.Total Rule.executionLe where
  total a b := by
    rcases lt_trichotomy a.priority b.priority with hp | hp | hp
    · exact Or.inl (Or.inl hp)
    · rcases le_total a.id b.id with hid | hid
      · exact Or.inl (Or.inr ⟨hp, hid⟩)
      · exact Or.inr (Or.inr ⟨hp.symm, hid⟩)
    · exact Or.inr (Or.inl hp)

instance : IsTrans Rule Rule.executionLe where
  trans a b c := by
    rintro (hab | ⟨hab, hid⟩) (hbc | ⟨hbc, hid'⟩)
    · exact Or.inl (lt_trans hab hbc)
    · exact Or.inl (hbc ▸ hab)
    · exact Or.inl (hab ▸ hbc)
    · exact Or.inr ⟨hab.trans hbc, le_trans hid hid'⟩

end RouteLane
