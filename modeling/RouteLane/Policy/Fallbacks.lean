import RouteLane.Domain.Validation
import RouteLane.Policy.PlannerSemantics

/-!
# Fallbacks end

The fallbacks of a profile are a partial function from lanes to lanes.  `validate_profile`
walks it from every lane and refuses a cycle; the compiler walks it without looking, and
relies on there being none, as it relies on every lane of the profile having a plan.
-/

namespace RouteLane

open Fallible

/-! ## Cycles are refused -/

/-- The fallback relation of a profile's lanes. -/
def FallsBack (lanes : List Lane) (id next : LaneId) : Prop :=
  ∃ lane ∈ lanes, lane.id = id ∧ lane.fallbackLane = some next

section Cycles

variable {toLowercase : String → String} {profile : Profile} {lanes : List Lane}

theorem next_fallbackOf_iff (hnodup : (lanes.map Lane.id).Nodup) {id next : LaneId} :
    Walks.Next (fallbackOf lanes) id next ↔ FallsBack lanes id next := by
  constructor
  · intro h
    exact fallbackOf_eq_some h
  · rintro ⟨lane, hlane, rfl, hnext⟩
    exact (fallbackOf_of_mem hnodup hlane).trans hnext

theorem next_fallbackOf (hnodup : (lanes.map Lane.id).Nodup) :
    Walks.Next (fallbackOf lanes) = FallsBack lanes := by
  funext id next
  exact propext (next_fallbackOf_iff hnodup)

theorem checkLanes_ne_cycle {ids : List LaneId} {names : List String} (id : LaneId) :
    checkLanes toLowercase ids names lanes ≠ .error (.fallbackCycle id) := by
  fun_induction checkLanes toLowercase ids names lanes <;> simp_all

theorem checkBackups_ne_cycle {primary : PrimarySelection} {seen backups : List LaneId}
    (id : LaneId) : checkBackups lanes primary seen backups ≠ .error (.fallbackCycle id) := by
  fun_induction checkBackups lanes primary seen backups <;> simp_all

theorem validate_ne_cycle {policy : RoutingPolicy} (id : LaneId) :
    policy.validate lanes ≠ .error (.fallbackCycle id) := by
  rw [RoutingPolicy.validate]
  cases policy.primary with
  | followSystemDefault => exact checkBackups_ne_cycle id
  | lane other =>
    dsimp only
    split
    · simp
    · exact checkBackups_ne_cycle id

theorem checkApplication_ne_cycle {desktopIds : List String} {rule : Rule} (id : LaneId) :
    checkApplication desktopIds rule ≠ .error (.fallbackCycle id) := by
  fun_cases checkApplication desktopIds rule <;> simp_all

theorem checkRules_ne_cycle {ids : List RuleId} {desktopIds : List String}
    {contents : List (RuleKey × RuleId)} {rules : List Rule} (id : LaneId) :
    checkRules ids desktopIds contents rules ≠ .error (.fallbackCycle id) := by
  induction rules generalizing ids desktopIds contents with
  | nil => simp [checkRules]
  | cons rule rest ih =>
    rw [checkRules]
    split
    · simp
    · cases happlication : checkApplication desktopIds rule with
      | error e =>
        intro h
        obtain rfl : e = .fallbackCycle id := Except.error.inj h
        exact checkApplication_ne_cycle id happlication
      | ok desktopIds' =>
        dsimp only
        split
        · simp
        · exact ih

theorem checkRouteLanes_ne_cycle {rules : List Rule} (id : LaneId) :
    checkRouteLanes lanes rules ≠ .error (.fallbackCycle id) := by
  fun_induction checkRouteLanes lanes rules <;> simp_all

theorem checkFallbacks_ne_cycle {rest : List Lane} (id : LaneId) :
    checkFallbacks lanes rest ≠ .error (.fallbackCycle id) := by
  fun_induction checkFallbacks lanes rest <;> simp_all

/-- A profile that passed everything before is looked at for cycles. -/
theorem validateProfile_of_sound (h : profile.Sound toLowercase) :
    validateProfile toLowercase profile = checkCycles profile.lanes profile.lanes := by
  have hlanes : checkLanes toLowercase [] [] profile.lanes = .ok () :=
    checkLanes_nil_eq_ok.2 ⟨h.laneIds, h.named, h.laneNames⟩
  have hrules : checkRules [] [] [] profile.rules = .ok () :=
    checkRules_nil_eq_ok.2 ⟨h.ruleIds, h.applications, h.desktopIds, h.contents⟩
  rw [validateProfile, failIf, if_neg (not_lt.2 h.lanes_le), failIf, if_neg (not_lt.2 h.rules_le),
    hlanes, validate_eq_ok.2 h.routing, hrules, checkRouteLanes_eq_ok.2 h.routes,
    checkFallbacks_eq_ok.2 h.fallbacks]
  rfl

/-- Only the last check reports a cycle. -/
theorem sound_of_cycle {id : LaneId}
    (h : validateProfile toLowercase profile = .error (.fallbackCycle id)) :
    profile.Sound toLowercase := by
  rw [validateProfile] at h
  simp only [check_eq_error, failIf_eq_error, reduceCtorEq, and_false, false_or,
    checkLanes_ne_cycle, validate_ne_cycle, checkRules_ne_cycle, checkRouteLanes_ne_cycle,
    checkFallbacks_ne_cycle, failIf_eq_ok, not_lt, checkLanes_nil_eq_ok, validate_eq_ok,
    checkRules_nil_eq_ok, checkRouteLanes_eq_ok, checkFallbacks_eq_ok] at h
  obtain ⟨hlanes, hrules, ⟨hids, hnamed, hnames⟩, hrouting, ⟨hruleIds, happs, hdesktop, hkeys⟩,
    hroutes, hfallbacks, -⟩ := h
  exact ⟨hlanes, hrules, hids, hnamed, hnames, hrouting, hruleIds, happs, hdesktop, hkeys, hroutes,
    hfallbacks⟩

theorem checkCycles_eq_error {rest : List Lane} :
    (∃ id, checkCycles lanes rest = .error (.fallbackCycle id)) ↔
      ∃ lane ∈ rest, Walks.Cyclic (fallbackOf lanes) lane.id := by
  induction rest with
  | nil => simp [checkCycles]
  | cons lane rest ih =>
    rw [checkCycles, List.exists_mem_cons_iff, ← ih, ← walkCycles_eq_true_iff]
    split
    · rename_i hcycle
      simp [hcycle]
    · rename_i hends
      simp [hends]

/-- A cycle among the fallbacks is one that some lane's walk runs into. -/
theorem exists_cyclic_iff (hnodup : (lanes.map Lane.id).Nodup) :
    (∃ lane ∈ lanes, Walks.Cyclic (fallbackOf lanes) lane.id) ↔
      ∃ id, Relation.TransGen (FallsBack lanes) id id := by
  rw [← next_fallbackOf hnodup]
  constructor
  · rintro ⟨lane, -, id, -, hcycle⟩
    exact ⟨id, hcycle⟩
  · rintro ⟨id, hcycle⟩
    obtain ⟨next, hstep, -⟩ := Relation.TransGen.head'_iff.1 hcycle
    obtain ⟨lane, hlane, hid, -⟩ := fallbackOf_eq_some hstep
    exact ⟨lane, hlane, id, hid ▸ .refl, hcycle⟩

/-- **A cycle is reported exactly where there is one.** -/
theorem validateProfile_cycle_iff :
    (∃ id, validateProfile toLowercase profile = .error (.fallbackCycle id)) ↔
      profile.Sound toLowercase ∧ ∃ id, Relation.TransGen (FallsBack profile.lanes) id id := by
  constructor
  · rintro ⟨id, h⟩
    have hsound := sound_of_cycle h
    rw [validateProfile_of_sound hsound] at h
    exact ⟨hsound, (exists_cyclic_iff hsound.laneIds).1 (checkCycles_eq_error.1 ⟨id, h⟩)⟩
  · rintro ⟨hsound, hcycle⟩
    rw [validateProfile_of_sound hsound]
    exact checkCycles_eq_error.2 ((exists_cyclic_iff hsound.laneIds).2 hcycle)

end Cycles

/-! ## The compiler's walk -/

section Visits

variable (profileLanes : OrderedMap LaneId Lane) (lanePlans : OrderedMap LaneId LanePlan)
  (family : IpFamily)

/-- The lanes the loop of `compile_route_action` looks at. -/
def fallbackVisits : ℕ → Option LaneId → List LaneId
  | _, none => []
  | 0, some _ => []
  | fuel + 1, some id =>
    id ::
      match lanePlans.find? id, profileLanes.find? id with
      | some plan, some lane =>
        if familyAvailable plan family then [] else fallbackVisits fuel lane.fallbackLane
      | _, _ => []

/-- The lanes `compile_route_action` looks at: the lane of the rule, then its fallbacks. -/
def routeVisits (id : LaneId) : List LaneId :=
  id ::
    match lanePlans.find? id, profileLanes.find? id with
    | some plan, some lane =>
      if familyAvailable plan family then []
      else fallbackVisits profileLanes lanePlans family profileLanes.entries.length lane.fallbackLane
    | _, _ => []

end Visits

section Compiler

variable {toLowercase : String → String} {profile : Profile} {topology : TopologySnapshot}
  {resolutions : ResolutionSnapshot} {primary : PrimaryDecision}

/-- What the compiler finds under the id of a lane of a profile. -/
theorem lookup_lane (topology : TopologySnapshot) (h : profile.Valid toLowercase) {id : LaneId}
    (hid : id ∈ profile.lanes.map Lane.id) :
    ∃ lane lanePlan, (profileLanesById profile.lanes).find? id = some lane ∧
      (lanesById (compileLanes topology profile.lanes)).find? id = some lanePlan ∧
      lane.fallbackLane = fallbackOf profile.lanes id := by
  obtain ⟨lane, hlane, rfl⟩ := List.mem_map.1 hid
  have hfind := FirstMatch.find?_key_of_mem h.laneIds hlane
  obtain ⟨slot, hslot⟩ := find?_compileLanes topology h.laneIds hlane
  refine ⟨lane, compileLane topology lane slot, ?_, ?_, (fallbackOf_of_mem h.laneIds hlane).symm⟩
  · rw [find?_profileLanesById h.laneIds, hfind]
  · rw [find?_lanesById h.laneIds, hslot]

theorem next_mem_ids (h : profile.Valid toLowercase) {id next : LaneId}
    (hnext : fallbackOf profile.lanes id = some next) : next ∈ profile.lanes.map Lane.id := by
  obtain ⟨lane, hlane, -, hfallback⟩ := fallbackOf_eq_some hnext
  exact (h.fallbacks lane hlane next hfallback).1

/-- The loop along a chain of fallbacks that ends finds what it looks up, ends, and goes along
the chain. -/
theorem fallbackMark_ends (h : profile.Valid toLowercase) (topology : TopologySnapshot)
    (family : IpFamily) {n : ℕ} {id : LaneId} (hends : chainEnds profile.lanes n id = true) :
    (∃ mark, fallbackMark (profileLanesById profile.lanes)
        (lanesById (compileLanes topology profile.lanes)) family n
        (fallbackOf profile.lanes id) = .ok mark) ∧
      id :: fallbackVisits (profileLanesById profile.lanes)
        (lanesById (compileLanes topology profile.lanes)) family n
        (fallbackOf profile.lanes id) <+: Walks.trail (fallbackOf profile.lanes) n id := by
  induction n generalizing id with
  | zero =>
    have hnone : fallbackOf profile.lanes id = none := by simpa [chainEnds] using hends
    rw [hnone]
    exact ⟨⟨none, rfl⟩, List.prefix_rfl⟩
  | succ n ih =>
    rw [chainEnds] at hends
    rw [Walks.trail]
    cases hnext : fallbackOf profile.lanes id with
    | none => exact ⟨⟨none, rfl⟩, List.prefix_rfl⟩
    | some next =>
      rw [hnext] at hends
      obtain ⟨lane, lanePlan, hlane, hplan, hfallback⟩ :=
        lookup_lane topology h (next_mem_ids h hnext)
      obtain ⟨⟨mark, hmark⟩, hvisits⟩ := ih hends
      rw [fallbackMark, fallbackVisits]
      simp only [hlane, hplan, hfallback]
      cases familyAvailable lanePlan family with
      | true =>
        refine ⟨⟨_, rfl⟩, ?_⟩
        rw [if_pos rfl, List.cons_prefix_cons]
        refine ⟨rfl, List.IsPrefix.trans ?_ hvisits⟩
        rw [List.cons_prefix_cons]
        exact ⟨rfl, List.nil_prefix⟩
      | false =>
        refine ⟨⟨mark, hmark⟩, ?_⟩
        rw [if_neg Bool.false_ne_true, List.cons_prefix_cons]
        exact ⟨rfl, hvisits⟩

/-- The exit of a family the compiler lets pass. -/
theorem primaryAction_ok {lanePlans : OrderedMap LaneId LanePlan} {family : IpFamily}
    (hexit : checkPrimaryExit lanePlans primary family = .ok ()) :
    ∃ action, primaryAction lanePlans primary family = .ok action := by
  rw [checkPrimaryExit] at hexit
  rw [primaryAction]
  cases heffective : primary.effective.get family with
  | blocked => exact ⟨_, rfl⟩
  | lane id =>
    rw [heffective] at hexit
    simp only [failIf_eq_ok, Bool.not_eq_false] at hexit
    cases hfind : lanePlans.find? id with
    | none => simp [hfind] at hexit
    | some lanePlan => exact ⟨.mark lanePlan.mark, by simp only [hfind]⟩

/-- `compile_route_action` for a lane of a valid profile: it ends, none of its `expect`s fails,
and it looks at no lane twice. -/
theorem compileRouteAction_ends (h : profile.Valid toLowercase) (topology : TopologySnapshot)
    {family : IpFamily}
    (hexit : checkPrimaryExit (lanesById (compileLanes topology profile.lanes)) primary family =
      .ok ()) {id : LaneId} (hid : id ∈ profile.lanes.map Lane.id) :
    (∃ action, compileRouteAction (profileLanesById profile.lanes)
        (lanesById (compileLanes topology profile.lanes)) primary family id = .ok action) ∧
      (routeVisits (profileLanesById profile.lanes)
        (lanesById (compileLanes topology profile.lanes)) family id).Nodup := by
  obtain ⟨lane, lanePlan, hlane, hplan, hfallback⟩ := lookup_lane topology h hid
  have hvalid : validateProfile toLowercase profile = .ok () := validateProfile_eq_ok.2 h
  have hends : chainEnds profile.lanes profile.lanes.length id = true := by
    obtain ⟨member, hmember, rfl⟩ := List.mem_map.1 hid
    exact validateProfile_chainEnds hvalid hmember
  have hwalk : Walks.Ends (fallbackOf profile.lanes) id := by
    obtain ⟨member, hmember, rfl⟩ := List.mem_map.1 hid
    exact h.acyclic member hmember
  obtain ⟨⟨mark, hmark⟩, hvisits⟩ := fallbackMark_ends h topology family hends
  rw [compileRouteAction, routeVisits]
  simp only [hlane, hplan, hfallback, length_profileLanesById h.laneIds, hmark]
  cases familyAvailable lanePlan family with
  | true => exact ⟨⟨_, rfl⟩, List.nodup_singleton id⟩
  | false =>
    refine ⟨?_, (hwalk.nodup_trail profile.lanes.length).sublist hvisits.sublist⟩
    cases mark with
    | some mark => exact ⟨_, rfl⟩
    | none =>
      obtain ⟨action, haction⟩ := primaryAction_ok hexit
      cases lane.failurePolicy with
      | block => exact ⟨_, rfl⟩
      | direct =>
        refine ⟨some action, ?_⟩
        rw [if_neg Bool.false_ne_true, haction]
        rfl
      | inactive => exact ⟨_, rfl⟩

/-- No action of a valid profile makes the compiler fail. -/
theorem compileAction_ok (h : profile.Valid toLowercase) (topology : TopologySnapshot)
    {family : IpFamily}
    (hexit : checkPrimaryExit (lanesById (compileLanes topology profile.lanes)) primary family =
      .ok ()) {rule : Rule} (hrule : rule ∈ profile.rules) :
    ∃ action, compileAction (profileLanesById profile.lanes)
      (lanesById (compileLanes topology profile.lanes)) primary family rule.action =
        .ok action := by
  cases haction : rule.action with
  | route id => exact (compileRouteAction_ends h topology hexit (h.routes rule hrule id haction)).1
  | direct =>
    obtain ⟨action, hprimary⟩ := primaryAction_ok hexit
    exact ⟨some action, by rw [compileAction, hprimary]; rfl⟩
  | block => exact ⟨_, rfl⟩

/-- The only errors of a rule are about its target. -/
theorem error_of_compileRule (h : profile.Valid toLowercase) (topology : TopologySnapshot)
    (hexit : ∀ family, checkPrimaryExit (lanesById (compileLanes topology profile.lanes)) primary
      family = .ok ()) {rule : Rule} (hrule : rule ∈ profile.rules) {e : CompileFailure}
    (he : compileRule resolutions (profileLanesById profile.lanes)
      (lanesById (compileLanes topology profile.lanes)) primary rule = .error e) :
    ∃ error, e = .error error := by
  rw [compileRule] at he
  cases htargets : compileTargets resolutions rule with
  | error e' =>
    rw [htargets] at he
    obtain rfl : e' = e := Except.error.inj he
    unfold compileTargets at htargets
    split at htargets
    case h_5 =>
      split at htargets
      · exact ⟨_, (Except.error.inj htargets).symm⟩
      · cases htargets
    case h_6 => exact ⟨_, (Except.error.inj htargets).symm⟩
    case h_7 => exact ⟨_, (Except.error.inj htargets).symm⟩
    all_goals cases htargets
  | ok targets =>
    rw [htargets] at he
    obtain ⟨target, -, he⟩ := error_of_collect he
    obtain ⟨family, -, he⟩ := error_of_collect he
    obtain ⟨action, haction⟩ := compileAction_ok h topology (hexit family) hrule
    rw [haction] at he
    cases he

/-- Compiling fails with an error of its own or not at all. -/
theorem error_of_compileProfile {generation : ℕ} {e : CompileFailure}
    (he : compileProfileWithPrimary toLowercase profile topology resolutions primary generation =
      .error e) : ∃ error, e = .error error := by
  rw [compileProfileWithPrimary] at he
  rcases check_eq_error.1 he with he | ⟨-, he⟩
  · exact ⟨_, (failIf_eq_error.1 he).2.symm⟩
  rcases check_eq_error.1 he with he | ⟨hvalid, he⟩
  · cases hresult : validateProfile toLowercase profile with
    | ok u =>
      rw [hresult] at he
      cases he
    | error e' =>
      rw [hresult] at he
      exact ⟨_, (Except.error.inj he).symm⟩
  have hexitError {family : IpFamily}
      (he : checkPrimaryExit (lanesById (compileLanes topology profile.lanes)) primary family =
        .error e) : ∃ error, e = .error error := by
    rw [checkPrimaryExit] at he
    cases heffective : primary.effective.get family with
    | blocked =>
      rw [heffective] at he
      cases he
    | lane id =>
      rw [heffective] at he
      exact ⟨_, (failIf_eq_error.1 he).2.symm⟩
  rcases check_eq_error.1 he with he | ⟨hv4, he⟩
  · exact hexitError he
  rcases check_eq_error.1 he with he | ⟨hv6, he⟩
  · exact hexitError he
  have haccepted : profile.Valid toLowercase := by
    refine validateProfile_eq_ok.1 ?_
    cases hresult : validateProfile toLowercase profile with
    | ok u => rfl
    | error e' =>
      rw [hresult] at hvalid
      cases hvalid
  have hexit : ∀ family, checkPrimaryExit (lanesById (compileLanes topology profile.lanes)) primary
      family = .ok () := by
    intro family
    cases family with
    | v4 => exact hv4
    | v6 => exact hv6
  cases hrules : compileRules topology resolutions primary profile with
  | ok compiled =>
    rw [hrules] at he
    cases he
  | error e' =>
    rw [hrules] at he
    obtain rfl : e' = e := Except.error.inj he
    obtain ⟨rule, hrule, he⟩ := error_of_collect hrules
    exact error_of_compileRule haccepted topology hexit (mem_executionOrder.1 hrule).1 he

end Compiler

/-! ## Fallbacks -/

/-- What the validation of fallbacks does, and what the planner has of it. -/
structure FallbacksEnd (toLowercase : String → String) (profile : Profile) : Prop where
  /-- The walk from a lane ends on its own, whatever the lanes. -/
  walks : ∀ id, Walks.Outcome (fallbackOf profile.lanes) [] id
    (walkCycles profile.lanes (profile.lanes.length + 1) [] id)
  /-- A cycle is reported exactly where every check before passes and there is one. -/
  cycles : (∃ id, validateProfile toLowercase profile = .error (.fallbackCycle id)) ↔
    profile.Sound toLowercase ∧ ∃ id, Relation.TransGen (FallsBack profile.lanes) id id
  /-- For an accepted profile and a primary with a way out, the compiler's walk from every lane
  ends, fails no `expect` and looks at no lane twice. -/
  compiles : validateProfile toLowercase profile = .ok () → ∀ topology primary family,
    checkPrimaryExit (lanesById (compileLanes topology profile.lanes)) primary family = .ok () →
    ∀ lane ∈ profile.lanes,
      (∃ action, compileRouteAction (profileLanesById profile.lanes)
        (lanesById (compileLanes topology profile.lanes)) primary family lane.id = .ok action) ∧
      (routeVisits (profileLanesById profile.lanes)
        (lanesById (compileLanes topology profile.lanes)) family lane.id).Nodup
  /-- The planner as a whole never panics and always ends. -/
  total : ∀ topology resolutions primary generation e,
    compileProfileWithPrimary toLowercase profile topology resolutions primary generation =
      .error e → ∃ error, e = .error error

/-- **Fallback resolution terminates.** -/
theorem fallbacks_end (toLowercase : String → String) (profile : Profile) :
    FallbacksEnd toLowercase profile where
  walks := walkCycles_outcome
  cycles := validateProfile_cycle_iff
  compiles haccepted topology _ _ hexit lane hlane :=
    compileRouteAction_ends (validateProfile_eq_ok.1 haccepted) topology hexit
      (List.mem_map.2 ⟨lane, hlane, rfl⟩)
  total _ _ _ _ _ he := error_of_compileProfile he

end RouteLane
