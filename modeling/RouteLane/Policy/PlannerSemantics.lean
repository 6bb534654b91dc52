import RouteLane.Domain.Validation
import RouteLane.Policy.Planner

/-!
# What a compiled plan means

The intent of a profile, stated without compiling it — which rule decides a
packet, which lane stands in for an unavailable one — and the proof that the rules
of the compiled plan decide every packet that way.
-/

namespace RouteLane

open Fallible FirstMatch

/-! ## The intent of a profile -/

/-- Whether a rule of a profile matches a packet. -/
def Rule.matches (resolutions : ResolutionSnapshot) (destination : IpAddr)
    (cgroup : Option String) (rule : Rule) : Bool :=
  match rule.source, rule.target with
  | .application _, _ => cgroup == some (applicationCgroup rule.id)
  | .any, .any => true
  | .any, .ip address => address == destination
  | .any, .cidr network => network.contains destination
  | .any, .domain _ =>
    (resolutions.addresses rule.id).any fun networks => networks.any (·.contains destination)
  | .any, .wildcardDomain _ => false
  | .any, .servicePack _ => false

/-- A lane is available for a family when its interface has a route of the family and,
in an observed topology, is ready for it. -/
def laneAvailable (topology : TopologySnapshot) (family : IpFamily) (lane : Lane) : Bool :=
  (topology.interface lane.interface).any fun entry =>
    (!topology.observed || entry.ready family) &&
      match family with
      | .v4 => entry.routeV4.isSome
      | .v6 => entry.routeV6.isSome

/-- Availability of the lane with this id. -/
def availableById (topology : TopologySnapshot) (family : IpFamily) (lanes : List Lane)
    (id : LaneId) : Bool :=
  (lanes.find? fun lane => lane.id == id).any (laneAvailable topology family)

/-- The first `n` lanes of the fallback chain of a lane, the lane itself left out. -/
def fallbackChain (lanes : List Lane) : ℕ → LaneId → List LaneId
  | 0, _ => []
  | n + 1, id =>
    match fallbackOf lanes id with
    | none => []
    | some next => next :: fallbackChain lanes n next

/-- The mark of the lane with this id in a plan. -/
def KernelPlan.markOf (plan : KernelPlan) (id : LaneId) : ℕ :=
  ((plan.lanes.find? fun lane => lane.id == id).map LanePlan.mark).getD 0

/-- The effective primary exit of a family. -/
def primaryExit (plan : KernelPlan) (family : IpFamily) : CompiledAction :=
  match plan.primary.effective.get family with
  | .lane id => .mark (plan.markOf id)
  | .blocked => .block

/-- What the failure policy of a lane says when no lane can take its traffic. -/
def failureAction (plan : KernelPlan) (family : IpFamily) :
    LaneFailurePolicy → Option CompiledAction
  | .block => some .block
  | .direct => some (primaryExit plan family)
  | .inactive => none

/-- What the action of a rule comes to for a family: the lane itself if it is available,
else the first available lane of its fallback chain, else the failure policy of the
lane the rule names.  An action that comes to nothing leaves the packet to the rules
after it. -/
def intendedAction (profile : Profile) (topology : TopologySnapshot) (plan : KernelPlan)
    (family : IpFamily) : RuleAction → Option CompiledAction
  | .block => some .block
  | .direct => some (primaryExit plan family)
  | .route id =>
    match (id :: fallbackChain profile.lanes profile.lanes.length id).find?
        (availableById topology family profile.lanes) with
    | some lane => some (.mark (plan.markOf lane))
    | none =>
      (profile.lanes.find? fun lane => lane.id == id).bind fun lane =>
        failureAction plan family lane.failurePolicy

/-- The verdict of a profile on a packet: that of the first rule, in execution order,
that matches it and whose action comes to something. -/
def intendedVerdict (profile : Profile) (topology : TopologySnapshot)
    (resolutions : ResolutionSnapshot) (plan : KernelPlan) (destination : IpAddr)
    (cgroup : Option String) : Option CompiledAction :=
  (executionOrder profile.rules).findSome? fun rule =>
    if rule.matches resolutions destination cgroup then
      intendedAction profile topology plan destination.family rule.action
    else none

/-- The execution order lists the enabled rules, -/
theorem mem_executionOrder {rules : List Rule} {rule : Rule} :
    rule ∈ executionOrder rules ↔ rule ∈ rules ∧ rule.enabled = true := by
  rw [executionOrder, List.mem_insertionSort, List.mem_filter]

/-- by priority and then by id. -/
theorem executionOrder_sorted (rules : List Rule) :
    (executionOrder rules).Pairwise Rule.executionLe :=
  List.pairwise_insertionSort _ _

/-! ## Fallback chains end -/

/-- Whether the fallback chain of a lane ends within `n` steps. -/
def chainEnds (lanes : List Lane) : ℕ → LaneId → Bool
  | 0, id => (fallbackOf lanes id).isNone
  | n + 1, id =>
    match fallbackOf lanes id with
    | none => true
    | some next => chainEnds lanes n next

/-- A walk that finds no cycle has reached the end of the chain. -/
theorem chainEnds_of_walkCycles {lanes : List Lane} :
    ∀ {n : ℕ} {visited : List LaneId} {id : LaneId},
      walkCycles lanes (n + 1) visited id = false → chainEnds lanes n id = true := by
  intro n
  induction n with
  | zero =>
    intro visited id h
    rw [walkCycles] at h
    cases hf : fallbackOf lanes id with
    | none => simp [chainEnds, hf]
    | some next => simp [hf, walkCycles] at h
  | succ n ih =>
    intro visited id h
    rw [walkCycles] at h
    cases hf : fallbackOf lanes id with
    | none => simp [chainEnds, hf]
    | some next =>
      rw [hf] at h
      simp only at h
      split at h
      · exact absurd h (by simp)
      · rw [chainEnds, hf]
        exact ih h

theorem checkCycles_ends {lanes : List Lane} :
    ∀ {rest : List Lane}, checkCycles lanes rest = .ok () →
      ∀ lane ∈ rest, chainEnds lanes lanes.length lane.id = true := by
  intro rest
  induction rest with
  | nil => intro _ lane hlane; exact absurd hlane List.not_mem_nil
  | cons head rest ih =>
    intro h lane hlane
    rw [checkCycles, guard_eq_ok] at h
    rcases List.mem_cons.1 hlane with rfl | hlane
    · exact chainEnds_of_walkCycles (by simpa using h.1)
    · exact ih h.2 lane hlane

/-- Once a chain has ended, looking further along it finds nothing more. -/
theorem fallbackChain_of_ends {lanes : List Lane} :
    ∀ {n m : ℕ} {id : LaneId}, chainEnds lanes n id = true → n ≤ m →
      fallbackChain lanes m id = fallbackChain lanes n id := by
  intro n
  induction n with
  | zero =>
    intro m id h _
    have hnone : fallbackOf lanes id = none := by simpa [chainEnds] using h
    cases m with
    | zero => rfl
    | succ m => simp [fallbackChain, hnone]
  | succ n ih =>
    intro m id h hle
    obtain ⟨m, rfl⟩ : ∃ k, m = k + 1 := ⟨m - 1, by omega⟩
    rw [fallbackChain, fallbackChain]
    cases hf : fallbackOf lanes id with
    | none => rfl
    | some next =>
      rw [chainEnds, hf] at h
      have htail := ih h (show n ≤ m by omega)
      simp only [htail]

theorem checkFallbacks_mem {lanes : List Lane} :
    ∀ {rest : List Lane}, checkFallbacks lanes rest = .ok () →
      ∀ lane ∈ rest, ∀ next, lane.fallbackLane = some next → next ∈ lanes.map Lane.id := by
  intro rest
  induction rest with
  | nil => intro _ lane hlane; exact absurd hlane List.not_mem_nil
  | cons head rest ih =>
    intro h lane hlane next hnext
    rw [checkFallbacks] at h
    rcases List.mem_cons.1 hlane with rfl | hlane
    · rw [hnext] at h
      simp only [guard_eq_ok, not_not] at h
      exact h.1
    · cases hf : head.fallbackLane with
      | none =>
        rw [hf] at h
        exact ih h lane hlane next hnext
      | some fallback =>
        rw [hf] at h
        simp only [guard_eq_ok] at h
        exact ih h.2.2 lane hlane next hnext

theorem checkRouteLanes_mem {lanes : List Lane} :
    ∀ {rules : List Rule}, checkRouteLanes lanes rules = .ok () →
      ∀ rule ∈ rules, ∀ id, rule.action = .route id → id ∈ lanes.map Lane.id := by
  intro rules
  induction rules with
  | nil => intro _ rule hrule; exact absurd hrule List.not_mem_nil
  | cons head rest ih =>
    intro h rule hrule id hid
    rw [checkRouteLanes] at h
    rcases List.mem_cons.1 hrule with rfl | hrule
    · rw [hid] at h
      by_contra hnot
      simp [hnot] at h
    · cases ha : head.action with
      | route other =>
        rw [ha] at h
        simp only at h
        split at h
        · exact ih h rule hrule id hid
        · exact absurd h (by simp)
      | direct => exact ih (by simpa [ha] using h) rule hrule id hid
      | block => exact ih (by simpa [ha] using h) rule hrule id hid

/-- In a validated profile every fallback chain ends, and within as many steps as the
profile has lanes: the walk of the compiler always gets to its end. -/
theorem validateProfile_chainEnds {toLowercase : String → String} {profile : Profile}
    (h : validateProfile toLowercase profile = .ok ()) {lane : Lane}
    (hlane : lane ∈ profile.lanes) :
    chainEnds profile.lanes profile.lanes.length lane.id = true :=
  checkCycles_ends (validateProfile_ok h).2.2.2.2.2.2.2 lane hlane

/-! ## Compiled lanes -/

section Lanes

variable {topology : TopologySnapshot} {lanes : List Lane}

/-- The availability of a lane plan is that of the lane it was compiled from. -/
theorem familyAvailable_compileLane (topology : TopologySnapshot) (lane : Lane) (slot : ℕ)
    (family : IpFamily) :
    familyAvailable (compileLane topology lane slot) family = laneAvailable topology family lane := by
  simp only [familyAvailable, compileLane, laneAvailable, LanePlan.hasRoute]
  cases topology.interface lane.interface with
  | none => cases family <;> rfl
  | some entry =>
    cases family
    · cases hready : !topology.observed || entry.ready .v4 <;>
        cases hroute : entry.routeV4 <;> simp [Option.filter, hready, hroute]
    · cases hready : !topology.observed || entry.ready .v6 <;>
        cases hroute : entry.routeV6 <;> simp [Option.filter, hready, hroute]

theorem mem_compileLanes {plan : LanePlan} :
    plan ∈ compileLanes topology lanes ↔
      ∃ lane slot, (sortedLanes lanes)[slot]? = some lane ∧ plan = compileLane topology lane slot := by
  rw [compileLanes, List.mem_map]
  constructor
  · rintro ⟨⟨lane, slot⟩, hmem, rfl⟩
    exact ⟨lane, slot, List.mem_zipIdx_iff_getElem?.1 hmem, rfl⟩
  · rintro ⟨lane, slot, hget, rfl⟩
    exact ⟨(lane, slot), List.mem_zipIdx_iff_getElem?.2 hget, rfl⟩

theorem map_id_compileLanes :
    (compileLanes topology lanes).map LanePlan.id = (sortedLanes lanes).map Lane.id := by
  rw [compileLanes, List.map_map]
  have hfun : (LanePlan.id ∘ fun slotted : Lane × ℕ => compileLane topology slotted.1 slotted.2) =
      Lane.id ∘ Prod.fst := rfl
  rw [hfun, ← List.map_map, List.zipIdx_map_fst]

theorem perm_sortedLanes (lanes : List Lane) : (sortedLanes lanes).Perm lanes :=
  List.perm_insertionSort _ _

theorem compileLanes_ids_nodup (hnd : (lanes.map Lane.id).Nodup) :
    ((compileLanes topology lanes).map LanePlan.id).Nodup := by
  rw [map_id_compileLanes]
  exact (((perm_sortedLanes lanes).map Lane.id).nodup_iff).2 hnd

/-- Every lane of a profile has a lane plan under its id. -/
theorem find?_compileLanes (topology : TopologySnapshot) (hnd : (lanes.map Lane.id).Nodup) {lane : Lane} (hlane : lane ∈ lanes) :
    ∃ slot, (compileLanes topology lanes).find? (fun plan => plan.id == lane.id) =
      some (compileLane topology lane slot) := by
  have hsorted : lane ∈ sortedLanes lanes := (perm_sortedLanes lanes).mem_iff.2 hlane
  obtain ⟨slot, hslot⟩ := List.mem_iff_getElem?.1 hsorted
  have hmem : compileLane topology lane slot ∈ compileLanes topology lanes :=
    mem_compileLanes.2 ⟨lane, slot, hslot, rfl⟩
  exact ⟨slot, find?_key_of_mem (compileLanes_ids_nodup hnd) hmem⟩

theorem find?_lanesById (hnd : (lanes.map Lane.id).Nodup) (id : LaneId) :
    (lanesById (compileLanes topology lanes)).find? id =
      (compileLanes topology lanes).find? fun plan => plan.id == id :=
  OrderedMap.find?_ofList_keyed (compileLanes_ids_nodup hnd) id

theorem find?_profileLanesById (hnd : (lanes.map Lane.id).Nodup) (id : LaneId) :
    (profileLanesById lanes).find? id = lanes.find? fun lane => lane.id == id :=
  OrderedMap.find?_ofList_keyed hnd id

theorem length_profileLanesById (hnd : (lanes.map Lane.id).Nodup) :
    (profileLanesById lanes).entries.length = lanes.length := by
  rw [profileLanesById, OrderedMap.length_ofList (by simpa [Function.comp_def] using hnd),
    List.length_map]

end Lanes

/-! ## Actions of the profile -/

section Actions

variable {toLowercase : String → String} {profile : Profile} {topology : TopologySnapshot}
  {resolutions : ResolutionSnapshot} {primary : PrimaryDecision} {generation : ℕ}
  {plan : KernelPlan} {compiled : List CompiledRule}

namespace Compiles

variable (c : Compiles toLowercase profile topology resolutions primary generation plan compiled)

include c

theorem ids_nodup : (profile.lanes.map Lane.id).Nodup := validateProfile_lanes_nodup c.valid

theorem lanes_eq : plan.lanes = compileLanes topology profile.lanes := by rw [c.plan_eq]

theorem primary_eq : plan.primary = primary := by rw [c.plan_eq]

/-- What the compiler knows about a lane of the profile when it looks its id up. -/
theorem lookup {id : LaneId} (hid : id ∈ profile.lanes.map Lane.id) :
    ∃ lane lanePlan, profile.lanes.find? (fun lane => lane.id == id) = some lane ∧
      (profileLanesById profile.lanes).find? id = some lane ∧
      (lanesById (compileLanes topology profile.lanes)).find? id = some lanePlan ∧
      lanePlan.mark = plan.markOf id ∧
      ∀ family, familyAvailable lanePlan family = availableById topology family profile.lanes id := by
  obtain ⟨lane, hlane, rfl⟩ := List.mem_map.1 hid
  have hfind := find?_key_of_mem c.ids_nodup hlane
  obtain ⟨slot, hslot⟩ := find?_compileLanes topology c.ids_nodup hlane
  refine ⟨lane, compileLane topology lane slot, hfind, ?_, ?_, ?_, ?_⟩
  · rw [find?_profileLanesById c.ids_nodup, hfind]
  · rw [find?_lanesById c.ids_nodup, hslot]
  · rw [KernelPlan.markOf, c.lanes_eq, hslot]
    rfl
  · intro family
    rw [familyAvailable_compileLane, availableById, hfind]
    rfl

/-- The walk along a fallback chain finds the mark of its first available lane. -/
theorem fallbackMark_eq (family : IpFamily) :
    ∀ {n : ℕ} {id : LaneId}, chainEnds profile.lanes n id = true →
      fallbackMark (profileLanesById profile.lanes)
          (lanesById (compileLanes topology profile.lanes)) family n
          (fallbackOf profile.lanes id) =
        .ok (((fallbackChain profile.lanes n id).find?
          (availableById topology family profile.lanes)).map plan.markOf) := by
  intro n
  induction n with
  | zero =>
    intro id h
    have hnone : fallbackOf profile.lanes id = none := by simpa [chainEnds] using h
    rw [hnone]
    rfl
  | succ n ih =>
    intro id h
    rw [chainEnds] at h
    cases hf : fallbackOf profile.lanes id with
    | none => simp [fallbackMark, fallbackChain, hf]
    | some next =>
      rw [hf] at h
      have hnext : next ∈ profile.lanes.map Lane.id := by
        rw [fallbackOf] at hf
        obtain ⟨lane, hlane, hfallback⟩ := Option.bind_eq_some_iff.1 hf
        exact checkFallbacks_mem (validateProfile_ok c.valid).2.2.2.2.2.2.1 lane
          (List.mem_of_find?_eq_some hlane) next hfallback
      obtain ⟨lane, lanePlan, hfind, hlane, hplan, hmark, havail⟩ := c.lookup hnext
      have hstep : lane.fallbackLane = fallbackOf profile.lanes next := by
        rw [fallbackOf, hfind]
        rfl
      rw [fallbackMark, hplan, fallbackChain, hf]
      simp only [havail, hlane, List.find?_cons]
      cases availableById topology family profile.lanes next with
      | true => simp [hmark]
      | false => simpa [hstep] using ih h

theorem primaryAction_eq (family : IpFamily) :
    primaryAction (lanesById (compileLanes topology profile.lanes)) primary family =
      .ok (primaryExit plan family) := by
  have hexit := c.exit family
  rw [checkPrimaryExit] at hexit
  rw [primaryAction, primaryExit, c.primary_eq]
  cases heff : primary.effective.get family with
  | blocked => rfl
  | lane id =>
    rw [heff] at hexit
    simp only [failIf_eq_ok, Bool.not_eq_false] at hexit
    cases hfind : (lanesById (compileLanes topology profile.lanes)).find? id with
    | none => simp [hfind] at hexit
    | some lanePlan =>
      have hmark : plan.markOf id = lanePlan.mark := by
        rw [find?_lanesById c.ids_nodup] at hfind
        simp [KernelPlan.markOf, c.lanes_eq, hfind]
      simp only [hfind, hmark]

/-- The compiler gives the action of every rule of the profile its intended meaning; it
neither fails an `expect` nor walks forever. -/
theorem compileAction_eq (family : IpFamily) {rule : Rule} (hrule : rule ∈ profile.rules) :
    compileAction (profileLanesById profile.lanes)
        (lanesById (compileLanes topology profile.lanes)) primary family rule.action =
      .ok (intendedAction profile topology plan family rule.action) := by
  cases ha : rule.action with
  | block => rfl
  | direct =>
    rw [compileAction, c.primaryAction_eq family]
    rfl
  | route id =>
    have hid : id ∈ profile.lanes.map Lane.id :=
      checkRouteLanes_mem (validateProfile_ok c.valid).2.2.2.2.2.1 rule hrule id ha
    obtain ⟨lane, lanePlan, hfind, hlane, hplan, hmark, havail⟩ := c.lookup hid
    obtain ⟨hmem, hlid⟩ : lane ∈ profile.lanes ∧ lane.id = id :=
      ⟨List.mem_of_find?_eq_some hfind, by simpa using List.find?_some hfind⟩
    have hends : chainEnds profile.lanes profile.lanes.length id = true :=
      hlid ▸ validateProfile_chainEnds c.valid hmem
    have hstep : lane.fallbackLane = fallbackOf profile.lanes id := by
      rw [fallbackOf, hfind]
      rfl
    rw [compileAction, compileRouteAction, hlane, hplan, intendedAction]
    simp only [havail, List.find?_cons]
    cases availableById topology family profile.lanes id with
    | true => simp [hmark]
    | false =>
      simp only [Bool.false_eq_true, if_false, length_profileLanesById c.ids_nodup, hstep,
        c.fallbackMark_eq family hends, hfind, Option.bind_some]
      cases (fallbackChain profile.lanes profile.lanes.length id).find?
          (availableById topology family profile.lanes) with
      | some next => rfl
      | none =>
        cases lane.failurePolicy with
        | block => rfl
        | direct =>
          rw [failureAction, c.primaryAction_eq family]
          rfl
        | inactive => rfl

end Compiles

/-! ## Rules of the profile -/

theorem family_mem_targetFamilies {target : CompiledTarget} {destination : IpAddr}
    {cgroup : Option String} (h : target.matches destination cgroup = true) :
    destination.family ∈ targetFamilies target := by
  cases target with
  | any => exact mem_families _
  | cgroup path => exact mem_families _
  | network net => simp [targetFamilies, IpNet.family_of_contains h]

/-- The targets of a rule cover the packets the rule matches and no others. -/
theorem any_compileTargets {rule : Rule} {targets : List CompiledTarget}
    (h : compileTargets resolutions rule = .ok targets) (destination : IpAddr)
    (cgroup : Option String) :
    targets.any (CompiledTarget.matches destination cgroup) =
      rule.matches resolutions destination cgroup := by
  rw [compileTargets] at h
  rw [Rule.matches]
  cases hs : rule.source with
  | application selector =>
    rw [hs] at h
    obtain rfl := Except.ok.inj h
    simp [CompiledTarget.matches]
  | any =>
    rw [hs] at h
    cases ht : rule.target with
    | any =>
      rw [ht] at h
      obtain rfl := Except.ok.inj h
      rfl
    | ip address =>
      rw [ht] at h
      obtain rfl := Except.ok.inj h
      simp [CompiledTarget.matches, Bool.beq_comm]
    | cidr network =>
      rw [ht] at h
      obtain rfl := Except.ok.inj h
      simp [CompiledTarget.matches]
    | domain name =>
      rw [ht] at h
      simp only at h
      split at h
      · exact absurd h (by simp)
      · rename_i networks hnetworks
        obtain rfl := Except.ok.inj h
        rw [hnetworks, Bool.eq_iff_iff]
        simp [CompiledTarget.matches]
    | wildcardDomain pattern => simp [ht] at h
    | servicePack id => simp [ht] at h

/-- The compiled rules of one rule for one target. -/
def targetRules (profile : Profile) (topology : TopologySnapshot) (plan : KernelPlan)
    (rule : Rule) (target : CompiledTarget) : List CompiledRule :=
  (targetFamilies target).flatMap fun family =>
    (intendedAction profile topology plan family rule.action).toList.map
      (compiledRule rule target family)

/-- Of the rules for one target, a packet the target matches meets the one of its own
family, and no other packet meets any. -/
theorem find?_targetRules (rule : Rule) (target : CompiledTarget) (destination : IpAddr)
    (cgroup : Option String) :
    ((targetRules profile topology plan rule target).find?
        (CompiledRule.matches destination cgroup)).map CompiledRule.action =
      if target.matches destination cgroup then
        intendedAction profile topology plan destination.family rule.action
      else none := by
  have hhit : ∀ family action,
      (compiledRule rule target family action).matches destination cgroup =
        (family == destination.family && target.matches destination cgroup) := fun _ _ => rfl
  cases hm : target.matches destination cgroup with
  | false =>
    have hnone : (targetRules profile topology plan rule target).find?
        (CompiledRule.matches destination cgroup) = none := by
      rw [List.find?_eq_none]
      intro r hr
      obtain ⟨family, -, hr⟩ := List.mem_flatMap.1 hr
      obtain ⟨action, -, rfl⟩ := List.mem_map.1 hr
      simp [hhit, hm]
    simp [hnone]
  | true =>
    have hblock : ∀ family, (((intendedAction profile topology plan family rule.action).toList.map
        (compiledRule rule target family)).find? (CompiledRule.matches destination cgroup)).map
          CompiledRule.action =
        if family == destination.family then
          intendedAction profile topology plan destination.family rule.action else none := by
      intro family
      by_cases hf : family = destination.family
      · subst hf
        cases intendedAction profile topology plan destination.family rule.action with
        | none => simp
        | some action =>
          rw [Option.toList_some, List.map_singleton, List.find?_cons_of_pos (by simp [hhit, hm])]
          simp [compiledRule]
      · cases intendedAction profile topology plan family rule.action with
        | none => simp [hf]
        | some action =>
          rw [Option.toList_some, List.map_singleton, List.find?_cons_of_neg (by simp [hhit, hf])]
          simp [hf]
    have hany : ((targetFamilies target).any fun family => family == destination.family) = true :=
      List.any_eq_true.2 ⟨_, family_mem_targetFamilies hm, by simp⟩
    rw [targetRules, find?_flatMap_value _ _ _ _ _ fun family _ => hblock family, findSome?_if,
      hany]

/-- The compiled rules of one rule are those of its targets. -/
theorem Compiles.compileRule_eq
    (c : Compiles toLowercase profile topology resolutions primary generation plan compiled)
    {rule : Rule} (hrule : rule ∈ profile.rules) {out : List CompiledRule}
    (h : compileRule resolutions (profileLanesById profile.lanes)
      (lanesById (compileLanes topology profile.lanes)) primary rule = .ok out) :
    ∃ targets, compileTargets resolutions rule = .ok targets ∧
      out = targets.flatMap (targetRules profile topology plan rule) := by
  rw [compileRule] at h
  obtain ⟨targets, htargets, h⟩ := bind_eq_ok.1 h
  refine ⟨targets, htargets, ?_⟩
  rw [collect_eq_flatMap (g := targetRules profile topology plan rule)] at h
  · exact (Except.ok.inj h).symm
  · intro target _
    refine collect_eq_flatMap ?_
    intro family _
    rw [c.compileAction_eq family hrule]
    rfl

/-- The compiled rules of one rule decide a packet as the rule does. -/
theorem Compiles.find?_compileRule
    (c : Compiles toLowercase profile topology resolutions primary generation plan compiled)
    {rule : Rule} (hrule : rule ∈ profile.rules) {out : List CompiledRule}
    (h : compileRule resolutions (profileLanesById profile.lanes)
      (lanesById (compileLanes topology profile.lanes)) primary rule = .ok out)
    (destination : IpAddr) (cgroup : Option String) :
    (out.find? (CompiledRule.matches destination cgroup)).map CompiledRule.action =
      if rule.matches resolutions destination cgroup then
        intendedAction profile topology plan destination.family rule.action
      else none := by
  obtain ⟨targets, htargets, rfl⟩ := c.compileRule_eq hrule h
  rw [find?_flatMap_value _ _ _ _ _ fun target _ => find?_targetRules rule target _ _,
    findSome?_if, any_compileTargets htargets]

/-- A mark is the mark of a lane that is available, or of the primary exit in effect. -/
theorem lane_of_compileAction (hnd : (profile.lanes.map Lane.id).Nodup) {family : IpFamily}
    {action : RuleAction} {mark : ℕ}
    (h : compileAction (profileLanesById profile.lanes)
      (lanesById (compileLanes topology profile.lanes)) primary family action =
        .ok (some (.mark mark))) :
    ∃ lane ∈ compileLanes topology profile.lanes, lane.mark = mark ∧
      (familyAvailable lane family = true ∨ primary.effective.get family = .lane lane.id) := by
  have hlane {id : LaneId} {lane : LanePlan}
      (hfind : (lanesById (compileLanes topology profile.lanes)).find? id = some lane) :
      lane ∈ compileLanes topology profile.lanes ∧ lane.id = id := by
    rw [find?_lanesById hnd] at hfind
    exact ⟨List.mem_of_find?_eq_some hfind, by simpa using List.find?_some hfind⟩
  have hdirect (h : (primaryAction (lanesById (compileLanes topology profile.lanes)) primary
      family).map some = .ok (some (.mark mark))) :
      ∃ lane ∈ compileLanes topology profile.lanes, lane.mark = mark ∧
        (familyAvailable lane family = true ∨ primary.effective.get family = .lane lane.id) := by
    unfold primaryAction at h
    split at h
    · cases h
    · rename_i id heffective
      split at h
      · rename_i lane hfind
        obtain ⟨hmem, rfl⟩ := hlane hfind
        exact ⟨lane, hmem, by simpa [Except.map] using h, Or.inr heffective⟩
      · cases h
  -- along the fallback chain the mark is that of the lane the loop stops at
  have hchain : ∀ {fuel : ℕ} {start : Option LaneId},
      fallbackMark (profileLanesById profile.lanes)
        (lanesById (compileLanes topology profile.lanes)) family fuel start =
          .ok (some mark) →
      ∃ lane ∈ compileLanes topology profile.lanes, lane.mark = mark ∧
        familyAvailable lane family = true := by
    intro fuel
    induction fuel with
    | zero => intro start h; cases start <;> cases h
    | succ fuel ih =>
      intro start h
      cases start with
      | none => cases h
      | some id =>
        rw [fallbackMark] at h
        split at h
        · cases h
        · rename_i lane hfind
          split at h
          · rename_i havailable
            exact ⟨lane, (hlane hfind).1, by simpa using h, havailable⟩
          · split at h
            · cases h
            · exact ih h
  cases action with
  | block => cases h
  | direct => exact hdirect h
  | route id =>
    rw [compileAction, compileRouteAction] at h
    split at h
    · rename_i lane lanePlan hlaneEq hfind
      split at h
      · rename_i havailable
        exact ⟨lanePlan, (hlane hfind).1, by simpa using h, Or.inl havailable⟩
      · split at h
        · cases h
        · rename_i hmark
          obtain ⟨lane, hmem, heq, havailable⟩ :=
            hchain (by simpa using hmark.trans (by simpa using h))
          exact ⟨lane, hmem, heq, Or.inl havailable⟩
        · split at h
          · cases h
          · exact hdirect h
          · cases h
    · cases h

theorem mem_compileRule {rule : Rule} {out : List CompiledRule}
    (h : compileRule resolutions (profileLanesById profile.lanes)
      (lanesById (compileLanes topology profile.lanes)) primary rule = .ok out)
    {r : CompiledRule} :
    r ∈ out ↔ ∃ targets, compileTargets resolutions rule = .ok targets ∧
      ∃ target ∈ targets, ∃ family ∈ targetFamilies target, ∃ action,
        compileAction (profileLanesById profile.lanes)
          (lanesById (compileLanes topology profile.lanes)) primary family rule.action =
            .ok (some action) ∧
        r = compiledRule rule target family action := by
  rw [compileRule] at h
  obtain ⟨targets, htargets, h⟩ := bind_eq_ok.1 h
  constructor
  · intro hr
    obtain ⟨target, htarget, bs, hbs, hr⟩ := mem_collect h hr
    obtain ⟨family, hfamily, cs, hcs, hr⟩ := mem_collect hbs hr
    obtain ⟨action, haction, hcs⟩ := bind_eq_ok.1 hcs
    obtain rfl := Except.ok.inj hcs
    cases action with
    | none => simp at hr
    | some action =>
      obtain rfl := List.mem_singleton.1 hr
      exact ⟨targets, htargets, target, htarget, family, hfamily, action, haction, rfl⟩
  · rintro ⟨targets', htargets', target, htarget, family, hfamily, action, haction, rfl⟩
    obtain rfl := Except.ok.inj (htargets.symm.trans htargets')
    obtain ⟨bs, hbs, hsub⟩ := step_of_collect h htarget
    obtain ⟨cs, hcs, hsub'⟩ := step_of_collect hbs hfamily
    rw [haction] at hcs
    obtain rfl := Except.ok.inj hcs
    exact hsub (hsub' (List.mem_singleton.2 rfl))

/-- A rule of the plan was compiled from an enabled rule. -/
theorem Compiles.exists_rule_of_mem
    (c : Compiles toLowercase profile topology resolutions primary generation plan compiled)
    {r : CompiledRule} (hr : r ∈ plan.rules) :
    ∃ rule ∈ profile.rules, rule.enabled = true ∧
      ∃ targets, compileTargets resolutions rule = .ok targets ∧
      ∃ target ∈ targets, ∃ family ∈ targetFamilies target, ∃ action,
        compileAction (profileLanesById profile.lanes)
          (lanesById (compileLanes topology profile.lanes)) primary family rule.action =
            .ok (some action) ∧
        r = compiledRule rule target family action := by
  rw [c.plan_eq] at hr
  have hrules := c.rules_eq
  rw [compileRules] at hrules
  obtain ⟨rule, hrule, out, hout, hr⟩ := mem_collect hrules (mem_of_mem_retainNew hr)
  obtain ⟨hmem, henabled⟩ := mem_executionOrder.1 hrule
  exact ⟨rule, hmem, henabled, (mem_compileRule hout).1 hr⟩

/-! ## The compiled plan decides as the profile does -/

/-- Dropping repeated verdicts changes the verdict on no packet. -/
theorem Compiles.find?_rules
    (c : Compiles toLowercase profile topology resolutions primary generation plan compiled)
    (destination : IpAddr) (cgroup : Option String) :
    plan.rules.find? (CompiledRule.matches destination cgroup) =
      compiled.find? (CompiledRule.matches destination cgroup) := by
  rw [c.plan_eq]
  refine find?_retainNew ?_ ?_
  · intro a b hab
    exact CompiledRule.matches_eq_of_routingKey_eq hab destination cgroup
  · intro a ha
    exact absurd ha List.not_mem_nil

end Actions

/-- The first rule of a compiled plan that matches a packet has the verdict the profile
intends for it, and so it has before repeated rules are dropped. -/
theorem compileProfile_verdict {toLowercase : String → String} {profile : Profile}
    {topology : TopologySnapshot} {resolutions : ResolutionSnapshot} {primary : PrimaryDecision}
    {generation : ℕ} {plan : KernelPlan}
    (h : compileProfileWithPrimary toLowercase profile topology resolutions primary generation =
      .ok plan) (destination : IpAddr) (cgroup : Option String) :
    (plan.rules.find? (CompiledRule.matches destination cgroup)).map CompiledRule.action =
        intendedVerdict profile topology resolutions plan destination cgroup ∧
      ∃ compiled, compileRules topology resolutions primary profile = .ok compiled ∧
        plan.rules.find? (CompiledRule.matches destination cgroup) =
          compiled.find? (CompiledRule.matches destination cgroup) := by
  obtain ⟨compiled, c⟩ := compileProfileWithPrimary_eq_ok h
  refine ⟨?_, compiled, c.rules_eq, c.find?_rules destination cgroup⟩
  rw [c.find?_rules, intendedVerdict]
  refine collect_find? c.rules_eq ?_
  intro rule hrule out hout
  exact c.find?_compileRule (mem_executionOrder.1 hrule).1 hout destination cgroup

/-- A lane without a route, the lane that stands in for it, and a rule for the first. -/
def standInProfile : Profile where
  id := "p"
  name := "P"
  enabled := true
  lanes := [
    { id := "a", name := "A", interface := "wg0", fallbackLane := some "b", failurePolicy := .block },
    { id := "b", name := "B", interface := "wg1", fallbackLane := none, failurePolicy := .block }]
  rules := [
    { id := "r", enabled := true, priority := 10, source := .any,
      target := .cidr (.v4 ⟨0x0a000001#32, 8, by decide⟩), action := .route "a" }]
  routing := ⟨.preserveSystem, .followSystemDefault, [], true⟩

/-- Only the interface of the second lane exists. -/
def standInTopology : TopologySnapshot where
  interfaces := .ofList [("wg1",
    { identity := some ⟨7, "wg1", "wireguard", none⟩, linkReady := true,
      routeV4 := some .device, routeV6 := none, sourceV4 := [0x0a020002#32], sourceV6 := [],
      connectedNetworks := [] })]
  observed := true
  assignedAddresses := [.v4 0x0a020002#32]

/-- No exit at all for traffic that no rule assigns. -/
def noPrimary : PrimaryDecision := ⟨⟨none, none⟩, ⟨.blocked, .blocked⟩⟩

/-- What the profile compiles to. -/
def standInPlan : KernelPlan where
  primary := noPrimary
  localNetworks := []
  localAddresses := [.v4 0x0a020002#32]
  generation := 1
  profileId := "p"
  lanes := [compileLane standInTopology
      ⟨"a", "A", "wg0", some "b", .block⟩ 0,
    compileLane standInTopology ⟨"b", "B", "wg1", none, .block⟩ 1]
  rules := [⟨.v4, "r", 10, .network (.v4 ⟨0x0a000000#32, 8, by decide⟩), .mark 0x524c0002⟩]

theorem compileProfile_verdict_standIn :
    (standInPlan.rules.find? (CompiledRule.matches (.v4 0x0a010203#32) none)).map
        CompiledRule.action =
        intendedVerdict standInProfile standInTopology ⟨.empty⟩ standInPlan (.v4 0x0a010203#32)
          none ∧
      ∃ compiled, compileRules standInTopology ⟨.empty⟩ noPrimary standInProfile = .ok compiled ∧
        standInPlan.rules.find? (CompiledRule.matches (.v4 0x0a010203#32) none) =
          compiled.find? (CompiledRule.matches (.v4 0x0a010203#32) none) := by
  have h : compileProfileWithPrimary id standInProfile standInTopology ⟨.empty⟩ noPrimary 1 =
      .ok standInPlan := by decide
  exact compileProfile_verdict h _ _

end RouteLane
