import RouteLane.Kernel.CrashModel

/-!
# Crash states

What the journal check accepts, said without enumerating states: in every phase the
live routing is where a prefix of the rollback leads from a state the phase passes
through.  Rollbacks only remove, so they can be broken off and started again, and a
whole one leaves nothing of either plan.
-/

namespace RouteLane

open Nft Steps

/-! ## The routing basis -/

theorem tables_routingBasis (lost : LostUnicast) (plan : KernelPlan) :
    (routingBasis lost plan).lanes.map LanePlan.table = plan.lanes.map LanePlan.table := by
  rw [routingBasis, List.map_map]
  rfl

theorem installRules_routingBasis (lost : LostUnicast) (plan : KernelPlan) :
    installRules (routingBasis lost plan) = installRules plan := by
  rw [installRules, installRules, routingBasis, List.flatMap_map]
  rfl

/-- Only the rules of the install steps can be deleted. -/
theorem filterMap_deleteOf_installSteps (plan : KernelPlan) :
    (installSteps plan).filterMap RoutingStep.deleteOf =
      (installRules plan).filterMap RoutingStep.deleteOf := by
  have hroutes : (transitionRouteSteps none plan).filterMap RoutingStep.deleteOf = [] := by
    rw [List.filterMap_eq_nil_iff]
    intro step hstep
    simp only [transitionRouteSteps, List.mem_flatMap, laneRouteSteps, List.mem_append,
      Option.mem_toList, Option.map_eq_some_iff, List.mem_singleton] at hstep
    obtain ⟨lane, -, f, -, (hopen | ⟨route, -, rfl⟩) | rfl⟩ := hstep
    · split at hopen
      · obtain rfl := List.mem_singleton.1 hopen
        rfl
      · cases hopen
    · rfl
    · rfl
  rw [installSteps, transitionSteps, List.filterMap_append, hroutes, List.nil_append]
  simp [previousRules]

/-- A rollback removes the same things whether or not the kernel dropped routes. -/
theorem rollbackSteps_routingBasis (lost : LostUnicast) (active : Option KernelPlan)
    (pending : KernelPlan) :
    rollbackSteps (rollbackPlans (active.map (routingBasis lost)) pending) =
      rollbackSteps (rollbackPlans active pending) := by
  cases active with
  | none => rfl
  | some plan =>
    simp only [rollbackSteps, rollbackRuleOrder, rollbackTableOrder, rollbackPlans,
      Option.map_some, Option.toList_some, List.singleton_append, List.flatMap_cons,
      filterMap_deleteOf_installSteps, installRules_routingBasis]
    rw [routingBasis, List.flatMap_map]

/-! ## What a rollback removes -/

theorem mem_rollbackRuleOrder {plans : List KernelPlan} {step : RoutingStep} :
    step ∈ rollbackRuleOrder plans ↔ ∃ plan ∈ plans, ∃ lane ∈ plan.lanes, ∃ f,
      step = .deleteRule f lane.rulePriority lane.table lane.mark := by
  simp only [rollbackRuleOrder, FirstMatch.mem_retainNew_id, List.not_mem_nil, not_false_eq_true,
    and_true, List.mem_flatMap, filterMap_deleteOf_installSteps,
    mem_deletes (List.Subset.refl _)]
  constructor
  · rintro ⟨plan, hplan, lane, hlane, f, -, rfl⟩
    exact ⟨plan, hplan, lane, hlane, f, rfl⟩
  · rintro ⟨plan, hplan, lane, hlane, f, rfl⟩
    exact ⟨plan, hplan, lane, hlane, f, mem_installRules.2 ⟨lane, hlane, f, rfl⟩, rfl⟩

theorem mem_rollbackTableOrder {plans : List KernelPlan} {step : RoutingStep} :
    step ∈ rollbackTableOrder plans ↔ ∃ plan ∈ plans, ∃ lane ∈ plan.lanes, ∃ f,
      step = .flushTable f lane.table := by
  simp only [rollbackTableOrder, FirstMatch.mem_retainNew_id, List.not_mem_nil,
    not_false_eq_true, and_true, List.mem_flatMap, List.mem_map]
  constructor
  · rintro ⟨plan, hplan, lane, hlane, f, -, rfl⟩
    exact ⟨plan, hplan, lane, hlane, f, rfl⟩
  · rintro ⟨plan, hplan, lane, hlane, f, rfl⟩
    exact ⟨plan, hplan, lane, hlane, f, mem_families f, rfl⟩

theorem isRemoval_rollbackSteps {plans : List KernelPlan} {step : RoutingStep}
    (h : step ∈ rollbackSteps plans) : step.isRemoval = true := by
  rcases List.mem_append.1 h with h | h
  · obtain ⟨_, -, _, -, _, rfl⟩ := mem_rollbackRuleOrder.1 h
    rfl
  · obtain ⟨_, -, _, -, _, rfl⟩ := mem_rollbackTableOrder.1 h
    rfl

theorem repeatable_rollbackSteps (plans : List KernelPlan) :
    Repeatable applyRoutingStep (rollbackSteps plans) :=
  repeatable_removals fun _ => isRemoval_rollbackSteps

/-- Everything the kernel holds belongs to one of these plans. -/
structure RoutingOwnership.Within (plans : List KernelPlan) (s : RoutingOwnership) : Prop where
  routes : ∀ r ∈ s.routes, ∃ plan ∈ plans, ∃ lane ∈ plan.lanes, lane.table = r.table
  rules : ∀ r ∈ s.rules, ∃ plan ∈ plans, ∃ lane ∈ plan.lanes, ∃ f, r = laneRule lane f

/-- A whole rollback leaves nothing. -/
theorem run_rollbackSteps {plans : List KernelPlan} {s : RoutingOwnership} (h : s.Within plans) :
    runSteps s (rollbackSteps plans) = .empty := by
  apply RoutingOwnership.ext_mem
  · intro r
    rw [mem_routes_removals fun _ => isRemoval_rollbackSteps]
    simp only [RoutingOwnership.empty_routes, Finset.notMem_empty, iff_false, not_and, not_not]
    intro hr
    obtain ⟨plan, hplan, lane, hlane, htable⟩ := h.routes r hr
    refine ⟨.flushTable r.family lane.table, List.mem_append.2 (Or.inr ?_), rfl, htable.symm⟩
    exact mem_rollbackTableOrder.2 ⟨plan, hplan, lane, hlane, r.family, rfl⟩
  · intro r
    rw [mem_rules_removals fun _ => isRemoval_rollbackSteps]
    simp only [RoutingOwnership.empty_rules, Finset.notMem_empty, iff_false, not_and, not_not]
    intro hr
    obtain ⟨plan, hplan, lane, hlane, f, rfl⟩ := h.rules r hr
    refine ⟨.deleteRule f lane.rulePriority lane.table lane.mark,
      List.mem_append.2 (Or.inl ?_), rfl⟩
    exact mem_rollbackRuleOrder.2 ⟨plan, hplan, lane, hlane, f, rfl⟩

namespace RoutingOwnership.Within

variable {plans : List KernelPlan} {s : RoutingOwnership}

theorem empty : RoutingOwnership.empty.Within plans := ⟨by simp, by simp⟩

/-- Removals take nothing in. -/
theorem removal (h : s.Within plans) {step : RoutingStep} (hstep : step.isRemoval = true) :
    (applyRoutingStep s step).Within plans where
  routes r hr := h.routes r ((mem_routes_removal hstep).1 hr).1
  rules r hr := h.rules r ((mem_rules_removal hstep).1 hr).1

/-- A replaced route belongs to a lane of a plan. -/
theorem replaceRoute (h : s.Within plans) {plan : KernelPlan} (hplan : plan ∈ plans)
    {lane : LanePlan} (hlane : lane ∈ plan.lanes) (f : IpFamily) (route : OwnedRoute) :
    (applyRoutingStep s (.replaceRoute f lane.table route)).Within plans where
  routes r hr := by
    rcases mem_routes_replace.1 hr with rfl | ⟨hr, -⟩
    · exact ⟨plan, hplan, lane, hlane, by simp⟩
    · exact h.routes r hr
  rules := h.rules

/-- A transition takes in only what belongs to its next plan. -/
theorem transition (h : s.Within plans) {previous : Option KernelPlan} {next : KernelPlan}
    (hnext : next ∈ plans) {step : RoutingStep} (hstep : step ∈ transitionSteps previous next) :
    (applyRoutingStep s step).Within plans := by
  rcases List.mem_append.1 hstep with hstep | hstep
  · simp only [transitionRouteSteps, List.mem_flatMap, laneRouteSteps, List.mem_append,
      Option.mem_toList, Option.map_eq_some_iff, List.mem_singleton] at hstep
    obtain ⟨lane, hlane, f, -, (hopen | ⟨route, -, rfl⟩) | rfl⟩ := hstep
    · split at hopen
      · obtain rfl := List.mem_singleton.1 hopen
        exact h.removal rfl
      · cases hopen
    · exact h.replaceRoute hnext hlane f route
    · exact h.replaceRoute hnext hlane f .terminal
  · obtain ⟨lane, hlane, f, rfl⟩ := mem_installRules.1 (List.mem_of_mem_filter hstep)
    rw [applyRoutingStep_ruleStep]
    refine ⟨h.routes, ?_⟩
    intro r hr
    rcases Finset.mem_insert.1 hr with rfl | hr
    · exact ⟨next, hnext, lane, hlane, f, rfl⟩
    · exact h.rules r hr

/-- What a plan owns belongs to it. -/
theorem plan {plan : KernelPlan} (hplan : plan ∈ plans) :
    (planRoutingOwnership plan).Within plans := by
  have hkeep : ∀ step ∈ installSteps plan, ∀ s : RoutingOwnership, s.Within plans →
      (applyRoutingStep s step).Within plans := fun _ hstep _ h => h.transition hplan hstep
  exact run_invariant applyRoutingStep hkeep empty

end RoutingOwnership.Within

/-! ## The states of a phase -/

/-- The routing states a transition passes through while the table shows a phase. -/
def phaseStates (active : Option KernelPlan) (pending : KernelPlan) :
    PendingNftPhase → List RoutingOwnership
  | .untouched => [startingRouting active]
  | .guard | .guardlessTransaction =>
    states applyRoutingStep (startingRouting active) (transitionSteps active pending)
  | .activated =>
    states applyRoutingStep (runSteps (startingRouting active) (transitionSteps active pending))
      (retireActive active pending)
  | .committed =>
    planRoutingOwnership pending :: states applyRoutingStep
      (runSteps (startingRouting active) (transitionSteps active pending))
      (retireActive active pending)
  | .rollbackAbsent => buildAbsentRollbackStates active

/-- A rollback begun in a state of the phase, and broken off, leads here. -/
def RollsBackTo (active : Option KernelPlan) (pending : KernelPlan) (phase : PendingNftPhase)
    (live : RoutingOwnership) : Prop :=
  ∃ start ∈ phaseStates active pending phase, ∃ pre,
    pre <+: rollbackSteps (rollbackPlans active pending) ∧ live = runSteps start pre

/-- The routing states the journal check accepts in a phase. -/
def CrashRouting (active : Option KernelPlan) (pending : KernelPlan) (phase : PendingNftPhase)
    (live : RoutingOwnership) : Prop :=
  if phase = .rollbackAbsent then live ∈ buildAbsentRollbackStates active
  else RollsBackTo active pending phase live

section Reachable

variable {active : Option KernelPlan} {pending : KernelPlan}
  (hactive : ∀ plan ∈ active, (plan.lanes.map LanePlan.table).Nodup)
  (hpending : (pending.lanes.map LanePlan.table).Nodup)

include hactive hpending

/-- The forward path ends with what the pending plan owns, and nothing else. -/
theorem run_forward :
    runSteps (runSteps (startingRouting active) (transitionSteps active pending))
      (retireActive active pending) = planRoutingOwnership pending := by
  cases active with
  | none => rfl
  | some plan =>
    have h := run_transition_retire (hactive plan rfl) hpending
    rwa [runSteps, run_append] at h

theorem buildForwardRoutingStates_activated :
    buildForwardRoutingStates active pending .activated =
      .ok (phaseStates active pending .activated) := by
  simp [buildForwardRoutingStates, run_forward hactive hpending, phaseStates]

theorem buildForwardRoutingStates_committed :
    buildForwardRoutingStates active pending .committed = .ok [planRoutingOwnership pending] := by
  simp [buildForwardRoutingStates, run_forward hactive hpending]

omit hactive hpending in
theorem anyReaches_eq_true {starting : List RoutingOwnership} {live : RoutingOwnership} :
    anyReaches starting active pending live = true ↔ ∃ start ∈ starting, ∃ pre,
      pre <+: rollbackSteps (rollbackPlans active pending) ∧ live = runSteps start pre := by
  rw [anyReaches, List.any_eq_true]
  have hstate : ∀ state, (state == live || rollbackPrefixReaches state active pending live) = true ↔
      ∃ pre, pre <+: rollbackSteps (rollbackPlans active pending) ∧ live = runSteps state pre := by
    intro state
    rw [Bool.or_eq_true, beq_iff_eq, rollbackPrefixReaches, eq_or_changesTo]
  simp only [hstate]

/-- The check accepts the crash states of a phase and no others. -/
theorem routingStateReachableForPhase_eq_ok {phase : PendingNftPhase} {live : RoutingOwnership} :
    routingStateReachableForPhase live active pending phase = .ok true ↔
      CrashRouting active pending phase live := by
  cases phase with
  | rollbackAbsent =>
    simp [routingStateReachableForPhase, CrashRouting]
  | committed =>
    have hsplit : RollsBackTo active pending .committed live ↔
        anyReaches [planRoutingOwnership pending] active pending live = true ∨
          anyReaches (phaseStates active pending .activated) active pending live = true := by
      rw [anyReaches_eq_true, anyReaches_eq_true]
      simp only [RollsBackTo, phaseStates, List.mem_cons, exists_eq_or_imp, List.not_mem_nil,
        or_false, exists_eq_left]
    rw [CrashRouting, if_neg (by decide), hsplit, routingStateReachableForPhase,
      buildForwardRoutingStates_committed hactive hpending,
      buildForwardRoutingStates_activated hactive hpending]
    cases h : anyReaches [planRoutingOwnership pending] active pending live with
    | true => simp [h, bind, Except.bind, pure, Except.pure]
    | false => simp [h, bind, Except.bind, pure, Except.pure]
  | activated =>
    rw [CrashRouting, if_neg (by decide), RollsBackTo, ← anyReaches_eq_true]
    simp only [routingStateReachableForPhase,
      buildForwardRoutingStates_activated hactive hpending, bind, Except.bind, pure, Except.pure,
      Except.ok.injEq]
  | guard | guardlessTransaction | untouched =>
    rw [CrashRouting, if_neg (by decide), RollsBackTo, ← anyReaches_eq_true]
    simp only [routingStateReachableForPhase, buildForwardRoutingStates, bind, Except.bind, pure,
      Except.pure, Except.ok.injEq, phaseStates]

end Reachable

/-! ## Closure -/

section Closure

variable {active : Option KernelPlan} {pending : KernelPlan} {phase : PendingNftPhase}
  {live : RoutingOwnership}

/-- A state of a phase is a crash state of it. -/
theorem RollsBackTo.of_mem (h : live ∈ phaseStates active pending phase) :
    RollsBackTo active pending phase live :=
  ⟨live, h, [], List.nil_prefix, rfl⟩

/-- A rollback can be broken off again. -/
theorem RollsBackTo.stopped (h : RollsBackTo active pending phase live)
    {pre : List RoutingStep} (hpre : pre <+: rollbackSteps (rollbackPlans active pending)) :
    RollsBackTo active pending phase (runSteps live pre) := by
  obtain ⟨start, hstart, before, hbefore, rfl⟩ := h
  obtain ⟨longer, hlonger, heq⟩ := (repeatable_rollbackSteps _).run_run_stopped hbefore hpre start
  exact ⟨start, hstart, longer, hlonger, heq⟩

/-- The states of every phase belong to the two plans. -/
theorem within_phaseStates (h : live ∈ phaseStates active pending phase) :
    live.Within (rollbackPlans active pending) := by
  have hpending : pending ∈ rollbackPlans active pending := by simp [rollbackPlans]
  have hstart : (startingRouting active).Within (rollbackPlans active pending) := by
    cases active with
    | none => exact .empty
    | some plan => exact .plan (by simp [rollbackPlans])
  have htransition : ∀ pre, pre <+: transitionSteps active pending →
      (runSteps (startingRouting active) pre).Within (rollbackPlans active pending) := by
    intro pre hpre
    exact run_invariant applyRoutingStep
      (fun step hstep s hs => hs.transition hpending (hpre.subset hstep)) hstart
  have hactivated : ∀ pre, pre <+: retireActive active pending →
      (runSteps (runSteps (startingRouting active) (transitionSteps active pending)) pre).Within
        (rollbackPlans active pending) := by
    intro pre hpre
    refine run_invariant applyRoutingStep (fun step hstep s hs => ?_)
      (htransition _ (List.prefix_refl _))
    cases active with
    | none => exact absurd (hpre.subset hstep) List.not_mem_nil
    | some plan => exact hs.removal (isRemoval_retireSteps (hpre.subset hstep))
  cases phase with
  | untouched =>
    obtain rfl := List.mem_singleton.1 h
    exact hstart
  | guard | guardlessTransaction =>
    obtain ⟨pre, hpre, rfl⟩ := (mem_states _).1 h
    exact htransition pre hpre
  | activated =>
    obtain ⟨pre, hpre, rfl⟩ := (mem_states _).1 h
    exact hactivated pre hpre
  | committed =>
    rcases List.mem_cons.1 h with rfl | h
    · exact .plan hpending
    · obtain ⟨pre, hpre, rfl⟩ := (mem_states _).1 h
      exact hactivated pre hpre
  | rollbackAbsent =>
    cases active with
    | none =>
      obtain rfl := List.mem_singleton.1 h
      exact .empty
    | some plan =>
      obtain ⟨pre, hpre, rfl⟩ := (mem_states _).1 h
      exact run_invariant applyRoutingStep (fun step hstep s hs =>
        hs.transition (by simp [rollbackPlans]) (hpre.subset hstep)) .empty

/-- A rollback that runs to its end leaves nothing, wherever it was begun or broken off. -/
theorem RollsBackTo.run_all (h : RollsBackTo active pending phase live) :
    runSteps live (rollbackSteps (rollbackPlans active pending)) = .empty := by
  obtain ⟨start, hstart, pre, hpre, rfl⟩ := h
  rw [runSteps, (repeatable_rollbackSteps _).run_prefix_run hpre]
  exact run_rollbackSteps (within_phaseStates hstart)

theorem RollsBackTo.mono {phase' : PendingNftPhase} (h : RollsBackTo active pending phase live)
    (hsub : phaseStates active pending phase ⊆ phaseStates active pending phase') :
    RollsBackTo active pending phase' live := by
  obtain ⟨start, hstart, rest⟩ := h
  exact ⟨start, hsub hstart, rest⟩

end Closure

end RouteLane
