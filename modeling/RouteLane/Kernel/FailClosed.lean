import RouteLane.Lib.Watch
import RouteLane.Kernel.CrashSafety

/-!
# Fail-closed transitions

From the guard on, a transition that goes through always has the guard or a complete
policy in the table: the table is only ever replaced as a whole.  A rollback is not like
that.  It deletes the table, guard and all, and only then brings the active plan back.
-/

namespace RouteLane

open Nft Faults Program Steps

/-- The guard is installed. -/
def Guarded (kernel : KernelState) : Bool := decide (.guard ∈ chainNames (kernel.nft.getD []))

/-- Every chain that puts a plan in force, with all its rules. -/
def CompletePolicy (plan : KernelPlan) (document : Document) : Prop :=
  ∀ chain ∈ policyChains plan, chain.object ∈ document ∧ ∀ o ∈ chain.ruleObjects, o ∈ document

instance (plan : KernelPlan) (document : Document) : Decidable (CompletePolicy plan document) :=
  inferInstanceAs (Decidable (∀ chain ∈ policyChains plan, _))

/-- The table holds the guard, or a complete policy of the active or the pending plan. -/
def Protected (active pending : KernelPlan) (kernel : KernelState) : Prop :=
  Guarded kernel = true ∨ CompletePolicy active (kernel.nft.getD []) ∨
    CompletePolicy pending (kernel.nft.getD [])

instance (active pending : KernelPlan) (kernel : KernelState) :
    Decidable (Protected active pending kernel) := by
  unfold Protected
  infer_instance

/-- The events of a run from the guard's installation on. -/
def fromGuard (events : List (Event KernelState)) : List (Event KernelState) :=
  events.dropWhile fun e => !Guarded e.state

/-- Transitions are watched from the guard on. -/
def guardWatch (active pending : KernelPlan) : Watch KernelState := ⟨Guarded, Protected active pending⟩

variable {blake3 : Blake3} {active pending : KernelPlan} {lost : LostUnicast}

/-! ## Protected tables -/

theorem guarded_render {current next : Option KernelPlan} {guard : Bool}
    {routing : RoutingOwnership} :
    Guarded ⟨some (renderNftDocument blake3 current next guard), routing⟩ = guard := by
  have hguard := guard_mem_chainNames blake3 current next guard
  cases guard with
  | true => exact decide_eq_true (hguard.2 rfl)
  | false => exact decide_eq_false fun h => Bool.false_ne_true (hguard.1 h)

theorem protected_guard {current next : Option KernelPlan} {routing : RoutingOwnership} :
    Protected active pending ⟨some (renderNftDocument blake3 current next true), routing⟩ :=
  Or.inl guarded_render

/-- A document of a plan has all of its policy. -/
theorem completePolicy_render {plan : KernelPlan} {next : Option KernelPlan} {guard : Bool} :
    CompletePolicy plan (renderNftDocument blake3 (some plan) next guard) := by
  intro chain hchain
  have hmem : chain ∈ renderChains blake3 (some plan) next guard := by
    simp [renderChains, hchain]
  refine ⟨?_, fun o ho => ?_⟩
  · exact List.mem_append_left _ (List.mem_append_right _ (List.mem_map_of_mem hmem))
  · exact List.mem_append_right _ (List.mem_flatMap.2 ⟨chain, hmem, ho⟩)

theorem protected_committed {routing : RoutingOwnership} :
    Protected active pending ⟨some (renderNftDocument blake3 (some pending) none false), routing⟩ :=
  Or.inr (Or.inr completePolicy_render)

/-- Without a table nothing is protected. -/
theorem not_protected_absent {routing : RoutingOwnership} :
    ¬ Protected active pending ⟨none, routing⟩ := by
  have hpolicy : ∀ plan, ¬ CompletePolicy plan [] := by
    intro plan hcomplete
    have houtput : outputChain plan ∈ policyChains plan := by simp [policyChains]
    exact List.not_mem_nil (hcomplete _ houtput).1
  rintro (hguard | hactive | hpending)
  · cases hguard
  · exact hpolicy active hactive
  · exact hpolicy pending hpending

/-! ## Programs that give up -/

theorem captureSnapshot_abortive : Abortive captureSnapshot := by
  refine Abortive.bind (Abortive.forEach fun _ _ => Abortive.inspect) fun _ => ?_
  exact Abortive.inspect

theorem liveFamilyOwnership_abortive (f : IpFamily) : Abortive (liveFamilyOwnership f) := by
  refine Abortive.bind Abortive.inspect fun _ => ?_
  exact Abortive.bind Abortive.inspect fun _ => Abortive.pure

theorem stepPresent_abortive (step : RoutingStep) : Abortive (stepPresent step) := by
  cases step with
  | deleteRoute => exact Abortive.bind (liveFamilyOwnership_abortive _) fun _ => Abortive.pure
  | deleteRule => exact Abortive.bind (liveFamilyOwnership_abortive _) fun _ => Abortive.pure
  | flushTable => exact Abortive.inspect
  | replaceRoute => exact Abortive.pure
  | addRule => exact Abortive.pure

theorem runRoutingStep_abortive (context : String) (step : RoutingStep) :
    Abortive (runRoutingStep context step) := by
  refine Abortive.bind (stepPresent_abortive step) fun present => ?_
  cases present with
  | true =>
    rw [if_pos rfl]
    exact Abortive.command
  | false =>
    rw [if_neg Bool.false_ne_true]
    exact Abortive.pure

theorem prepareRoutes_abortive (next : KernelPlan) : Abortive (prepareRoutes next) :=
  Abortive.bind Abortive.get fun _ => Abortive.forEach fun step _ => runRoutingStep_abortive _ step

theorem activateNft_abortive (next : KernelPlan) : Abortive (activateNft blake3 next) :=
  Abortive.bind Abortive.command fun _ => Abortive.modify

theorem verifyPlan_abortive (plan : KernelPlan) : Abortive (verifyPlan blake3 plan) := by
  refine Abortive.bind captureSnapshot_abortive fun captured => ?_
  cases capturedPlanPresent captured plan with
  | false =>
    rw [if_neg Bool.false_ne_true]
    exact Abortive.fail
  | true =>
    rw [if_pos rfl]
    refine Abortive.bind Abortive.inspect fun table => ?_
    by_cases hmarker : stateChainName blake3 plan ∈ chainNames (table.getD [])
    · rw [if_pos hmarker]
      exact Abortive.pure
    · rw [if_neg hmarker]
      exact Abortive.fail

theorem removeGeneration_abortive (generation : ℕ) : Abortive (removeGeneration generation) := by
  refine Abortive.bind Abortive.get fun m => ?_
  split
  · exact Abortive.fail
  · exact Abortive.fail
  · exact Abortive.forEach fun step _ => runRoutingStep_abortive _ step

theorem removeGuard_abortive : Abortive removeGuard := by
  refine Abortive.bind Abortive.get fun m => ?_
  cases m.guardInstalled with
  | true =>
    rw [if_pos rfl]
    exact Abortive.bind Abortive.command fun _ => Abortive.modify
  | false =>
    rw [if_neg Bool.false_ne_true]
    exact Abortive.pure

theorem liveNftFingerprint_abortive : Abortive (liveNftFingerprint blake3) := by
  refine Abortive.bind Abortive.inspect fun table => ?_
  cases table with
  | some _ => exact Abortive.pure
  | none => exact Abortive.fail

/-! ## Rollbacks -/

/-- What a stage that fails leaves: there is a table, and the runner knows it. -/
def StageFailed (r : Regime KernelState) (kernel : KernelState) (m : CommandKernelRunner) : Prop :=
  kernel.nft.isSome = true ∧ m.tablePresent = true ∧ r.known ⟨kernel, true⟩

/-- A rollback in which nothing fails deletes the table. -/
theorem clearForRollback_strikes {kernel : KernelState} {m : CommandKernelRunner}
    (htable : kernel.nft.isSome = true) (hpresent : m.tablePresent = true) :
    Strikes (guardWatch active pending) kernel m clearForRollback := by
  have hfine : ∀ k, (⟨True, fun e => e.failed = false ∧ (guardWatch active pending).good e.state,
      fun _ => True⟩ : Regime KernelState).Fine k := fun _ _ _ => trivial
  refine (clearForRollback_ensures (hpresent.trans htable.symm) (fun _ _ => hfine _)
    (hfine _)).conseq ?_ ?_
  · rintro _ k' m' ⟨-, -, hcleared, -⟩
    exact not_protected_absent (hcleared htable).2
  · rintro k' m' ⟨-, -, -, hfailed, -⟩
    cases hfailed

theorem restore_strikes {kernel : KernelState} {m : CommandKernelRunner}
    (htable : kernel.nft.isSome = true) (hpresent : m.tablePresent = true)
    (current : Option KernelPlan) :
    Strikes (guardWatch active pending) kernel m (restore blake3 current) := by
  cases current with
  | none => exact clearForRollback_strikes htable hpresent
  | some plan =>
    refine Ensures.bind (clearForRollback_strikes htable hpresent) ?_
    rintro _ _ _ ⟨⟩

theorem undoCommitted_strikes {kernel : KernelState} {m : CommandKernelRunner}
    (htable : kernel.nft.isSome = true) (hpresent : m.tablePresent = true)
    (current : Option KernelPlan) (error : Option RunnerError → TransitionError) :
    Strikes (guardWatch active pending) kernel m (undoCommitted blake3 current error) := by
  refine Ensures.bind (Ensures.attempt (restore_strikes htable hpresent current)) ?_
  intro result _ _ hfalse
  cases result <;> exact hfalse.elim

/-! ## Stages under the guard -/

section Stages

variable {r : Regime KernelState} (hfine : ∀ kernel, Protected active pending kernel → r.Fine kernel)

include hfine

/-- The runner steps through a list in front of a protected table. -/
theorem routingSteps_protected {document : Document}
    (hdocument : ∀ routing, Protected active pending ⟨some document, routing⟩)
    {start : RoutingOwnership} {steps : List RoutingStep} {context : String} :
    Ensures r ⟨some document, start⟩ (guardedRunner (some active) lost pending)
      (forEach (runRoutingStep context) steps)
      (fun _ k' m' => k' = ⟨some document, runSteps start steps⟩ ∧
        m' = guardedRunner (some active) lost pending) (StageFailed r) := by
  refine (forEach_performs (fun step _ => runRoutingStep_performs _ step) ?_).conseq ?_ ?_
  · intro pre _
    exact hfine _ (hdocument _)
  · rintro _ k' m' ⟨rfl, rfl, -⟩
    exact ⟨rfl, rfl⟩
  · rintro k' m' ⟨⟨pre, -, rfl⟩, rfl, -, hknown⟩
    exact ⟨rfl, rfl, hknown⟩

theorem prepareRoutes_protected :
    Ensures r ⟨some (renderNftDocument blake3 (some active) (some pending) true),
        planRoutingOwnership (routingBasis lost active)⟩ (guardedRunner (some active) lost pending)
      (prepareRoutes pending)
      (fun _ k' m' => k' = ⟨some (renderNftDocument blake3 (some active) (some pending) true),
          preparedRouting (some active) lost pending⟩ ∧
        m' = guardedRunner (some active) lost pending) (StageFailed r) := by
  refine Ensures.bind (Ensures.get (Q := fun a k' m' =>
    a = guardedRunner (some active) lost pending ∧
    k' = ⟨some (renderNftDocument blake3 (some active) (some pending) true),
      planRoutingOwnership (routingBasis lost active)⟩ ∧
    m' = guardedRunner (some active) lost pending) ⟨rfl, rfl, rfl⟩) ?_
  rintro _ _ _ ⟨rfl, rfl, rfl⟩
  exact routingSteps_protected hfine fun _ => protected_guard

theorem activateNft_protected {routing : RoutingOwnership} :
    Ensures r ⟨some (renderNftDocument blake3 (some active) (some pending) true), routing⟩
      (guardedRunner (some active) lost pending) (activateNft blake3 pending)
      (fun _ k' m' => k' = ⟨some (renderNftDocument blake3 (some pending) none true), routing⟩ ∧
        m' = guardedRunner (some active) lost pending) (StageFailed r) := by
  have hbatch : (NftBatch.table .replace (renderNftDocument blake3 (some pending) none true)).apply
      ⟨some (renderNftDocument blake3 (some active) (some pending) true), routing⟩ =
      some ⟨some (renderNftDocument blake3 (some pending) none true), routing⟩ := rfl
  refine Ensures.bind ((runNftBatch_ensures hbatch (hfine _ protected_guard)
    (hfine _ protected_guard)).conseq (fun _ _ _ hpost => hpost) ?_) ?_
  · rintro k' m' ⟨rfl, rfl, -, hknown⟩
    exact ⟨rfl, rfl, hknown⟩
  · rintro _ k' m' ⟨rfl, rfl, -⟩
    apply Ensures.modify
    exact ⟨rfl, rfl⟩

omit hfine in
/-- The prepared kernel has everything of the pending plan. -/
theorem planVerified_prepared (hpending : (pending.lanes.map LanePlan.table).Nodup) :
    PlanVerified blake3 ⟨some (renderNftDocument blake3 (some pending) none true),
      preparedRouting (some active) lost pending⟩ pending pending := by
  constructor
  · have hroutes : (planRoutingOwnership pending).routes ⊆
        (preparedRouting (some active) lost pending).routes := by
      intro route hroute
      obtain ⟨lane, hlane, hsettled⟩ := (mem_routes_plan hpending).1 hroute
      rw [preparedRouting, mem_routes_transition hpending, hlane]
      exact hsettled.mono False.elim
    have hrules : (planRoutingOwnership pending).rules ⊆
        (preparedRouting (some active) lost pending).rules := by
      intro rule hrule
      obtain ⟨lane, hlane, f, rfl⟩ := mem_rules_plan.1 hrule
      rw [preparedRouting, mem_rules_transition]
      by_cases hold : ruleStep lane f ∈ previousRules ((some active).map (routingBasis lost))
      · obtain ⟨lane', hlane', f', heq⟩ := mem_installRules.1 hold
        rw [ruleStep_eq_iff.1 heq]
        exact Or.inl (mem_rules_plan.2 ⟨lane', hlane', f', rfl⟩)
      · exact Or.inr ⟨lane, hlane, f, hold, rfl⟩
    rw [capturedPlanPresent, Bool.and_eq_true, decide_eq_true_eq]
    exact ⟨rfl, hroutes, hrules⟩
  · have hchain : Chain.regular (stateChainName blake3 pending) [] ∈
        renderChains blake3 (some pending) none true := by
      simp [renderChains]
    exact mem_chainNames_render blake3 (some pending) none true hchain rfl

theorem verifyPlan_protected (hpending : (pending.lanes.map LanePlan.table).Nodup) :
    Ensures r ⟨some (renderNftDocument blake3 (some pending) none true),
        preparedRouting (some active) lost pending⟩ (guardedRunner (some active) lost pending)
      (verifyPlan blake3 pending)
      (fun _ k' m' => k' = ⟨some (renderNftDocument blake3 (some pending) none true),
          preparedRouting (some active) lost pending⟩ ∧
        m' = guardedRunner (some active) lost pending) (StageFailed r) := by
  refine (verifyPlanBasis_ensures (hfine _ protected_guard)).conseq (fun _ _ _ hpost => hpost) ?_
  rintro k' m' ⟨rfl, rfl, ⟨-, hknown⟩ | hnot⟩
  · exact ⟨rfl, rfl, hknown⟩
  · exact absurd (planVerified_prepared hpending) hnot

theorem removeGeneration_protected {routing : RoutingOwnership} :
    Ensures r ⟨some (renderNftDocument blake3 (some pending) none true), routing⟩
      (guardedRunner (some active) lost pending) (removeGeneration active.generation)
      (fun _ k' m' => k' = ⟨some (renderNftDocument blake3 (some pending) none true),
          runSteps routing (retireSteps (routingBasis lost active) pending)⟩ ∧
        m' = guardedRunner (some active) lost pending) (StageFailed r) := by
  refine Ensures.bind (Ensures.get (Q := fun a k' m' =>
    a = guardedRunner (some active) lost pending ∧
    k' = ⟨some (renderNftDocument blake3 (some pending) none true), routing⟩ ∧
    m' = guardedRunner (some active) lost pending) ⟨rfl, rfl, rfl⟩) ?_
  rintro _ _ _ ⟨rfl, rfl, rfl⟩
  have hprevious : (guardedRunner (some active) lost pending).previous.filter
      (fun other => other.generation = active.generation) = some active := by
    simp [guardedRunner, Option.filter]
  rw [hprevious]
  exact routingSteps_protected hfine fun _ => protected_guard

theorem removeGuard_protected :
    Ensures r ⟨some (renderNftDocument blake3 (some pending) none true),
        planRoutingOwnership pending⟩ (guardedRunner (some active) lost pending) removeGuard
      (fun _ k' m' => k' = committedKernel blake3 pending ∧
        m' = { guardedRunner (some active) lost pending with guardInstalled := false })
      (StageFailed r) := by
  refine Ensures.bind (Ensures.get (Q := fun a k' m' =>
    a = guardedRunner (some active) lost pending ∧
    k' = ⟨some (renderNftDocument blake3 (some pending) none true), planRoutingOwnership pending⟩ ∧
    m' = guardedRunner (some active) lost pending) ⟨rfl, rfl, rfl⟩) ?_
  rintro _ _ _ ⟨rfl, rfl, rfl⟩
  refine Ensures.bind ((runNftBatch_ensures deleteGuard_apply (hfine _ protected_guard)
    (hfine _ protected_committed)).conseq (fun _ _ _ hpost => hpost) ?_) ?_
  · rintro k' m' ⟨rfl, rfl, -, hknown⟩
    exact ⟨rfl, rfl, hknown⟩
  · rintro _ k' m' ⟨rfl, rfl, -⟩
    apply Ensures.modify
    exact ⟨rfl, rfl⟩

end Stages

/-! ## Transitions -/

/-- What a watched program ends in: it has succeeded, in this kernel and memory. -/
def EndsIn {ε : Type} (Q : KernelState → CommandKernelRunner → Prop) (begun : Bool)
    (result : Except ε Unit) (kernel : KernelState) (m : CommandKernelRunner) : Prop :=
  begun = true ∧ result = .ok () ∧ Q kernel m

section Exposure

variable {Q : KernelState → CommandKernelRunner → Prop} {kernel : KernelState}
  {m : CommandKernelRunner}

theorem fine_unfailed (h : Protected active pending kernel) :
    (guardWatch active pending).unfailed.Fine kernel := fun _ _ => h

/-- A stage that fails exposes the kernel. -/
theorem runMutatingStage_exposes {current : Option KernelPlan} {stage : ApplyStage}
    {action : Runner Unit} (hgivesUp : Abortive action)
    (hstage : ∀ r : Regime KernelState, (∀ k, Protected active pending k → r.Fine k) →
      Ensures r kernel m action (fun _ => Q) (StageFailed r)) :
    Exposes (guardWatch active pending) true kernel m
      (runMutatingStage blake3 current stage action) (EndsIn Q) := by
  refine Exposes.attempt_bind hgivesUp ?_ ?_ ?_ ?_ (Q := fun _ => Q)
    (E := StageFailed (always fun _ => True))
  · refine (hstage _ fun _ => fine_unfailed).conseq (fun _ _ _ hpost => hpost) ?_
    rintro k' m' ⟨-, -, hfailed⟩
    cases hfailed
  · exact (hstage _ fun _ _ _ _ => trivial).conseq (fun _ _ _ _ => trivial) fun _ _ hpost => hpost
  · rintro primary k' m' ⟨htable, hpresent, -⟩
    refine Ensures.bind (Ensures.attempt (restore_strikes htable hpresent current)) ?_
    intro result _ _ hfalse
    cases result <;> exact hfalse.elim
  · rintro ⟨⟩ k' m' hpost
    exact Exposes.pure ⟨rfl, rfl, hpost⟩

/-- Stages of a transition follow one another. -/
theorem EndsIn.bind {ε : Type} {p : Program KernelState CommandKernelRunner ε Unit}
    {f : Unit → Program KernelState CommandKernelRunner ε Unit}
    {R : KernelState → CommandKernelRunner → Prop} {begun : Bool}
    (hp : Exposes (guardWatch active pending) begun kernel m p (EndsIn Q))
    (hf : ∀ k' m', Q k' m' → Exposes (guardWatch active pending) true k' m' (f ()) (EndsIn R)) :
    Exposes (guardWatch active pending) begun kernel m (p >>= f) (EndsIn R) := by
  refine Exposes.bind hp ?_ ?_
  · rintro _ ⟨⟩ k' m' ⟨rfl, -, hpost⟩
    exact hf k' m' hpost
  · rintro _ _ k' m' ⟨-, hok, -⟩
    cases hok

/-! ### Before the guard -/

/-- The runner of a transition once it has seen the table. -/
def unguardedRunner (active : KernelPlan) (lost : LostUnicast) (pending : KernelPlan) :
    CommandKernelRunner :=
  { guardedRunner (some active) lost pending with guardInstalled := false }

/-- Where a transition is that has not come to its guard. -/
structure Unguarded (active : KernelPlan) (lost : LostUnicast) (kernel : KernelState) : Prop where
  table : kernel.nft.isSome = true
  routing : kernel.routing = planRoutingOwnership (routingBasis lost active)
  guarded : Guarded kernel = false

theorem Unguarded.cleared_eq (h : Unguarded active lost kernel) :
    kernel.cleared (unguardedRunner active lost pending).plans = ⟨none, .empty⟩ := by
  have hwithin : kernel.routing.Within
      (rollbackPlans ((some active).map (routingBasis lost)) pending) := by
    rw [h.routing]
    exact .plan (by simp [rollbackPlans])
  have hempty := run_rollbackSteps hwithin
  rw [rollbackSteps_routingBasis] at hempty
  rw [KernelState.cleared, unguardedRunner, CommandKernelRunner.plans, guardedRunner]
  exact congrArg (KernelState.mk none) hempty

/-- The guard was not installed: the rollback has nothing to uncover. -/
theorem restore_unguarded (h : Unguarded active lost kernel) :
    Ensures (always fun e => Guarded e.state = false) kernel (unguardedRunner active lost pending)
      (restore blake3 (some active)) (fun _ _ m' => m'.guardInstalled = false)
      (fun _ m' => m'.guardInstalled = false) := by
  have hfine : ∀ k : KernelState, Guarded k = false →
      (always fun e : Event KernelState => Guarded e.state = false).Fine k := fun _ hk _ _ => hk
  refine Ensures.bind ((clearForRollback_ensures h.table.symm ?_ ?_).conseq
    (fun _ _ _ hpost => hpost) ?_) ?_
  · intro pre _
    exact hfine _ h.guarded
  · exact hfine _ rfl
  · rintro k' m' ⟨-, rfl, -⟩
    rfl
  · rintro _ k' m' ⟨rfl, rfl, -⟩
    rw [h.cleared_eq]
    refine (reinstall_ensures (fun _ _ => hfine _ rfl) (hfine _ guarded_render)).conseq ?_ ?_
    · rintro _ k' m' ⟨-, rfl⟩
      rfl
    · intro k' m' hm'
      rw [hm']

/-- The first stage ends under the guard, or without ever having had one. -/
theorem installGuard_exposes (h : Unguarded active lost kernel) {m : CommandKernelRunner}
    (hm : m = { CommandKernelRunner.new (some active) lost with tablePresent := true }) :
    Exposes (guardWatch active pending) false kernel m
      (runMutatingStage blake3 (some active) .installGuard (installGuard blake3 pending))
      (fun begun result k' m' => EndsIn (fun k' m' =>
          k' = ⟨some (renderNftDocument blake3 (some active) (some pending) true),
            planRoutingOwnership (routingBasis lost active)⟩ ∧
          m' = guardedRunner (some active) lost pending) begun result k' m' ∨
        begun = false ∧ ∃ e, result = .error e) := by
  subst hm
  have hbatch : (NftBatch.table .replace
      (renderNftDocument blake3 (some active) (some pending) true)).apply kernel =
      some ⟨some (renderNftDocument blake3 (some active) (some pending) true),
        planRoutingOwnership (routingBasis lost active)⟩ := by
    obtain ⟨document, hdocument⟩ := Option.isSome_iff_exists.1 h.table
    rw [← h.routing]
    simp [NftBatch.apply, hdocument]
  have hinstall : Exposes (guardWatch active pending) false kernel
      { CommandKernelRunner.new (some active) lost with tablePresent := true }
      (installGuard blake3 pending) (fun begun result k' m' => EndsIn (fun k' m' =>
          k' = ⟨some (renderNftDocument blake3 (some active) (some pending) true),
            planRoutingOwnership (routingBasis lost active)⟩ ∧
          m' = guardedRunner (some active) lost pending) begun result k' m' ∨
        begun = false ∧ (∃ e, result = .error e) ∧ k' = kernel ∧
          m' = unguardedRunner active lost pending) := by
    refine Exposes.bind (Exposes.modify (Q := fun begun result k' m' => begun = false ∧
      result = .ok () ∧ k' = kernel ∧ m' = unguardedRunner active lost pending)
      ⟨rfl, rfl, rfl, rfl⟩) ?_ ?_
    · rintro _ _ k₁ m₁ ⟨rfl, -, rfl, rfl⟩
      refine Exposes.bind (Exposes.get (Q := fun begun result k' m' => begun = false ∧
        result = .ok (unguardedRunner active lost pending) ∧ k' = k₁ ∧
        m' = unguardedRunner active lost pending) ⟨rfl, rfl, rfl, rfl⟩) ?_ ?_
      · rintro _ _ k₂ m₂ ⟨rfl, hok, rfl, rfl⟩
        obtain rfl := Except.ok.inj hok
        refine Exposes.bind (Exposes.begin hbatch h.guarded guarded_render protected_guard) ?_ ?_
        · rintro _ _ k₃ m₃ ⟨rfl, ⟨rfl, -, rfl⟩ | ⟨-, ⟨_, herror⟩, -⟩⟩
          · exact Exposes.modify (Or.inl ⟨rfl, rfl, rfl, rfl⟩)
          · cases herror
        · rintro _ e k₃ m₃ ⟨rfl, ⟨-, hok, -⟩ | ⟨rfl, -, rfl⟩⟩
          · cases hok
          · exact Or.inr ⟨rfl, ⟨e, rfl⟩, rfl, rfl⟩
      · rintro _ _ _ _ ⟨-, hok, -⟩
        cases hok
    · rintro _ _ _ _ ⟨-, hok, -⟩
      cases hok
  refine Exposes.bind (Exposes.attempt (Q := fun begun result k' m' => ∃ attempted,
    result = .ok attempted ∧ (EndsIn (fun k' m' =>
        k' = ⟨some (renderNftDocument blake3 (some active) (some pending) true),
          planRoutingOwnership (routingBasis lost active)⟩ ∧
        m' = guardedRunner (some active) lost pending) begun attempted k' m' ∨
      begun = false ∧ (∃ e, attempted = .error e) ∧ k' = kernel ∧
        m' = unguardedRunner active lost pending))
    (hinstall.conseq fun _ _ _ _ hpost => ⟨_, rfl, hpost⟩)) ?_ ?_
  · rintro begun result k' m' ⟨_, heq, hpost⟩
    obtain rfl := Except.ok.inj heq
    rcases hpost with ⟨rfl, rfl, hpost⟩ | ⟨rfl, ⟨e, rfl⟩, rfl, rfl⟩
    · exact Exposes.pure (Or.inl ⟨rfl, rfl, hpost⟩)
    · have hrecover : Ensures (always fun e => Guarded e.state = false) k'
          (unguardedRunner active lost pending) (do
            let rollback ← attempt (restore blake3 (some active))
            let cleanup ← attempt removeGuard
            fail (.mutation .installGuard e (errorOf rollback) (errorOf cleanup)) :
              Transition Unit) (fun _ _ _ => False) (fun _ _ => True) := by
        refine Ensures.bind (Ensures.attempt (restore_unguarded h)) ?_
        intro rollback k₁ m₁ hrollback
        have hguard : m₁.guardInstalled = false := by
          cases rollback <;> exact hrollback
        refine Ensures.bind (Ensures.attempt (Q := fun _ _ _ => True) (E := fun _ _ => True) ?_) ?_
        · refine Ensures.bind (Ensures.get (Q := fun a k' m' => a = m₁) rfl) ?_
          rintro _ k₂ m₂ rfl
          rw [hguard, if_neg Bool.false_ne_true]
          exact Ensures.pure trivial
        · intro _ _ _ _
          exact Ensures.fail trivial
      refine (Exposes.unwatched hrecover).conseq ?_
      rintro begun result _ _ ⟨rfl, hresult⟩
      cases result with
      | ok => exact hresult.elim
      | error e => exact Or.inr ⟨rfl, e, rfl⟩
  · rintro _ _ _ _ ⟨_, heq, -⟩
    cases heq

/-! ### From the guard on -/

/-- The stages after the guard. -/
theorem guardedStages_exposes (hactive : (active.lanes.map LanePlan.table).Nodup)
    (hpending : (pending.lanes.map LanePlan.table).Nodup) :
    Exposes (guardWatch active pending) true
      ⟨some (renderNftDocument blake3 (some active) (some pending) true),
        planRoutingOwnership (routingBasis lost active)⟩ (guardedRunner (some active) lost pending)
      (do
        runMutatingStage blake3 (some active) .prepareRoutes (prepareRoutes pending)
        runMutatingStage blake3 (some active) .activateNft (activateNft blake3 pending)
        runMutatingStage blake3 (some active) .verify (verifyPlan blake3 pending)
        retireCurrent blake3 (some active)
        runMutatingStage blake3 (some active) .removeGuard removeGuard : Transition Unit)
      (EndsIn fun k' m' => k' = committedKernel blake3 pending ∧
        m' = unguardedRunner active lost pending) := by
  refine EndsIn.bind (runMutatingStage_exposes (prepareRoutes_abortive _)
    fun r hfine => prepareRoutes_protected hfine) ?_
  rintro _ _ ⟨rfl, rfl⟩
  refine EndsIn.bind (runMutatingStage_exposes (activateNft_abortive _)
    fun r hfine => activateNft_protected hfine) ?_
  rintro _ _ ⟨rfl, rfl⟩
  refine EndsIn.bind (runMutatingStage_exposes (verifyPlan_abortive _)
    fun r hfine => verifyPlan_protected hfine hpending) ?_
  rintro _ _ ⟨rfl, rfl⟩
  refine EndsIn.bind (runMutatingStage_exposes (removeGeneration_abortive _)
    fun r hfine => removeGeneration_protected hfine) ?_
  rintro _ _ ⟨rfl, rfl⟩
  have hretired : runSteps (preparedRouting (some active) lost pending)
      (retireSteps (routingBasis lost active) pending) = planRoutingOwnership pending := by
    have hbasis : ((routingBasis lost active).lanes.map LanePlan.table).Nodup := by
      rw [tables_routingBasis]
      exact hactive
    rw [preparedRouting, ← run_transition_retire hbasis hpending, runSteps, runSteps, runSteps,
      run_append]
    rfl
  rw [hretired]
  exact runMutatingStage_exposes removeGuard_abortive fun r hfine => removeGuard_protected hfine

/-- How a transition ends before it is recorded: committed, or given up. -/
def TransitionEnds {α ε : Type} (blake3 : Blake3) (active : KernelPlan) (lost : LostUnicast)
    (pending : KernelPlan) (begun : Bool) (result : Except ε α) (kernel : KernelState)
    (m : CommandKernelRunner) : Prop :=
  (begun = true ∧ (∃ a, result = .ok a) ∧ kernel = committedKernel blake3 pending ∧
    m = unguardedRunner active lost pending) ∨ ∃ e, result = .error e

theorem transitionStages_exposes (h : Unguarded active lost kernel)
    (hactive : (active.lanes.map LanePlan.table).Nodup)
    (hpending : (pending.lanes.map LanePlan.table).Nodup) {m : CommandKernelRunner}
    (hm : m = { CommandKernelRunner.new (some active) lost with tablePresent := true }) :
    Exposes (guardWatch active pending) false kernel m
      (transitionStages blake3 (some active) pending)
      (TransitionEnds blake3 active lost pending) := by
  refine Exposes.bind (installGuard_exposes h hm) ?_ ?_
  · rintro _ _ k' m' (⟨rfl, -, rfl, rfl⟩ | ⟨-, _, herror⟩)
    · refine (guardedStages_exposes hactive hpending).conseq ?_
      rintro _ _ _ _ ⟨rfl, rfl, rfl, rfl⟩
      exact Or.inl ⟨rfl, ⟨(), rfl⟩, rfl, rfl⟩
    · cases herror
  · rintro _ e _ _ -
    exact Or.inr ⟨e, rfl⟩

theorem transitionPlan_exposes {conflict : KernelState → Option String}
    (h : Unguarded active lost kernel) (hactive : (active.lanes.map LanePlan.table).Nodup)
    (hpending : (pending.lanes.map LanePlan.table).Nodup) :
    Exposes (guardWatch active pending) false kernel (.new (some active) lost)
      (transitionPlan blake3 conflict (some active) pending)
      (TransitionEnds blake3 active lost pending) := by
  have hfine : (always fun e : Event KernelState => Guarded e.state = false).Fine kernel :=
    fun _ _ => h.guarded
  refine Exposes.bind (Exposes.attempt (Q := fun begun result k' m' => begun = false ∧
    ∃ attempted, result = .ok attempted ∧ match attempted with
      | .ok _ => k' = kernel ∧
          m' = { CommandKernelRunner.new (some active) lost with tablePresent := true }
      | .error _ => True) ?_) ?_ ?_
  · refine (Exposes.unwatched (snapshot_ensures hfine)).conseq ?_
    rintro begun result k' m' ⟨rfl, hresult⟩
    refine ⟨rfl, result, rfl, ?_⟩
    cases result with
    | error => trivial
    | ok captured =>
      obtain ⟨rfl, rfl⟩ := hresult
      rw [h.table]
      exact ⟨rfl, rfl⟩
  · rintro _ attempted k' m' ⟨rfl, _, heq, hattempted⟩
    obtain rfl := Except.ok.inj heq
    cases attempted with
    | error e => exact Exposes.fail (Or.inr ⟨_, rfl⟩)
    | ok captured =>
      obtain ⟨rfl, hm⟩ := hattempted
      cases hconflict : conflict captured with
      | some c =>
        simp only [hconflict]
        exact Exposes.fail (Or.inr ⟨_, rfl⟩)
      | none =>
        simp only [hconflict]
        refine Exposes.bind (transitionStages_exposes h hactive hpending hm) ?_ ?_
        · rintro _ _ k₁ m₁ (⟨rfl, -, hpost⟩ | ⟨_, herror⟩)
          · exact Exposes.pure (Or.inl ⟨rfl, ⟨_, rfl⟩, hpost⟩)
          · cases herror
        · rintro _ e _ _ -
          exact Or.inr ⟨e, rfl⟩
  · rintro _ _ _ _ ⟨-, _, heq, -⟩
    cases heq

theorem applyPlan_exposes {conflict : KernelState → Option String}
    (h : Unguarded active lost kernel) (hactive : (active.lanes.map LanePlan.table).Nodup)
    (hpending : (pending.lanes.map LanePlan.table).Nodup)
    (hgeneration : active.generation ≠ pending.generation) :
    Exposes (guardWatch active pending) false kernel (.new (some active) lost)
      (applyPlan blake3 conflict (some active) pending)
      (TransitionEnds blake3 active lost pending) := by
  simp only [applyPlan, if_neg (Ne.symm hgeneration)]
  split
  · exact Exposes.fail (Or.inr ⟨_, rfl⟩)
  · exact transitionPlan_exposes h hactive hpending

/-! ### Recording the transition -/

/-- Reading the committed table. -/
theorem liveNftFingerprint_protected {r : Regime KernelState}
    (hfine : ∀ k, Protected active pending k → r.Fine k) :
    Ensures r (committedKernel blake3 pending) (unguardedRunner active lost pending)
      (liveNftFingerprint blake3)
      (fun a k' m' => a = nftDocumentFingerprint blake3
          (renderNftDocument blake3 (some pending) none false) ∧
        k' = committedKernel blake3 pending ∧ m' = unguardedRunner active lost pending)
      (StageFailed r) := by
  refine Ensures.bind ((Ensures.read (hfine _ protected_committed)).conseq
    (fun _ _ _ hpost => hpost) ?_) ?_
  · rintro _ _ ⟨rfl, rfl, -, hknown⟩
    exact ⟨rfl, rfl, hknown⟩
  · rintro _ _ _ ⟨rfl, rfl, rfl⟩
    exact Ensures.pure ⟨rfl, rfl, rfl⟩

/-- A step of the commit that fails exposes the kernel. -/
theorem attempt_commit_exposes {α : Type} {p : Runner α}
    {g : Except RunnerError α → Program KernelState CommandKernelRunner TransitionError Unit}
    {Q : α → Prop} (hgivesUp : Abortive p)
    (hp : ∀ r : Regime KernelState, (∀ k, Protected active pending k → r.Fine k) →
      Ensures r (committedKernel blake3 pending) (unguardedRunner active lost pending) p
        (fun a k' m' => Q a ∧ k' = committedKernel blake3 pending ∧
          m' = unguardedRunner active lost pending) (StageFailed r))
    (hundo : ∀ e, ∃ error, g (.error e) = undoCommitted blake3 (some active) error)
    (hrest : ∀ a, Q a → Exposes (guardWatch active pending) true (committedKernel blake3 pending)
      (unguardedRunner active lost pending) (g (.ok a)) fun _ _ _ _ => True) :
    Exposes (guardWatch active pending) true (committedKernel blake3 pending)
      (unguardedRunner active lost pending) (attempt p >>= g) fun _ _ _ _ => True := by
  refine Exposes.attempt_bind hgivesUp ((hp _ fun _ => fine_unfailed).conseq
    (fun _ _ _ hpost => hpost) ?_) ((hp _ fun _ _ _ _ => trivial).conseq (fun _ _ _ _ => trivial)
      fun _ _ hpost => hpost) ?_ ?_
  · rintro k' m' ⟨-, -, hfailed⟩
    cases hfailed
  · rintro e k' m' ⟨htable, hpresent, -⟩
    obtain ⟨error, hundo⟩ := hundo e
    rw [hundo]
    exact undoCommitted_strikes htable hpresent _ _
  · rintro a _ _ ⟨hQ, rfl, rfl⟩
    exact hrest a hQ

theorem commitTransition_exposes {routingFingerprint : RoutingOwnership → String} :
    Exposes (guardWatch active pending) true (committedKernel blake3 pending)
      (unguardedRunner active lost pending)
      (commitTransition blake3 routingFingerprint (some active)
        (buildPendingExpectationsFrom blake3 (some active) lost pending) pending)
      fun _ _ _ _ => True := by
  refine attempt_commit_exposes liveNftFingerprint_abortive
    (fun r hfine => liveNftFingerprint_protected hfine) (fun e => ⟨_, rfl⟩) ?_
  rintro _ rfl
  refine attempt_commit_exposes (Q := fun captured => captured = committedKernel blake3 pending)
    captureSnapshot_abortive (fun r hfine => ?_) (fun e => ⟨_, rfl⟩) ?_
  · refine (captureSnapshot_ensures (hfine _ protected_committed)).conseq
      (fun _ _ _ hpost => hpost) ?_
    rintro _ _ ⟨rfl, rfl, -, hknown⟩
    exact ⟨rfl, rfl, hknown⟩
  · rintro _ rfl
    have hexact : exactCommittedState routingFingerprint
        (buildPendingExpectationsFrom blake3 (some active) lost pending) pending
        (nftDocumentFingerprint blake3 (renderNftDocument blake3 (some pending) none false))
        (.ok (committedKernel blake3 pending)) = true := by
      simp [exactCommittedState, buildPendingExpectationsFrom, committedKernel]
    rw [hexact, if_pos rfl]
    refine attempt_commit_exposes (Q := fun _ => True) Abortive.inspect (fun r hfine => ?_)
      (fun e => ⟨_, rfl⟩) ?_
    · refine (Ensures.read (hfine _ protected_committed)).conseq
        (fun _ _ _ hpost => ⟨trivial, hpost.2⟩) ?_
      rintro _ _ ⟨rfl, rfl, -, hknown⟩
      exact ⟨rfl, rfl, hknown⟩
    · rintro _ -
      exact Exposes.pure trivial

theorem transitionWith_exposes {routingFingerprint : RoutingOwnership → String}
    {conflict : KernelState → Option String} {restoring : Bool}
    (h : Unguarded active lost kernel) (hactive : (active.lanes.map LanePlan.table).Nodup)
    (hpending : (pending.lanes.map LanePlan.table).Nodup)
    (hgeneration : active.generation ≠ pending.generation) :
    Exposes (guardWatch active pending) false kernel (.new (some active) lost)
      (transitionWith blake3 routingFingerprint conflict (some active) lost restoring pending)
      fun _ _ _ _ => True := by
  have htransition : Exposes (guardWatch active pending) false kernel (.new (some active) lost)
      (if restoring then transitionPlan blake3 conflict (some active) pending
        else applyPlan blake3 conflict (some active) pending)
      (TransitionEnds blake3 active lost pending) := by
    cases restoring with
    | true => exact transitionPlan_exposes h hactive hpending
    | false => exact applyPlan_exposes h hactive hpending hgeneration
  refine Exposes.bind (Exposes.attempt (Q := fun begun result k' m' => ∃ attempted,
    result = .ok attempted ∧ TransitionEnds blake3 active lost pending begun attempted k' m')
    (htransition.conseq fun _ _ _ _ hpost => ⟨_, rfl, hpost⟩)) ?_ fun _ _ _ _ _ => trivial
  rintro begun result k' m' ⟨attempted, heq, hends⟩
  obtain rfl := Except.ok.inj heq
  rcases hends with ⟨rfl, ⟨_, rfl⟩, rfl, rfl⟩ | ⟨e, rfl⟩
  · exact commitTransition_exposes
  · exact Exposes.fail trivial

end Exposure

/-- **Fail-closed transitions.**  With at most one failing command, the table holds the
guard or a complete policy from the guard's installation to the end of the transition
exactly when no command fails after the guard is installed. -/
theorem transition_failClosed_iff {blake3 : Blake3} {active pending : KernelPlan}
    {lost : LostUnicast} (hactive : validatePrivilegedPlan active = .ok ())
    (hpending : validatePrivilegedPlan pending = .ok ())
    (hgeneration : active.generation ≠ pending.generation) {kernel : KernelState}
    (hkernel : CommittedKernel blake3 (some active) lost kernel) (hguard : Guarded kernel = false)
    (routingFingerprint : RoutingOwnership → String) (conflict : KernelState → Option String)
    (restoring : Bool) (faults : ℕ → Bool)
    (hone : (transitionWith blake3 routingFingerprint conflict (some active) lost restoring pending
      ⟨kernel, .new (some active) lost, faults⟩).events.countP Event.failed ≤ 1) :
    (∀ e ∈ fromGuard (transitionWith blake3 routingFingerprint conflict (some active) lost restoring
        pending ⟨kernel, .new (some active) lost, faults⟩).events,
      Protected active pending e.state) ↔
    ∀ e ∈ fromGuard (transitionWith blake3 routingFingerprint conflict (some active) lost restoring
        pending ⟨kernel, .new (some active) lost, faults⟩).events, e.failed = false := by
  have h : Unguarded active lost kernel := by
    refine ⟨?_, hkernel.routing, hguard⟩
    have htable := congrArg Option.isSome hkernel.table
    rwa [Option.isSome_map, Option.isSome_map] at htable
  have hexposes := transitionWith_exposes h
    (validatePrivilegedPlan_eq_ok.1 hactive).tables_nodup
    (validatePrivilegedPlan_eq_ok.1 hpending).tables_nodup hgeneration faults hone
  exact Watch.good_iff_of_clean_or_caught (hexposes.symm.imp_left fun hclean => hclean.1)

/-- The events of the stand-in plan's handover when its tenth command fails. -/
def handoverEvents : List (Event KernelState) :=
  (transitionWith lengthDigests (fun _ => "") (fun _ => none) (some standInPlan) ∅ false
    successorPlan ⟨committedKernel lengthDigests standInPlan, .new (some standInPlan) ∅,
      fun i => i == 9⟩).events

theorem transition_failClosed_iff_handover :
    (∀ e ∈ fromGuard handoverEvents, Protected standInPlan successorPlan e.state) ↔
      ∀ e ∈ fromGuard handoverEvents, e.failed = false :=
  transition_failClosed_iff (by decide) (by decide) (by decide) ⟨rfl, by decide⟩ (by decide +kernel)
    _ _ _ _ (by decide +kernel)

/-- A single command fails, under the guard, and the rollback leaves the kernel without
guard or policy. -/
theorem rollback_uncovers :
    handoverEvents.countP Event.failed = 1 ∧
      ∃ e ∈ fromGuard handoverEvents, ¬ Protected standInPlan successorPlan e.state := by
  decide +kernel

end RouteLane
