import RouteLane.Kernel.CrashStates
import RouteLane.Kernel.Runner

/-!
# What the runner's commands do

One rule for each function of the runner: the states its commands leave behind and the
state it ends in.  A removal that is skipped because its resource is gone leaves the
kernel just as the removal would have, so every list of routing steps passes through the
states of its prefixes.
-/

namespace RouteLane

open Nft Faults Program Steps

namespace KernelState

/-- The kernel after a routing step. -/
def step (kernel : KernelState) (step : RoutingStep) : KernelState :=
  { kernel with routing := applyRoutingStep kernel.routing step }

/-- The kernel after a list of routing steps. -/
def runSteps (kernel : KernelState) (steps : List RoutingStep) : KernelState :=
  { kernel with routing := RouteLane.runSteps kernel.routing steps }

@[simp] theorem runSteps_nil (kernel : KernelState) : kernel.runSteps [] = kernel := rfl

theorem runSteps_runSteps (kernel : KernelState) (steps steps' : List RoutingStep) :
    (kernel.runSteps steps).runSteps steps' = kernel.runSteps (steps ++ steps') := by
  simp [runSteps, RouteLane.runSteps]

@[simp] theorem runSteps_nft (kernel : KernelState) (steps : List RoutingStep) :
    (kernel.runSteps steps).nft = kernel.nft := rfl

theorem runSteps_snoc (kernel : KernelState) (steps : List RoutingStep) (x : RoutingStep) :
    kernel.runSteps (steps ++ [x]) = (kernel.runSteps steps).step x := by
  simp [runSteps, step, RouteLane.runSteps]

end KernelState

variable {r : Regime KernelState} {kernel : KernelState} {m : CommandKernelRunner}

/-! ## Reading -/

theorem captureSnapshot_ensures (hfine : r.Fine kernel) :
    Ensures r kernel m captureSnapshot (fun a k' m' => a = kernel ∧ k' = kernel ∧ m' = m)
      (fun k' m' => k' = kernel ∧ m' = m ∧ r.mayFail ∧ r.known ⟨kernel, true⟩) := by
  refine Ensures.bind (Q := fun _ k' m' => k' = kernel ∧ m' = m) ?_ ?_
  · refine Ensures.forEach (J := fun _ k' m' => k' = kernel ∧ m' = m) ?_ ⟨rfl, rfl⟩
    rintro done context rest - _ _ ⟨rfl, rfl⟩
    exact (Ensures.read hfine).conseq (fun _ _ _ h => h.2) fun _ _ h => h
  · rintro _ _ _ ⟨rfl, rfl⟩
    exact Ensures.read hfine

theorem snapshot_ensures (hfine : r.Fine kernel) :
    Ensures r kernel m snapshot
      (fun _ k' m' => k' = kernel ∧ m' = { m with tablePresent := kernel.nft.isSome })
      (fun k' m' => k' = kernel ∧ m' = m ∧ r.mayFail ∧ r.known ⟨kernel, true⟩) := by
  refine Ensures.bind (captureSnapshot_ensures hfine) ?_
  rintro _ k₁ m₁ ⟨rfl, rfl, rfl⟩
  refine Ensures.bind (Ensures.modify (Q := fun _ k' m' => k' = k₁ ∧
    m' = { m₁ with tablePresent := k₁.nft.isSome }) ⟨rfl, rfl⟩) ?_
  rintro _ _ _ ⟨rfl, rfl⟩
  exact Ensures.pure ⟨rfl, rfl⟩

theorem liveFamilyOwnership_ensures {f : IpFamily} (hfine : r.Fine kernel) :
    Ensures r kernel m (liveFamilyOwnership f)
      (fun live k' m' => k' = kernel ∧ m' = m ∧
        live = ⟨kernel.routing.routes.filter fun route => route.family = f,
          kernel.routing.rules.filter fun rule => rule.family = f⟩)
      (fun k' m' => k' = kernel ∧ m' = m ∧ r.mayFail ∧ r.known ⟨kernel, true⟩) := by
  refine Ensures.bind (Ensures.read hfine) ?_
  rintro _ _ _ ⟨rfl, rfl, rfl⟩
  refine Ensures.bind (Ensures.read hfine) ?_
  rintro _ _ _ ⟨rfl, rfl, rfl⟩
  exact Ensures.pure ⟨rfl, rfl, rfl⟩

/-- A removal is called for exactly when it changes something. -/
theorem stepPresent_ensures {step : RoutingStep} (hfine : r.Fine kernel) :
    Ensures r kernel m (stepPresent step)
      (fun present k' m' => k' = kernel ∧ m' = m ∧
        (present = false → kernel.step step = kernel) ∧
        (step.isRemoval = true → present = true → kernel.step step ≠ kernel))
      (fun k' m' => k' = kernel ∧ m' = m ∧ r.mayFail ∧ r.known ⟨kernel, true⟩) := by
  have hsame : ∀ s, ({ kernel with routing := s } : KernelState) = kernel ↔ s = kernel.routing := by
    intro s
    cases kernel
    simp
  cases step with
  | replaceRoute | addRule => exact Ensures.pure ⟨rfl, rfl, by simp, by simp [RoutingStep.isRemoval]⟩
  | deleteRoute f table route =>
    refine Ensures.bind (liveFamilyOwnership_ensures hfine) ?_
    rintro live k₁ m₁ ⟨rfl, rfl, rfl⟩
    refine Ensures.pure ⟨rfl, rfl, ?_, ?_⟩
    · intro habsent
      rw [KernelState.step, hsame]
      have hmem : routeOwnership f table route ∉ k₁.routing.routes := by
        simpa using habsent
      rw [applyRoutingStep, Finset.erase_eq_of_notMem hmem]
    · intro _ hpresent
      rw [KernelState.step, ne_eq, hsame, applyRoutingStep]
      have hmem : routeOwnership f table route ∈ k₁.routing.routes := by
        simpa using hpresent
      intro heq
      have hroutes := congrArg RoutingOwnership.routes heq
      exact Finset.erase_ne_self.2 hmem hroutes
  | deleteRule f priority table mark =>
    refine Ensures.bind (liveFamilyOwnership_ensures hfine) ?_
    rintro live k₁ m₁ ⟨rfl, rfl, rfl⟩
    refine Ensures.pure ⟨rfl, rfl, ?_, ?_⟩
    · intro habsent
      rw [KernelState.step, hsame]
      have hmem : ruleOwnership f priority table mark ∉ k₁.routing.rules := by
        simpa [ruleOwnership] using habsent
      rw [applyRoutingStep, Finset.erase_eq_of_notMem hmem]
    · intro _ hpresent
      rw [KernelState.step, ne_eq, hsame, applyRoutingStep]
      have hmem : ruleOwnership f priority table mark ∈ k₁.routing.rules := by
        simpa [ruleOwnership] using hpresent
      intro heq
      have hrules := congrArg RoutingOwnership.rules heq
      exact Finset.erase_ne_self.2 hmem hrules
  | flushTable f table =>
    rw [stepPresent]
    refine (Ensures.read hfine).conseq ?_ fun _ _ h => h
    rintro present k₁ m₁ ⟨rfl, rfl, rfl⟩
    refine ⟨rfl, rfl, ?_, ?_⟩
    · intro habsent
      have hnone := of_decide_eq_false habsent
      push Not at hnone
      rw [KernelState.step, hsame, applyRoutingStep, Finset.filter_true_of_mem]
      intro route hroute
      by_cases hfamily : route.family = f
      · exact Or.inr (hnone route hroute hfamily)
      · exact Or.inl hfamily
    · intro _ hpresent
      obtain ⟨route, hroute, hfamily, htable⟩ := of_decide_eq_true hpresent
      rw [KernelState.step, ne_eq, hsame, applyRoutingStep]
      intro heq
      have hroutes := congrArg RoutingOwnership.routes heq
      have hgone := Finset.filter_eq_self.1 hroutes route hroute
      exact hgone.elim (fun h => h hfamily) fun h => h htable

/-! ## Routing steps -/

/-- A program carries a routing step out: it ends in the kernel after the step, and when it
gives up the step was either carried out or not. -/
def Performs (f : RoutingStep → Runner Unit) (step : RoutingStep) : Prop :=
  ∀ (r : Regime KernelState) (kernel : KernelState) (m : CommandKernelRunner),
    r.Fine kernel → r.Fine (kernel.step step) →
    Ensures r kernel m (f step)
      (fun _ k' m' => k' = kernel.step step ∧ m' = m ∧
        (kernel.step step ≠ kernel → r.known ⟨kernel.step step, false⟩))
      (fun k' m' => (k' = kernel ∨ k' = kernel.step step) ∧ m' = m ∧ r.mayFail ∧
        r.known ⟨k', true⟩)

theorem sendStep_performs (context : String) (step : RoutingStep) :
    Performs (fun step => sendStep step context) step := by
  intro r kernel m hfine hfine'
  apply Ensures.command
  · rintro (hmay | hnone) hknown
    · exact ⟨hfine _ hknown, Or.inl rfl, rfl, hmay, hknown⟩
    · cases hnone
  · intro k' hk' hknown
    obtain rfl := Option.some.inj hk'
    exact ⟨hfine' _ hknown, rfl, rfl, fun _ => hknown⟩

theorem runRoutingStep_performs (context : String) (step : RoutingStep) :
    Performs (runRoutingStep context) step := by
  intro r kernel m hfine hfine'
  refine Ensures.bind ((stepPresent_ensures hfine).conseq (fun _ _ _ h => h) ?_) ?_
  · rintro _ _ ⟨rfl, rfl, hmay, hknown⟩
    exact ⟨Or.inl rfl, rfl, hmay, hknown⟩
  · rintro present _ _ ⟨rfl, rfl, habsent, -⟩
    cases present with
    | true => exact sendStep_performs context step r _ _ hfine hfine'
    | false =>
      have hsame := habsent rfl
      exact Ensures.pure ⟨hsame.symm, rfl, fun hne => absurd hsame hne⟩

/-- A removal carried out again changes nothing. -/
theorem step_step {step : RoutingStep} (hstep : step.isRemoval = true) (kernel : KernelState) :
    (kernel.step step).step step = kernel.step step := by
  have h := (repeatable_removals (l := [step]) (by simpa using hstep)).idem step
    (List.mem_singleton.2 rfl) kernel.routing
  rw [KernelState.step, KernelState.step, h]

/-- Trying again after a removal changes nothing more. -/
theorem removeRuleTries_performs {step : RoutingStep} (hstep : step.isRemoval = true)
    (tries : ℕ) : Performs (fun step => removeRuleTries step (tries + 1)) step := by
  have hidem := step_step hstep
  induction tries with
  | zero =>
    intro r kernel m hfine hfine'
    refine Ensures.bind ((stepPresent_ensures hfine).conseq (fun _ _ _ h => h) ?_) ?_
    · rintro _ _ ⟨rfl, rfl, hmay, hknown⟩
      exact ⟨Or.inl rfl, rfl, hmay, hknown⟩
    · rintro present _ _ ⟨rfl, rfl, habsent, -⟩
      cases present with
      | true =>
        refine Ensures.bind (sendStep_performs _ step r _ _ hfine hfine') ?_
        rintro _ _ _ ⟨rfl, rfl, hknown⟩
        exact Ensures.pure ⟨rfl, rfl, hknown⟩
      | false =>
        have hsame := habsent rfl
        exact Ensures.pure ⟨hsame.symm, rfl, fun hne => absurd hsame hne⟩
  | succ tries ih =>
    intro r kernel m hfine hfine'
    refine Ensures.bind ((stepPresent_ensures hfine).conseq (fun _ _ _ h => h) ?_) ?_
    · rintro _ _ ⟨rfl, rfl, hmay, hknown⟩
      exact ⟨Or.inl rfl, rfl, hmay, hknown⟩
    · rintro present k₁ m₁ ⟨rfl, rfl, habsent, -⟩
      cases present with
      | true =>
        refine Ensures.bind (sendStep_performs _ step r _ _ hfine hfine') ?_
        rintro _ k₂ m₂ ⟨rfl, rfl, hknown⟩
        have hrest := ih r (k₁.step step) m₂ hfine' (by rw [hidem]; exact hfine')
        rw [hidem] at hrest
        refine hrest.conseq ?_ ?_
        · rintro _ _ _ ⟨rfl, rfl, -⟩
          exact ⟨rfl, rfl, hknown⟩
        · rintro _ _ ⟨hk', rfl, hmay, hknown'⟩
          exact ⟨Or.inr (hk'.elim id id), rfl, hmay, hknown'⟩
      | false =>
        have hsame := habsent rfl
        exact Ensures.pure ⟨hsame.symm, rfl, fun hne => absurd hsame hne⟩

/-- One removal of `remove_plan_policy_rules`; a rule cannot be there twice. -/
theorem removeRule_performs {step : RoutingStep} (hstep : step.isRemoval = true) :
    Performs removeRule step := by
  intro r kernel m hfine hfine'
  refine Ensures.bind (removeRuleTries_performs hstep 2 r kernel m hfine hfine') ?_
  rintro _ k₁ m₁ ⟨rfl, rfl, hknown⟩
  refine Ensures.bind ((stepPresent_ensures hfine').conseq (fun _ _ _ h => h) ?_) ?_
  · rintro k₂ m₂ ⟨rfl, rfl, hmay, hknown'⟩
    exact ⟨Or.inr rfl, rfl, hmay, hknown'⟩
  · rintro present k₂ m₂ ⟨rfl, rfl, -, hchanges⟩
    cases present with
    | true => exact absurd (step_step hstep kernel) (hchanges hstep rfl)
    | false => exact Ensures.pure ⟨rfl, rfl, hknown⟩

/-- A loop over routing steps passes through the states of the prefixes of the list. -/
theorem forEach_performs {f : RoutingStep → Runner Unit} {l : List RoutingStep}
    (hf : ∀ step ∈ l, Performs f step) (hfine : ∀ pre, pre <+: l → r.Fine (kernel.runSteps pre)) :
    Ensures r kernel m (forEach f l)
      (fun _ k' m' => k' = kernel.runSteps l ∧ m' = m ∧
        ∀ pre x, pre ++ [x] <+: l → kernel.runSteps (pre ++ [x]) ≠ kernel.runSteps pre →
          r.known ⟨kernel.runSteps (pre ++ [x]), false⟩)
      (fun k' m' => (∃ pre, pre <+: l ∧ k' = kernel.runSteps pre) ∧ m' = m ∧ r.mayFail ∧
        r.known ⟨k', true⟩) := by
  refine Ensures.forEach (J := fun done k' m' => k' = kernel.runSteps done ∧ m' = m ∧
    ∀ pre x, pre ++ [x] <+: done → kernel.runSteps (pre ++ [x]) ≠ kernel.runSteps pre →
      r.known ⟨kernel.runSteps (pre ++ [x]), false⟩) ?_ ⟨rfl, rfl, ?_⟩
  · rintro done x rest hl k₁ m₁ ⟨rfl, rfl, hpassed⟩
    have hdone : done <+: l := ⟨x :: rest, hl⟩
    have hnext : done ++ [x] <+: l := ⟨rest, by rw [List.append_assoc]; exact hl⟩
    have hx : x ∈ l := by
      rw [← hl]
      simp
    have hfine' := hfine _ hnext
    rw [KernelState.runSteps_snoc] at hfine'
    refine (hf x hx r _ _ (hfine _ hdone) hfine').conseq ?_ ?_
    · rintro _ k₂ m₂ ⟨rfl, rfl, hknown⟩
      refine ⟨(KernelState.runSteps_snoc _ _ _).symm, rfl, ?_⟩
      intro pre y hpre hchanges
      rcases List.prefix_concat_iff.1 hpre with heq | hpre
      · obtain ⟨rfl, hlast⟩ := List.append_inj' heq rfl
        obtain rfl := List.singleton_inj.1 hlast
        rw [KernelState.runSteps_snoc] at hchanges ⊢
        exact hknown hchanges
      · exact hpassed pre y hpre hchanges
    · rintro k₂ m₂ ⟨rfl | rfl, rfl, hmay, hknown⟩
      · exact ⟨⟨done, hdone, rfl⟩, rfl, hmay, hknown⟩
      · exact ⟨⟨done ++ [x], hnext, (KernelState.runSteps_snoc _ _ _).symm⟩, rfl, hmay, hknown⟩
  · intro pre x hpre
    exact absurd (List.prefix_nil.1 hpre) (by simp)

/-! ## Batches -/

/-- A batch the kernel accepts is one event. -/
theorem runNftBatch_ensures {batch : NftBatch} {context : String} {kernel' : KernelState}
    (hbatch : batch.apply kernel = some kernel') (hfine : r.Fine kernel)
    (hfine' : r.Fine kernel') :
    Ensures r kernel m (runNftBatch batch context)
      (fun _ k' m' => k' = kernel' ∧ m' = m ∧ r.known ⟨kernel', false⟩)
      (fun k' m' => k' = kernel ∧ m' = m ∧ r.mayFail ∧ r.known ⟨kernel, true⟩) := by
  apply Ensures.command
  · rintro (hmay | hnone) hknown
    · exact ⟨hfine _ hknown, rfl, rfl, hmay, hknown⟩
    · rw [hbatch] at hnone
      cases hnone
  · intro k' hk' hknown
    rw [hbatch] at hk'
    obtain rfl := Option.some.inj hk'
    exact ⟨hfine' _ hknown, rfl, rfl, hknown⟩

/-! ## Rollback -/

/-- The kernel after a rollback has cleared it. -/
def KernelState.cleared (kernel : KernelState) (plans : List KernelPlan) : KernelState :=
  ⟨none, RouteLane.runSteps kernel.routing (rollbackSteps plans)⟩

/-- The first half of `restore` goes through the states of the rollback and ends with
nothing but what no plan of the runner owns. -/
theorem clearForRollback_ensures (htable : m.tablePresent = kernel.nft.isSome)
    (hfine : ∀ pre, pre <+: rollbackSteps m.plans → r.Fine (kernel.runSteps pre))
    (hcleared : r.Fine (kernel.cleared m.plans)) :
    Ensures r kernel m clearForRollback
      (fun _ k' m' => k' = kernel.cleared m.plans ∧
        m' = { m with tablePresent := false, guardInstalled := false } ∧
        (kernel.nft.isSome = true → r.known ⟨kernel.cleared m.plans, false⟩) ∧
        ∀ x, rollbackRuleOrder m.plans ++ [x] <+: rollbackSteps m.plans →
          kernel.runSteps (rollbackRuleOrder m.plans ++ [x]) ≠
            kernel.runSteps (rollbackRuleOrder m.plans) →
          r.known ⟨kernel.runSteps (rollbackRuleOrder m.plans ++ [x]), false⟩)
      (fun k' m' => (∃ pre, pre <+: rollbackSteps m.plans ∧ k' = kernel.runSteps pre) ∧ m' = m ∧
        r.mayFail ∧ r.known ⟨k', true⟩) := by
  have hrules : rollbackRuleOrder m.plans <+: rollbackSteps m.plans := List.prefix_append _ _
  have hrest : ∀ pre, pre <+: rollbackTableOrder m.plans →
      rollbackRuleOrder m.plans ++ pre <+: rollbackSteps m.plans :=
    fun pre hpre => (List.prefix_append_right_inj _).2 hpre
  refine Ensures.bind (Ensures.get (Q := fun a k' m' => a = m ∧ k' = kernel ∧ m' = m)
    ⟨rfl, rfl, rfl⟩) ?_
  rintro _ k₁ m₁ ⟨rfl, rfl, rfl⟩
  refine Ensures.bind ((forEach_performs ?_ ?_).conseq (fun _ _ _ h => h) ?_) ?_
  · intro step hstep
    exact removeRule_performs (isRemoval_rollbackSteps (hrules.subset hstep))
  · intro pre hpre
    exact hfine pre (hpre.trans hrules)
  · rintro k' m' ⟨⟨pre, hpre, rfl⟩, rfl, hfail⟩
    exact ⟨⟨pre, hpre.trans hrules, rfl⟩, rfl, hfail⟩
  rintro _ k₂ m₂ ⟨rfl, rfl, -⟩
  refine Ensures.bind ((forEach_performs ?_ ?_).conseq (fun _ _ _ h => h) ?_) ?_
  · intro step hstep
    exact runRoutingStep_performs _ step
  · intro pre hpre
    rw [KernelState.runSteps_runSteps]
    exact hfine _ (hrest pre hpre)
  · rintro k' m' ⟨⟨pre, hpre, rfl⟩, rfl, hfail⟩
    exact ⟨⟨_, hrest pre hpre, KernelState.runSteps_runSteps _ _ _⟩, rfl, hfail⟩
  rintro _ k₃ m₃ ⟨rfl, rfl, hpassed⟩
  rw [KernelState.runSteps_runSteps]
  have hflushed : ∀ x, rollbackRuleOrder m₃.plans ++ [x] <+: rollbackSteps m₃.plans →
      k₁.runSteps (rollbackRuleOrder m₃.plans ++ [x]) ≠
        k₁.runSteps (rollbackRuleOrder m₃.plans) →
      r.known ⟨k₁.runSteps (rollbackRuleOrder m₃.plans ++ [x]), false⟩ := by
    intro x hx hchanges
    have hfirst := hpassed [] x ((List.prefix_append_right_inj _).1 hx)
    rw [List.nil_append, KernelState.runSteps_nil, KernelState.runSteps_runSteps] at hfirst
    exact hfirst hchanges
  refine Ensures.bind (Ensures.get (Q := fun a k' m' => a = m₃ ∧
    k' = k₁.runSteps (rollbackSteps m₃.plans) ∧ m' = m₃) ⟨rfl, rfl, rfl⟩) ?_
  rintro m₄ k₄ m₅ ⟨rfl, rfl, rfl⟩
  cases hpresent : m₅.tablePresent with
  | true =>
    have hsome : k₁.nft.isSome = true := htable.symm.trans hpresent
    obtain ⟨document, hdocument⟩ := Option.isSome_iff_exists.1 hsome
    have hbatch : NftBatch.deleteTable.apply (k₁.runSteps (rollbackSteps m₅.plans)) =
        some (k₁.cleared m₅.plans) := by
      simp [NftBatch.apply, hdocument, KernelState.cleared, KernelState.runSteps]
    refine Ensures.bind ((runNftBatch_ensures hbatch (hfine _ (List.prefix_refl _))
      hcleared).conseq (fun _ _ _ h => h) ?_) ?_
    · rintro k' m' ⟨rfl, rfl, hfail⟩
      exact ⟨⟨_, List.prefix_refl _, rfl⟩, rfl, hfail⟩
    · rintro _ k' m' ⟨rfl, rfl, hknown⟩
      apply Ensures.modify
      exact ⟨rfl, rfl, fun _ => hknown, hflushed⟩
  | false =>
    have hnone : k₁.nft = none := by
      rw [hpresent] at htable
      exact Option.not_isSome_iff_eq_none.1 (by simp [← htable])
    rw [if_neg Bool.false_ne_true]
    apply Ensures.modify
    refine ⟨?_, ?_, ?_, hflushed⟩
    · rw [KernelState.cleared, KernelState.runSteps, hnone]
    · rw [← hpresent]
    · intro hsome
      rw [hnone] at hsome
      cases hsome

/-! ## Verification and reinstallation -/

section Verify

variable {blake3 : Blake3}

/-- What `verify_plan_basis` asks of the kernel. -/
def PlanVerified (blake3 : Blake3) (kernel : KernelState) (plan routing : KernelPlan) : Prop :=
  capturedPlanPresent kernel routing = true ∧
    stateChainName blake3 plan ∈ chainNames (kernel.nft.getD [])

theorem verifyPlanBasis_ensures {plan routing : KernelPlan} (hfine : r.Fine kernel) :
    Ensures r kernel m (verifyPlanBasis blake3 plan routing)
      (fun _ k' m' => k' = kernel ∧ m' = m)
      (fun k' m' => k' = kernel ∧ m' = m ∧
        (r.mayFail ∧ r.known ⟨kernel, true⟩ ∨ ¬ PlanVerified blake3 kernel plan routing)) := by
  refine Ensures.bind ((captureSnapshot_ensures hfine).conseq (fun _ _ _ h => h) ?_) ?_
  · rintro _ _ ⟨rfl, rfl, hfail⟩
    exact ⟨rfl, rfl, Or.inl hfail⟩
  rintro _ k₁ m₁ ⟨rfl, rfl, rfl⟩
  cases hpresent : capturedPlanPresent k₁ routing with
  | false =>
    apply Ensures.fail
    refine ⟨rfl, rfl, Or.inr ?_⟩
    rintro ⟨hverified, -⟩
    rw [hpresent] at hverified
    cases hverified
  | true =>
    refine Ensures.bind ((Ensures.read hfine).conseq (fun _ _ _ h => h) ?_) ?_
    · rintro _ _ ⟨rfl, rfl, hfail⟩
      exact ⟨rfl, rfl, Or.inl hfail⟩
    rintro _ k₂ m₂ ⟨rfl, rfl, rfl⟩
    by_cases hmarker : stateChainName blake3 plan ∈ chainNames (k₂.nft.getD [])
    · rw [if_pos hmarker]
      exact Ensures.pure ⟨rfl, rfl⟩
    · rw [if_neg hmarker]
      apply Ensures.fail
      exact ⟨rfl, rfl, Or.inr fun h => hmarker h.2⟩

/-- The kernel after a plan has been brought back. -/
def restoredKernel (blake3 : Blake3) (state routing : KernelPlan) : KernelState :=
  ⟨some (renderNftDocument blake3 (some state) none false), planRoutingOwnership routing⟩

/-- The second half of `restore`, from a kernel that holds nothing. -/
theorem reinstall_ensures {state : KernelPlan}
    (hfine : ∀ pre, pre <+: installSteps (m.restoredRouting state) →
      r.Fine ((⟨none, .empty⟩ : KernelState).runSteps pre))
    (hrestored : r.Fine (restoredKernel blake3 state (m.restoredRouting state))) :
    Ensures r ⟨none, .empty⟩ m (reinstall blake3 state)
      (fun _ k' m' => k' = restoredKernel blake3 state (m.restoredRouting state) ∧
        m' = { m with tablePresent := true })
      (fun _ m' => m'.guardInstalled = m.guardInstalled) := by
  refine Ensures.bind (Ensures.get (Q := fun a k' m' => a = m ∧ k' = ⟨none, .empty⟩ ∧ m' = m)
    ⟨rfl, rfl, rfl⟩) ?_
  rintro _ k₁ m₁ ⟨rfl, rfl, rfl⟩
  refine Ensures.bind ((forEach_performs ?_ hfine).conseq (fun _ _ _ h => h) ?_) ?_
  · intro step hstep
    exact runRoutingStep_performs _ step
  · rintro k' m' ⟨-, rfl, -⟩
    rfl
  rintro _ k₂ m₂ ⟨rfl, rfl, -⟩
  have hbatch : (NftBatch.table .create (renderNftDocument blake3 (some state) none false)).apply
      ((⟨none, .empty⟩ : KernelState).runSteps (installSteps (m₂.restoredRouting state))) =
      some (restoredKernel blake3 state (m₂.restoredRouting state)) := rfl
  refine Ensures.bind ((runNftBatch_ensures hbatch (hfine _ (List.prefix_refl _))
    hrestored).conseq (fun _ _ _ h => h) ?_) ?_
  · rintro k' m' ⟨-, rfl, -⟩
    rfl
  rintro _ k₃ m₃ ⟨rfl, rfl, -⟩
  refine Ensures.bind (Ensures.modify (Q := fun _ k' m' =>
    k' = restoredKernel blake3 state (m₃.restoredRouting state) ∧
      m' = { m₃ with tablePresent := true }) ⟨rfl, rfl⟩) ?_
  rintro _ k₄ m₄ ⟨rfl, rfl⟩
  refine (verifyPlanBasis_ensures hrestored).conseq (fun _ _ _ h => h) ?_
  rintro k' m' ⟨-, rfl, -⟩
  rfl

end Verify

end RouteLane
