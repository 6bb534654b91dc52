import RouteLane.Kernel.Acceptance
import RouteLane.Kernel.Phases
import RouteLane.Policy.PlannerSemantics

/-!
# Crash safety of a transition

Wherever a transition is interrupted, forwards, in its rollback or when it removes the
guard after a rollback that failed, the journal saved before it explains the kernel.
-/

namespace RouteLane

open Nft Faults Program Steps

/-! ## Removing the guard -/

section Guard

variable {blake3 : Blake3} {active pending : Option KernelPlan}

theorem renderChains_guard : renderChains blake3 active pending true =
    renderChains blake3 active pending false ++ [guardChain active pending] := by
  simp [renderChains]

theorem name_ne_guard {chain : Chain} (h : chain ∈ renderChains blake3 active pending false) :
    chain.name ≠ .guard := by
  intro hname
  have hmem := mem_chainNames_render blake3 active pending false h hname
  rw [guard_mem_chainNames] at hmem
  cases hmem

theorem ofGuard_object {chain : Chain} :
    chain.object.ofGuard = decide (chain.name = .guard) := by
  cases hname : chain.name <;> simp [Chain.object, hname, Object.ofGuard]

theorem ofGuard_ruleObject {chain : Chain} {o : Object} (h : o ∈ chain.ruleObjects) :
    o.ofGuard = decide (chain.name = .guard) := by
  obtain ⟨expr, -, rfl⟩ := List.mem_map.1 h
  cases hname : chain.name <;> simp [Object.ofGuard]

/-- The seal does not cover the guard. -/
theorem contentSeal_guard :
    contentSeal blake3 (unsealedDocument (renderChains blake3 active pending true)) =
      contentSeal blake3 (unsealedDocument (renderChains blake3 active pending false)) := by
  have hobject : (guardChain active pending).object.sealed = false := rfl
  have hrules : (guardChain active pending).ruleObjects.filter Object.sealed = [] := by
    rw [List.filter_eq_nil_iff]
    intro o ho
    obtain ⟨expr, -, rfl⟩ := List.mem_map.1 ho
    exact Bool.false_ne_true
  rw [contentSeal, contentSeal, renderChains_guard]
  simp only [unsealedDocument, List.map_append, List.map_cons, List.map_nil, List.flatMap_append,
    List.flatMap_cons, List.flatMap_nil, List.append_nil, List.filter_append, hrules,
    List.filter_cons, hobject, List.filter_nil, Bool.false_eq_true, if_false]

/-- Flushing and deleting the guard chain leaves the document without it. -/
theorem filter_ofGuard_render :
    (renderNftDocument blake3 active pending true).filter (fun o => !o.ofGuard) =
      renderNftDocument blake3 active pending false := by
  have hchains : ((renderChains blake3 active pending false).map Chain.object).filter
      (fun o => !o.ofGuard) = (renderChains blake3 active pending false).map Chain.object := by
    rw [List.filter_eq_self]
    intro o ho
    obtain ⟨chain, hchain, rfl⟩ := List.mem_map.1 ho
    simp [ofGuard_object, name_ne_guard hchain]
  have hrules : ((renderChains blake3 active pending false).flatMap Chain.ruleObjects).filter
      (fun o => !o.ofGuard) = (renderChains blake3 active pending false).flatMap
        Chain.ruleObjects := by
    rw [List.filter_eq_self]
    intro o ho
    obtain ⟨chain, hchain, ho⟩ := List.mem_flatMap.1 ho
    simp [ofGuard_ruleObject ho, name_ne_guard hchain]
  have hguard : (guardChain active pending).ruleObjects.filter (fun o => !o.ofGuard) = [] := by
    rw [List.filter_eq_nil_iff]
    intro o ho
    simp [ofGuard_ruleObject ho, guardChain]
  have hobject : (guardChain active pending).object.ofGuard = true := rfl
  rw [renderNftDocument, renderNftDocument, contentSeal_guard, renderChains_guard]
  simp only [List.map_append, List.map_cons, List.map_nil, List.flatMap_append, List.flatMap_cons,
    List.flatMap_nil, List.append_nil, List.filter_append, hchains, hrules, hguard,
    List.filter_cons, hobject, List.filter_nil, Bool.not_true, Bool.false_eq_true, if_false]
  rfl

theorem deleteGuard_apply {routing : RoutingOwnership} :
    NftBatch.deleteGuard.apply ⟨some (renderNftDocument blake3 active pending true), routing⟩ =
      some ⟨some (renderNftDocument blake3 active pending false), routing⟩ := by
  have hmem : ChainName.guard ∈ chainNames (renderNftDocument blake3 active pending true) :=
    (guard_mem_chainNames blake3 active pending true).2 rfl
  show (if _ then _ else _) = _
  rw [if_pos hmem, filter_ofGuard_render]

end Guard

/-! ## The states of a transition -/

section Transition

variable {blake3 : Blake3} {active : Option KernelPlan} {lost : LostUnicast} {pending : KernelPlan}

/-- What a transition is saved with is a valid journal. -/
theorem transitionJournal_valid (hactive : ∀ plan ∈ active, plan.WellFormed)
    (hpending : pending.WellFormed) :
    (transitionJournal blake3 active lost pending).Valid blake3 where
  active := hactive
  pending := hpending
  fingerprint := by
    cases active <;> rfl

/-- Transitions whose phases the journal can tell apart. -/
structure Distinguishable (blake3 : Blake3) (active : Option KernelPlan) (pending : KernelPlan) :
    Prop where
  wellFormed_active : ∀ plan ∈ active, plan.WellFormed
  wellFormed_pending : pending.WellFormed
  generation_ne : ∀ plan ∈ active, plan.generation ≠ pending.generation
  tellApart : DigestsTellApart blake3 active pending

variable (h : Distinguishable blake3 active pending)

include h

theorem Distinguishable.valid : (transitionJournal blake3 active lost pending).Valid blake3 :=
  transitionJournal_valid h.wellFormed_active h.wellFormed_pending

/-- The document of a phase with a routing state of the phase is accepted. -/
theorem Distinguishable.accepts {phase : PendingNftPhase} {document : Document}
    (hdocument : phaseDocument blake3 active pending phase = some document)
    {routing : RoutingOwnership}
    (hrouting : RollsBackTo (active.map (routingBasis lost)) pending phase routing) :
    Accepts blake3 (transitionJournal blake3 active lost pending) ⟨some document, routing⟩ := by
  rw [accepts_iff h.valid]
  refine ⟨phase, pendingNftPhase_phaseDocument h.tellApart h.generation_ne hdocument, ?_⟩
  have hne : phase ≠ .rollbackAbsent := by
    rintro rfl
    cases hdocument
  rw [CrashRouting, if_neg hne]
  exact hrouting

/-- A kernel with the document of a phase is accepted only for a routing state of it. -/
theorem Distinguishable.rollsBackTo {phase : PendingNftPhase} {document : Document}
    (hdocument : phaseDocument blake3 active pending phase = some document)
    {routing : RoutingOwnership} (hkernel : Accepts blake3
      (transitionJournal blake3 active lost pending) ⟨some document, routing⟩) :
    RollsBackTo (active.map (routingBasis lost)) pending phase routing := by
  obtain ⟨phase', -, hphase, hcrash⟩ := hkernel.rollsBackTo h.valid (Or.inl rfl)
  have hphase' : (transitionJournal blake3 active lost pending).phase blake3 (some document) =
      some phase := pendingNftPhase_phaseDocument h.tellApart h.generation_ne hdocument
  obtain rfl := Option.some.inj (hphase.symm.trans hphase')
  exact hcrash

/-- Removing the guard from a guarded document leaves an accepted kernel. -/
theorem Distinguishable.accepts_unguarded {routing : RoutingOwnership} {document : Document}
    (hdocument : document = renderNftDocument blake3 active (some pending) true ∨
      document = renderNftDocument blake3 (some pending) none true)
    (hkernel : Accepts blake3 (transitionJournal blake3 active lost pending)
      ⟨some document, routing⟩) :
    ∃ kernel', NftBatch.deleteGuard.apply ⟨some document, routing⟩ = some kernel' ∧
      Accepts blake3 (transitionJournal blake3 active lost pending) kernel' := by
  rcases hdocument with rfl | rfl
  · have hrouting : RollsBackTo (active.map (routingBasis lost)) pending .guard routing :=
      h.rollsBackTo rfl hkernel
    have hguardless : RollsBackTo (active.map (routingBasis lost)) pending
        .guardlessTransaction routing := hrouting.mono (List.Subset.refl _)
    exact ⟨_, deleteGuard_apply, h.accepts rfl hguardless⟩
  · have hrouting : RollsBackTo (active.map (routingBasis lost)) pending .activated routing :=
      h.rollsBackTo rfl hkernel
    have hcommitted : RollsBackTo (active.map (routingBasis lost)) pending .committed routing :=
      hrouting.mono (List.subset_cons_self _ _)
    exact ⟨_, deleteGuard_apply, h.accepts rfl hcommitted⟩

omit h in
/-- What a stage that fails leaves to its rollback. -/
structure Recoverable (blake3 : Blake3) (active : Option KernelPlan) (lost : LostUnicast)
    (pending : KernelPlan) (kernel : KernelState) (m : CommandKernelRunner) : Prop where
  accepts : Accepts blake3 (transitionJournal blake3 active lost pending) kernel
  rollable : (transitionJournal blake3 active lost pending).Rollable kernel
  serves : m.Serves (transitionJournal blake3 active lost pending) kernel
  guarded : m.guardInstalled = true →
    kernel.nft = some (renderNftDocument blake3 active (some pending) true) ∨
      kernel.nft = some (renderNftDocument blake3 (some pending) none true)

/-- Removing the guard, if it is installed, from an accepted kernel. -/
theorem removeGuard_accepting {kernel : KernelState} {m : CommandKernelRunner}
    (hguard : m.guardInstalled = true →
      Accepts blake3 (transitionJournal blake3 active lost pending) kernel ∧
        (kernel.nft = some (renderNftDocument blake3 active (some pending) true) ∨
          kernel.nft = some (renderNftDocument blake3 (some pending) none true))) :
    Ensures (accepting blake3 (transitionJournal blake3 active lost pending)) kernel m removeGuard
      (fun _ k' m' => (m.guardInstalled = true → NftBatch.deleteGuard.apply kernel = some k') ∧
        m' = { m with guardInstalled := false })
      (fun k' m' => k' = kernel ∧ m' = m) := by
  refine Ensures.bind (Ensures.get (Q := fun a k' m' => a = m ∧ k' = kernel ∧ m' = m)
    ⟨rfl, rfl, rfl⟩) ?_
  rintro _ k₁ m₁ ⟨rfl, rfl, rfl⟩
  cases hinstalled : m₁.guardInstalled with
  | false =>
    apply Ensures.pure
    refine ⟨fun hcontra => absurd hcontra Bool.false_ne_true, ?_⟩
    rw [← hinstalled]
  | true =>
    obtain ⟨haccepts, hnft⟩ := hguard hinstalled
    obtain ⟨nft, routing⟩ := k₁
    obtain ⟨document, rfl, hdocument⟩ : ∃ document, nft = some document ∧
        (document = renderNftDocument blake3 active (some pending) true ∨
          document = renderNftDocument blake3 (some pending) none true) := by
      rcases hnft with hnft | hnft
      · exact ⟨_, hnft, Or.inl rfl⟩
      · exact ⟨_, hnft, Or.inr rfl⟩
    obtain ⟨kernel', hbatch, haccepts'⟩ := h.accepts_unguarded hdocument haccepts
    refine Ensures.bind ((runNftBatch_ensures hbatch (fine_accepting haccepts)
      (fine_accepting haccepts')).conseq (fun _ _ _ hpost => hpost) ?_) ?_
    · rintro k' m' ⟨rfl, rfl, -⟩
      exact ⟨rfl, rfl⟩
    · rintro _ k' m' ⟨rfl, rfl, -⟩
      apply Ensures.modify
      exact ⟨fun _ => hbatch, rfl⟩

/-- The rollback of a failed stage, and the removal of the guard after it. -/
theorem runMutatingStage_accepting {kernel : KernelState} {m : CommandKernelRunner}
    {stage : ApplyStage} {action : Runner Unit} {Q : Unit → KernelState → CommandKernelRunner → Prop}
    (haction : Ensures (accepting blake3 (transitionJournal blake3 active lost pending)) kernel m
      action Q (Recoverable blake3 active lost pending)) :
    Ensures (accepting blake3 (transitionJournal blake3 active lost pending)) kernel m
      (runMutatingStage blake3 active stage action) Q (fun _ _ => True) := by
  refine Ensures.bind (Ensures.attempt haction) ?_
  rintro result kernel m hresult
  cases result with
  | ok _ => exact Ensures.pure hresult
  | error primary =>
    have hrecoverable : Recoverable blake3 active lost pending kernel m := hresult
    refine Ensures.bind (Ensures.attempt (restore_accepting h.valid hrecoverable.accepts
      hrecoverable.rollable hrecoverable.serves)) ?_
    intro rollback kernel' m' hrollback
    -- The guard is only still there when the table is what the failed stage left.
    have hguard : m'.guardInstalled = true → m' = m ∧ kernel'.nft = kernel.nft ∧
        Accepts blake3 (transitionJournal blake3 active lost pending) kernel' := by
      cases rollback with
      | ok _ =>
        intro hguard
        rw [show m'.guardInstalled = false from hrollback] at hguard
        cases hguard
      | error _ => exact hrollback
    refine Ensures.bind (Ensures.attempt (removeGuard_accepting h ?_)) ?_
    · intro hinstalled
      obtain ⟨rfl, hnft, haccepts⟩ := hguard hinstalled
      rw [hnft]
      exact ⟨haccepts, hrecoverable.guarded hinstalled⟩
    · intro cleanup kernel'' m'' _
      exact Ensures.fail trivial

/-! ## Stage by stage -/

omit h in
/-- The kernel a transition starts from: the active plan's committed table and the routing
it has, or nothing at all. -/
structure CommittedKernel (blake3 : Blake3) (active : Option KernelPlan) (lost : LostUnicast)
    (kernel : KernelState) : Prop where
  table : kernel.nft.map (nftDocumentFingerprint blake3) = active.map fun plan =>
    nftDocumentFingerprint blake3 (renderNftDocument blake3 (some plan) none false)
  routing : kernel.routing = startingRouting (active.map (routingBasis lost))

omit h in
theorem CommittedKernel.rollable {kernel : KernelState}
    (hkernel : CommittedKernel blake3 active lost kernel) :
    (transitionJournal blake3 active lost pending).Rollable kernel := by
  have htable := congrArg Option.isSome hkernel.table
  rw [Option.isSome_map, Option.isSome_map] at htable
  rw [PendingJournal.Rollable, htable]
  cases active with
  | none => exact Or.inr rfl
  | some plan => exact Or.inl rfl

theorem Distinguishable.accepts_committed {kernel : KernelState}
    (hkernel : CommittedKernel blake3 active lost kernel) :
    Accepts blake3 (transitionJournal blake3 active lost pending) kernel := by
  have hvalid : (transitionJournal blake3 active lost pending).Valid blake3 := h.valid
  have huntouched : (transitionJournal blake3 active lost pending).phase blake3 kernel.nft =
      some .untouched := by
    have htable := hkernel.table
    cases active with
    | none =>
      have hnft : kernel.nft = none := by simpa using htable
      rw [hnft, phase_none hvalid]
      rfl
    | some plan =>
      obtain ⟨document, hnft, hdocument⟩ := Option.map_eq_some_iff.1 htable
      rw [hnft]
      exact phase_active hvalid rfl hdocument
  rw [accepts_iff hvalid]
  refine ⟨.untouched, huntouched, ?_⟩
  rw [hkernel.routing]
  exact RollsBackTo.of_mem (List.mem_singleton.2 rfl)

omit h in
/-- The memory of the runner while the guard is installed. -/
def guardedRunner (active : Option KernelPlan) (lost : LostUnicast) (pending : KernelPlan) :
    CommandKernelRunner :=
  ⟨active, active.map (routingBasis lost), some pending, true, true⟩

/-- A guarded table with a routing state of its phase can be rolled back. -/
theorem Distinguishable.recoverable {phase : PendingNftPhase}
    (hphase : phase = .guard ∨ phase = .activated) {document : Document}
    (hdocument : phaseDocument blake3 active pending phase = some document)
    {routing : RoutingOwnership}
    (hrouting : routing ∈ phaseStates (active.map (routingBasis lost)) pending phase) :
    Recoverable blake3 active lost pending ⟨some document, routing⟩
      (guardedRunner active lost pending) where
  accepts := h.accepts hdocument (.of_mem hrouting)
  rollable := Or.inl rfl
  serves := ⟨rfl, rfl, rfl, rfl⟩
  guarded _ := by
    rcases hphase with rfl | rfl
    · exact Or.inl hdocument.symm
    · exact Or.inr hdocument.symm

theorem installGuard_accepting {kernel : KernelState}
    (hkernel : CommittedKernel blake3 active lost kernel) {m : CommandKernelRunner}
    (hm : m = { CommandKernelRunner.new active lost with tablePresent := kernel.nft.isSome }) :
    Ensures (accepting blake3 (transitionJournal blake3 active lost pending)) kernel m
      (installGuard blake3 pending)
      (fun _ k' m' => k' = ⟨some (renderNftDocument blake3 active (some pending) true),
        startingRouting (active.map (routingBasis lost))⟩ ∧ m' = guardedRunner active lost pending)
      (Recoverable blake3 active lost pending) := by
  subst hm
  have haccepts := h.accepts_committed hkernel
  have hstart : startingRouting (active.map (routingBasis lost)) ∈
      phaseStates (active.map (routingBasis lost)) pending .guard :=
    (mem_states _).2 ⟨[], List.nil_prefix, rfl⟩
  have hguarded := (h.recoverable (Or.inl rfl) rfl hstart).accepts
  have hbatch : (NftBatch.table (if kernel.nft.isSome then .replace else .create)
      (renderNftDocument blake3 active (some pending) true)).apply kernel =
      some ⟨some (renderNftDocument blake3 active (some pending) true),
        startingRouting (active.map (routingBasis lost))⟩ := by
    rw [← hkernel.routing]
    obtain ⟨nft, routing⟩ := kernel
    cases nft <;> rfl
  refine Ensures.bind (Ensures.modify (Q := fun _ k' m' => k' = kernel ∧
    m' = { CommandKernelRunner.new active lost with
      tablePresent := kernel.nft.isSome, next := some pending }) ⟨rfl, rfl⟩) ?_
  rintro _ k₁ m₁ ⟨rfl, rfl⟩
  refine Ensures.bind (Ensures.get (Q := fun a k' m' => a = m' ∧ k' = k₁ ∧
    m' = { CommandKernelRunner.new active lost with
      tablePresent := k₁.nft.isSome, next := some pending }) ⟨rfl, rfl, rfl⟩) ?_
  rintro m₂ k₂ m₃ ⟨rfl, rfl, rfl⟩
  refine Ensures.bind ((runNftBatch_ensures hbatch (fine_accepting haccepts)
    (fine_accepting hguarded)).conseq (fun _ _ _ hpost => hpost) ?_) ?_
  · rintro k' m' ⟨rfl, rfl, -⟩
    exact ⟨haccepts, hkernel.rollable, ⟨rfl, rfl, rfl, rfl⟩, fun hguard => by cases hguard⟩
  · rintro _ k' m' ⟨rfl, rfl, -⟩
    apply Ensures.modify
    exact ⟨rfl, rfl⟩

/-- The runner steps through a list while the table shows one phase. -/
theorem routingSteps_accepting {phase : PendingNftPhase}
    (hphase : phase = .guard ∨ phase = .activated) {document : Document}
    (hdocument : phaseDocument blake3 active pending phase = some document)
    {start : RoutingOwnership} {steps : List RoutingStep} {context : String}
    (hstates : ∀ pre, pre <+: steps →
      runSteps start pre ∈ phaseStates (active.map (routingBasis lost)) pending phase) :
    Ensures (accepting blake3 (transitionJournal blake3 active lost pending))
      ⟨some document, start⟩ (guardedRunner active lost pending)
      (forEach (runRoutingStep context) steps)
      (fun _ k' m' => k' = ⟨some document, runSteps start steps⟩ ∧
        m' = guardedRunner active lost pending)
      (Recoverable blake3 active lost pending) := by
  refine (forEach_performs (fun step _ => runRoutingStep_performs _ step) ?_).conseq ?_ ?_
  · intro pre hpre
    exact fine_accepting (h.recoverable hphase hdocument (hstates pre hpre)).accepts
  · rintro _ k' m' ⟨rfl, rfl, -⟩
    exact ⟨rfl, rfl⟩
  · rintro k' m' ⟨⟨pre, hpre, rfl⟩, rfl, -⟩
    exact h.recoverable hphase hdocument (hstates pre hpre)

theorem prepareRoutes_accepting :
    Ensures (accepting blake3 (transitionJournal blake3 active lost pending))
      ⟨some (renderNftDocument blake3 active (some pending) true),
        startingRouting (active.map (routingBasis lost))⟩ (guardedRunner active lost pending)
      (prepareRoutes pending)
      (fun _ k' m' => k' = ⟨some (renderNftDocument blake3 active (some pending) true),
        runSteps (startingRouting (active.map (routingBasis lost)))
          (transitionSteps (active.map (routingBasis lost)) pending)⟩ ∧
        m' = guardedRunner active lost pending)
      (Recoverable blake3 active lost pending) := by
  refine Ensures.bind (Ensures.get (Q := fun a k' m' => a = guardedRunner active lost pending ∧
    k' = ⟨some (renderNftDocument blake3 active (some pending) true),
      startingRouting (active.map (routingBasis lost))⟩ ∧ m' = guardedRunner active lost pending)
    ⟨rfl, rfl, rfl⟩) ?_
  rintro _ _ _ ⟨rfl, rfl, rfl⟩
  exact routingSteps_accepting h (Or.inl rfl) rfl fun pre hpre => (mem_states _).2 ⟨pre, hpre, rfl⟩

omit h in
/-- The routing after every route and rule of the pending plan was prepared. -/
def preparedRouting (active : Option KernelPlan) (lost : LostUnicast) (pending : KernelPlan) :
    RoutingOwnership :=
  runSteps (startingRouting (active.map (routingBasis lost)))
    (transitionSteps (active.map (routingBasis lost)) pending)

theorem Distinguishable.recoverable_prepared :
    Recoverable blake3 active lost pending
      ⟨some (renderNftDocument blake3 (some pending) none true),
        preparedRouting active lost pending⟩ (guardedRunner active lost pending) := by
  refine h.recoverable (Or.inr rfl) rfl ?_
  exact (mem_states _).2 ⟨[], List.nil_prefix, rfl⟩

theorem activateNft_accepting :
    Ensures (accepting blake3 (transitionJournal blake3 active lost pending))
      ⟨some (renderNftDocument blake3 active (some pending) true),
        preparedRouting active lost pending⟩ (guardedRunner active lost pending)
      (activateNft blake3 pending)
      (fun _ k' m' => k' = ⟨some (renderNftDocument blake3 (some pending) none true),
        preparedRouting active lost pending⟩ ∧ m' = guardedRunner active lost pending)
      (Recoverable blake3 active lost pending) := by
  have hstart : Recoverable blake3 active lost pending
      ⟨some (renderNftDocument blake3 active (some pending) true),
        preparedRouting active lost pending⟩ (guardedRunner active lost pending) := by
    refine h.recoverable (Or.inl rfl) rfl ?_
    exact (mem_states _).2 ⟨_, List.prefix_refl _, rfl⟩
  have hbatch : (NftBatch.table .replace (renderNftDocument blake3 (some pending) none true)).apply
      ⟨some (renderNftDocument blake3 active (some pending) true),
        preparedRouting active lost pending⟩ =
      some ⟨some (renderNftDocument blake3 (some pending) none true),
        preparedRouting active lost pending⟩ := rfl
  refine Ensures.bind ((runNftBatch_ensures hbatch (fine_accepting hstart.accepts)
    (fine_accepting h.recoverable_prepared.accepts)).conseq (fun _ _ _ hpost => hpost) ?_) ?_
  · rintro k' m' ⟨rfl, rfl, -⟩
    exact hstart
  · rintro _ k' m' ⟨rfl, rfl, -⟩
    apply Ensures.modify
    exact ⟨rfl, rfl⟩

theorem verifyPlan_accepting :
    Ensures (accepting blake3 (transitionJournal blake3 active lost pending))
      ⟨some (renderNftDocument blake3 (some pending) none true),
        preparedRouting active lost pending⟩ (guardedRunner active lost pending)
      (verifyPlan blake3 pending)
      (fun _ k' m' => k' = ⟨some (renderNftDocument blake3 (some pending) none true),
        preparedRouting active lost pending⟩ ∧ m' = guardedRunner active lost pending)
      (Recoverable blake3 active lost pending) := by
  refine (verifyPlanBasis_ensures (fine_accepting h.recoverable_prepared.accepts)).conseq
    (fun _ _ _ hpost => hpost) ?_
  rintro k' m' ⟨rfl, rfl, -⟩
  exact h.recoverable_prepared

theorem removeGeneration_accepting {plan : KernelPlan} (hplan : active = some plan) :
    Ensures (accepting blake3 (transitionJournal blake3 active lost pending))
      ⟨some (renderNftDocument blake3 (some pending) none true),
        preparedRouting active lost pending⟩ (guardedRunner active lost pending)
      (removeGeneration plan.generation)
      (fun _ k' m' => k' = ⟨some (renderNftDocument blake3 (some pending) none true),
        runSteps (preparedRouting active lost pending)
          (retireActive (active.map (routingBasis lost)) pending)⟩ ∧
        m' = guardedRunner active lost pending)
      (Recoverable blake3 active lost pending) := by
  subst hplan
  refine Ensures.bind (Ensures.get (Q := fun a k' m' =>
    a = guardedRunner (some plan) lost pending ∧
    k' = ⟨some (renderNftDocument blake3 (some pending) none true),
      preparedRouting (some plan) lost pending⟩ ∧ m' = guardedRunner (some plan) lost pending)
    ⟨rfl, rfl, rfl⟩) ?_
  rintro _ _ _ ⟨rfl, rfl, rfl⟩
  have hprevious : (guardedRunner (some plan) lost pending).previous.filter
      (fun other => other.generation = plan.generation) = some plan := by
    simp [guardedRunner, Option.filter]
  rw [hprevious]
  exact routingSteps_accepting h (Or.inr rfl) rfl fun pre hpre =>
    (mem_states _).2 ⟨pre, hpre, rfl⟩

omit h in
/-- The kernel a transition ends in. -/
def committedKernel (blake3 : Blake3) (plan : KernelPlan) : KernelState :=
  ⟨some (renderNftDocument blake3 (some plan) none false), planRoutingOwnership plan⟩

/-- From the retired active plan on, the pending one is all there is. -/
theorem Distinguishable.run_retire :
    runSteps (preparedRouting active lost pending)
      (retireActive (active.map (routingBasis lost)) pending) = planRoutingOwnership pending := by
  have hvalid : (transitionJournal blake3 active lost pending).Valid blake3 := h.valid
  exact run_forward hvalid.basis_tables h.wellFormed_pending.tables_nodup

theorem lastGuard_accepting :
    Ensures (accepting blake3 (transitionJournal blake3 active lost pending))
      ⟨some (renderNftDocument blake3 (some pending) none true), planRoutingOwnership pending⟩
      (guardedRunner active lost pending) removeGuard
      (fun _ k' m' => k' = committedKernel blake3 pending ∧
        m' = { guardedRunner active lost pending with guardInstalled := false })
      (Recoverable blake3 active lost pending) := by
  have hretired : Recoverable blake3 active lost pending
      ⟨some (renderNftDocument blake3 (some pending) none true), planRoutingOwnership pending⟩
      (guardedRunner active lost pending) := by
    refine h.recoverable (Or.inr rfl) rfl ?_
    refine (mem_states _).2 ⟨_, List.prefix_refl _, ?_⟩
    exact h.run_retire.symm
  refine (removeGuard_accepting h fun hguard =>
    ⟨hretired.accepts, hretired.guarded hguard⟩).conseq ?_ ?_
  · rintro _ k' m' ⟨hk', rfl⟩
    have hbatch := (hk' rfl).symm.trans deleteGuard_apply
    exact ⟨Option.some.inj hbatch, rfl⟩
  · rintro k' m' ⟨rfl, rfl⟩
    exact hretired

/-! ## The whole transition -/

theorem transitionStages_accepting {kernel : KernelState}
    (hkernel : CommittedKernel blake3 active lost kernel) {m : CommandKernelRunner}
    (hm : m = { CommandKernelRunner.new active lost with tablePresent := kernel.nft.isSome }) :
    Ensures (accepting blake3 (transitionJournal blake3 active lost pending)) kernel m
      (transitionStages blake3 active pending)
      (fun _ k' m' => k' = committedKernel blake3 pending ∧
        m' = { guardedRunner active lost pending with guardInstalled := false })
      (fun _ _ => True) := by
  refine Ensures.bind (runMutatingStage_accepting h (installGuard_accepting h hkernel hm)) ?_
  rintro _ _ _ ⟨rfl, rfl⟩
  refine Ensures.bind (runMutatingStage_accepting h (prepareRoutes_accepting h)) ?_
  rintro _ _ _ ⟨rfl, rfl⟩
  refine Ensures.bind (runMutatingStage_accepting h (activateNft_accepting h)) ?_
  rintro _ _ _ ⟨rfl, rfl⟩
  refine Ensures.bind (runMutatingStage_accepting h (verifyPlan_accepting h)) ?_
  rintro _ _ _ ⟨rfl, rfl⟩
  have hretire : runSteps (preparedRouting active lost pending)
      (retireActive (active.map (routingBasis lost)) pending) = planRoutingOwnership pending :=
    h.run_retire
  refine Ensures.bind (Q := fun _ k' m' =>
    k' = ⟨some (renderNftDocument blake3 (some pending) none true), planRoutingOwnership pending⟩ ∧
      m' = guardedRunner active lost pending) ?_ ?_
  · cases hactive : active with
    | none =>
      subst hactive
      exact Ensures.pure ⟨by rw [← hretire]; rfl, rfl⟩
    | some plan =>
      subst hactive
      refine runMutatingStage_accepting h ((removeGeneration_accepting h rfl).conseq ?_
        fun _ _ hpost => hpost)
      rintro _ k' m' ⟨rfl, rfl⟩
      exact ⟨by rw [hretire], rfl⟩
  · rintro _ _ _ ⟨rfl, rfl⟩
    exact runMutatingStage_accepting h (lastGuard_accepting h)

theorem transitionPlan_accepting {conflict : KernelState → Option String} {kernel : KernelState}
    (hkernel : CommittedKernel blake3 active lost kernel) :
    Ensures (accepting blake3 (transitionJournal blake3 active lost pending)) kernel
      (.new active lost) (transitionPlan blake3 conflict active pending)
      (fun _ k' m' => k' = committedKernel blake3 pending ∧
        m' = { guardedRunner active lost pending with guardInstalled := false })
      (fun _ _ => True) := by
  have hfine := fine_accepting (h.accepts_committed hkernel)
  refine Ensures.bind (Ensures.attempt (snapshot_ensures hfine)) ?_
  intro result k₁ m₁ hresult
  cases result with
  | error e => exact Ensures.fail trivial
  | ok captured =>
    obtain ⟨rfl, hm⟩ := hresult
    cases hconflict : conflict captured with
    | some c =>
      simp only [hconflict]
      exact Ensures.fail trivial
    | none =>
      simp only [hconflict]
      refine Ensures.bind (transitionStages_accepting h hkernel hm) ?_
      intro _ k' m' hpost
      exact Ensures.pure hpost

theorem applyPlan_accepting {conflict : KernelState → Option String} {kernel : KernelState}
    (hkernel : CommittedKernel blake3 active lost kernel) :
    Ensures (accepting blake3 (transitionJournal blake3 active lost pending)) kernel
      (.new active lost) (applyPlan blake3 conflict active pending)
      (fun _ k' m' => k' = committedKernel blake3 pending ∧
        m' = { guardedRunner active lost pending with guardInstalled := false })
      (fun _ _ => True) := by
  cases hactive : active with
  | none =>
    subst hactive
    exact transitionPlan_accepting h hkernel
  | some plan =>
    subst hactive
    have hne := h.generation_ne plan rfl
    simp only [applyPlan, if_neg (Ne.symm hne)]
    split
    · exact Ensures.fail trivial
    · exact transitionPlan_accepting h hkernel

/-- A transition that has committed the kernel and then cannot commit the journal. -/
theorem Distinguishable.recoverable_committed :
    Recoverable blake3 active lost pending (committedKernel blake3 pending)
      { guardedRunner active lost pending with guardInstalled := false } where
  accepts := by
    have hcommitted : RollsBackTo (active.map (routingBasis lost)) pending .committed
        (planRoutingOwnership pending) := .of_mem List.mem_cons_self
    exact h.accepts rfl hcommitted
  rollable := Or.inl rfl
  serves := ⟨rfl, rfl, rfl, rfl⟩
  guarded hguard := by cases hguard

theorem undoCommitted_accepting {error : Option RunnerError → TransitionError} :
    Ensures (accepting blake3 (transitionJournal blake3 active lost pending))
      (committedKernel blake3 pending)
      { guardedRunner active lost pending with guardInstalled := false }
      (undoCommitted blake3 active error) (fun _ _ _ => True) (fun _ _ => True) := by
  have hcommitted : Recoverable blake3 active lost pending (committedKernel blake3 pending)
      { guardedRunner active lost pending with guardInstalled := false } := h.recoverable_committed
  refine Ensures.bind (Ensures.attempt (restore_accepting h.valid hcommitted.accepts
    hcommitted.rollable hcommitted.serves)) ?_
  intro _ _ _ _
  exact Ensures.fail trivial

theorem commitTransition_accepting {routingFingerprint : RoutingOwnership → String}
    {expectations : PendingExpectations} :
    Ensures (accepting blake3 (transitionJournal blake3 active lost pending))
      (committedKernel blake3 pending)
      { guardedRunner active lost pending with guardInstalled := false }
      (commitTransition blake3 routingFingerprint active expectations pending)
      (fun _ _ _ => True) (fun _ _ => True) := by
  have hcommitted : Recoverable blake3 active lost pending (committedKernel blake3 pending)
      { guardedRunner active lost pending with guardInstalled := false } := h.recoverable_committed
  have hfine := fine_accepting hcommitted.accepts
  have hlive : Ensures (accepting blake3 (transitionJournal blake3 active lost pending))
      (committedKernel blake3 pending)
      { guardedRunner active lost pending with guardInstalled := false }
      (liveNftFingerprint blake3) (fun _ k' m' => k' = committedKernel blake3 pending ∧
        m' = { guardedRunner active lost pending with guardInstalled := false })
      (fun k' m' => k' = committedKernel blake3 pending ∧
        m' = { guardedRunner active lost pending with guardInstalled := false }) := by
    refine Ensures.bind ((Ensures.read hfine).conseq (fun _ _ _ hpost => hpost)
      fun _ _ hpost => ⟨hpost.1, hpost.2.1⟩) ?_
    rintro _ _ _ ⟨rfl, rfl, rfl⟩
    exact Ensures.pure ⟨rfl, rfl⟩
  refine Ensures.bind (Ensures.attempt hlive) ?_
  intro result k₁ m₁ hresult
  cases result with
  | error e =>
    obtain ⟨rfl, rfl⟩ := hresult
    exact undoCommitted_accepting h
  | ok applied =>
    obtain ⟨rfl, rfl⟩ := hresult
    refine Ensures.bind (Ensures.attempt (captureSnapshot_ensures hfine)) ?_
    intro captured k₂ m₂ hcaptured
    have hsame : k₂ = committedKernel blake3 pending ∧
        m₂ = { guardedRunner active lost pending with guardInstalled := false } := by
      cases captured with
      | ok _ => exact hcaptured.2
      | error _ => exact ⟨hcaptured.1, hcaptured.2.1⟩
    obtain ⟨rfl, rfl⟩ := hsame
    split
    · refine Ensures.bind (Ensures.attempt (Ensures.read hfine)) ?_
      intro saved k₃ m₃ hsaved
      cases saved with
      | ok _ => exact Ensures.pure trivial
      | error e =>
        obtain ⟨rfl, rfl, -⟩ := hsaved
        exact undoCommitted_accepting h
    · exact undoCommitted_accepting h

theorem transitionWith_accepting {routingFingerprint : RoutingOwnership → String}
    {conflict : KernelState → Option String} {restoring : Bool} {kernel : KernelState}
    (hkernel : CommittedKernel blake3 active lost kernel) :
    Ensures (accepting blake3 (transitionJournal blake3 active lost pending)) kernel
      (.new active lost)
      (transitionWith blake3 routingFingerprint conflict active lost restoring pending)
      (fun _ _ _ => True) (fun _ _ => True) := by
  have htransition : Ensures (accepting blake3 (transitionJournal blake3 active lost pending))
      kernel (.new active lost)
      (if restoring then transitionPlan blake3 conflict active pending
        else applyPlan blake3 conflict active pending)
      (fun _ k' m' => k' = committedKernel blake3 pending ∧
        m' = { guardedRunner active lost pending with guardInstalled := false })
      (fun _ _ => True) := by
    cases restoring with
    | true => exact transitionPlan_accepting h hkernel
    | false => exact applyPlan_accepting h hkernel
  refine Ensures.bind (Ensures.attempt htransition) ?_
  intro result k₁ m₁ hresult
  cases result with
  | error e => exact Ensures.fail trivial
  | ok _ =>
    obtain ⟨rfl, rfl⟩ := hresult
    exact commitTransition_accepting h

end Transition

/-- **Crash safety.**  Whichever commands fail, every kernel state of a transition is one the
check of the pending journal accepts: on the way forward, in a rollback, when the guard is
removed after a rollback that failed, and when a committed kernel is rolled back because the
journal of the commit could not be saved.  In that last case the pending journal must be the
one left on disk: a save that fails after its rename leaves the committed one. -/
theorem transition_crash_accepted {blake3 : Blake3} {active : Option KernelPlan}
    {lost : LostUnicast} {pending : KernelPlan}
    (hactive : ∀ plan ∈ active, validatePrivilegedPlan plan = .ok ())
    (hpending : validatePrivilegedPlan pending = .ok ())
    (hgeneration : ∀ plan ∈ active, plan.generation ≠ pending.generation)
    (hdigests : DigestsTellApart blake3 active pending)
    {kernel : KernelState} (hkernel : CommittedKernel blake3 active lost kernel)
    (routingFingerprint : RoutingOwnership → String) (conflict : KernelState → Option String)
    (restoring : Bool) (faults : ℕ → Bool) :
    verifyPendingTableOwnership blake3 (transitionJournal blake3 active lost pending) kernel =
        .ok () ∧
      ∀ e ∈ (transitionWith blake3 routingFingerprint conflict active lost restoring pending
          ⟨kernel, .new active lost, faults⟩).events,
        verifyPendingTableOwnership blake3 (transitionJournal blake3 active lost pending)
          e.state = .ok () := by
  have h : Distinguishable blake3 active pending :=
    ⟨fun plan hplan => validatePrivilegedPlan_eq_ok.1 (hactive plan hplan),
      validatePrivilegedPlan_eq_ok.1 hpending, hgeneration, hdigests⟩
  refine ⟨h.accepts_committed hkernel, ?_⟩
  exact (transitionWith_accepting h hkernel faults (fun _ _ => trivial) fun _ _ => trivial).1

/-- Digests that tell documents of different lengths apart. -/
def lengthDigests : Blake3 :=
  ⟨fun _ => "", fun _ => "", fun document => String.ofList (List.replicate document.length 'x')⟩

/-- The stand-in plan's successor, which blocks everything. -/
def successorPlan : KernelPlan := { standInPlan with generation := 2, lanes := [], rules := [] }

/-- The lengths of the documents of the transition between the two. -/
def handoverLength : PendingNftPhase → Option ℕ
  | .untouched => some 64
  | .guard => some 74
  | .guardlessTransaction => some 65
  | .activated => some 47
  | .committed => some 38
  | .rollbackAbsent => none

theorem length_phaseDocument (phase : PendingNftPhase) :
    (phaseDocument lengthDigests (some standInPlan) successorPlan phase).map List.length =
      handoverLength phase := by
  cases phase <;> decide

theorem length_normalize (document : Document) :
    (normalizeNftDocument document).length = document.length := by
  have hsplit := List.length_eq_countP_add_countP Object.isRule (l := document)
  rw [normalizeNftDocument, List.length_map, List.length_append, ← List.countP_eq_length_filter,
    ← List.countP_eq_length_filter]
  simp only [Bool.not_eq_true, Bool.decide_eq_false] at hsplit
  omega

theorem lengthDigests_tellApart :
    DigestsTellApart lengthDigests (some standInPlan) successorPlan := by
  intro phase phase' d d' hd hd' heq
  have hlength : d.length = d'.length := by
    have hchars := congrArg String.length heq
    simpa [nftDocumentFingerprint, lengthDigests, length_normalize] using hchars
  have hphase := length_phaseDocument phase
  have hphase' := length_phaseDocument phase'
  rw [hd, Option.map_some] at hphase
  rw [hd', Option.map_some, ← hlength, hphase] at hphase'
  have hsame : phase = phase' := by
    cases phase <;> cases phase' <;> first | rfl | cases hphase'
  rw [hsame, hd'] at hd
  rw [Option.some.inj hd]

theorem transition_crash_accepted_handover :
    verifyPendingTableOwnership lengthDigests
        (transitionJournal lengthDigests (some standInPlan) ∅ successorPlan)
        (committedKernel lengthDigests standInPlan) = .ok () ∧
      ∀ e ∈ (transitionWith lengthDigests (fun _ => "") (fun _ => none) (some standInPlan) ∅ false
          successorPlan ⟨committedKernel lengthDigests standInPlan, .new (some standInPlan) ∅,
            fun i => i == 9⟩).events,
        verifyPendingTableOwnership lengthDigests
          (transitionJournal lengthDigests (some standInPlan) ∅ successorPlan) e.state =
            .ok () := by
  have hactive : ∀ plan ∈ some standInPlan, validatePrivilegedPlan plan = .ok () := by
    intro plan hplan
    obtain rfl := Option.mem_some_iff.1 hplan
    decide
  have hgeneration : ∀ plan ∈ some standInPlan, plan.generation ≠ successorPlan.generation := by
    intro plan hplan
    obtain rfl := Option.mem_some_iff.1 hplan
    decide
  exact transition_crash_accepted hactive (by decide) hgeneration lengthDigests_tellApart
    ⟨rfl, by decide⟩ _ _ _ _

end RouteLane
