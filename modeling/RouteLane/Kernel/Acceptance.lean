import RouteLane.Kernel.RunnerSpec

/-!
# What the journal check accepts

The check read as a predicate on kernel states, and the ways along which it stays
satisfied: a rollback in front of an nft table, the cleared kernel after it, and every
step of bringing the active plan back.
-/

namespace RouteLane

open Nft Faults Program Steps

/-- What a pending journal has to be for its recovery: the plans pass the helper's
validation, and the fingerprint of the active plan is that of its committed table. -/
structure PendingJournal.Valid (blake3 : Blake3) (journal : PendingJournal) : Prop where
  active : ∀ plan ∈ journal.active, plan.WellFormed
  pending : journal.pending.WellFormed
  fingerprint : journal.activeNftFingerprint = journal.active.map fun plan =>
    nftDocumentFingerprint blake3 (renderNftDocument blake3 (some plan) none false)

/-- The routing the active plan has. -/
def PendingJournal.basis (journal : PendingJournal) : Option KernelPlan :=
  journal.active.map (routingBasis journal.expectations.lostUnicast)

/-- The phase the journal reads off a table. -/
def PendingJournal.phase (blake3 : Blake3) (journal : PendingJournal) (nft : Option Document) :
    Option PendingNftPhase :=
  pendingNftPhase journal.active journal.activeNftFingerprint
    (nft.map (nftDocumentFingerprint blake3)) journal.expectations

/-- The journal check accepts a kernel. -/
def Accepts (blake3 : Blake3) (journal : PendingJournal) (kernel : KernelState) : Prop :=
  verifyPendingTableOwnership blake3 journal kernel = .ok ()

instance (blake3 : Blake3) (journal : PendingJournal) (kernel : KernelState) :
    Decidable (Accepts blake3 journal kernel) :=
  inferInstanceAs (Decidable (verifyPendingTableOwnership blake3 journal kernel = .ok ()))

variable {blake3 : Blake3} {journal : PendingJournal} {kernel : KernelState}

theorem PendingJournal.Valid.basis_tables (h : journal.Valid blake3) :
    ∀ plan ∈ journal.basis, (plan.lanes.map LanePlan.table).Nodup := by
  intro plan hplan
  obtain ⟨active, hactive, rfl⟩ := Option.mem_map.1 hplan
  rw [tables_routingBasis]
  exact (h.active active hactive).tables_nodup

/-- The check goes by the phase of the table and the crash states of the phase. -/
theorem accepts_iff (h : journal.Valid blake3) :
    Accepts blake3 journal kernel ↔ ∃ phase, journal.phase blake3 kernel.nft = some phase ∧
      CrashRouting journal.basis journal.pending phase kernel.routing := by
  have hreachable : ∀ phase, routingStateReachableForPhase kernel.routing journal.basis
      journal.pending phase = .ok true ↔
        CrashRouting journal.basis journal.pending phase kernel.routing :=
    fun phase => routingStateReachableForPhase_eq_ok h.basis_tables h.pending.tables_nodup
  rw [Accepts, verifyPendingTableOwnership]
  cases hphase : journal.phase blake3 kernel.nft with
  | none =>
    rw [PendingJournal.phase] at hphase
    simp [hphase, throw, throwThe, MonadExceptOf.throw]
  | some phase =>
    rw [PendingJournal.phase] at hphase
    simp only [hphase]
    show (routingStateReachableForPhase kernel.routing journal.basis journal.pending phase >>= _) =
      Except.ok () ↔ _
    rw [Fallible.bind_eq_ok]
    constructor
    · rintro ⟨valid, hvalid, hok⟩
      cases valid with
      | true => exact ⟨phase, rfl, (hreachable phase).1 hvalid⟩
      | false => cases hok
    · rintro ⟨_, heq, hcrash⟩
      obtain rfl := Option.some.inj heq
      exact ⟨true, (hreachable phase).2 hcrash, rfl⟩

/-! ## Phases -/

/-- A table is never taken for an absent one. -/
theorem phase_ne_rollbackAbsent {nft : Option Document} {phase : PendingNftPhase}
    (hphase : journal.phase blake3 nft = some phase)
    (htable : nft.isSome = true ∨ journal.active = none) : phase ≠ .rollbackAbsent := by
  rintro rfl
  have hjournaled : ∀ live, pendingNftPhase.journaledPhase journal.expectations live ≠
      some .rollbackAbsent := by
    intro live
    rw [pendingNftPhase.journaledPhase]
    split <;> try split <;> try split <;> try split
    all_goals simp
  unfold PendingJournal.phase pendingNftPhase at hphase
  cases nft with
  | none =>
    have hactive : journal.active = none := htable.resolve_left (by simp)
    rw [hactive] at hphase
    cases hfp : journal.activeNftFingerprint <;> simp [hfp] at hphase
  | some document =>
    cases hactive : journal.active with
    | none =>
      cases hfp : journal.activeNftFingerprint <;>
        exact hjournaled _ (by simpa [hactive, hfp] using hphase)
    | some plan =>
      cases hfp : journal.activeNftFingerprint with
      | none => exact hjournaled _ (by simpa [hactive, hfp] using hphase)
      | some expected =>
        simp only [hactive, hfp, Option.map_some] at hphase
        split at hphase
        · cases hphase
        · exact hjournaled _ hphase

/-- Where there is no table, the active plan is being brought back, or there is none. -/
theorem phase_none (h : journal.Valid blake3) :
    journal.phase blake3 none =
      some (if journal.active.isSome then .rollbackAbsent else .untouched) := by
  rw [PendingJournal.phase, h.fingerprint]
  cases journal.active <;> rfl

/-- The committed table of the active plan is an untouched one. -/
theorem phase_active (h : journal.Valid blake3) {plan : KernelPlan}
    (hactive : journal.active = some plan) {document : Document}
    (hdocument : nftDocumentFingerprint blake3 document =
      nftDocumentFingerprint blake3 (renderNftDocument blake3 (some plan) none false)) :
    journal.phase blake3 (some document) = some .untouched := by
  rw [PendingJournal.phase, h.fingerprint, hactive, Option.map_some, Option.map_some, hdocument]
  exact if_pos rfl

/-! ## Along a rollback -/

/-- The plans a recovery or a failed transition rolls back. -/
abbrev PendingJournal.plans (journal : PendingJournal) : List KernelPlan :=
  rollbackPlans journal.active journal.pending

/-- A table is there, or there is no plan to bring back: the states from which a rollback
is a rollback the check knows of. -/
def PendingJournal.Rollable (journal : PendingJournal) (kernel : KernelState) : Prop :=
  kernel.nft.isSome = true ∨ journal.active = none

theorem Accepts.rollsBackTo (h : journal.Valid blake3) (hkernel : Accepts blake3 journal kernel)
    (hrollable : journal.Rollable kernel) : ∃ phase, phase ≠ .rollbackAbsent ∧
      journal.phase blake3 kernel.nft = some phase ∧
      RollsBackTo journal.basis journal.pending phase kernel.routing := by
  obtain ⟨phase, hphase, hcrash⟩ := (accepts_iff h).1 hkernel
  have hne := phase_ne_rollbackAbsent hphase hrollable
  rw [CrashRouting, if_neg hne] at hcrash
  exact ⟨phase, hne, hphase, hcrash⟩

/-- A rollback in front of a table stays accepted after every step. -/
theorem Accepts.runSteps (h : journal.Valid blake3) (hkernel : Accepts blake3 journal kernel)
    (hrollable : journal.Rollable kernel) {pre : List RoutingStep}
    (hpre : pre <+: rollbackSteps journal.plans) : Accepts blake3 journal (kernel.runSteps pre) := by
  obtain ⟨phase, hne, hphase, hcrash⟩ := hkernel.rollsBackTo h hrollable
  rw [← rollbackSteps_routingBasis journal.expectations.lostUnicast] at hpre
  rw [accepts_iff h]
  refine ⟨phase, hphase, ?_⟩
  rw [CrashRouting, if_neg hne]
  exact hcrash.stopped hpre

/-- A whole rollback clears the kernel. -/
theorem Accepts.cleared_eq (h : journal.Valid blake3) (hkernel : Accepts blake3 journal kernel)
    (hrollable : journal.Rollable kernel) :
    kernel.cleared journal.plans = ⟨none, .empty⟩ := by
  obtain ⟨phase, -, -, hcrash⟩ := hkernel.rollsBackTo h hrollable
  have hempty := hcrash.run_all
  rw [PendingJournal.basis, rollbackSteps_routingBasis] at hempty
  rw [KernelState.cleared, hempty]

/-- A cleared kernel is accepted. -/
theorem accepts_cleared (h : journal.Valid blake3) : Accepts blake3 journal ⟨none, .empty⟩ := by
  rw [accepts_iff h]
  refine ⟨_, phase_none h, ?_⟩
  cases hactive : journal.active with
  | none =>
    rw [PendingJournal.basis, hactive]
    exact RollsBackTo.of_mem (List.mem_singleton.2 rfl)
  | some plan =>
    rw [PendingJournal.basis, hactive]
    exact (mem_states _).2 ⟨[], List.nil_prefix, rfl⟩

/-- The active plan is brought back through accepted states. -/
theorem accepts_reinstalling (h : journal.Valid blake3) {plan : KernelPlan}
    (hactive : journal.active = some plan) {pre : List RoutingStep}
    (hpre : pre <+: installSteps (routingBasis journal.expectations.lostUnicast plan)) :
    Accepts blake3 journal ((⟨none, .empty⟩ : KernelState).runSteps pre) := by
  rw [accepts_iff h]
  refine ⟨_, phase_none h, ?_⟩
  rw [PendingJournal.basis, hactive]
  exact (mem_states _).2 ⟨pre, hpre, rfl⟩

/-- The active plan brought back is accepted. -/
theorem accepts_restored (h : journal.Valid blake3) {plan : KernelPlan}
    (hactive : journal.active = some plan) :
    Accepts blake3 journal (restoredKernel blake3 plan
      (routingBasis journal.expectations.lostUnicast plan)) := by
  rw [accepts_iff h]
  refine ⟨.untouched, phase_active h hactive rfl, ?_⟩
  rw [PendingJournal.basis, hactive]
  exact RollsBackTo.of_mem (List.mem_singleton.2 rfl)

/-! ## The restore -/

/-- A runner that rolls this journal's transition back. -/
structure CommandKernelRunner.Serves (m : CommandKernelRunner) (journal : PendingJournal)
    (kernel : KernelState) : Prop where
  previous : m.previous = journal.active
  previousRouting : m.previousRouting = journal.basis
  next : m.next = some journal.pending
  tablePresent : m.tablePresent = kernel.nft.isSome

variable {m : CommandKernelRunner}

theorem CommandKernelRunner.Serves.plans_eq (h : m.Serves journal kernel) :
    m.plans = journal.plans := by
  rw [CommandKernelRunner.plans, h.previous, h.next]
  rfl

theorem CommandKernelRunner.Serves.restoredRouting_eq (h : m.Serves journal kernel)
    {plan : KernelPlan} (hactive : journal.active = some plan) :
    m.restoredRouting plan = routingBasis journal.expectations.lostUnicast plan := by
  rw [CommandKernelRunner.restoredRouting, h.previous, h.previousRouting, PendingJournal.basis,
    hactive]
  exact if_pos rfl

/-- Every event is a kernel the journal check accepts. -/
abbrev accepting (blake3 : Blake3) (journal : PendingJournal) : Regime KernelState :=
  always fun e => Accepts blake3 journal e.state

theorem fine_accepting (hkernel : Accepts blake3 journal kernel) :
    (accepting blake3 journal).Fine kernel := fun _ _ => hkernel

/-- Bringing the active plan back from a cleared kernel. -/
theorem reinstall_accepting (h : journal.Valid blake3) {plan : KernelPlan}
    (hactive : journal.active = some plan)
    (hrouting : m.restoredRouting plan = routingBasis journal.expectations.lostUnicast plan) :
    Ensures (accepting blake3 journal) ⟨none, .empty⟩ m (reinstall blake3 plan)
      (fun _ _ m' => m'.guardInstalled = m.guardInstalled)
      (fun _ m' => m'.guardInstalled = m.guardInstalled) := by
  refine (reinstall_ensures ?_ ?_).conseq ?_ fun _ _ hm' => hm'
  · intro pre hpre
    rw [hrouting] at hpre
    exact fine_accepting (accepts_reinstalling h hactive hpre)
  · rw [hrouting]
    exact fine_accepting (accepts_restored h hactive)
  · rintro _ k' m' ⟨-, rfl⟩
    rfl

/-- A restore in front of a table passes through accepted states only.  When it gives up
before the table is gone, the table is what it was. -/
theorem restore_accepting (h : journal.Valid blake3) (hkernel : Accepts blake3 journal kernel)
    (hrollable : journal.Rollable kernel) (hserves : m.Serves journal kernel) :
    Ensures (accepting blake3 journal) kernel m (restore blake3 journal.active)
      (fun _ _ m' => m'.guardInstalled = false)
      (fun k' m' => m'.guardInstalled = true → m' = m ∧ k'.nft = kernel.nft ∧
        Accepts blake3 journal k') := by
  have hclear : Ensures (accepting blake3 journal) kernel m clearForRollback
      (fun _ k' m' => k' = ⟨none, .empty⟩ ∧
        m' = { m with tablePresent := false, guardInstalled := false })
      (fun k' m' => m'.guardInstalled = true → m' = m ∧ k'.nft = kernel.nft ∧
        Accepts blake3 journal k') := by
    refine (clearForRollback_ensures hserves.tablePresent ?_ ?_).conseq ?_ ?_
    · intro pre hpre
      rw [hserves.plans_eq] at hpre
      exact fine_accepting (hkernel.runSteps h hrollable hpre)
    · rw [hserves.plans_eq, hkernel.cleared_eq h hrollable]
      exact fine_accepting (accepts_cleared h)
    · rintro _ k' m' ⟨rfl, rfl, -⟩
      rw [hserves.plans_eq, hkernel.cleared_eq h hrollable]
      exact ⟨rfl, rfl⟩
    · rintro k' m' ⟨⟨pre, hpre, rfl⟩, rfl, -⟩ -
      rw [hserves.plans_eq] at hpre
      exact ⟨rfl, rfl, hkernel.runSteps h hrollable hpre⟩
  cases hactive : journal.active with
  | none =>
    refine hclear.conseq ?_ fun _ _ hm' => hm'
    rintro _ k' m' ⟨-, rfl⟩
    rfl
  | some plan =>
    refine Ensures.bind hclear ?_
    rintro _ k' m' ⟨rfl, rfl⟩
    have hrouting := hserves.restoredRouting_eq hactive
    refine (reinstall_accepting (m := { m with tablePresent := false, guardInstalled := false })
      h hactive hrouting).conseq (fun _ _ _ hm' => hm') ?_
    intro k' m' hm' hguard
    rw [hm'] at hguard
    cases hguard

end RouteLane
