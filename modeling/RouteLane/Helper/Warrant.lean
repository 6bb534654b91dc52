import RouteLane.Backend.GrantConfinement
import RouteLane.Backend.Preservation
import RouteLane.Lib.Upholding

/-!
# What was authorized

Whatever the helper has in its journal or its memory it can put into the kernel, now or
after a restart: the plan in force and the one on its way, the policy it recompiles by
itself, and what a receipt would bring back.  A warrant says which policies and plans
somebody was authorized for.  Every operation of the backend, however it fails and wherever
it is killed, keeps journal and memory within a warrant that covers what it was asked for.
-/

namespace RouteLane

open Fallible Nft Faults Program

/-- The policies and the plans somebody was authorized for.  A policy may be decided anew and
a plan numbered anew, and a policy covers every plan it confines. -/
structure Warrant where
  policy : RuntimeRecord → Prop
  plan : KernelPlan → Prop
  undecided : Undecided policy
  renumbered : ∀ next generation, plan next → plan { next with generation := generation }
  compiled : ∀ record topology next, policy record → Confined record topology next → plan next

namespace Warrant

variable (w : Warrant)

/-- Both things a receipt would bring back are covered. -/
structure Receipt (receipt : RuntimeRestoreReceipt) : Prop where
  plan : ∀ plan ∈ receipt.previousPlan, w.plan plan
  policy : ∀ record ∈ receipt.previousRecord, w.policy record

structure Journal (record : StoredAppliedState) : Prop where
  active : ∀ plan ∈ record.active, w.plan plan
  pending : ∀ plan ∈ record.pending, w.plan plan
  runtime : ∀ runtime ∈ record.runtime, w.policy runtime
  pendingRuntime : ∀ runtime ∈ record.pendingRuntime, w.policy runtime
  restore : ∀ receipt ∈ record.runtimeRestore, w.Receipt receipt

/-- The journal on disk, if there is one, is covered. -/
def Store (store : Option StoredAppliedState) : Prop := ∀ record ∈ store, w.Journal record

structure Memory (m : Backend) : Prop where
  current : ∀ plan ∈ m.current, w.plan plan
  runtime : ∀ runtime ∈ m.runtime, w.policy runtime.record
  restore : ∀ receipt ∈ m.runtimeRestore, w.Receipt receipt

/-- From this view and memory, journal and memory stay covered, whatever fails. -/
abbrev Upheld {α : Type} (v : JournalView) (m : Backend) (q : BackendM α) : Prop :=
  Upholds System.view (fun v => w.Store v.store) w.Memory v m q

end Warrant

/-! ## Journals and memories -/

section Records

variable {w : Warrant} {p : Primitives} {record : StoredAppliedState} {m m' : Backend}
  {store : Option StoredAppliedState}

theorem Warrant.Store.none : w.Store none := by
  intro record hrecord
  cases hrecord

theorem Warrant.Journal.stored (h : w.Journal record) : w.Store (some record) := by
  rintro _ ⟨⟩
  exact h

/-- A journal without plans and policies. -/
theorem Warrant.Journal.of_none (hactive : record.active = none) (hpending : record.pending = none)
    (hruntime : record.runtime = none) (hpendingRuntime : record.pendingRuntime = none)
    (hrestore : record.runtimeRestore = none) : w.Journal record := by
  constructor
  · rw [hactive]; rintro _ ⟨⟩
  · rw [hpending]; rintro _ ⟨⟩
  · rw [hruntime]; rintro _ ⟨⟩
  · rw [hpendingRuntime]; rintro _ ⟨⟩
  · rw [hrestore]; rintro _ ⟨⟩

theorem Warrant.Journal.committedRecord {plan : KernelPlan} {fingerprint : String}
    {restoreReceipt : Option RestoreReceipt} {extras : CommittedExtras} (hplan : w.plan plan)
    (hruntime : ∀ runtime ∈ extras.runtime, w.policy runtime)
    (hrestore : ∀ receipt ∈ extras.runtimeRestore, w.Receipt receipt) :
    w.Journal (RouteLane.committedRecord plan fingerprint restoreReceipt extras) where
  active := by rintro _ ⟨⟩; exact hplan
  pending := by rintro _ ⟨⟩
  runtime := hruntime
  pendingRuntime := by rintro _ ⟨⟩
  restore := hrestore

theorem Warrant.Store.emptied (restoreReceipt : Option RestoreReceipt) :
    w.Store (emptiedStore restoreReceipt) := by
  cases restoreReceipt with
  | none => exact .none
  | some receipt => exact (Warrant.Journal.of_none rfl rfl rfl rfl rfl).stored

theorem Warrant.Store.committedStore {state : Option KernelPlan} {nftFingerprint : Option String}
    {restoreReceipt : Option RestoreReceipt} {extras : CommittedExtras}
    (hstate : ∀ plan ∈ state, w.plan plan) (hruntime : ∀ runtime ∈ extras.runtime, w.policy runtime)
    (hrestore : ∀ receipt ∈ extras.runtimeRestore, w.Receipt receipt)
    (written : Option StoredAppliedState)
    (h : RouteLane.committedStore state nftFingerprint restoreReceipt extras = some written) :
    w.Store written := by
  unfold RouteLane.committedStore at h
  split at h
  · obtain rfl := Option.some.inj h
    exact (Warrant.Journal.committedRecord (hstate _ rfl) hruntime hrestore).stored
  · split at h
    · obtain rfl := Option.some.inj h
      exact Warrant.Store.emptied restoreReceipt
    · cases h
  · cases h

/-- A recovery writes nothing the journal it found did not have. -/
theorem Warrant.Journal.recoveryWrites (h : w.Journal record)
    {written : Option StoredAppliedState} (hwrites : RecoveryWrites record written) :
    w.Store written := by
  cases hwrites with
  | orphan ownership _ => exact (Warrant.Journal.of_none rfl rfl rfl rfl rfl).stored
  | orphanDone _ => exact .none
  | cleaned _ => exact .emptied record.restoreReceipt
  | repaired _ hwritten => exact .committedStore h.active h.runtime h.restore _ hwritten
  | empty _ _ => exact .none

theorem Warrant.Memory.fresh : w.Memory .fresh where
  current := by rintro _ ⟨⟩
  runtime := by rintro _ ⟨⟩
  restore := by rintro _ ⟨⟩

/-- A memory with another plan in force. -/
theorem Warrant.Memory.with_current (h : w.Memory m) (hcurrent : ∀ plan ∈ m'.current, w.plan plan)
    (hruntime : m'.runtime = m.runtime) (hrestore : m'.runtimeRestore = m.runtimeRestore) :
    w.Memory m' where
  current := hcurrent
  runtime := by rw [hruntime]; exact h.runtime
  restore := by rw [hrestore]; exact h.restore

/-- A memory with nothing in force. -/
theorem Warrant.Memory.emptied (h : w.Memory m) (hcurrent : m'.current = none)
    (hruntime : m'.runtime = m.runtime ∨ m'.runtime = none)
    (hrestore : m'.runtimeRestore = m.runtimeRestore ∨ m'.runtimeRestore = none) :
    w.Memory m' where
  current := by rw [hcurrent]; rintro _ ⟨⟩
  runtime := by
    rcases hruntime with hsame | hnone
    · rw [hsame]; exact h.runtime
    · rw [hnone]; rintro _ ⟨⟩
  restore := by
    rcases hrestore with hsame | hnone
    · rw [hsame]; exact h.restore
    · rw [hnone]; rintro _ ⟨⟩

/-- What of a memory the warrant looks at is the same. -/
theorem Warrant.Memory.same (h : w.Memory m) (hcurrent : m'.current = m.current)
    (hruntime : m'.runtime = m.runtime) (hrestore : m'.runtimeRestore = m.runtimeRestore) :
    w.Memory m' := by
  refine h.with_current ?_ hruntime hrestore
  rw [hcurrent]
  exact h.current

theorem Warrant.Memory.inspected (h : w.Memory m) (hstore : w.Store store)
    (hinspected : Inspected p m store m') : w.Memory m' := by
  cases hinspected with
  | none => exact h.same rfl rfl rfl
  | legacyV2 _ _ => exact h.emptied rfl (Or.inr rfl) (Or.inr rfl)
  | legacyV1 _ _ _ => exact h.emptied rfl (Or.inl rfl) (Or.inl rfl)
  | current _ _ _ => exact h.with_current (hstore _ rfl).active rfl rfl

theorem Warrant.Memory.reconciled (h : w.Memory m) (hrecord : w.Journal record)
    (hreconciled : Reconciled p record m store m') : w.Store store ∧ w.Memory m' := by
  refine ⟨?_, ?_⟩
  · rcases hreconciled.store with rfl | hwrites
    · exact hrecord.stored
    · exact hrecord.recoveryWrites hwrites
  · cases hreconciled with
    | legacyV2 _ _ => exact h.emptied rfl (Or.inr rfl) (Or.inr rfl)
    | legacyV1 _ _ _ => exact h.emptied rfl (Or.inl rfl) (Or.inl rfl)
    | orphan _ _ => exact h.emptied rfl (Or.inl rfl) (Or.inl rfl)
    | cleaned _ _ => exact h.emptied rfl (Or.inl rfl) (Or.inl rfl)
    | repaired _ _ _ => exact h.with_current hrecord.active rfl rfl
    | committed _ _ _ => exact h.with_current hrecord.active rfl rfl
    | empty _ _ _ => exact h.emptied rfl (Or.inl rfl) (Or.inl rfl)

theorem Warrant.Memory.loaded {v : JournalView} (h : w.Memory m) (hstore : w.Store v.store)
    (hloaded : RuntimeLoaded p v m m') : w.Memory m' := by
  cases hloaded with
  | again _ => exact h
  | read mismatch _ _ =>
    have hrecord : w.Journal (v.store.getD {}) := by
      cases hv : v.store with
      | none => exact .of_none rfl rfl rfl rfl rfl
      | some record => exact hstore record hv
    refine ⟨h.current, ?_, hrecord.restore⟩
    intro runtime hruntime
    obtain ⟨record, hmem, rfl⟩ := Option.map_eq_some_iff.1 hruntime
    exact hrecord.runtime record hmem

end Records

/-! ## Reading and recovering -/

section Reading

variable {w : Warrant} {p : Primitives} {v v' : JournalView} {m m' : Backend} {b : Bool}
  {flag : Option StoredAppliedState → Bool}

theorem Warrant.Store.recoveryWrites (h : w.Store v.store) :
    ∀ record written, v.store = some record → RecoveryWrites record written → w.Store written :=
  fun record _ hstore hwrites => (h record hstore).recoveryWrites hwrites

theorem Warrant.Memory.ensured (h : w.Memory m) (hv : w.Store v.store)
    (hensured : EnsuredReconciled p v m v' m') : w.Store v'.store ∧ w.Memory m' := by
  cases hensured with
  | absent _ => exact ⟨hv, h.same rfl rfl rfl⟩
  | already _ _ _ => exact ⟨hv, h⟩
  | reconciled hstore _ hreconciled => exact h.reconciled (hv _ hstore) hreconciled

theorem Warrant.Store.failed (hv : w.Store v.store) {record : StoredAppliedState}
    (hstore : v.store = some record) (hfailed : ReconcileFailed flag v record b v') :
    w.Store v'.store := by
  rcases hfailed.store with hsame | hwrites
  · rwa [hsame]
  · exact hv.recoveryWrites _ _ hstore hwrites

theorem Warrant.Memory.prepared {unverified : Bool} (h : w.Memory m) (hv : w.Store v.store)
    (hprepared : Prepared p v m unverified v' m') : w.Store v'.store ∧ w.Memory m' := by
  cases hprepared with
  | replayed _ _ hreconciled hloaded =>
    obtain ⟨hv', hm'⟩ := h.ensured hv hreconciled
    have hreplayed : w.Memory (Backend.replayed _) := hm'.same rfl rfl rfl
    exact ⟨hv', hreplayed.loaded hv' hloaded⟩
  | read _ hinspected hloaded => exact ⟨hv, (h.inspected hv hinspected).loaded hv hloaded⟩

theorem Warrant.Memory.unprepared (h : w.Memory m) (hv : w.Store v.store)
    (hfailed : PrepareFailed flag p v m b v' m') : w.Store v'.store ∧ w.Memory m' := by
  cases hfailed with
  | unread hsame _ => exact ⟨by rwa [hsame], h⟩
  | unreplayed hstore _ hfailed => exact ⟨hv.failed hstore hfailed, h⟩
  | replayed _ hreconciled =>
    obtain ⟨hv', hm'⟩ := h.ensured hv hreconciled
    exact ⟨hv', hm'.same rfl rfl rfl⟩
  | inspected _ hinspected _ => exact ⟨hv, h.inspected hv hinspected⟩

/-- What a part is known to leave is covered. -/
theorem Warrant.upheld_of_journals {α : Type} {q : BackendM α}
    {Q : Bool → α → JournalView → Backend → Prop} {E : Bool → JournalView → Backend → Prop}
    (h : Journals w.Store (fun _ => false) v m q Q E)
    (hQ : ∀ b a v' m', Q b a v' m' → w.Store v'.store ∧ w.Memory m')
    (hE : ∀ b v' m', E b v' m' → w.Store v'.store ∧ w.Memory m') : w.Upheld v m q :=
  Upholds.of_shows h hQ hE

/-- What follows a computation that may fail is only run with its value. -/
theorem Warrant.upheld_lift_bind {α β : Type} {x : Except PrivilegedError α} {f : α → BackendM β}
    (hv : w.Store v.store) (hm : w.Memory m) (hf : ∀ a, x = .ok a → w.Upheld v m (f a)) :
    w.Upheld v m (lift x >>= f) := by
  cases x with
  | ok a => exact Shows.pure_bind (hf a rfl)
  | error e =>
    show w.Upheld v m (Program.fail e)
    exact Upholds.fail hv hm

theorem Warrant.upheld_ensureInspectionReady (hv : w.Store v.store) (hm : w.Memory m) :
    w.Upheld v m (ensureInspectionReady p) := by
  refine Warrant.upheld_of_journals (ensureInspectionReady_spec hv) ?_ ?_
  · rintro b _ v' m' ⟨rfl, -, hinspected⟩
    exact ⟨hv, hm.inspected hv hinspected⟩
  · rintro b v' m' ⟨rfl, rfl, -⟩
    exact ⟨hv, hm⟩

theorem Warrant.upheld_ensureReconciled (hv : w.Store v.store) (hm : w.Memory m) :
    w.Upheld v m (ensureReconciled p) := by
  refine Warrant.upheld_of_journals (ensureReconciled_spec hv hv.recoveryWrites) ?_ ?_
  · rintro b _ v' m' ⟨-, hensured⟩
    exact hm.ensured hv hensured
  · rintro b v' m' ⟨-, rfl, ⟨hsame, -⟩ | ⟨record, hstore, hfailed⟩⟩
    · exact ⟨by rwa [hsame], hm⟩
    · exact ⟨hv.failed hstore hfailed, hm⟩

theorem Warrant.upheld_loadRuntime (hv : w.Store v.store) (hm : w.Memory m) :
    w.Upheld v m (loadRuntime p) := by
  refine Warrant.upheld_of_journals (loadRuntime_spec hv) ?_ ?_
  · rintro b _ v' m' ⟨rfl, -, hloaded⟩
    exact ⟨hv, hm.loaded hv hloaded⟩
  · rintro b v' m' ⟨rfl, rfl, -⟩
    exact ⟨hv, hm⟩

theorem Warrant.upheld_prepareRuntimeOperation (hv : w.Store v.store) (hm : w.Memory m) :
    w.Upheld v m (prepareRuntimeOperation p) := by
  refine Warrant.upheld_of_journals (prepareRuntimeOperation_spec hv fun record written hstore _ =>
    hv.recoveryWrites record written hstore) ?_ ?_
  · rintro b unverified v' m' ⟨hprepared, -⟩
    exact hm.prepared hv hprepared
  · rintro b v' m' ⟨-, hfailed⟩
    exact hm.unprepared hv hfailed

end Reading

/-! ## Transitions -/

section Transition

variable {w : Warrant} {p : Primitives} {v : JournalView} {m : Backend} {t : Move}

/-- What a transition is asked for is covered. -/
structure Warrant.Moves (w : Warrant) (t : Move) : Prop where
  plan : w.plan t.plan
  runtime : ∀ runtime ∈ t.runtime, w.policy runtime
  restore : ∀ receipt ∈ t.runtimeRestore, w.Receipt receipt

theorem Warrant.Memory.committedRuntime (hm : w.Memory m) :
    ∀ runtime ∈ m.committedExtras.runtime, w.policy runtime := by
  intro record hrecord
  obtain ⟨runtime, hruntime, rfl⟩ := Option.map_eq_some_iff.1 hrecord
  exact hm.runtime runtime hruntime

theorem Warrant.Moves.within (ht : w.Moves t) (hm : w.Memory m) : t.Within w.Store p m where
  pending := by
    intro l _
    refine Warrant.Journal.stored ⟨hm.current, ?_, hm.committedRuntime, ht.runtime, hm.restore⟩
    rintro _ ⟨⟩
    exact ht.plan
  repaired := fun written h =>
    Warrant.Store.committedStore hm.current hm.committedRuntime hm.restore written h
  committed := fun l _ =>
    (Warrant.Journal.committedRecord ht.plan ht.runtime ht.restore).stored

theorem Warrant.Memory.after (hm : w.Memory m) (ht : w.Moves t)
    (l : List InterfaceSettingReceipt) : w.Memory (t.after p m l) := by
  refine ⟨?_, hm.runtime, ht.restore⟩
  rintro _ ⟨⟩
  exact ht.plan

theorem Warrant.Memory.transitionFailed {flag : Option StoredAppliedState → Bool} {b : Bool}
    {v' : JournalView} {m' : Backend} (hm : w.Memory m)
    (h : TransitionFailed flag p t v m b v' m') : w.Memory m' := by
  cases h with
  | refused _ _ => exact hm
  | unsynced _ _ => exact hm
  | pending _ _ _ => exact hm.same rfl rfl rfl
  | repaired _ => exact hm.same rfl rfl rfl
  | committed _ _ _ _ => exact hm.same rfl rfl rfl

/-- A transition that is covered leaves journal and memory covered, on its way and however it
ends. -/
theorem Warrant.Moves.upheld (ht : w.Moves t) (hv : w.Store v.store) (hm : w.Memory m)
    (hadvances : t.Advances m) :
    w.Upheld v m
      (Backend.transitionWith p t.plan t.restoreReceipt t.lost t.runtime t.runtimeRestore) := by
  have hwithin : t.Within w.Store p m := ht.within hm
  refine Warrant.upheld_of_journals (transitionWith_spec hv hwithin hadvances) ?_ ?_
  · rintro b _ v' m' ⟨-, l, hl, hwritten, rfl⟩
    refine ⟨?_, hm.after ht l⟩
    rw [hwritten]
    exact hwithin.committed l hl
  · rintro b v' m' ⟨-, hfailed⟩
    refine ⟨?_, hm.transitionFailed hfailed⟩
    rcases hfailed.left with ⟨hsame, -⟩ | hwritten
    · rwa [hsame]
    · exact hwritten _ hwithin

theorem Warrant.upheld_persistCommitted (hv : w.Store v.store) (hm : w.Memory m)
    {receipt : Option RestoreReceipt} :
    w.Upheld v m
      (persistCommittedWithReceipt p m.current m.currentNftFingerprint receipt m.committedExtras) := by
  have hwritten : ∀ written, committedStore m.current m.currentNftFingerprint receipt
      m.committedExtras = some written → w.Store written :=
    Warrant.Store.committedStore hm.current hm.committedRuntime hm.restore
  refine Warrant.upheld_of_journals (persist_spec hv hwritten) ?_ ?_
  · rintro b _ v' m' ⟨hcommitted, -, rfl⟩
    exact ⟨hwritten _ hcommitted, hm⟩
  · rintro b v' m' ⟨-, rfl, ⟨hsame, -⟩ | ⟨hcommitted, -⟩⟩
    · exact ⟨by rwa [hsame], hm⟩
    · exact ⟨hwritten _ hcommitted, hm⟩

theorem Warrant.upheld_save {record : StoredAppliedState} (hv : w.Store v.store) (hm : w.Memory m)
    (hrecord : w.Journal record) : w.Upheld v m (save p record) := by
  refine Warrant.upheld_of_journals (save_spec hv hrecord.stored) ?_ ?_
  · rintro b _ v' m' ⟨hwritten, -, rfl⟩
    exact ⟨by rw [hwritten]; exact hrecord.stored, hm⟩
  · rintro b v' m' ⟨-, rfl, ⟨hsame, -⟩ | ⟨hwritten, -⟩⟩
    · exact ⟨by rwa [hsame], hm⟩
    · exact ⟨by rw [hwritten]; exact hrecord.stored, hm⟩

theorem Warrant.upheld_clear (hv : w.Store v.store) (hm : w.Memory m) : w.Upheld v m clear := by
  refine Warrant.upheld_of_journals (clear_spec hv Warrant.Store.none) ?_ ?_
  · rintro b _ v' m' ⟨hwritten, -, rfl⟩
    exact ⟨by rw [hwritten]; exact .none, hm⟩
  · rintro b v' m' ⟨-, rfl, ⟨hsame, -⟩ | ⟨hwritten, -⟩⟩
    · exact ⟨by rwa [hsame], hm⟩
    · exact ⟨by rw [hwritten]; exact .none, hm⟩

end Transition

/-! ## Cleaning up -/

section Cleanup

variable {w : Warrant} {p : Primitives} {v : JournalView} {m : Backend}

theorem Warrant.upheld_cleanupLegacy (legacy : LegacyJournalV1) (hv : w.Store v.store)
    (hm : w.Memory m) : w.Upheld v m (cleanupLegacy p legacy) := by
  have hclear : ∀ (cleaned : Bool) (v' : JournalView) (m' : Backend), w.Store v'.store →
      w.Memory m' → w.Upheld v' m' (do
        clear
        modify fun backend : Backend => { backend with legacy := none }
        return cleaned) := by
    intro cleaned v' m' hv' hm'
    refine Upholds.bind (Warrant.upheld_clear hv' hm') fun _ v₁ m₁ hv₁ hm₁ => ?_
    exact Upholds.modify_bind (Upholds.pure hv₁ (hm₁.same rfl rfl rfl))
  refine Upholds.quiet_bind (untouched_require _ _) hv hm fun _ => ?_
  split
  · exact hclear false v m hv hm
  · exact Upholds.fail hv hm
  · refine Upholds.quiet_bind (untouched_onKernel _) hv hm fun _ => ?_
    refine Upholds.bind (Warrant.upheld_save hv hm (.of_none rfl rfl rfl rfl rfl))
      fun _ v₁ m₁ hv₁ hm₁ => ?_
    refine Upholds.quiet_bind (untouched_onKernel _) hv₁ hm₁ fun _ => ?_
    exact hclear true v₁ m₁ hv₁ hm₁

theorem Warrant.upheld_cleanupLegacyV2 (legacy : LegacyJournalV2) (hv : w.Store v.store)
    (hm : w.Memory m) : w.Upheld v m (cleanupLegacyV2 p legacy) := by
  unfold cleanupLegacyV2
  split
  · refine Upholds.quiet_bind (untouched_require _ _) hv hm fun _ => ?_
    refine Upholds.bind (Warrant.upheld_save hv hm (.of_none rfl rfl rfl rfl rfl))
      fun _ v₁ m₁ hv₁ hm₁ => ?_
    refine Upholds.modify_bind ?_
    exact Warrant.upheld_cleanupLegacy _ hv₁ (hm₁.same rfl rfl rfl)
  · refine Upholds.quiet_bind (untouched_require _ _) hv hm fun _ => ?_
    refine Upholds.quiet_bind (untouched_lift _) hv hm fun _ => ?_
    refine Upholds.quiet_bind (untouched_checkLegacyIdentities _) hv hm fun _ => ?_
    refine Upholds.quiet_bind (untouched_onKernel _) hv hm fun _ => ?_
    refine Upholds.bind (Warrant.upheld_save hv hm (.of_none rfl rfl rfl rfl rfl))
      fun _ v₁ m₁ hv₁ hm₁ => ?_
    refine Upholds.modify_bind ?_
    have hdropped : ∀ legacyV2, w.Memory { m₁ with
        legacyV2 := legacyV2, runtime := none, runtimeRestore := none } := by
      intro legacyV2
      exact ⟨hm₁.current, by rintro _ ⟨⟩, by rintro _ ⟨⟩⟩
    refine Upholds.quiet_bind (untouched_onKernel _) hv₁ (hdropped _) fun _ => ?_
    refine Upholds.quiet_bind (untouched_restoreSettingReceipts _) hv₁ (hdropped _) fun _ => ?_
    refine Upholds.bind (Warrant.upheld_clear hv₁ (hdropped _)) fun _ v₂ m₂ hv₂ hm₂ => ?_
    exact Upholds.modify_bind (Upholds.pure hv₂ (hm₂.same rfl rfl rfl))

theorem Warrant.upheld_cleanupCommitted (restoreReceipt : Option RestoreReceipt)
    (hv : w.Store v.store) (hm : w.Memory m) :
    w.Upheld v m (cleanupCommitted p restoreReceipt) := by
  refine Upholds.get_bind ?_
  cases hcurrent : m.current with
  | none =>
    show w.Upheld v m (if _ then _ else _)
    split
    · refine Upholds.bind (Warrant.upheld_clear hv hm) fun _ v₁ m₁ hv₁ hm₁ => ?_
      exact Upholds.modify_bind (Upholds.pure hv₁ (hm₁.same rfl rfl rfl))
    · exact Upholds.pure hv hm
  | some current =>
    have hpending : w.Journal { active := some current
                                activeNftFingerprint := m.currentNftFingerprint
                                cleanupPending := true
                                restoreReceipt := restoreReceipt
                                interfaceSettings := m.interfaceSettings } := by
      refine ⟨?_, by rintro _ ⟨⟩, by rintro _ ⟨⟩, by rintro _ ⟨⟩, by rintro _ ⟨⟩⟩
      rintro _ ⟨⟩
      exact hm.current current hcurrent
    refine Upholds.quiet_bind (untouched_onKernel _) hv hm fun _ => ?_
    refine Upholds.bind (Warrant.upheld_save hv hm hpending) fun _ v₁ m₁ hv₁ hm₁ => ?_
    refine Upholds.quiet_bind (untouched_withRunner _ _) hv₁ hm₁ fun _ => ?_
    refine Upholds.quiet_bind (untouched_lift _) hv₁ hm₁ fun _ => ?_
    refine Upholds.quiet_bind (untouched_restoreSettingReceipts _) hv₁ hm₁ fun _ => ?_
    refine Upholds.modify_bind ?_
    have hm₂ : w.Memory { m₁ with interfaceSettings := [] } := hm₁.same rfl rfl rfl
    have hend : ∀ (v' : JournalView) (m' : Backend), w.Store v'.store → w.Memory m' →
        w.Upheld v' m' (do
          modify fun backend : Backend => { backend with
            current := none, currentNftFingerprint := none, restoreReceipt := restoreReceipt }
          return true) := fun v' m' hv' hm' =>
      Upholds.modify_bind (Upholds.pure hv' (hm'.emptied rfl (Or.inl rfl) (Or.inl rfl)))
    cases restoreReceipt with
    | none => exact Upholds.bind (Warrant.upheld_clear hv₁ hm₂) fun _ => hend
    | some receipt =>
      exact Upholds.bind (Warrant.upheld_save hv₁ hm₂ (.of_none rfl rfl rfl rfl rfl)) fun _ => hend

theorem Warrant.upheld_cleanupWithReceipt (restoreReceipt : Option RestoreReceipt)
    (hv : w.Store v.store) (hm : w.Memory m) :
    w.Upheld v m (cleanupWithReceipt p restoreReceipt) := by
  refine Upholds.bind (Warrant.upheld_ensureInspectionReady hv hm) fun _ v₁ m₁ hv₁ hm₁ => ?_
  refine Upholds.bind (Warrant.upheld_ensureReconciled hv₁ hm₁) fun _ v₂ m₂ hv₂ hm₂ => ?_
  refine Upholds.get_bind ?_
  split
  · exact Warrant.upheld_cleanupLegacyV2 _ hv₂ hm₂
  · exact Warrant.upheld_cleanupLegacy _ hv₂ hm₂
  · refine Upholds.modify_bind (Warrant.upheld_cleanupCommitted restoreReceipt hv₂ ?_)
    exact ⟨hm₂.current, by rintro _ ⟨⟩, by rintro _ ⟨⟩⟩

theorem Warrant.upheld_recoverOrphaned (hv : w.Store v.store) (hm : w.Memory m) :
    w.Upheld v m (recoverOrphaned p) := by
  have horphan : ∀ ownership, w.Store (some (orphanJournal ownership)) := fun ownership =>
    (Warrant.Journal.of_none rfl rfl rfl rfl rfl).stored
  refine Upholds.quiet_bind untouched_load hv hm fun _ => ?_
  refine Upholds.bind (Warrant.upheld_ensureReconciled hv hm) fun _ v₁ m₁ hv₁ hm₁ => ?_
  refine Upholds.get_bind ?_
  refine Upholds.quiet_bind (untouched_require _ _) hv₁ hm₁ fun _ => ?_
  have hcapture : Untouched (captureVerifiedOrphanedOwnership p) := by
    refine Quiet.bind (untouched_onKernel _) fun captured => ?_
    refine Quiet.bind (untouched_lift _) fun _ => ?_
    split
    · refine Quiet.bind (untouched_onKernel _) fun table => ?_
      dsimp only
      split
      · exact Quiet.fail _
      · exact Quiet.pure _
    · exact Quiet.bind (untouched_require _ _) fun _ => Quiet.pure _
  refine Upholds.quiet_bind hcapture hv₁ hm₁ fun ownership => ?_
  split
  · exact Upholds.pure hv₁ hm₁
  · have hsave : Journals w.Store (fun _ => false) v₁ m₁ (save p (orphanJournal ownership))
        _ _ := save_spec hv₁ (horphan ownership)
    refine Upholds.shows_bind hsave ?_ ?_
    · rintro b v' m' ⟨-, rfl, ⟨hsame, -⟩ | ⟨hwritten, -⟩⟩
      · exact ⟨by rwa [hsame], hm₁⟩
      · exact ⟨by rw [hwritten]; exact horphan ownership, hm₁⟩
    · rintro b _ v' m' ⟨hwritten, -, rfl⟩
      have hv' : w.Store v'.store := by rw [hwritten]; exact horphan ownership
      refine Warrant.upheld_of_journals (resumeOrphanCleanup_spec hv' hwritten rfl horphan .none)
        ?_ ?_
      · rintro b _ v'' m'' ⟨-, rfl, hnone⟩
        exact ⟨by rw [hnone]; exact .none, hm₁⟩
      · rintro b v'' m'' ⟨-, rfl, hfailed⟩
        exact ⟨hv'.failed hwritten hfailed, hm₁⟩

end Cleanup

/-! ## Plans of a client -/

section Plans

variable {w : Warrant} {p : Primitives} {v : JournalView} {m : Backend}

theorem Warrant.upheld_refuseArmedRuntime (hv : w.Store v.store) (hm : w.Memory m) :
    w.Upheld v m (refuseArmedRuntime p) := by
  refine Upholds.bind (Warrant.upheld_loadRuntime hv hm) fun _ v₁ m₁ hv₁ hm₁ => ?_
  exact Upholds.get_bind (Upholds.quiet (untouched_require _ _) hv₁ hm₁)

theorem Warrant.upheld_applyCurrent (plan current : KernelPlan) (hv : w.Store v.store)
    (hm : w.Memory m) : w.Upheld v m (applyCurrent p plan current) := by
  refine Upholds.quiet_bind (untouched_require _ _) hv hm fun _ => ?_
  refine Upholds.get_bind ?_
  split
  · refine Upholds.bind (Warrant.upheld_persistCommitted hv hm) fun _ v₁ m₁ hv₁ hm₁ => ?_
    exact Upholds.modify hv₁ (hm₁.same rfl rfl rfl)
  · exact Upholds.pure hv hm

/-- Applying a plan that was authorized. -/
theorem Warrant.upheld_apply {plan : KernelPlan} (hplan : w.plan plan) (hv : w.Store v.store)
    (hm : w.Memory m) : w.Upheld v m (apply p plan) := by
  have hmoves : ∀ lost, w.Moves ⟨plan, none, lost, none, none⟩ := fun lost =>
    ⟨hplan, by rintro _ ⟨⟩, by rintro _ ⟨⟩⟩
  refine Upholds.quiet_bind (untouched_lift _) hv hm fun _ => ?_
  refine Upholds.bind (Warrant.upheld_ensureReconciled hv hm) fun _ v₁ m₁ hv₁ hm₁ => ?_
  refine Upholds.quiet_bind untouched_refuseLegacyActivation hv₁ hm₁ fun _ => ?_
  refine Upholds.bind (Warrant.upheld_refuseArmedRuntime hv₁ hm₁) fun _ v₂ m₂ hv₂ hm₂ => ?_
  refine Upholds.quiet_bind (untouched_revalidateCurrentOwnershipFor _ _) hv₂ hm₂ fun lost => ?_
  refine Upholds.get_bind ?_
  cases hcurrent : m₂.current with
  | none =>
    refine (hmoves lost).upheld hv₂ hm₂ fun _ current h => ?_
    rw [hcurrent] at h
    cases h
  | some current =>
    show w.Upheld v₂ m₂ (if _ then _ else if _ then _ else _)
    split
    · exact Upholds.fail hv₂ hm₂
    · split
      · exact Warrant.upheld_applyCurrent _ _ hv₂ hm₂
      · rename_i hother
        refine (hmoves lost).upheld hv₂ hm₂ fun _ current' h => ?_
        obtain rfl := Option.some.inj (hcurrent.symm.trans h)
        exact hother

/-- Restoring a plan that was authorized, or the empty state. -/
theorem Warrant.upheld_restorePlan {failedCandidate : KernelPlan} {previous : Option KernelPlan}
    (hprevious : ∀ plan ∈ previous, w.plan plan) (hv : w.Store v.store) (hm : w.Memory m) :
    w.Upheld v m (restorePlan p failedCandidate previous) := by
  refine Upholds.bind (Warrant.upheld_ensureReconciled hv hm) fun _ v₁ m₁ hv₁ hm₁ => ?_
  refine Upholds.quiet_bind untouched_refuseLegacyActivation hv₁ hm₁ fun _ => ?_
  refine Upholds.bind (Warrant.upheld_refuseArmedRuntime hv₁ hm₁) fun _ v₂ m₂ hv₂ hm₂ => ?_
  refine Upholds.quiet_bind (untouched_revalidateCurrentOwnership _) hv₂ hm₂ fun _ => ?_
  refine Upholds.quiet_bind (untouched_require _ _) hv₂ hm₂ fun _ => ?_
  refine Upholds.get_bind ?_
  split
  · exact Upholds.pure hv₂ hm₂
  · cases m₂.current with
    | none => exact Upholds.fail hv₂ hm₂
    | some current =>
      refine Upholds.quiet_bind (untouched_require _ _) hv₂ hm₂ fun _ => ?_
      cases previous with
      | none =>
        refine Upholds.bind (Warrant.upheld_cleanupWithReceipt _ hv₂ hm₂) fun _ v₃ m₃ hv₃ hm₃ => ?_
        exact Upholds.pure hv₃ hm₃
      | some plan =>
        have hmoves : w.Moves ⟨plan, some (RestoreReceipt.new p failedCandidate (some plan)), ∅,
            none, none⟩ := ⟨hprevious plan rfl, by rintro _ ⟨⟩, by rintro _ ⟨⟩⟩
        refine hmoves.upheld hv₂ hm₂ fun h => ?_
        cases h

end Plans

/-! ## The runtime -/

section Runtime

variable {w : Warrant} {p : Primitives} {v : JournalView} {m : Backend}

theorem Warrant.upheld_inspectState (hv : w.Store v.store) (hm : w.Memory m) :
    w.Upheld v m (inspectState p) := by
  refine Upholds.bind (Warrant.upheld_ensureInspectionReady hv hm) fun _ v₁ m₁ hv₁ hm₁ => ?_
  refine Upholds.quiet_bind (untouched_onKernel _) hv₁ hm₁ fun captured => ?_
  refine Upholds.get_bind ?_
  have hend : w.Upheld v₁ m₁ (loadRuntime p >>= fun _ => statusSnapshot) := by
    refine Upholds.bind (Warrant.upheld_loadRuntime hv₁ hm₁) fun _ v₂ m₂ hv₂ hm₂ => ?_
    exact Upholds.quiet untouched_statusSnapshot hv₂ hm₂
  cases m₁.current with
  | none => exact hend
  | some current =>
    cases m₁.currentNftFingerprint with
    | none => exact hend
    | some fingerprint =>
      dsimp only
      split
      · refine Upholds.quiet_bind (untouched_onKernel _) hv₁ hm₁ fun present => ?_
        cases present with
        | false => exact hend
        | true => exact Upholds.quiet_bind (untouched_onKernel _) hv₁ hm₁ fun _ => hend
      · exact hend

theorem Warrant.upheld_runtimeStatus (hv : w.Store v.store) (hm : w.Memory m) :
    w.Upheld v m (runtimeStatus p) := by
  refine Upholds.bind (Warrant.upheld_prepareRuntimeOperation hv hm) fun _ v₁ m₁ hv₁ hm₁ => ?_
  exact Upholds.quiet untouched_statusSnapshot hv₁ hm₁

theorem Warrant.upheld_degradeRuntime (reason : String) (hv : w.Store v.store)
    (hm : w.Memory m) : w.Upheld v m (degradeRuntime p reason) := by
  refine Upholds.bind (Warrant.upheld_prepareRuntimeOperation hv hm) fun _ v₁ m₁ hv₁ hm₁ => ?_
  refine Upholds.modify_bind (Upholds.quiet untouched_statusSnapshot hv₁ ?_)
  refine ⟨hm₁.current, ?_, hm₁.restore⟩
  intro degraded hdegraded
  obtain ⟨runtime, hruntime, rfl⟩ := Option.map_eq_some_iff.1 hdegraded
  have hpolicy := hm₁.runtime runtime hruntime
  unfold ArmedRuntime.degraded
  split
  · exact hpolicy
  · exact hpolicy

/-- A record an activation by this caller makes on this topology. -/
structure RuntimeActivation.Makes (activation : RuntimeActivation) (uid : ℕ)
    (topology : TopologySnapshot) (record : RuntimeRecord) : Prop where
  owner : record.grant.ownerUid = uid
  devices : record.grant.interfaces = grantedInterfaces activation.profile topology
  profile : record.profile = activation.profile
  resolutions : record.resolutions = activation.resolutions

/-- An activation that was authorized. -/
theorem Warrant.upheld_activateRuntime {activation : RuntimeActivation} {uid : ℕ}
    {topology : TopologySnapshot} (now : ℕ)
    (hpolicy : ∀ record, activation.Makes uid topology record → w.policy record)
    (hv : w.Store v.store) (hm : w.Memory m) :
    w.Upheld v m (activateRuntime p activation uid topology now) := by
  refine Upholds.quiet_bind (untouched_lift _) hv hm fun _ => ?_
  refine Upholds.bind (Warrant.upheld_prepareRuntimeOperation hv hm) fun _ v₁ m₁ hv₁ hm₁ => ?_
  refine Upholds.quiet_bind untouched_refuseLegacyActivation hv₁ hm₁ fun _ => ?_
  refine Upholds.get_bind ?_
  refine Upholds.quiet_bind (untouched_require _ _) hv₁ hm₁ fun _ => ?_
  refine Upholds.quiet_bind (Quiet.inspectSome _ _ _) hv₁ hm₁ fun bootId => ?_
  refine Upholds.quiet_bind (Quiet.inspect _ _) hv₁ hm₁ fun networkNamespace => ?_
  refine Warrant.upheld_lift_bind hv₁ hm₁ fun plan hplan => ?_
  refine Upholds.quiet_bind (untouched_revalidateCurrentOwnershipFor _ _) hv₁ hm₁ fun lost => ?_
  refine Upholds.quiet_bind (Quiet.inspect _ _) hv₁ hm₁ fun token => ?_
  obtain ⟨compiled, hcompiles⟩ :=
    compileProfileWithPrimary_eq_ok (compileRuntimePlan_eq_ok.1 hplan).1
  let grant : RuntimeGrant := ⟨uid, bootId, networkNamespace,
    p.policyHash activation.profile activation.resolutions,
    grantedInterfaces activation.profile topology⟩
  let filtered := restrictToGrant topology grant
  let record : RuntimeRecord := ⟨grant, activation.profile, activation.resolutions,
    ((PrimarySelector.new activation.profile filtered).update activation.profile.routing filtered
      now).2⟩
  let receipt : RuntimeRestoreReceipt := ⟨p.tokenHash token, uid, plan.generation,
    plan.contentHash p.blake3, m₁.current, m₁.runtime.map ArmedRuntime.record⟩
  have hrecord : w.policy record := hpolicy record ⟨rfl, rfl, rfl, rfl⟩
  have hconfined : Confined record topology plan := hcompiles.confined
  have hmoves : w.Moves ⟨plan, none, lost, some record, some receipt⟩ := by
    refine ⟨w.compiled record topology plan hrecord hconfined, ?_, ?_⟩
    · rintro _ ⟨⟩
      exact hrecord
    · rintro _ ⟨⟩
      exact ⟨hm₁.current, hm₁.committedRuntime⟩
  have hadvances : (⟨plan, none, lost, some record, some receipt⟩ : Move).Advances m₁ := by
    intro _ current hcurrent
    rw [generation_of_compileRuntimePlan hplan, hcurrent]
    exact nextGeneration_ne _
  refine Upholds.bind (hmoves.upheld hv₁ hm₁ hadvances) fun _ v₂ m₂ hv₂ hm₂ => ?_
  refine Upholds.modify_bind (Upholds.pure hv₂ ⟨hm₂.current, ?_, hm₂.restore⟩)
  rintro _ ⟨⟩
  exact hrecord

/-- What the restore of a runtime brings back was in force before. -/
theorem Warrant.upheld_restoreRuntime (token : String) (uid : ℕ) (hv : w.Store v.store)
    (hm : w.Memory m) : w.Upheld v m (restoreRuntime p token uid) := by
  refine Upholds.bind (Warrant.upheld_prepareRuntimeOperation hv hm) fun _ v₁ m₁ hv₁ hm₁ => ?_
  refine Upholds.quiet_bind untouched_refuseLegacyActivation hv₁ hm₁ fun _ => ?_
  refine Upholds.get_bind ?_
  cases hrestore : m₁.runtimeRestore with
  | none => exact Upholds.fail hv₁ hm₁
  | some receipt =>
    have hreceipt := hm₁.restore receipt hrestore
    refine Upholds.quiet_bind (untouched_require _ _) hv₁ hm₁ fun _ => ?_
    cases hcurrent : m₁.current with
    | none => exact Upholds.fail hv₁ hm₁
    | some current =>
      refine Upholds.quiet_bind (untouched_require _ _) hv₁ hm₁ fun _ => ?_
      cases hprevious : receipt.previousPlan with
      | none =>
        refine Upholds.bind (Warrant.upheld_cleanupWithReceipt _ hv₁ hm₁) fun _ v₂ m₂ hv₂ hm₂ => ?_
        exact Upholds.quiet untouched_statusSnapshot hv₂ hm₂
      | some previous =>
        refine Upholds.quiet_bind (untouched_revalidateCurrentOwnershipFor _ _) hv₁ hm₁
          fun lost => ?_
        have hmoves : w.Moves ⟨{ previous with generation := nextGeneration current.generation },
            none, lost, receipt.previousRecord, none⟩ :=
          ⟨w.renumbered previous _ (hreceipt.plan previous hprevious), hreceipt.policy,
            by rintro _ ⟨⟩⟩
        refine Upholds.bind (hmoves.upheld hv₁ hm₁ ?_) fun _ v₂ m₂ hv₂ hm₂ => ?_
        · intro _ plan hplan
          obtain rfl := Option.some.inj (hcurrent.symm.trans hplan)
          exact nextGeneration_ne _
        · refine Upholds.modify_bind (Upholds.quiet untouched_statusSnapshot hv₂ ?_)
          refine ⟨hm₂.current, ?_, hm₂.restore⟩
          intro armed harmed
          obtain ⟨record, hrecord, rfl⟩ := Option.map_eq_some_iff.1 harmed
          exact hreceipt.policy record hrecord

end Runtime

/-! ## Refreshing -/

section Refresh

variable {w : Warrant} {p : Primitives} {flag : Option StoredAppliedState → Bool}
  {v v' : JournalView} {m m' : Backend} {topology : TopologySnapshot} {now : ℕ}
  {runtime runtime' : ArmedRuntime} {b : Bool}

/-- What a refresh is about to commit, its policy covers. -/
theorem Warrant.Memory.refreshMoves (hm : w.Memory m) (hpolicy : w.policy runtime.record)
    {current candidate : KernelPlan} (lost : LostUnicast)
    (hplan : (refreshCandidate p runtime current topology now).plan = .ok candidate) :
    w.Moves (refreshMove runtime (refreshCandidate p runtime current topology now).decision m
      candidate lost) where
  plan := w.compiled _ _ _ hpolicy (confined_refreshCandidate ⟨rfl, rfl, rfl⟩ hplan)
  runtime := by
    rintro _ ⟨⟩
    exact w.undecided _ _ hpolicy
  restore := hm.restore

theorem Warrant.Memory.refreshWithin (hm : w.Memory m) (hpolicy : w.policy runtime.record) :
    RefreshWithin w.Store p m runtime topology now :=
  fun _ _ lost _ hplan => (hm.refreshMoves hpolicy lost hplan).within hm

theorem Warrant.Memory.candidateCommitted (hm : w.Memory m) (hpolicy : w.policy runtime.record)
    {current candidate : KernelPlan} {decision : PrimaryDecision} {lost : LostUnicast}
    {outcome : Except PrivilegedError Unit}
    (hmoves : w.Moves (refreshMove runtime decision m candidate lost))
    (h : CandidateCommitted flag p v m runtime current decision candidate lost now b runtime'
      outcome v' m') : w.policy runtime'.record ∧ w.Memory m' := by
  cases h with
  | unchanged _ _ => exact ⟨hpolicy, hm⟩
  | heldBack _ _ => exact ⟨hpolicy, hm⟩
  | failed _ _ _ hfailed => exact ⟨hpolicy, hm.transitionFailed hfailed⟩
  | committed l _ _ _ _ => exact ⟨w.undecided _ _ hpolicy, hm.after hmoves l⟩

theorem Warrant.Memory.armedRefreshed (hm : w.Memory m) (hpolicy : w.policy runtime.record)
    {unverified : Bool} {outcome : Except PrivilegedError Unit}
    (h : ArmedRefreshed flag p v m runtime topology now unverified b runtime' outcome v' m') :
    w.policy runtime'.record ∧ w.Memory m' := by
  cases h with
  | unauthorized _ => exact ⟨hpolicy, hm⟩
  | unobserved _ _ _ => exact ⟨hpolicy, hm⟩
  | uncompiled _ _ _ _ => exact ⟨hpolicy, hm⟩
  | unproved _ _ _ _ _ _ =>
    refine ⟨?_, hm⟩
    unfold ArmedRuntime.unproved
    split
    · exact hpolicy
    · exact hpolicy
  | proved lost _ _ _ hplan _ hcommitted =>
    -- what was computed is not looked at
    have hcomputed : ∀ computed, w.policy (runtime.computed computed).record := fun _ => hpolicy
    exact hm.candidateCommitted (hcomputed _) (hm.refreshMoves hpolicy lost hplan) hcommitted

theorem Warrant.Memory.with_runtime (hm : w.Memory m) (hpolicy : w.policy runtime.record)
    (hcurrent : m'.current = m.current) (hruntime : m'.runtime = some runtime)
    (hrestore : m'.runtimeRestore = m.runtimeRestore) : w.Memory m' where
  current := by rw [hcurrent]; exact hm.current
  runtime := by
    rw [hruntime]
    rintro _ ⟨⟩
    exact hpolicy
  restore := by rw [hrestore]; exact hm.restore

/-- The memory while its runtime is refreshed. -/
theorem Warrant.Memory.taken (hm : w.Memory m) : w.Memory m.taken :=
  ⟨hm.current, by rintro _ ⟨⟩, hm.restore⟩

theorem Warrant.Memory.preparedRefreshed {unverified : Bool} (hm : w.Memory m)
    (h : PreparedRefreshed flag p v m topology now unverified b v' m') : w.Memory m' := by
  cases h with
  | inactive _ => exact hm
  | told hruntime hrefreshed =>
    obtain ⟨hpolicy, hm'⟩ := hm.taken.armedRefreshed (hm.runtime _ hruntime) hrefreshed
    exact hm'.with_runtime hpolicy rfl rfl rfl
  | failed hruntime hrefreshed _ _ =>
    obtain ⟨hpolicy, hm'⟩ := hm.taken.armedRefreshed (hm.runtime _ hruntime) hrefreshed
    refine ⟨hm'.current, ?_, hm'.restore⟩
    rintro _ ⟨⟩
    exact hpolicy
  | stalled hruntime hrefreshed _ =>
    obtain ⟨hpolicy, hm'⟩ := hm.taken.armedRefreshed (hm.runtime _ hruntime) hrefreshed
    refine ⟨hm'.current, ?_, hm'.restore⟩
    rintro _ ⟨⟩
    exact hpolicy

theorem Warrant.Memory.refreshed (hm : w.Memory m) (hv : w.Store v.store)
    (h : Refreshed flag p v m topology now b v' m') : w.Store v'.store ∧ w.Memory m' := by
  cases h with
  | waits _ _ =>
    refine ⟨hv, hm.current, ?_, hm.restore⟩
    intro waiting hwaiting
    obtain ⟨runtime, hruntime, rfl⟩ := Option.map_eq_some_iff.1 hwaiting
    exact hm.runtime runtime hruntime
  | prepared _ hprepared _ hended =>
    obtain ⟨hv₁, hm₁⟩ := hm.prepared hv hprepared
    refine ⟨?_, hm₁.preparedRefreshed hended⟩
    rcases hended.left with ⟨hsame, -⟩ | ⟨runtime, hruntime, hwritten⟩
    · rwa [hsame]
    · exact hwritten _ (hm₁.taken.refreshWithin (hm₁.runtime runtime hruntime))
  | unprepared _ _ hfailed hruntime =>
    obtain ⟨hv₁, hm₁⟩ := hm.unprepared hv hfailed
    have hpolicy := hm₁.runtime _ hruntime
    refine ⟨hv₁, hm₁.current, ?_, hm₁.restore⟩
    rintro _ ⟨⟩
    exact hpolicy

/-- A refresh asks nobody, and needs no more than the policies and plans that are there. -/
theorem Warrant.upheld_refreshRuntime (topology : TopologySnapshot) (now : ℕ)
    (hv : w.Store v.store) (hm : w.Memory m) :
    w.Upheld v m (refreshRuntime p topology now) := by
  refine Warrant.upheld_of_journals (refreshRuntime_spec hv ?_ ?_) ?_ ?_
  · exact fun record written hstore _ => hv.recoveryWrites record written hstore
  · intro unverified v₁ m₁ runtime hprepared hruntime
    obtain ⟨-, hm₁⟩ := hm.prepared hv hprepared
    exact hm₁.taken.refreshWithin (hm₁.runtime runtime hruntime)
  · rintro b status v' m' ⟨-, hrefreshed⟩
    exact hm.refreshed hv hrefreshed
  · intro b v' m' hgaveUp
    cases hgaveUp with
    | unprepared _ _ hfailed _ =>
      obtain ⟨hv₁, hm₁⟩ := hm.unprepared hv hfailed
      exact ⟨hv₁, hm₁.same rfl rfl rfl⟩

end Refresh

end RouteLane
