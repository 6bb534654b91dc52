import RouteLane.Backend.Spec
import RouteLane.Kernel.RunnerSpec

/-!
# How the backend gets on

What an operation makes of the kernel and of the journal, at every event and at its end, and
that it gets there when nothing disturbs it.  The settings of the interfaces are left out:
no operation depends on whether they could be restored.
-/

namespace RouteLane

open Nft Faults Program

/-- No sync of the state directory is going to fail. -/
def System.Synced (system : System) : Prop := ∀ i, system.syncFaults i = false

/-- From this kernel, journal and memory the kernel and the journal satisfy `J` at every
event, and `Q` when the operation returns.  Where it is `sure`, it does return when no command
and no sync fails. -/
def Proceeds (sure : Prop) (J : KernelState → Option StoredAppliedState → Prop)
    (kernel : KernelState) (store : Option StoredAppliedState) (m : Backend) {α : Type}
    (q : BackendM α) (Q : α → KernelState → Option StoredAppliedState → Backend → Prop) : Prop :=
  ∀ system : System, system.kernel = kernel → system.store = store →
    Completes (fun s => sure ∧ s.Synced) (fun s => J s.kernel s.store) system m q
      fun a s m' => Q a s.kernel s.store m'

/-! ## Commands for the kernel -/

section Kernel

variable {sure : Prop} {keeps : KernelState → Prop} {kernel : KernelState}
  {m : CommandKernelRunner} {p : Primitives}

theorem captureSnapshot_completes (hkeeps : keeps kernel) :
    Completes (fun _ => sure) keeps kernel m captureSnapshot
      fun captured kernel' m' => captured = kernel ∧ kernel' = kernel ∧ m' = m :=
  Completes.ofEnsures fun _ hfine => (captureSnapshot_ensures (hfine _ hkeeps)).conseq
    (fun _ _ _ h => h) fun _ _ h => h.2.2.1

theorem liveNftFingerprint_completes (hkeeps : keeps kernel) {document : Document}
    (hnft : kernel.nft = some document) :
    Completes (fun _ => sure) keeps kernel m (liveNftFingerprint p.blake3)
      fun fingerprint kernel' m' => fingerprint = nftDocumentFingerprint p.blake3 document ∧
        kernel' = kernel ∧ m' = m := by
  refine Completes.bind (Completes.inspect (Q := fun found kernel' m' => found = kernel.nft ∧
    kernel' = kernel ∧ m' = m) hkeeps ⟨rfl, rfl, rfl⟩) ?_
  rintro _ _ _ ⟨rfl, rfl, rfl⟩
  rw [hnft]
  exact Completes.pure ⟨rfl, rfl, rfl⟩

/-- The fingerprint a journal has to have for the live table. -/
def KernelState.fingerprint (p : Primitives) (kernel : KernelState) : Option String :=
  kernel.nft.map (nftDocumentFingerprint p.blake3)

theorem capturedFingerprint_completes (hkeeps : keeps kernel) :
    Completes (fun _ => sure) keeps kernel m (capturedFingerprint p kernel)
      fun fingerprint kernel' m' => fingerprint = kernel.fingerprint p ∧ kernel' = kernel ∧
        m' = m := by
  unfold capturedFingerprint KernelState.fingerprint
  cases hnft : kernel.nft with
  | none => exact Completes.pure ⟨rfl, rfl, rfl⟩
  | some document =>
    refine Completes.bind (liveNftFingerprint_completes hkeeps hnft) ?_
    rintro _ _ _ ⟨rfl, rfl, rfl⟩
    exact Completes.pure ⟨rfl, rfl, rfl⟩

theorem deleteTable_completes {context : String} (hkeeps : keeps kernel)
    (hkeeps' : keeps { kernel with nft := none }) (hnft : kernel.nft.isSome = true) :
    Completes (fun _ => sure) keeps kernel m (runNftBatch .deleteTable context)
      fun _ kernel' m' => kernel' = { kernel with nft := none } ∧ m' = m := by
  obtain ⟨document, hnft⟩ := Option.isSome_iff_exists.1 hnft
  refine Completes.command ?_ hkeeps hkeeps' id ⟨rfl, rfl⟩
  simp only [NftBatch.apply, hnft]

/-- A removal that is sent without a look is carried out where there is something to
remove. -/
theorem sendRemoval_completes {context : String} {step : RoutingStep} (hkeeps : keeps kernel)
    (hkeeps' : keeps (kernel.step step))
    (hsure : sure → applyRoutingStep kernel.routing step ≠ kernel.routing) :
    Completes (fun _ => sure) keeps kernel m (sendRemoval step context)
      fun _ kernel' m' => applyRoutingStep kernel.routing step ≠ kernel.routing ∧
        kernel' = kernel.step step ∧ m' = m := by
  by_cases hchanges : applyRoutingStep kernel.routing step = kernel.routing
  · refine Completes.refused ?_ hkeeps fun hs => hsure hs hchanges
    rw [if_pos hchanges]
  · refine Completes.command ?_ hkeeps hkeeps' id ⟨hchanges, rfl, rfl⟩
    rw [if_neg hchanges]
    rfl

end Kernel

/-! ## Operations -/

/-- What of the system an operation is about. -/
def System.held (system : System) : KernelState × Option StoredAppliedState × (ℕ → Bool) :=
  (system.kernel, system.store, system.syncFaults)

theorem System.held_settings (system : System) (settings : InterfaceSettings) :
    System.held { system with settings := settings } = system.held := rfl

theorem restoreSettingReceipts_returns (receipts : List InterfaceSettingReceipt) :
    ∀ w, ∃ diverged, (restoreSettingReceipts receipts w).result = .ok diverged := by
  induction receipts with
  | nil => exact fun _ => ⟨[], rfl⟩
  | cons receipt receipts ih =>
    intro w
    obtain ⟨rest, hrest⟩ := ih (restoreMarkAwareRpf receipt w).world
    rw [restoreSettingReceipts]
    show ∃ diverged, (Program.bind (attempt (restoreMarkAwareRpf receipt)) _ w).result = _
    rw [Program.bind]
    dsimp only [attempt]
    show ∃ diverged, (Program.bind (restoreSettingReceipts receipts) _ _).result = _
    rw [Program.bind]
    rcases hrun : restoreSettingReceipts receipts (restoreMarkAwareRpf receipt w).world with
      ⟨_ | rest, w', events⟩
    · rw [hrun] at hrest
      cases hrest
    · dsimp only
      cases (restoreMarkAwareRpf receipt w).result with
      | ok _ => exact ⟨rest, rfl⟩
      | error e => exact ⟨_, rfl⟩

namespace Proceeds

variable {sure : Prop} {J : KernelState → Option StoredAppliedState → Prop}
  {kernel : KernelState} {store : Option StoredAppliedState} {m : Backend} {α β : Type}
  {q : BackendM α} {f : α → BackendM β}
  {Q Q' : α → KernelState → Option StoredAppliedState → Backend → Prop}
  {R : β → KernelState → Option StoredAppliedState → Backend → Prop}

theorem pure {a : α} (h : Q a kernel store m) : Proceeds sure J kernel store m (Pure.pure a) Q := by
  rintro system rfl rfl
  exact Completes.pure h

theorem fail {e : PrivilegedError} (h : ¬sure) :
    Proceeds sure J kernel store m (Program.fail e : BackendM α) Q := by
  rintro system rfl rfl
  exact Completes.fail fun hquiet => h hquiet.1

theorem modify {g : Backend → Backend}
    {Q : Unit → KernelState → Option StoredAppliedState → Backend → Prop}
    (h : Q () kernel store (g m)) :
    Proceeds sure J kernel store m (Program.modify g : BackendM Unit) Q := by
  rintro system rfl rfl
  exact Completes.modify h

theorem conseq (h : Proceeds sure J kernel store m q Q)
    (hQ : ∀ a kernel' store' m', Q a kernel' store' m' → Q' a kernel' store' m') :
    Proceeds sure J kernel store m q Q' := fun system hkernel hstore =>
  (h system hkernel hstore).conseq fun _ _ _ => hQ _ _ _ _

theorem bind (hq : Proceeds sure J kernel store m q Q)
    (hf : ∀ a kernel' store' m', Q a kernel' store' m' →
      Proceeds sure J kernel' store' m' (f a) R) :
    Proceeds sure J kernel store m (q >>= f) R := fun system hkernel hstore =>
  (hq system hkernel hstore).bind fun a s _ ha => hf a s.kernel s.store _ ha s rfl rfl

theorem get_bind {f : Backend → BackendM β} (h : Proceeds sure J kernel store m (f m) R) :
    Proceeds sure J kernel store m (Program.get >>= f) R := by
  rintro system rfl rfl
  refine Completes.bind (Completes.get (Q := fun a s' m' => a = m ∧ s' = system ∧ m' = m)
    ⟨rfl, rfl, rfl⟩) ?_
  rintro _ _ _ ⟨rfl, rfl, rfl⟩
  exact h _ rfl rfl

theorem modify_bind {g : Backend → Backend} {f : Unit → BackendM β}
    (h : Proceeds sure J kernel store (g m) (f ()) R) :
    Proceeds sure J kernel store m (Program.modify g >>= f) R := by
  refine bind (modify (Q := fun _ kernel' store' m' =>
    kernel' = kernel ∧ store' = store ∧ m' = g m) ⟨rfl, rfl, rfl⟩) ?_
  rintro _ _ _ _ ⟨rfl, rfl, rfl⟩
  exact h

/-- What is kept at the events may be said more weakly. -/
theorem keeping {J' : KernelState → Option StoredAppliedState → Prop}
    (h : Proceeds sure J kernel store m q Q) (hJ : ∀ kernel store, J kernel store → J' kernel store) :
    Proceeds sure J' kernel store m q Q := by
  intro system hkernel hstore faults
  obtain ⟨hevents, hrest⟩ := h system hkernel hstore faults
  exact ⟨fun e he => hJ _ _ (hevents e he), hrest⟩

/-! ## Checks -/

theorem require_bind {c : Prop} [Decidable c] {e : PrivilegedError} {f : Unit → BackendM β}
    (hsure : sure → c) (h : c → Proceeds sure J kernel store m (f ()) R) :
    Proceeds sure J kernel store m (require c e >>= f) R := by
  by_cases hc : c
  · rw [require, if_pos hc]
    exact h hc
  · rw [require, if_neg hc]
    exact bind (Q := fun _ _ _ _ => False) (fail fun hs => hc (hsure hs)) fun _ _ _ _ h => h.elim

theorem lift_bind {x : Except PrivilegedError α} (hsure : sure → ∃ a, x = .ok a)
    (h : ∀ a, x = .ok a → Proceeds sure J kernel store m (f a) R) :
    Proceeds sure J kernel store m (lift x >>= f) R := by
  cases x with
  | ok a => exact h a rfl
  | error e =>
    refine bind (Q := fun _ _ _ _ => False) (fail fun hs => ?_) fun _ _ _ _ h => h.elim
    obtain ⟨a, ha⟩ := hsure hs
    cases ha

/-! ## The journal -/

theorem load_bind {f : Option StoredAppliedState → BackendM β} (hJ : J kernel store)
    (h : Proceeds sure J kernel store m (f store) R) :
    Proceeds sure J kernel store m (load >>= f) R := by
  rintro system rfl rfl
  refine Completes.bind (Completes.inspect (Q := fun a s' m' => a = system.store ∧ s' = system ∧
    m' = m) hJ ⟨rfl, rfl, rfl⟩) ?_
  rintro _ _ _ ⟨rfl, rfl, rfl⟩
  exact h _ rfl rfl

/-- Replacing the journal: the command, and making it durable. -/
theorem replace {e : PrivilegedError} {written : Option StoredAppliedState} (hJ : J kernel store)
    (hwritten : J kernel written) :
    Proceeds sure J kernel store m
      (do command e fun system => some { system with store := written }
          syncDirectory)
      (fun _ kernel' store' m' => kernel' = kernel ∧ store' = written ∧ m' = m) := by
  rintro system rfl rfl
  refine Completes.bind (Completes.command (Q := fun _ s' m' => s' = { system with
    store := written } ∧ m' = m) rfl hJ hwritten id ⟨rfl, rfl⟩) ?_
  rintro _ _ _ ⟨rfl, rfl⟩
  refine Completes.ask hwritten ?_ fun _ => ⟨rfl, rfl, rfl⟩
  rintro ⟨hsure, hsynced⟩
  refine ⟨?_, hsure, fun i => hsynced (i + 1)⟩
  show (!system.syncFaults 0) = true
  rw [hsynced 0]
  rfl

theorem save {p : Primitives} {record : StoredAppliedState}
    (hfits : sure → p.stateBytes record ≤ maxStateBytes) (hJ : J kernel store)
    (hrecord : J kernel (some record)) :
    Proceeds sure J kernel store m (RouteLane.save p record) fun _ kernel' store' m' =>
      kernel' = kernel ∧ store' = some record ∧ m' = m :=
  require_bind hfits fun _ => replace hJ hrecord

theorem save_bind {p : Primitives} {record : StoredAppliedState} {f : Unit → BackendM β}
    (hfits : sure → p.stateBytes record ≤ maxStateBytes) (hJ : J kernel store)
    (hrecord : J kernel (some record))
    (h : Proceeds sure J kernel (some record) m (f ()) R) :
    Proceeds sure J kernel store m (RouteLane.save p record >>= f) R := by
  refine bind (save hfits hJ hrecord) ?_
  rintro _ _ _ _ ⟨rfl, rfl, rfl⟩
  exact h

theorem clear (hJ : J kernel store) (hnone : J kernel none) :
    Proceeds sure J kernel store m RouteLane.clear fun _ kernel' store' m' =>
      kernel' = kernel ∧ store' = none ∧ m' = m := by
  intro system hkernel hstore
  refine Completes.bind (Completes.inspect (Q := fun a s' m' => a = system.store.isSome ∧
    s' = system ∧ m' = m) (by rw [hkernel, hstore]; exact hJ) ⟨rfl, rfl, rfl⟩) ?_
  rintro _ s' _ ⟨rfl, rfl, rfl⟩
  by_cases hpresent : s'.store.isSome = true
  · rw [if_pos hpresent]
    exact replace hJ hnone s' hkernel hstore
  · rw [if_neg hpresent]
    exact Completes.pure ⟨hkernel, Option.not_isSome_iff_eq_none.1 hpresent, rfl⟩

/-! ## The kernel -/

/-- Commands for the kernel come first; an error of theirs ends the operation. -/
theorem within_bind {δ : Type} {runner : CommandKernelRunner}
    {k : Program KernelState CommandKernelRunner δ α}
    {g : Except δ α × CommandKernelRunner → BackendM β}
    {P : α → KernelState → CommandKernelRunner → Prop}
    (hk : Completes (fun _ => sure) (fun kernel' => J kernel' store) kernel runner k P)
    (herror : ∀ e runner', ∃ e', g (.error e, runner') = Program.fail e')
    (h : ∀ a kernel' runner', P a kernel' runner' →
      Proceeds sure J kernel' store m (g (.ok a, runner')) R) :
    Proceeds sure J kernel store m (withRunner runner k >>= g) R := by
  rintro system rfl rfl
  exact Completes.within_bind hk (fun hquiet => hquiet.1) (fun _ hquiet => hquiet) herror
    fun a k' m' ha => h a k' m' ha _ rfl rfl

theorem onKernel_bind {k : Runner α} {P : α → KernelState → CommandKernelRunner → Prop}
    (hk : Completes (fun _ => sure) (fun kernel' => J kernel' store) kernel (.new none ∅) k P)
    (h : ∀ a kernel' runner', P a kernel' runner' → Proceeds sure J kernel' store m (f a) R) :
    Proceeds sure J kernel store m (onKernel k >>= f) R := by
  have hresult : Proceeds sure J kernel store m (onKernel k) fun a kernel' store' m' =>
      (∃ runner', P a kernel' runner') ∧ store' = store ∧ m' = m := by
    refine within_bind hk (fun e _ => ⟨e, rfl⟩) ?_
    intro a kernel' runner' ha
    exact pure ⟨⟨runner', ha⟩, rfl, rfl⟩
  refine bind hresult ?_
  rintro a kernel' _ _ ⟨⟨runner', ha⟩, rfl, rfl⟩
  exact h a kernel' runner' ha

/-! ## The settings -/

theorem restoreSettings_bind {receipts : List InterfaceSettingReceipt}
    {f : List String → BackendM β} (hJ : J kernel store)
    (h : ∀ diverged, Proceeds sure J kernel store m (f diverged) R) :
    Proceeds sure J kernel store m (restoreSettingReceipts receipts >>= f) R := by
  have hrestore : Proceeds sure J kernel store m (restoreSettingReceipts receipts)
      fun _ kernel' store' m' => kernel' = kernel ∧ store' = store ∧ m' = m := by
    rintro system rfl rfl
    have hsame : ∀ s', System.held s' = system.held →
        s'.kernel = system.kernel ∧ s'.store = system.store ∧ s'.syncFaults = system.syncFaults := by
      intro s' hs'
      exact ⟨congrArg (·.1) hs', congrArg (·.2.1) hs', congrArg (·.2.2) hs'⟩
    refine Completes.ofAside (aside_restoreSettingReceipts System.held_settings receipts)
      (restoreSettingReceipts_returns receipts) ?_ ?_ ?_
    · intro s' hs'
      rw [(hsame s' hs').1, (hsame s' hs').2.1]
      exact hJ
    · rintro s' hs' ⟨hsure, hsynced⟩
      refine ⟨hsure, fun i => ?_⟩
      rw [(hsame s' hs').2.2]
      exact hsynced i
    · intro diverged s' hs'
      exact ⟨(hsame s' hs').1, (hsame s' hs').2.1, rfl⟩
  refine bind hrestore ?_
  rintro diverged _ _ _ ⟨rfl, rfl, rfl⟩
  exact h diverged

end Proceeds

/-! ## A state that nothing claims -/

/-- No journal tells of something that is in force or that was interrupted. -/
structure Unclaimed (p : Primitives) (store : Option StoredAppliedState) : Prop where
  valid : ∀ record ∈ store, validateJournal p record = .ok ()
  inactive : ∀ record ∈ store, record.active = none
  settled : ∀ record ∈ store, record.interrupted = false

/-- The memory of a process that knows of nothing in force. -/
structure Backend.OwnsNothing (m : Backend) : Prop where
  current : m.current = none
  legacy : m.legacy = none
  legacyV2 : m.legacyV2 = none

theorem unclaimed_none (p : Primitives) : Unclaimed p none := by
  refine ⟨fun record hrecord => ?_, fun record hrecord => ?_, fun record hrecord => ?_⟩ <;>
  cases hrecord

section Unclaimed

variable {p : Primitives} {sure : Prop} {kernel : KernelState} {store : Option StoredAppliedState}
  {m : Backend}

/-- The kernel is as it was, and so is a journal that told of nothing, unless it was removed. -/
def NotBegun (kernel : KernelState) (store : Option StoredAppliedState) (kernel' : KernelState)
    (store' : Option StoredAppliedState) : Prop :=
  kernel' = kernel ∧ (store' = store ∨ store' = none)

theorem adoptCommitted_proceeds {record : StoredAppliedState} (hactive : record.active = none) :
    Proceeds sure (NotBegun kernel (some record)) kernel (some record) m (adoptCommitted p record)
      fun _ kernel' store' m' => NotBegun kernel (some record) kernel' store' ∧
        (m.OwnsNothing → m'.OwnsNothing) := by
  have hcleared : ∀ receipt, m.OwnsNothing → (m.cleared receipt).OwnsNothing :=
    fun _ h => ⟨rfl, h.legacy, h.legacyV2⟩
  unfold adoptCommitted
  rw [hactive]
  cases hreceipt : record.restoreReceipt with
  | none =>
    simp only [Option.isNone_none, if_true]
    refine Proceeds.bind (Proceeds.clear ⟨rfl, Or.inl rfl⟩ ⟨rfl, Or.inr rfl⟩) ?_
    rintro _ _ _ _ ⟨rfl, rfl, rfl⟩
    exact Proceeds.modify ⟨⟨rfl, Or.inr rfl⟩, hcleared _⟩
  | some receipt =>
    simp only [Option.isNone_some, Bool.false_eq_true, if_false]
    exact Proceeds.modify ⟨⟨rfl, Or.inl rfl⟩, hcleared _⟩

/-- Where no journal claims anything there is nothing to reconcile. -/
theorem ensureReconciled_unclaimed_proceeds (hunclaimed : Unclaimed p store) :
    Proceeds sure (NotBegun kernel store) kernel store m (ensureReconciled p)
      fun _ kernel' store' m' => NotBegun kernel store kernel' store' ∧
        (m.OwnsNothing → m'.OwnsNothing) := by
  have hstart : NotBegun kernel store kernel store := ⟨rfl, Or.inl rfl⟩
  refine Proceeds.load_bind hstart ?_
  refine Proceeds.get_bind ?_
  cases hstore : store with
  | none =>
    rw [hstore] at hstart
    exact Proceeds.modify ⟨hstart, fun h => ⟨h.current, h.legacy, h.legacyV2⟩⟩
  | some record =>
    rw [hstore] at hstart
    have hsettled := hunclaimed.settled record hstore
    simp only [StoredAppliedState.interrupted, Bool.or_eq_false_iff, Option.isSome_eq_false_iff,
      Option.isNone_iff_eq_none] at hsettled
    obtain ⟨⟨⟨⟨hpending, hcleanup⟩, horphan⟩, hv1⟩, hv2⟩ := hsettled
    show Proceeds sure _ kernel (some record) m (if _ then reconcile p record else _) _
    split
    · unfold reconcile
      simp only [hv2, hv1, horphan, hcleanup, hpending, Option.isSome_none, Bool.false_eq_true,
        if_false]
      refine Proceeds.lift_bind (fun _ => ⟨(), hunclaimed.valid record hstore⟩) fun _ _ => ?_
      exact adoptCommitted_proceeds (hunclaimed.inactive record hstore)
    · exact Proceeds.pure ⟨hstart, id⟩

end Unclaimed

/-! ## Runs -/

/-- A run in which no command and no sync fails. -/
def undisturbed {α : Type} (q : BackendM α) (system : System) (m : Backend) :
    Outcome System Backend PrivilegedError α :=
  q ⟨{ system with syncFaults := fun _ => false }, m, fun _ => false⟩

/-- Where an operation can be broken off, between any two commands, and so can every attempt
of any process to take it up again. -/
inductive Interrupted {α β : Type} (first : BackendM α) (again : BackendM β) (system : System)
    (m : Backend) : System → Prop
  | first {syncFaults faults : ℕ → Bool} {e : Event System} :
      e ∈ (first ⟨{ system with syncFaults := syncFaults }, m, faults⟩).events →
      Interrupted first again system m e.state
  | again {left : System} {m' : Backend} {syncFaults faults : ℕ → Bool} {e : Event System} :
      Interrupted first again system m left →
      e ∈ (again ⟨{ left with syncFaults := syncFaults }, m', faults⟩).events →
      Interrupted first again system m e.state

section Runs

variable {sure : Prop} {J : KernelState → Option StoredAppliedState → Prop} {system : System}
  {m : Backend} {α β : Type} {q : BackendM α}
  {Q : α → KernelState → Option StoredAppliedState → Backend → Prop}

/-- What an operation returned with. -/
theorem Proceeds.returned (h : Proceeds sure J system.kernel system.store m q Q) {a : α}
    (ha : (undisturbed q system m).result = .ok a) :
    Q a (undisturbed q system m).world.machine.kernel (undisturbed q system m).world.machine.store
      (undisturbed q system m).world.memory :=
  (h { system with syncFaults := fun _ => false } rfl rfl fun _ => false).2.1 a ha

/-- Undisturbed, an operation that is sure to return does. -/
theorem Proceeds.completes (h : Proceeds True J system.kernel system.store m q Q) :
    ∃ a, (undisturbed q system m).result = .ok a ∧
      Q a (undisturbed q system m).world.machine.kernel
        (undisturbed q system m).world.machine.store (undisturbed q system m).world.memory := by
  obtain ⟨⟨a, ha⟩, -⟩ := (h { system with syncFaults := fun _ => false } rfl rfl
    fun _ => false).2.2 (fun _ => rfl) ⟨trivial, fun _ => rfl⟩
  exact ⟨a, ha, h.returned ha⟩

/-- What holds at every event, of the operation and of every attempt to take it up. -/
theorem Interrupted.invariant {again : BackendM β} {left : System}
    {R : System → Backend → β → KernelState → Option StoredAppliedState → Backend → Prop}
    (h : Interrupted q again system m left)
    (hfirst : Proceeds sure J system.kernel system.store m q Q)
    (hagain : ∀ (left : System) (m' : Backend), J left.kernel left.store →
      Proceeds sure J left.kernel left.store m' again (R left m')) :
    J left.kernel left.store := by
  induction h with
  | @first syncFaults faults e he =>
    exact (hfirst { system with syncFaults := syncFaults } rfl rfl faults).1 e he
  | @again left m' syncFaults faults e _ he ih =>
    exact (hagain left m' ih { left with syncFaults := syncFaults } rfl rfl faults).1 e he

end Runs

end RouteLane
