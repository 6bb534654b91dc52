import RouteLane.Backend.Operations
import RouteLane.Lib.Completion

/-!
# What the parts of the backend do to the journal

The kernel and the settings of the interfaces decide which way an operation goes, but what
it leaves in the journal and in the memory can be said without them.  Everything is
proved over the view that shows the journal and the facts of the environment: each part
has one lemma that lists what it can leave, whatever fails.
-/

namespace RouteLane

open Nft Faults Program

/-- What of the system concerns the journal. -/
structure JournalView where
  store : Option StoredAppliedState
  syncFaults : ℕ → Bool
  bootId : Option String
  networkNamespace : ℕ

def System.view (system : System) : JournalView :=
  ⟨system.store, system.syncFaults, system.bootId, system.networkNamespace⟩

/-- The view after the journal was replaced. -/
def JournalView.saved (v : JournalView) (store : Option StoredAppliedState) : JournalView :=
  { v with store := store, syncFaults := fun i => v.syncFaults (i + 1) }

/-- No sync of the state directory is going to fail. -/
def JournalView.Synced (v : JournalView) : Prop := ∀ i, v.syncFaults i = false

@[simp] theorem JournalView.saved_store (v : JournalView) (store : Option StoredAppliedState) :
    (v.saved store).store = store := rfl

@[simp] theorem JournalView.saved_bootId (v : JournalView) (store : Option StoredAppliedState) :
    (v.saved store).bootId = v.bootId := rfl

@[simp] theorem JournalView.saved_networkNamespace (v : JournalView)
    (store : Option StoredAppliedState) :
    (v.saved store).networkNamespace = v.networkNamespace := rfl

theorem JournalView.Synced.saved {v : JournalView} (h : v.Synced)
    (store : Option StoredAppliedState) : (v.saved store).Synced := fun i => h (i + 1)

/-- From this view and memory every journal on the way satisfies `J`, and the run ends in
`Q` or, when it gives up, in `E`. -/
abbrev Journals (J : Option StoredAppliedState → Prop) (flag : Option StoredAppliedState → Bool)
    (v : JournalView) (m : Backend) {α : Type} (p : BackendM α)
    (Q : Bool → α → JournalView → Backend → Prop) (E : Bool → JournalView → Backend → Prop) :
    Prop :=
  Shows System.view (fun v => J v.store) (fun v => flag v.store) v m p Q E

/-- A part that leaves the journal and the memory alone. -/
abbrev Untouched {α : Type} (p : BackendM α) : Prop := Quiet System.view p

/-! ## The settings of the interfaces

Whoever does not look at them sees nothing of what is done to them. -/

section Settings

variable {ν : Type} {view : System → ν}

theorem aside_require (c : Prop) [Decidable c] (e : PrivilegedError) :
    Aside view (require c e) := by
  unfold require
  split
  · exact Aside.pure ()
  · exact Aside.fail e

theorem aside_readIdentity (name : String) : Aside view (readIdentity name) := by
  unfold readIdentity
  split
  · exact Aside.inspectSome _ _ _
  · exact Aside.fail _

theorem aside_revalidateIdentity (identity : InterfaceIdentity) :
    Aside view (revalidateIdentity identity) := by
  unfold revalidateIdentity
  split
  · exact Aside.bind (aside_readIdentity _) fun _ => aside_require _ _
  · exact Aside.fail _

theorem aside_validateIdentity (identity : InterfaceIdentity) :
    Aside view (validateIdentity identity) :=
  Aside.bind (aside_require _ _) fun _ =>
    Aside.bind (aside_readIdentity _) fun _ => aside_require _ _

theorem aside_readSrcValidMark (name : String) : Aside view (readSrcValidMark name) :=
  Aside.inspectSome _ _ _

variable (hview : ∀ (system : System) settings,
  view { system with settings := settings } = view system)
include hview

theorem aside_setSrcValidMark (identity : InterfaceIdentity) (value : ℕ) :
    Aside view (setSrcValidMark identity value) := by
  refine Aside.bind (aside_require _ _) fun _ => ?_
  refine Aside.bind (aside_revalidateIdentity _) fun _ => ?_
  refine Aside.bind (aside_revalidateIdentity _) fun _ => ?_
  refine Aside.command ?_
  intro s s' hact
  obtain ⟨_, -, rfl⟩ := Option.map_eq_some_iff.1 hact
  exact hview s _

theorem aside_writeMarkAwareRpf (receipt : InterfaceSettingReceipt) :
    Aside view (writeMarkAwareRpf receipt) := by
  refine Aside.bind (aside_validateIdentity _) fun _ => ?_
  refine Aside.bind (aside_readSrcValidMark _) fun _ => ?_
  refine Aside.bind (aside_require _ _) fun _ => ?_
  refine Aside.bind (aside_setSrcValidMark hview _ _) fun _ => ?_
  exact Aside.bind (aside_readSrcValidMark _) fun _ => aside_require _ _

theorem aside_restoreMarkAwareRpf (receipt : InterfaceSettingReceipt) :
    Aside view (restoreMarkAwareRpf receipt) := by
  refine Aside.bind (aside_require _ _) fun _ => ?_
  refine Aside.bind (aside_validateIdentity _) fun _ => ?_
  refine Aside.bind (aside_readSrcValidMark _) fun observed => ?_
  split
  · exact Aside.pure ()
  · refine Aside.bind (aside_require _ _) fun _ => ?_
    refine Aside.bind (aside_validateIdentity _) fun _ => ?_
    refine Aside.bind (aside_setSrcValidMark hview _ _) fun _ => ?_
    exact Aside.bind (aside_readSrcValidMark _) fun _ => aside_require _ _

theorem aside_restoreSettingReceipts (receipts : List InterfaceSettingReceipt) :
    Aside view (restoreSettingReceipts receipts) := by
  induction receipts with
  | nil => exact Aside.pure []
  | cons receipt receipts ih =>
    refine Aside.bind (Aside.attempt (aside_restoreMarkAwareRpf hview receipt)) fun outcome => ?_
    refine Aside.bind ih fun rest => ?_
    cases outcome with
    | ok _ => exact Aside.pure rest
    | error e => exact Aside.pure _

end Settings

/-! ## Parts that touch neither the journal nor the memory -/

section Untouched

theorem System.view_settings (system : System) (settings : InterfaceSettings) :
    System.view { system with settings := settings } = system.view := rfl

theorem untouched_require (c : Prop) [Decidable c] (e : PrivilegedError) :
    Untouched (require c e) := (aside_require c e).quiet

theorem untouched_lift {α : Type} (x : Except PrivilegedError α) : Untouched (lift x) := by
  cases x with
  | ok a => exact Quiet.pure a
  | error e => exact Quiet.fail e

theorem untouched_withRunner {ε α : Type} (runner : CommandKernelRunner)
    (q : Program KernelState CommandKernelRunner ε α) : Untouched (withRunner runner q) :=
  Quiet.within fun _ _ => rfl

theorem untouched_onKernel {α : Type} (q : Runner α) : Untouched (onKernel q) :=
  Quiet.bind (untouched_withRunner _ q) fun result => untouched_lift result.1

theorem untouched_load : Untouched load := Quiet.inspect _ _

theorem untouched_validateIdentity (identity : InterfaceIdentity) :
    Untouched (validateIdentity identity) := (aside_validateIdentity identity).quiet

theorem untouched_readRpFilter (name : String) : Untouched (readRpFilter name) :=
  Quiet.inspectSome _ _ _

theorem untouched_readSrcValidMark (name : String) : Untouched (readSrcValidMark name) :=
  (aside_readSrcValidMark name).quiet

theorem untouched_writeMarkAwareRpf (receipt : InterfaceSettingReceipt) :
    Untouched (writeMarkAwareRpf receipt) :=
  (aside_writeMarkAwareRpf System.view_settings receipt).quiet

theorem untouched_restoreSettingReceipts (receipts : List InterfaceSettingReceipt) :
    Untouched (restoreSettingReceipts receipts) :=
  (aside_restoreSettingReceipts System.view_settings receipts).quiet

theorem untouched_grantMismatch (p : Primitives) (record : RuntimeRecord) :
    Untouched (grantMismatch p record) := by
  refine Quiet.bind (Quiet.attempt (Quiet.inspectSome _ _ _)) fun boot => ?_
  refine Quiet.bind (Quiet.attempt (Quiet.inspect _ _)) fun namespaceId => ?_
  cases boot with
  | error e => exact Quiet.pure _
  | ok boot =>
    cases namespaceId with
    | error e => exact Quiet.pure _
    | ok namespaceId =>
      show Untouched (if _ then _ else if _ then _ else _)
      split
      · exact Quiet.pure _
      · split
        · exact Quiet.pure _
        · exact Quiet.pure _

theorem untouched_refuseLegacyActivation : Untouched refuseLegacyActivation := by
  refine Quiet.bind Quiet.get fun backend => ?_
  split
  · exact Quiet.fail _
  · exact untouched_require _ _

theorem untouched_revalidateCurrentOwnership (p : Primitives) :
    Untouched (revalidateCurrentOwnership p) := by
  refine Quiet.bind Quiet.get fun backend => ?_
  split
  · exact Quiet.pure ()
  · exact Quiet.fail _
  · exact Quiet.bind (untouched_onKernel _) fun _ => untouched_require _ _

theorem untouched_revalidateCurrentOwnershipFor (p : Primitives) (next : KernelPlan) :
    Untouched (revalidateCurrentOwnershipFor p next) := by
  refine Quiet.bind Quiet.get fun backend => ?_
  split
  · exact Quiet.pure _
  · exact Quiet.fail _
  · exact Quiet.bind (Quiet.inspect _ _) fun _ => untouched_onKernel _

theorem untouched_journalInterrupted : Untouched journalInterrupted :=
  Quiet.bind untouched_load fun _ => Quiet.pure _

theorem untouched_statusSnapshot : Untouched statusSnapshot :=
  Quiet.bind Quiet.get fun _ => Quiet.pure _

end Untouched

/-! ## The store -/

/-- A later view of the same process: the facts of the environment are the same. -/
structure JournalView.Follows (v v' : JournalView) : Prop where
  bootId : v'.bootId = v.bootId
  networkNamespace : v'.networkNamespace = v.networkNamespace
  synced : v.Synced → v'.Synced

theorem JournalView.Follows.refl (v : JournalView) : v.Follows v := ⟨rfl, rfl, id⟩

theorem JournalView.Follows.trans {v v' v'' : JournalView} (h : v.Follows v')
    (h' : v'.Follows v'') : v.Follows v'' :=
  ⟨h'.bootId.trans h.bootId, h'.networkNamespace.trans h.networkNamespace, h'.synced ∘ h.synced⟩

theorem JournalView.follows_saved (v : JournalView) (store : Option StoredAppliedState) :
    v.Follows (v.saved store) := ⟨rfl, rfl, fun h => h.saved store⟩

/-- A write of the journal that failed: it did not happen, or it was not made durable. -/
def WriteFailed (flag : Option StoredAppliedState → Bool) (v : JournalView)
    (written : Option StoredAppliedState) (b : Bool) (v' : JournalView) : Prop :=
  (v'.store = v.store ∧ (b = true → flag v.store = true)) ∨ (v'.store = written ∧ ¬v.Synced)

section Store

variable {J : Option StoredAppliedState → Prop} {flag : Option StoredAppliedState → Bool}
  {v : JournalView} {m : Backend} {p : Primitives}

theorem load_spec (hv : J v.store) :
    Journals J flag v m load
      (fun b record v' m' => record = v.store ∧ v' = v ∧ m' = m ∧
        (b = true → flag v.store = true))
      (fun b v' m' => v' = v ∧ m' = m ∧ (b = true → flag v.store = true)) :=
  Shows.read JournalView.store (fun _ => rfl) hv

theorem journalInterrupted_spec (hv : J v.store) :
    Journals J flag v m journalInterrupted
      (fun b interrupted v' m' => interrupted = v.store.any StoredAppliedState.interrupted ∧
        v' = v ∧ m' = m ∧ (b = true → flag v.store = true))
      (fun b v' m' => v' = v ∧ m' = m ∧ (b = true → flag v.store = true)) := by
  refine Shows.bind (load_spec hv) ?_
  rintro b record v' m' ⟨rfl, rfl, rfl, hb⟩
  exact Shows.pure ⟨rfl, rfl, rfl, by simpa using hb⟩

theorem syncDirectory_spec (hv : J v.store) :
    Journals J flag v m syncDirectory
      (fun b _ v' m' => v' = v.saved v.store ∧ m' = m ∧ b = flag v.store)
      (fun b v' m' => ¬v.Synced ∧ v' = v.saved v.store ∧ m' = m ∧ b = flag v.store) := by
  refine Shows.conseq (Shows.ask (t := v.saved v.store) (g := !v.syncFaults 0) ?_ hv) ?_ ?_
  · rintro s rfl
    exact ⟨rfl, rfl⟩
  · rintro b _ v' m' ⟨-, rfl, rfl, rfl⟩
    exact ⟨rfl, rfl, rfl⟩
  · rintro b v' m' ⟨hrefused, rfl, rfl, rfl⟩
    refine ⟨?_, rfl, rfl, rfl⟩
    intro hsynced
    rw [hsynced 0] at hrefused
    exact absurd hrefused (by decide)

/-- Replacing the journal: the command, and making it durable. -/
theorem replace_spec {e : PrivilegedError} {written : Option StoredAppliedState} (hv : J v.store)
    (hwritten : J written) :
    Journals J flag v m
      (do command e fun system => some { system with store := written }
          syncDirectory)
      (fun _ _ v' m' => v'.store = written ∧ v.Follows v' ∧ m' = m)
      (fun b v' m' => v.Follows v' ∧ m' = m ∧ WriteFailed flag v written b v') := by
  refine Shows.bind (Shows.conseq (Shows.command (t := { v with store := written }) ?_ hv
    hwritten) (fun _ _ _ _ h => h) ?_) ?_
  · rintro s s' rfl hact
    obtain rfl := Option.some.inj hact
    rfl
  · rintro b v' m' ⟨rfl, rfl, rfl⟩
    exact ⟨.refl _, rfl, Or.inl ⟨rfl, id⟩⟩
  · rintro b _ v' m' ⟨rfl, rfl, -⟩
    refine Shows.conseq (syncDirectory_spec hwritten) ?_ ?_
    · rintro b' _ v' m' ⟨rfl, rfl, -⟩
      exact ⟨rfl, v.follows_saved written, rfl⟩
    · rintro b' v' m' ⟨hsynced, rfl, rfl, -⟩
      exact ⟨v.follows_saved written, rfl, Or.inr ⟨rfl, hsynced⟩⟩

theorem save_spec {record : StoredAppliedState} (hv : J v.store) (hrecord : J (some record)) :
    Journals J flag v m (save p record)
      (fun _ _ v' m' => v'.store = some record ∧ v.Follows v' ∧ m' = m)
      (fun b v' m' => v.Follows v' ∧ m' = m ∧ WriteFailed flag v (some record) b v') := by
  refine Shows.quiet_bind (untouched_require _ _) hv ?_ fun b _ hb => ?_
  · exact fun b hb => ⟨.refl v, rfl, Or.inl ⟨rfl, hb⟩⟩
  · refine Shows.conseq (replace_spec hv hrecord) (fun _ _ _ _ h => h) ?_
    rintro b' v' m' ⟨hfollows, rfl, ⟨hsame, hb'⟩ | hwritten⟩
    · exact ⟨hfollows, rfl, Or.inl ⟨hsame, flag_or hb hb'⟩⟩
    · exact ⟨hfollows, rfl, Or.inr hwritten⟩

theorem clear_spec (hv : J v.store) (hnone : J none) :
    Journals J flag v m clear (fun _ _ v' m' => v'.store = none ∧ v.Follows v' ∧ m' = m)
      (fun b v' m' => v.Follows v' ∧ m' = m ∧ WriteFailed flag v none b v') := by
  refine Shows.bind (Shows.conseq (Shows.read (fun v => v.store.isSome) (fun _ => rfl) hv)
    (fun _ _ _ _ h => h) ?_) ?_
  · rintro b v' m' ⟨rfl, rfl, hb⟩
    exact ⟨.refl _, rfl, Or.inl ⟨rfl, hb⟩⟩
  · rintro b present v' m' ⟨hpresent, rfl, rfl, hb⟩
    cases present with
    | true =>
      refine Shows.conseq (replace_spec hv hnone) (fun _ _ _ _ h => h) ?_
      rintro b' v'' m'' ⟨hfollows, rfl, ⟨hsame, hb'⟩ | hwritten⟩
      · exact ⟨hfollows, rfl, Or.inl ⟨hsame, flag_or hb hb'⟩⟩
      · exact ⟨hfollows, rfl, Or.inr hwritten⟩
    | false =>
      refine Shows.pure ⟨?_, .refl _, rfl⟩
      exact Option.not_isSome_iff_eq_none.1 (by rw [← hpresent]; exact Bool.false_ne_true)

end Store

end RouteLane
