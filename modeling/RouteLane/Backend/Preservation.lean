import RouteLane.Backend.Reconciliation

/-!
# What cleanup keeps of the journal

An operation that saves several journals on its way preserves what each of them satisfies,
wherever it fails.  Cleanup is built from parts of this kind: the journals it saves have
nothing on its way, neither do those of earlier schemas it finishes first.
-/

namespace RouteLane

open Nft Faults Program

/-! ## Parts that preserve the journal -/

/-- From a journal that satisfies `J`, every journal on the way and at the end does. -/
def Preserves (J : Option StoredAppliedState → Prop) {α : Type} (q : BackendM α) : Prop :=
  ∀ (flag : Option StoredAppliedState → Bool) (v : JournalView) (m : Backend), J v.store →
    Journals J flag v m q (fun _ _ v' _ => J v'.store) (fun _ v' _ => J v'.store)

namespace Preserves

variable {J : Option StoredAppliedState → Prop} {α β : Type} {q : BackendM α}
  {f : α → BackendM β} {p : Primitives}

theorem of_untouched (h : Untouched q) : Preserves J q := by
  intro flag v m hv
  refine Shows.conseq (Shows.quiet h hv) ?_ ?_
  · rintro b a v' m' ⟨rfl, -, -⟩
    exact hv
  · rintro b v' m' ⟨rfl, -, -⟩
    exact hv

theorem modify (g : Backend → Backend) : Preserves J (Program.modify g : BackendM Unit) :=
  fun _ _ _ hv => Shows.modify hv

theorem bind (hq : Preserves J q) (hf : ∀ a, Preserves J (f a)) : Preserves J (q >>= f) :=
  fun flag v m hv => Shows.bind (hq flag v m hv) fun _ a v' m' hv' => hf a flag v' m' hv'

theorem save {record : StoredAppliedState} (h : J (some record)) :
    Preserves J (RouteLane.save p record) := by
  intro flag v m hv
  refine Shows.conseq (save_spec hv h) ?_ ?_
  · rintro b _ v' m' ⟨hwritten, -, -⟩
    rwa [hwritten]
  · rintro b v' m' ⟨-, -, ⟨hsame, -⟩ | ⟨hwritten, -⟩⟩
    · rwa [hsame]
    · rwa [hwritten]

theorem clear (h : J none) : Preserves J RouteLane.clear := by
  intro flag v m hv
  refine Shows.conseq (clear_spec hv h) ?_ ?_
  · rintro b _ v' m' ⟨hwritten, -, -⟩
    rwa [hwritten]
  · rintro b v' m' ⟨-, -, ⟨hsame, -⟩ | ⟨hwritten, -⟩⟩
    · rwa [hsame]
    · rwa [hwritten]

theorem ensureInspectionReady : Preserves J (RouteLane.ensureInspectionReady p) := by
  intro flag v m hv
  refine Shows.conseq (ensureInspectionReady_spec hv) ?_ ?_
  · rintro b _ v' m' ⟨rfl, -, -⟩
    exact hv
  · rintro b v' m' ⟨rfl, -, -⟩
    exact hv

theorem ensureReconciled
    (hJ : ∀ record written, RecoveryWrites record written → J written) :
    Preserves J (RouteLane.ensureReconciled p) := by
  intro flag v m hv
  refine Shows.conseq (ensureReconciled_spec hv fun record written _ => hJ record written) ?_ ?_
  · rintro b _ v' m' ⟨-, hended⟩
    rcases hended.store with hsame | ⟨record, -, hwrites⟩
    · rwa [hsame]
    · exact hJ record _ hwrites
  · rintro b v' m' ⟨-, -, ⟨hsame, -⟩ | ⟨record, hstore, hfailed⟩⟩
    · rwa [hsame]
    · rcases hfailed.store with hsame | hwrites
      · rwa [hsame]
      · exact hJ record _ hwrites

end Preserves

/-! ## Cleanup -/

theorem untouched_checkLegacyIdentities (lanes : List LanePlan) :
    Untouched (checkLegacyIdentities lanes) := by
  induction lanes with
  | nil => exact Quiet.pure ()
  | cons lane lanes ih =>
    unfold checkLegacyIdentities
    cases lane.identity with
    | none => exact ih
    | some identity =>
      refine Quiet.bind (aside_readIdentity _).quiet fun _ => ?_
      exact Quiet.bind (untouched_require _ _) fun _ => ih

section Cleanup

variable {J : Option StoredAppliedState → Prop} (p : Primitives) (hnone : J none)
  (hsettled : ∀ record : StoredAppliedState, record.pending = none → J (some record))
include hnone hsettled

theorem preserves_cleanupLegacy (legacy : LegacyJournalV1) :
    Preserves J (cleanupLegacy p legacy) := by
  refine .bind (.of_untouched (untouched_require _ _)) fun _ => ?_
  split
  · refine .bind (.clear hnone) fun _ => ?_
    exact .bind (.modify _) fun _ => .of_untouched (Quiet.pure _)
  · exact .of_untouched (Quiet.fail _)
  · refine .bind (.of_untouched (untouched_onKernel _)) fun _ => ?_
    refine .bind (.save (hsettled _ rfl)) fun _ => ?_
    refine .bind (.of_untouched (untouched_onKernel _)) fun _ => ?_
    refine .bind (.clear hnone) fun _ => ?_
    exact .bind (.modify _) fun _ => .of_untouched (Quiet.pure _)

theorem preserves_cleanupLegacyV2 (legacy : LegacyJournalV2) :
    Preserves J (cleanupLegacyV2 p legacy) := by
  unfold cleanupLegacyV2
  split
  · refine .bind (.of_untouched (untouched_require _ _)) fun _ => ?_
    refine .bind (.save (hsettled _ rfl)) fun _ => ?_
    exact .bind (.modify _) fun _ => preserves_cleanupLegacy p hnone hsettled _
  · refine .bind (.of_untouched (untouched_require _ _)) fun _ => ?_
    refine .bind (.of_untouched (untouched_lift _)) fun _ => ?_
    refine .bind (.of_untouched (untouched_checkLegacyIdentities _)) fun _ => ?_
    refine .bind (.of_untouched (untouched_onKernel _)) fun _ => ?_
    refine .bind (.save (hsettled _ rfl)) fun _ => ?_
    refine .bind (.modify _) fun _ => ?_
    refine .bind (.of_untouched (untouched_onKernel _)) fun _ => ?_
    refine .bind (.of_untouched (untouched_restoreSettingReceipts _)) fun _ => ?_
    refine .bind (.clear hnone) fun _ => ?_
    exact .bind (.modify _) fun _ => .of_untouched (Quiet.pure _)

theorem preserves_cleanupCommitted (restoreReceipt : Option RestoreReceipt) :
    Preserves J (cleanupCommitted p restoreReceipt) := by
  refine .bind (.of_untouched Quiet.get) fun backend => ?_
  cases backend.current with
  | none =>
    show Preserves J (if _ then _ else _)
    split
    · refine .bind (.clear hnone) fun _ => ?_
      exact .bind (.modify _) fun _ => .of_untouched (Quiet.pure _)
    · exact .of_untouched (Quiet.pure _)
  | some current =>
    refine .bind (.of_untouched (untouched_onKernel _)) fun _ => ?_
    refine .bind (.save (hsettled _ rfl)) fun _ => ?_
    refine .bind (.of_untouched (untouched_withRunner _ _)) fun _ => ?_
    refine .bind (.of_untouched (untouched_lift _)) fun _ => ?_
    refine .bind (.of_untouched (untouched_restoreSettingReceipts _)) fun _ => ?_
    refine .bind (.modify _) fun _ => ?_
    have hend : Preserves J (do
        Program.modify fun backend : Backend => { backend with
          current := none, currentNftFingerprint := none, restoreReceipt := restoreReceipt }
        return true : BackendM Bool) :=
      .bind (.modify _) fun _ => .of_untouched (Quiet.pure _)
    cases restoreReceipt with
    | none => exact .bind (.clear hnone) fun _ => hend
    | some receipt => exact .bind (.save (hsettled _ rfl)) fun _ => hend

/-- A cleanup only saves journals with nothing on its way, whatever it finds. -/
theorem preserves_cleanupWithReceipt
    (hJ : ∀ record written, RecoveryWrites record written → J written)
    (restoreReceipt : Option RestoreReceipt) :
    Preserves J (cleanupWithReceipt p restoreReceipt) := by
  refine .bind .ensureInspectionReady fun _ => ?_
  refine .bind (.ensureReconciled hJ) fun _ => ?_
  refine .bind (.of_untouched Quiet.get) fun backend => ?_
  split
  · exact preserves_cleanupLegacyV2 p hnone hsettled _
  · exact preserves_cleanupLegacy p hnone hsettled _
  · exact .bind (.modify _) fun _ => preserves_cleanupCommitted p hnone hsettled _

end Cleanup

end RouteLane
