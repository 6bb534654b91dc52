import RouteLane.Backend.Progress
import RouteLane.Backend.FailedRefresh
import RouteLane.Kernel.Exactness
import RouteLane.Kernel.LostRoutes

/-!
# Cleaning up a committed plan

Before anything is deleted the live state has to be a part of what the plan owns, under the
table that was committed, and the journal of the cleanup is saved.  Removing rules and routes
leaves such a state, and the table goes last, so that wherever the cleanup is broken off the
journal is still entitled to finish it.
-/

namespace RouteLane

open Nft Faults Program Steps Fallible

/-! ## Conflicts -/

/-- The conflict check looks at the entries a kernel shows, and whoever has fewer routes and
rules shows fewer of them. -/
structure Primitives.ChecksEntries (p : Primitives) (shown : KernelState → KernelSnapshot) :
    Prop where
  conflicts : ∀ plan kernel, p.conflicts plan kernel = none ↔
    detectResourceConflicts plan (shown kernel) = .ok ()
  routes : ∀ kernel kernel', kernel'.routing.Part kernel.routing →
    (shown kernel').routes.Sublist (shown kernel).routes
  rules : ∀ kernel kernel', kernel'.routing.Part kernel.routing →
    (shown kernel').rules.Sublist (shown kernel).rules

/-- A cleanup runs into no conflict of its own making. -/
theorem Primitives.ChecksEntries.removed {p : Primitives} {shown : KernelState → KernelSnapshot}
    (h : p.ChecksEntries shown) {plan : KernelPlan} {kernel kernel' : KernelState}
    (hpart : kernel'.routing.Part kernel.routing) (hfree : p.conflicts plan kernel = none) :
    p.conflicts plan kernel' = none :=
  (h.conflicts plan kernel').2 (detectResourceConflicts_sublist (h.routes _ _ hpart)
    (h.rules _ _ hpart) ((h.conflicts plan kernel).1 hfree))

/-! ## States a cleanup accepts -/

/-- What is live is a part of what the plan owns, and it is under the committed table unless
nothing is left of it. -/
structure CleanupOwns (p : Primitives) (plan : KernelPlan) (fingerprint : String)
    (kernel : KernelState) : Prop where
  free : p.conflicts plan kernel = none
  part : kernel.routing.Part (planRoutingOwnership plan)
  marked : ∀ document ∈ kernel.nft, stateChainName p.blake3 plan ∈ chainNames document
  committed : ∀ document ∈ kernel.nft, nftDocumentFingerprint p.blake3 document = fingerprint
  gone : kernel.nft = none → kernel.routing = .empty

section Owns

variable {p : Primitives} {shown : KernelState → KernelSnapshot} {plan : KernelPlan}
  {fingerprint : String} {kernel : KernelState} {sure : Prop} {keeps : KernelState → Prop}
  {m : CommandKernelRunner}

/-- Removing rules and routes leaves a state that is still accepted. -/
theorem CleanupOwns.removals (h : CleanupOwns p plan fingerprint kernel)
    (hentries : p.ChecksEntries shown) {steps : List RoutingStep}
    (hsteps : ∀ step ∈ steps, step.isRemoval = true) :
    CleanupOwns p plan fingerprint (kernel.runSteps steps) := by
  have hpart : (kernel.runSteps steps).routing.Part kernel.routing := .removals hsteps
  refine ⟨hentries.removed hpart h.free, hpart.trans h.part, h.marked, h.committed, ?_⟩
  intro hnone
  rw [h.gone hnone] at hpart
  exact hpart.eq_empty

/-- The state a cleanup ends in is accepted as well. -/
theorem CleanupOwns.emptied (h : CleanupOwns p plan fingerprint kernel)
    (hentries : p.ChecksEntries shown) :
    CleanupOwns p plan fingerprint ⟨none, .empty⟩ :=
  ⟨hentries.removed .empty h.free, .empty, nofun, nofun, fun _ => rfl⟩

/-- What belongs to a plan its rollback removes. -/
theorem CleanupOwns.within (h : CleanupOwns p plan fingerprint kernel) :
    kernel.routing.Within [plan] := by
  have hplan : (planRoutingOwnership plan).Within [plan] := .plan List.mem_cons_self
  exact ⟨fun r hr => hplan.routes r (h.part.routes hr), fun r hr => hplan.rules r (h.part.rules hr)⟩

/-- `verify_cleanup_table_ownership` accepts exactly these states. -/
theorem verifyCleanupTableOwnership_completes (hkeeps : keeps kernel)
    (hsure : sure → CleanupOwns p plan fingerprint kernel) :
    Completes (fun _ => sure) keeps kernel m
      (verifyCleanupTableOwnership p (some plan) (some fingerprint))
      fun _ kernel' m' => CleanupOwns p plan fingerprint kernel ∧ kernel' = kernel ∧ m' = m := by
  refine Completes.bind (captureSnapshot_completes hkeeps) ?_
  rintro _ kernel m ⟨rfl, rfl, rfl⟩
  dsimp only
  cases hconflict : p.conflicts plan kernel with
  | some conflict =>
    refine Completes.fail fun hs => ?_
    have hfree := (hsure hs).free
    rw [hconflict] at hfree
    cases hfree
  | none =>
    dsimp only
    by_cases hpart : kernel.routing.routes ⊆ (planRoutingOwnership plan).routes ∧
        kernel.routing.rules ⊆ (planRoutingOwnership plan).rules
    · rw [if_neg (not_not.2 hpart)]
      have hpart' : kernel.routing.Part (planRoutingOwnership plan) := ⟨hpart.1, hpart.2⟩
      cases hnft : kernel.nft with
      | none =>
        by_cases hempty : kernel.routing = .empty
        · simp only [Option.isNone_none, if_true, hempty]
          refine Completes.pure ⟨⟨hconflict, hpart', ?_, ?_, fun _ => hempty⟩, rfl, rfl⟩
          · intro document hdocument
            rw [hnft] at hdocument
            cases hdocument
          · intro document hdocument
            rw [hnft] at hdocument
            cases hdocument
        · simp only [Option.isNone_none, if_true, if_neg hempty]
          exact Completes.fail fun hs => hempty ((hsure hs).gone hnft)
      | some document =>
        simp only [Option.isNone_some, Bool.false_eq_true, if_false]
        have hmarker : Completes (fun _ => sure) keeps kernel m (nftMarkerPresent p plan)
            fun present kernel' m' => present =
              decide (stateChainName p.blake3 plan ∈ chainNames document) ∧
                kernel' = kernel ∧ m' = m := by
          refine Completes.bind (Completes.inspect (Q := fun table kernel' m' =>
            table = kernel.nft ∧ kernel' = kernel ∧ m' = m) hkeeps ⟨rfl, rfl, rfl⟩) ?_
          rintro _ _ _ ⟨rfl, rfl, rfl⟩
          rw [hnft]
          exact Completes.pure ⟨rfl, rfl, rfl⟩
        refine Completes.bind hmarker ?_
        rintro _ kernel _ ⟨rfl, rfl, rfl⟩
        by_cases hmarked : stateChainName p.blake3 plan ∈ chainNames document
        · rw [decide_eq_true hmarked, if_pos rfl]
          refine Completes.bind (liveNftFingerprint_completes hkeeps hnft) ?_
          rintro _ kernel _ ⟨rfl, rfl, rfl⟩
          by_cases hcommitted : nftDocumentFingerprint p.blake3 document = fingerprint
          · rw [if_pos hcommitted]
            refine Completes.pure ⟨⟨hconflict, hpart', ?_, ?_, ?_⟩, rfl, rfl⟩
            · intro other hother
              rw [← Option.some.inj (hnft.symm.trans hother)]
              exact hmarked
            · intro other hother
              rw [← Option.some.inj (hnft.symm.trans hother)]
              exact hcommitted
            · intro hnone
              rw [hnft] at hnone
              cases hnone
          · rw [if_neg hcommitted]
            exact Completes.fail fun hs => hcommitted ((hsure hs).committed document hnft)
        · rw [decide_eq_false hmarked, if_neg Bool.false_ne_true]
          exact Completes.fail fun hs => hmarked ((hsure hs).marked document hnft)
    · rw [if_pos hpart]
      exact Completes.fail fun hs => hpart ⟨(hsure hs).part.routes, (hsure hs).part.rules⟩

/-- The deletions of a cleanup pass through states that are still accepted, and end with
nothing left. -/
theorem removePlan_completes (hentries : p.ChecksEntries shown)
    (howns : CleanupOwns p plan fingerprint kernel)
    (hkeeps : ∀ kernel', CleanupOwns p plan fingerprint kernel' → keeps kernel') :
    Completes (fun _ => sure) keeps kernel (.new (some plan) ∅) (do
      let _ ← snapshot
      restore p.blake3 none)
      fun _ kernel' _ => kernel' = ⟨none, .empty⟩ := by
  have hcleared : kernel.cleared [plan] = ⟨none, .empty⟩ := by
    rw [KernelState.cleared, run_rollbackSteps howns.within]
  apply Completes.ofEnsures
  intro r hfine
  refine Ensures.bind ((snapshot_ensures (hfine _ (hkeeps _ howns))).conseq
    (fun _ _ _ h => h) fun _ _ h => h.2.2.1) ?_
  rintro _ kernel _ ⟨rfl, rfl⟩
  refine (clearForRollback_ensures rfl ?_ ?_).conseq ?_ fun _ _ h => h.2.2.1
  · intro pre hpre
    exact hfine _ (hkeeps _ (howns.removals hentries fun step hstep =>
      isRemoval_rollbackSteps (hpre.subset hstep)))
  · show r.Fine (kernel.cleared [plan])
    rw [hcleared]
    exact hfine _ (hkeeps _ (howns.emptied hentries))
  · rintro _ _ _ ⟨rfl, -⟩
    exact hcleared

end Owns

/-! ## The journal of a cleanup -/

/-- A committed plan on disk, and nothing that was interrupted. -/
structure CommittedJournal (p : Primitives) (plan : KernelPlan) (fingerprint : String)
    (record : StoredAppliedState) : Prop where
  valid : validateJournal p record = .ok ()
  active : record.active = some plan
  fingerprint : record.activeNftFingerprint = some fingerprint
  settled : record.interrupted = false

/-- The tables of a plan that passed the loader are distinct. -/
theorem CommittedJournal.tables_nodup {p : Primitives} {plan : KernelPlan} {fingerprint : String}
    {record : StoredAppliedState} (h : CommittedJournal p plan fingerprint record) :
    (plan.lanes.map LanePlan.table).Nodup := by
  have hvalid := h.valid
  simp only [validateJournal, check_eq_ok, h.active] at hvalid
  have hplan := hvalid.1
  cases hresult : validatePrivilegedPlan plan with
  | ok _ => exact tables_nodup_of_valid hresult
  | error e =>
    rw [validateStoredPlan, hresult] at hplan
    cases hplan

/-- What the kernel dropped of a plan leaves a part of it. -/
theorem part_routingBasis {plan : KernelPlan} (hplan : (plan.lanes.map LanePlan.table).Nodup)
    (lost : LostUnicast) :
    (planRoutingOwnership (routingBasis lost plan)).Part (planRoutingOwnership plan) := by
  refine ⟨fun r hr => ((Live.mem_routes_routingBasis hplan).1 hr).1, ?_⟩
  rw [Live.rules_routingBasis]

/-- What is saved before the first deletion. -/
def cleanupJournal (plan : KernelPlan) (fingerprint : String) (receipt : Option RestoreReceipt)
    (settings : List InterfaceSettingReceipt) : StoredAppliedState where
  active := some plan
  activeNftFingerprint := some fingerprint
  cleanupPending := true
  restoreReceipt := receipt
  interfaceSettings := settings

theorem RestoreReceipt.new_failedMatches (p : Primitives) (plan : KernelPlan) :
    (RestoreReceipt.new p plan none).failedMatches p (some plan) = true := by
  simp [RestoreReceipt.failedMatches, RestoreReceipt.new]

theorem RestoreReceipt.new_previousMatches (p : Primitives) (plan : KernelPlan) :
    (RestoreReceipt.new p plan none).previousMatches p none = true := rfl

section Journal

variable {p : Primitives} {plan : KernelPlan} {fingerprint : String} {record : StoredAppliedState}
  {receipt : Option RestoreReceipt}

/-- The journal of a cleanup of a committed plan passes the checks of the loader. -/
theorem CommittedJournal.cleanup_valid (h : CommittedJournal p plan fingerprint record)
    (hreceipt : ∀ r ∈ receipt, r = .new p plan none) :
    validateJournal p (cleanupJournal plan fingerprint receipt record.interfaceSettings) =
      .ok () := by
  have hsettled := h.settled
  simp only [StoredAppliedState.interrupted, Bool.or_eq_false_iff] at hsettled
  have hvalid := h.valid
  simp only [validateJournal, check_eq_ok, h.active, h.fingerprint] at hvalid
  obtain ⟨hplan, -, hpair, -, -, hsettings, -⟩ := hvalid
  simp only [validateSettingReceipts, check_eq_ok, failIf_eq_ok] at hsettings
  obtain ⟨-, -, -, hbounds⟩ := hsettings
  simp only [validateJournal, check_eq_ok]
  refine ⟨hplan, rfl, hpair, rfl, ?_, ?_, rfl⟩
  · cases hr : receipt with
    | none => rfl
    | some r =>
      obtain rfl := hreceipt r hr
      simp only [validateRestoreReceipt, cleanupJournal, check_eq_ok, if_true, failIf_eq_ok,
        RestoreReceipt.new_failedMatches, RestoreReceipt.new_previousMatches]
      simp [RestoreReceipt.new]
  · simp only [validateSettingReceipts, check_eq_ok, failIf_eq_ok]
    refine ⟨by simp [cleanupJournal], by simp [cleanupJournal], by simp [cleanupJournal], ?_⟩
    rintro (⟨r, hr, hvalues⟩ | hlength)
    · refine hbounds (Or.inl ⟨r, ?_, hvalues⟩)
      simp only [cleanupJournal, List.append_nil] at hr
      exact List.mem_append_left _ hr
    · refine hbounds (Or.inr ?_)
      simp only [cleanupJournal, List.append_nil] at hlength
      rw [List.length_append]
      omega

end Journal

/-! ## Reading a committed plan -/

theorem quiet_captureSnapshot : Quiet id captureSnapshot := by
  refine Quiet.bind ?_ fun _ => Quiet.inspect _ _
  refine Quiet.bind (Quiet.inspect _ _) fun _ => ?_
  refine Quiet.bind (Quiet.inspect _ _) fun _ => ?_
  refine Quiet.bind (Quiet.inspect _ _) fun _ => ?_
  exact Quiet.bind (Quiet.inspect _ _) fun _ => Quiet.pure ()

theorem quiet_verifyPersistedOwnership {p : Primitives} (plan : KernelPlan)
    (fingerprint : String) : Quiet id (verifyPersistedOwnership p plan fingerprint) := by
  refine Quiet.bind quiet_captureSnapshot fun captured => ?_
  split
  · exact Quiet.fail _
  split
  · exact Quiet.fail _
  split
  · refine Quiet.bind (Quiet.bind (Quiet.inspect _ _) fun _ => Quiet.pure _) fun present => ?_
    split
    · refine Quiet.bind (Quiet.bind (Quiet.inspect _ _) fun table => ?_) fun live => ?_
      · cases table with
        | none => exact Quiet.fail _
        | some document => exact Quiet.pure _
      · split
        · exact Quiet.pure _
        · exact Quiet.fail _
    · exact Quiet.fail _
  · exact Quiet.pure _

/-! ## The cleanup -/

/-- The kernel and the journal from the saved journal of a cleanup on. -/
def CleaningUp (p : Primitives) (plan : KernelPlan) (fingerprint : String)
    (journal : StoredAppliedState) (receipt : Option RestoreReceipt) (kernel : KernelState)
    (store : Option StoredAppliedState) : Prop :=
  (store = some journal ∧ CleanupOwns p plan fingerprint kernel) ∨
    (store = emptiedStore receipt ∧ kernel = ⟨none, .empty⟩)

/-- The journals a cleanup writes are short enough to be saved. -/
structure Primitives.CleanupFits (p : Primitives) (journal : StoredAppliedState)
    (receipt : Option RestoreReceipt) : Prop where
  journal : p.stateBytes journal ≤ maxStateBytes
  receipt : ∀ r ∈ receipt, p.stateBytes (.committed none none (some r)) ≤ maxStateBytes

section Cleanup

variable {p : Primitives} {shown : KernelState → KernelSnapshot} {plan : KernelPlan}
  {fingerprint : String} {kernel : KernelState} {sure : Prop} {m : Backend}
  {record : StoredAppliedState} {receipt : Option RestoreReceipt}
  {settings : List InterfaceSettingReceipt} {α : Type}

/-- The last step: the journal of a cleanup is replaced by what is left of it. -/
theorem closeCleanup_proceeds {journal : StoredAppliedState} {q : BackendM α}
    {g : Unit → BackendM α} {R : α → KernelState → Option StoredAppliedState → Backend → Prop}
    (hsome : ∀ r, receipt = some r → q = save p (.committed none none (some r)) >>= g)
    (hnone : receipt = none → q = clear >>= g)
    (hfits : p.CleanupFits journal receipt) (howns : CleanupOwns p plan fingerprint ⟨none, .empty⟩)
    (hg : Proceeds sure (CleaningUp p plan fingerprint journal receipt) ⟨none, .empty⟩
      (emptiedStore receipt) m (g ()) R) :
    Proceeds sure (CleaningUp p plan fingerprint journal receipt) ⟨none, .empty⟩ (some journal) m
      q R := by
  have hJ : CleaningUp p plan fingerprint journal receipt ⟨none, .empty⟩ (some journal) :=
    Or.inl ⟨rfl, howns⟩
  have hdone : CleaningUp p plan fingerprint journal receipt ⟨none, .empty⟩
      (emptiedStore receipt) := Or.inr ⟨rfl, rfl⟩
  cases receipt with
  | some r =>
    rw [hsome r rfl]
    exact Proceeds.save_bind (fun _ => hfits.receipt r rfl) hJ hdone hg
  | none =>
    rw [hnone rfl]
    refine Proceeds.bind (Proceeds.clear hJ hdone) ?_
    rintro _ _ _ _ ⟨rfl, rfl, rfl⟩
    exact hg

/-- A cleanup that was broken off is finished from wherever that was. -/
theorem resumeCleanup_proceeds (hentries : p.ChecksEntries shown)
    (hfits : p.CleanupFits (cleanupJournal plan fingerprint receipt settings) receipt)
    (howns : CleanupOwns p plan fingerprint kernel) :
    Proceeds sure (CleaningUp p plan fingerprint (cleanupJournal plan fingerprint receipt settings)
        receipt) kernel (some (cleanupJournal plan fingerprint receipt settings)) m
      (resumeCleanup p (cleanupJournal plan fingerprint receipt settings))
      fun _ kernel' store _ => kernel' = ⟨none, .empty⟩ ∧ store = emptiedStore receipt := by
  refine Proceeds.onKernel_bind (verifyCleanupTableOwnership_completes (Or.inl ⟨rfl, howns⟩)
    fun _ => howns) ?_
  rintro _ kernel _ ⟨-, rfl, rfl⟩
  refine Proceeds.within_bind (removePlan_completes hentries howns fun _ h => Or.inl ⟨rfl, h⟩)
    (fun e _ => ⟨_, rfl⟩) ?_
  rintro _ _ _ rfl
  have hempty := howns.emptied hentries
  refine Proceeds.lift_bind (fun _ => ⟨_, rfl⟩) fun _ _ => ?_
  refine Proceeds.restoreSettings_bind (Or.inl ⟨rfl, hempty⟩) fun _ => ?_
  refine closeCleanup_proceeds (g := fun _ => modify fun backend =>
    { backend.cleared receipt with interfaceSettings := [] }) ?_ ?_ hfits hempty ?_
  · rintro r rfl
    rfl
  · rintro rfl
    rfl
  · exact Proceeds.modify ⟨rfl, rfl⟩

theorem ensureReconciled_cleanup_proceeds (hentries : p.ChecksEntries shown)
    (hvalid : validateJournal p (cleanupJournal plan fingerprint receipt settings) = .ok ())
    (hfits : p.CleanupFits (cleanupJournal plan fingerprint receipt settings) receipt)
    (howns : CleanupOwns p plan fingerprint kernel) :
    Proceeds sure (CleaningUp p plan fingerprint (cleanupJournal plan fingerprint receipt settings)
        receipt) kernel (some (cleanupJournal plan fingerprint receipt settings)) m
      (ensureReconciled p)
      fun _ kernel' store _ => kernel' = ⟨none, .empty⟩ ∧ store = emptiedStore receipt := by
  refine Proceeds.load_bind (Or.inl ⟨rfl, howns⟩) ?_
  refine Proceeds.get_bind ?_
  have hunfinished : (!m.initialized ||
      (cleanupJournal plan fingerprint receipt settings).pending.isSome ||
      (cleanupJournal plan fingerprint receipt settings).cleanupPending ||
      (cleanupJournal plan fingerprint receipt settings).orphanCleanup.isSome) = true := by
    simp [cleanupJournal]
  dsimp only
  rw [if_pos hunfinished]
  exact Proceeds.lift_bind (fun _ => ⟨(), hvalid⟩) fun _ _ =>
    resumeCleanup_proceeds hentries hfits howns

/-- Reading a committed plan. -/
theorem ensureInspectionReady_committed {J : KernelState → Option StoredAppliedState → Prop}
    (hrecord : CommittedJournal p plan fingerprint record) (hJ : J kernel (some record)) :
    Proceeds sure J kernel (some record) m (ensureInspectionReady p)
      fun _ kernel' store m' => kernel' = kernel ∧ store = some record ∧
        m' = m.inspected record := by
  have hsettled := hrecord.settled
  simp only [StoredAppliedState.interrupted, Bool.or_eq_false_iff] at hsettled
  obtain ⟨⟨-, hv1⟩, hv2⟩ := hsettled
  refine Proceeds.load_bind hJ ?_
  dsimp only
  rw [hv2, hv1, if_neg Bool.false_ne_true, if_neg Bool.false_ne_true]
  exact Proceeds.lift_bind (fun _ => ⟨(), hrecord.valid⟩) fun _ _ =>
    Proceeds.modify ⟨rfl, rfl, rfl⟩

/-- What a cleanup passes through: the committed plan as it was, or a cleanup on its way. -/
def CleanupPasses (p : Primitives) (plan : KernelPlan) (fingerprint : String)
    (record : StoredAppliedState) (receipt : Option RestoreReceipt) (start : KernelState)
    (kernel : KernelState) (store : Option StoredAppliedState) : Prop :=
  (kernel = start ∧ store = some record) ∨
    CleaningUp p plan fingerprint (cleanupJournal plan fingerprint receipt record.interfaceSettings)
      receipt kernel store

/-- A committed plan whose live state the cleanup accepts is removed, and no other one is. -/
theorem cleanupWithReceipt_proceeds (hentries : p.ChecksEntries shown)
    (hrecord : CommittedJournal p plan fingerprint record)
    (hfits : p.CleanupFits
      (cleanupJournal plan fingerprint receipt record.interfaceSettings) receipt)
    (hm : m.legacyV2 = none) (hsure : sure → CleanupOwns p plan fingerprint kernel) :
    Proceeds sure (fun kernel' store => CleanupPasses p plan fingerprint record receipt kernel
        kernel' store ∧ (¬CleanupOwns p plan fingerprint kernel →
          kernel' = kernel ∧ store = some record)) kernel (some record) m
      (cleanupWithReceipt p receipt)
      fun cleaned kernel' store _ => cleaned = true ∧ CleanupOwns p plan fingerprint kernel ∧
        kernel' = ⟨none, .empty⟩ ∧ store = emptiedStore receipt := by
  have hstart : CleanupPasses p plan fingerprint record receipt kernel kernel (some record) ∧
      (¬CleanupOwns p plan fingerprint kernel → kernel = kernel ∧ some record = some record) :=
    ⟨Or.inl ⟨rfl, rfl⟩, fun _ => ⟨rfl, rfl⟩⟩
  refine Proceeds.bind (ensureInspectionReady_committed hrecord hstart) ?_
  rintro _ kernel _ _ ⟨rfl, rfl, rfl⟩
  have hsettled := hrecord.settled
  simp only [StoredAppliedState.interrupted, Bool.or_eq_false_iff] at hsettled
  obtain ⟨⟨⟨⟨hpending, hcleanup⟩, horphan⟩, -⟩, -⟩ := hsettled
  -- the journal was read a moment ago, so there is nothing to reconcile
  have hreconciled : Proceeds sure (fun kernel' store => CleanupPasses p plan fingerprint record
        receipt kernel kernel' store ∧ (¬CleanupOwns p plan fingerprint kernel →
          kernel' = kernel ∧ store = some record)) kernel (some record) (m.inspected record)
      (ensureReconciled p) fun _ kernel' store m' => kernel' = kernel ∧ store = some record ∧
        m' = m.inspected record := by
    refine Proceeds.load_bind hstart ?_
    refine Proceeds.get_bind ?_
    have hskip : ¬(!(m.inspected record).initialized || record.pending.isSome ||
        record.cleanupPending || record.orphanCleanup.isSome) = true := by
      simp [Backend.inspected, hpending, hcleanup, horphan]
    dsimp only
    rw [if_neg hskip]
    exact Proceeds.pure ⟨rfl, rfl, rfl⟩
  refine Proceeds.bind hreconciled ?_
  rintro _ kernel _ _ ⟨rfl, rfl, rfl⟩
  refine Proceeds.get_bind ?_
  have hlegacy : (m.inspected record).legacyV2 = none := hm
  have hcurrent : (m.inspected record).current = some plan := hrecord.active
  have hfingerprint : (m.inspected record).currentNftFingerprint = some fingerprint :=
    hrecord.fingerprint
  rw [hlegacy]
  refine Proceeds.modify_bind ?_
  refine Proceeds.get_bind ?_
  dsimp only
  rw [hcurrent, hfingerprint]
  refine Proceeds.onKernel_bind (verifyCleanupTableOwnership_completes hstart hsure) ?_
  rintro _ kernel _ ⟨howns, rfl, rfl⟩
  have hbegun : ∀ kernel' store, CleaningUp p plan fingerprint
      (cleanupJournal plan fingerprint receipt record.interfaceSettings) receipt kernel' store →
      CleanupPasses p plan fingerprint record receipt kernel kernel' store ∧
        (¬CleanupOwns p plan fingerprint kernel → kernel' = kernel ∧ store = some record) :=
    fun _ _ h => ⟨Or.inr h, fun hnot => absurd howns hnot⟩
  refine Proceeds.save_bind (fun _ => hfits.journal) hstart (hbegun _ _ (Or.inl ⟨rfl, howns⟩)) ?_
  refine Proceeds.keeping ?_ hbegun
  refine Proceeds.within_bind (removePlan_completes hentries howns fun _ h => Or.inl ⟨rfl, h⟩)
    (fun e _ => ⟨_, rfl⟩) ?_
  rintro _ _ _ rfl
  have hempty := howns.emptied hentries
  refine Proceeds.lift_bind (fun _ => ⟨_, rfl⟩) fun _ _ => ?_
  refine Proceeds.restoreSettings_bind (Or.inl ⟨rfl, hempty⟩) fun _ => ?_
  refine Proceeds.modify_bind ?_
  refine closeCleanup_proceeds (g := fun _ => do
    modify fun backend => { backend with
      current := none
      currentNftFingerprint := none
      restoreReceipt := receipt }
    return true) ?_ ?_ hfits hempty ?_
  · rintro r rfl
    rfl
  · rintro rfl
    rfl
  · refine Proceeds.modify_bind ?_
    exact Proceeds.pure ⟨rfl, howns, rfl, rfl⟩

/-- Without a journal of a cleanup, reconciling a committed plan only looks at it. -/
theorem ensureReconciled_committed_proceeds
    {J : KernelState → Option StoredAppliedState → Prop}
    (hrecord : CommittedJournal p plan fingerprint record) (hJ : J kernel (some record)) :
    Proceeds False J kernel (some record) m (ensureReconciled p) fun _ kernel' store _ =>
      kernel' = kernel ∧ store = some record := by
  have hsettled := hrecord.settled
  simp only [StoredAppliedState.interrupted, Bool.or_eq_false_iff,
    Option.isSome_eq_false_iff, Option.isNone_iff_eq_none] at hsettled
  obtain ⟨⟨⟨⟨hpending, hcleanup⟩, horphan⟩, hv1⟩, hv2⟩ := hsettled
  refine Proceeds.load_bind hJ ?_
  refine Proceeds.get_bind ?_
  show Proceeds False _ kernel (some record) m (if _ then reconcile p record else _) _
  split
  · unfold reconcile
    simp only [hv2, hv1, horphan, hcleanup, hpending, Option.isSome_none, Bool.false_eq_true,
      if_false]
    refine Proceeds.lift_bind False.elim fun _ _ => ?_
    unfold adoptCommitted
    rw [hrecord.active]
    refine Proceeds.onKernel_bind (Completes.ofReads (quiet_verifyPersistedOwnership _ _) hJ id) ?_
    rintro complete kernel _ ⟨rfl, rfl⟩
    cases complete with
    | true =>
      rw [if_pos rfl]
      exact Proceeds.modify ⟨rfl, rfl⟩
    | false =>
      rw [if_neg Bool.false_ne_true]
      exact Proceeds.fail id
  · exact Proceeds.pure ⟨rfl, rfl⟩

/-- What is left of a finished cleanup claims nothing. -/
theorem unclaimed_emptiedStore (hreceipt : ∀ r ∈ receipt, r = .new p plan none) :
    Unclaimed p (emptiedStore receipt) := by
  cases receipt with
  | none => exact unclaimed_none p
  | some r =>
    obtain rfl := hreceipt r rfl
    have hvalid : validateJournal p (.committed none none (some (.new p plan none))) =
        .ok () := by
      simp [validateJournal, StoredAppliedState.committed, validateStoredPlan,
        validateStoredFingerprintPair, validatePendingExpectations, validateRestoreReceipt,
        validateSettingReceipts, RestoreReceipt.new, RestoreReceipt.previousMatches,
        Fallible.failIf]
      rfl
    refine ⟨fun record hrecord => ?_, fun record hrecord => ?_, fun record hrecord => ?_⟩ <;>
    obtain rfl := Option.some.inj hrecord
    · exact hvalid
    · rfl
    · rfl

end Cleanup

/-! ## Resumption -/

/-- The cleanup of a committed plan owns what is live of it, whatever unicast routes the kernel
dropped.  Where it does it runs to its end, and wherever it was broken off it is finished by
the next reconciliation.  It deletes nothing where a resource is live that the plan does not
own, or where the table is not the committed one. -/
structure CleanupResumable (p : Primitives) (plan : KernelPlan) (fingerprint : String)
    (record : StoredAppliedState) (receipt : Option RestoreReceipt) (system : System)
    (m : Backend) : Prop where
  dropped : ∀ lost document, system.kernel =
      ⟨some document, planRoutingOwnership (routingBasis lost plan)⟩ →
    stateChainName p.blake3 plan ∈ chainNames document →
    nftDocumentFingerprint p.blake3 document = fingerprint →
    p.conflicts plan system.kernel = none → CleanupOwns p plan fingerprint system.kernel
  completes : CleanupOwns p plan fingerprint system.kernel →
    (undisturbed (cleanupWithReceipt p receipt) system m).result = .ok true ∧
      (undisturbed (cleanupWithReceipt p receipt) system m).world.machine.kernel =
        ⟨none, .empty⟩ ∧
      (undisturbed (cleanupWithReceipt p receipt) system m).world.machine.store =
        emptiedStore receipt
  resumes : ∀ left, Interrupted (cleanupWithReceipt p receipt) (ensureReconciled p) system m left →
    left.store = some (cleanupJournal plan fingerprint receipt record.interfaceSettings) → ∀ m',
    (undisturbed (ensureReconciled p) left m').result = .ok () ∧
      (undisturbed (ensureReconciled p) left m').world.machine.kernel = ⟨none, .empty⟩ ∧
      (undisturbed (ensureReconciled p) left m').world.machine.store = emptiedStore receipt
  refuses : (¬system.kernel.routing.Part (planRoutingOwnership plan) ∨
      (∃ document ∈ system.kernel.nft, stateChainName p.blake3 plan ∉ chainNames document ∨
        nftDocumentFingerprint p.blake3 document ≠ fingerprint) ∨
      (system.kernel.nft = none ∧ system.kernel.routing ≠ .empty)) →
    ∀ faults, (∀ e ∈ (cleanupWithReceipt p receipt ⟨system, m, faults⟩).events,
        e.state.kernel = system.kernel ∧ e.state.store = system.store) ∧
      ∀ cleaned, (cleanupWithReceipt p receipt ⟨system, m, faults⟩).result ≠ .ok cleaned

section Resumption

variable {p : Primitives} {shown : KernelState → KernelSnapshot} {plan : KernelPlan}
  {fingerprint : String} {record : StoredAppliedState} {receipt : Option RestoreReceipt}
  {system : System} {m : Backend}

/-- Where a cleanup, or an attempt to finish it, can be broken off. -/
theorem cleanupPasses_of_interrupted {left : System} (hentries : p.ChecksEntries shown)
    (hrecord : CommittedJournal p plan fingerprint record) (hstore : system.store = some record)
    (hm : m.legacyV2 = none) (hreceipt : ∀ r ∈ receipt, r = .new p plan none)
    (hfits : p.CleanupFits
      (cleanupJournal plan fingerprint receipt record.interfaceSettings) receipt)
    (h : Interrupted (cleanupWithReceipt p receipt) (ensureReconciled p) system m left) :
    CleanupPasses p plan fingerprint record receipt system.kernel left.kernel left.store ∨
      (left.kernel = ⟨none, .empty⟩ ∧ left.store = none) := by
  let passes : KernelState → Option StoredAppliedState → Prop := fun kernel store =>
    CleanupPasses p plan fingerprint record receipt system.kernel kernel store ∨
      (kernel = ⟨none, .empty⟩ ∧ store = none)
  have hfirst : Proceeds False passes system.kernel system.store m (cleanupWithReceipt p receipt)
      fun _ _ _ _ => True := by
    rw [hstore]
    exact ((cleanupWithReceipt_proceeds hentries hrecord hfits hm False.elim).keeping
      fun _ _ h => Or.inl h.1).conseq fun _ _ _ _ _ => trivial
  refine h.invariant (R := fun _ _ _ _ _ _ => True) hfirst fun left m' hleft => ?_
  rcases hleft with (⟨hkernel, hsame⟩ | ⟨hjournal, howns⟩ | ⟨hemptied, hkernel⟩) | ⟨hkernel, hnone⟩
  · rw [hkernel, hsame]
    exact (ensureReconciled_committed_proceeds hrecord (Or.inl (Or.inl ⟨rfl, rfl⟩))).conseq
      fun _ _ _ _ _ => trivial
  · rw [hjournal]
    exact ((ensureReconciled_cleanup_proceeds hentries (hrecord.cleanup_valid hreceipt) hfits
      howns).keeping fun _ _ h => Or.inl (Or.inr h)).conseq fun _ _ _ _ _ => trivial
  · rw [hemptied, hkernel]
    refine ((ensureReconciled_unclaimed_proceeds (unclaimed_emptiedStore hreceipt)).keeping
      ?_).conseq fun _ _ _ _ _ => trivial
    rintro _ store ⟨rfl, rfl | rfl⟩
    · exact Or.inl (Or.inr (Or.inr ⟨rfl, rfl⟩))
    · exact Or.inr ⟨rfl, rfl⟩
  · rw [hnone, hkernel]
    refine ((ensureReconciled_unclaimed_proceeds (unclaimed_none p)).keeping ?_).conseq
      fun _ _ _ _ _ => trivial
    rintro _ store ⟨rfl, rfl | rfl⟩
    · exact Or.inr ⟨rfl, rfl⟩
    · exact Or.inr ⟨rfl, rfl⟩

/-- The journal of a cleanup is neither the committed one nor what is left of either. -/
theorem cleanupOwns_of_journal {kernel start : KernelState}
    {settings : List InterfaceSettingReceipt} (hrecord : CommittedJournal p plan fingerprint record)
    (h : CleanupPasses p plan fingerprint record receipt start kernel
      (some (cleanupJournal plan fingerprint receipt settings))) :
    CleanupOwns p plan fingerprint kernel := by
  rcases h with ⟨-, hsame⟩ | ⟨-, howns⟩ | ⟨hemptied, -⟩
  · have hsettled := hrecord.settled
    rw [← Option.some.inj hsame] at hsettled
    simp [StoredAppliedState.interrupted, cleanupJournal] at hsettled
  · exact howns
  · cases receipt with
    | none => cases hemptied
    | some r =>
      have hactive := congrArg StoredAppliedState.active (Option.some.inj hemptied)
      cases hactive

/-- Cleanup is resumable and exact. -/
theorem cleanup_resumable (hentries : p.ChecksEntries shown)
    (hrecord : CommittedJournal p plan fingerprint record) (hstore : system.store = some record)
    (hm : m.legacyV2 = none) (hreceipt : ∀ r ∈ receipt, r = .new p plan none)
    (hfits : p.CleanupFits
      (cleanupJournal plan fingerprint receipt record.interfaceSettings) receipt) :
    CleanupResumable p plan fingerprint record receipt system m := by
  refine ⟨fun lost document hkernel hmarked hcommitted hfree => ?_, fun howns => ?_,
    fun left hleft hjournal m' => ?_, fun hforeign faults => ?_⟩
  · rw [hkernel] at hfree ⊢
    refine ⟨hfree, part_routingBasis hrecord.tables_nodup lost, ?_, ?_, nofun⟩
    · intro other hother
      rw [← Option.some.inj hother]
      exact hmarked
    · intro other hother
      rw [← Option.some.inj hother]
      exact hcommitted
  · have hcleanup := cleanupWithReceipt_proceeds hentries hrecord hfits hm fun _ : True => howns
    rw [← hstore] at hcleanup
    obtain ⟨cleaned, hresult, rfl, -, hkernel, hemptied⟩ := hcleanup.completes
    exact ⟨hresult, hkernel, hemptied⟩
  · have hpasses := cleanupPasses_of_interrupted hentries hrecord hstore hm hreceipt hfits hleft
    rw [hjournal] at hpasses
    have howns : CleanupOwns p plan fingerprint left.kernel := by
      rcases hpasses with hpasses | ⟨-, hnone⟩
      · exact cleanupOwns_of_journal hrecord hpasses
      · cases hnone
    have hresume : Proceeds True (CleaningUp p plan fingerprint
          (cleanupJournal plan fingerprint receipt record.interfaceSettings) receipt)
        left.kernel (some (cleanupJournal plan fingerprint receipt record.interfaceSettings)) m'
        (ensureReconciled p) fun _ kernel' store _ =>
          kernel' = ⟨none, .empty⟩ ∧ store = emptiedStore receipt :=
      ensureReconciled_cleanup_proceeds hentries (hrecord.cleanup_valid hreceipt) hfits howns
    rw [← hjournal] at hresume
    obtain ⟨_, hresult, hkernel, hemptied⟩ := hresume.completes
    exact ⟨hresult, hkernel, hemptied⟩
  · have hnot : ¬CleanupOwns p plan fingerprint system.kernel := by
      intro howns
      rcases hforeign with hpart | ⟨document, hdocument, hmarker | hdiffers⟩ | ⟨hnone, hleft⟩
      · exact hpart howns.part
      · exact hmarker (howns.marked document hdocument)
      · exact hdiffers (howns.committed document hdocument)
      · exact hleft (howns.gone hnone)
    have hcleanup : False → CleanupOwns p plan fingerprint system.kernel := False.elim
    obtain ⟨hevents, hpost, -⟩ := cleanupWithReceipt_proceeds hentries hrecord hfits hm hcleanup
      system rfl hstore faults
    refine ⟨fun e he => ?_, fun cleaned hresult => hnot (hpost cleaned hresult).2.1⟩
    rw [hstore]
    exact (hevents e he).2 hnot

/-! ### A lane whose default route the kernel dropped -/

/-- A route of RouteLane as the kernel shows it. -/
def shownRoute (r : RouteOwnership) : Inspect.RouteEntry where
  family := r.family
  table := r.table
  routeType := if r.terminal then some "unreachable" else none
  destination := some "default"
  gateway := r.gateway
  interface := if r.terminal then none else some r.interface
  metric := if r.terminal then some terminalRouteMetric else none
  protocol := some "boot"
  scope := none
  preferredSource := none
  flags := []
  preference := none
  extra := .empty

def shownRule (r : RuleOwnership) : Inspect.RuleEntry :=
  ⟨r.family, r.priority, some r.table, some ⟨r.mark, none⟩, some "all", none, .empty⟩

/-- What the kernel shows of the plan with one lane. -/
def shownBefore (kernel : KernelState) : KernelSnapshot :=
  { KernelSnapshot.empty with
    routes := ([⟨.v4, 20000, none, "wg1", false⟩, ⟨.v4, 20000, none, "", true⟩,
      ⟨.v6, 20000, none, "", true⟩].filter fun r =>
        decide (r ∈ kernel.routing.routes)).map shownRoute
    rules := ([⟨.v4, 10000, 20000, 0x524c0001⟩, ⟨.v6, 10000, 20000, 0x524c0001⟩].filter fun r =>
      decide (r ∈ kernel.routing.rules)).map shownRule }

def entryPrimitives : Primitives :=
  { countPrimitives with
    conflicts := fun plan kernel =>
      match detectResourceConflicts plan (shownBefore kernel) with
      | .ok () => none
      | .error _ => some "in use" }

theorem entryPrimitives_checksEntries : entryPrimitives.ChecksEntries shownBefore where
  conflicts plan kernel := by
    have hconflicts : entryPrimitives.conflicts plan kernel =
        match detectResourceConflicts plan (shownBefore kernel) with
        | .ok () => none
        | .error _ => some "in use" := rfl
    rw [hconflicts]
    cases detectResourceConflicts plan (shownBefore kernel) <;> simp
  routes kernel kernel' hpart := by
    refine (List.monotone_filter_right _ fun r hr => ?_).map _
    exact decide_eq_true (hpart.routes (of_decide_eq_true hr))
  rules kernel kernel' hpart := by
    refine (List.monotone_filter_right _ fun r hr => ?_).map _
    exact decide_eq_true (hpart.rules (of_decide_eq_true hr))

theorem entryPrimitives_stateBytes (record : StoredAppliedState) :
    entryPrimitives.stateBytes record ≤ maxStateBytes := by
  show 0 ≤ maxStateBytes
  exact Nat.zero_le _

/-- The fingerprint of the table of the plan. -/
def beforeFingerprint : String :=
  nftDocumentFingerprint countPrimitives.blake3
    (renderNftDocument countPrimitives.blake3 (some beforePlan) none false)

def beforeJournal : StoredAppliedState :=
  { active := some beforePlan, activeNftFingerprint := some beforeFingerprint }

/-- The kernel dropped the default route of the plan's lane. -/
def droppedSystem : System where
  kernel := ⟨some (renderNftDocument countPrimitives.blake3 (some beforePlan) none false),
    planRoutingOwnership (routingBasis {(.v4, 20000)} beforePlan)⟩
  linkdown := []
  store := some beforeJournal
  syncFaults _ := false
  settings := ⟨fun _ => none, fun _ => none, fun _ => none⟩
  bootId := none
  networkNamespace := 1
  token := ""

theorem beforeJournal_committed :
    CommittedJournal entryPrimitives beforePlan beforeFingerprint beforeJournal :=
  ⟨by decide +kernel, rfl, rfl, rfl⟩

/-- A restore of the empty state cleans up what is left of the lane, wherever it is broken
off. -/
theorem cleanup_resumable_dropped :
    CleanupResumable entryPrimitives beforePlan beforeFingerprint beforeJournal
      (some (.new entryPrimitives beforePlan none)) droppedSystem .fresh ∧
    CleanupOwns entryPrimitives beforePlan beforeFingerprint droppedSystem.kernel := by
  have hresumable : CleanupResumable entryPrimitives beforePlan beforeFingerprint beforeJournal
      (some (.new entryPrimitives beforePlan none)) droppedSystem .fresh :=
    cleanup_resumable entryPrimitives_checksEntries beforeJournal_committed rfl rfl
      (fun r hr => (Option.some.inj hr).symm)
      ⟨entryPrimitives_stateBytes _, fun _ _ => entryPrimitives_stateBytes _⟩
  refine ⟨hresumable, hresumable.dropped {(.v4, 20000)}
    (renderNftDocument countPrimitives.blake3 (some beforePlan) none false)
    (by simp only [droppedSystem]) ?_ ?_ ?_⟩
  · decide +kernel
  · show nftDocumentFingerprint countPrimitives.blake3 _ = beforeFingerprint
    rfl
  · decide +kernel

end Resumption

end RouteLane
