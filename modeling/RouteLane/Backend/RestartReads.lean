import RouteLane.Backend.RecoveryHold
import RouteLane.Lib.ReadOnly

/-!
# Reads before the first refresh

A helper that was restarted adopts the journal without a look at the kernel, and its first
refresh has to prove that the kernel is in the journaled state, or freeze the runtime.  A
status or an inspection adopts the journal too, and the next refresh then takes the memory
for a proved one: where the proof fails, what was read before decides how the refresh ends.
-/

namespace RouteLane

open Nft Faults Program

/-! ## Parts that only read -/

section ReadOnly

variable {p : Primitives}

theorem readOnly_load : ReadOnly load := .inspect _ _

theorem readOnly_lift {α : Type} (x : Except PrivilegedError α) : ReadOnly (lift x) := by
  cases x with
  | ok a => exact Aside.pure a
  | error e => exact Aside.fail e

theorem readOnly_captureSnapshot : ReadOnly captureSnapshot := by
  refine Aside.bind (ReadOnly.forEach fun _ => .inspect _ _) fun _ => ?_
  exact ReadOnly.inspect _ _

theorem readOnly_liveNftFingerprint (blake3 : Blake3) : ReadOnly (liveNftFingerprint blake3) := by
  refine Aside.bind (ReadOnly.inspect _ _) fun table => ?_
  cases table with
  | none => exact Aside.fail _
  | some document => exact Aside.pure _

theorem readOnly_nftMarkerPresent (plan : KernelPlan) : ReadOnly (nftMarkerPresent p plan) :=
  Aside.bind (ReadOnly.inspect _ _) fun _ => Aside.pure _

theorem readOnly_onKernel {α : Type} {q : Runner α} (hq : ReadOnly q) : ReadOnly (onKernel q) :=
  Aside.bind (ReadOnly.within (fun _ => rfl) hq) fun result => readOnly_lift result.1

theorem readOnly_verifyPersistedOwnershipBasis (plan routing : KernelPlan) (fingerprint : String) :
    ReadOnly (verifyPersistedOwnershipBasis p plan routing fingerprint) := by
  refine Aside.bind readOnly_captureSnapshot fun captured => ?_
  split
  · exact Aside.fail _
  · split
    · exact Aside.fail _
    · split
      · refine Aside.bind (readOnly_nftMarkerPresent plan) fun present => ?_
        cases present with
        | false => exact Aside.fail _
        | true =>
          refine Aside.bind (readOnly_liveNftFingerprint _) fun live => ?_
          show ReadOnly (if _ then _ else _)
          split
          · exact Aside.pure _
          · exact Aside.fail _
      · exact Aside.pure _

theorem readOnly_toleratedLostUnicast (linkdown : List (IpFamily × ℕ)) (plan : KernelPlan)
    (fingerprint : String) (next : KernelPlan) :
    ReadOnly (toleratedLostUnicast p linkdown plan fingerprint next) := by
  refine Aside.bind readOnly_captureSnapshot fun captured => ?_
  dsimp only
  split
  · exact Aside.fail _
  · split
    · exact Aside.fail _
    · split
      · exact Aside.fail _
      · refine Aside.bind (readOnly_verifyPersistedOwnershipBasis _ _ _) fun complete => ?_
        cases complete with
        | true => exact Aside.pure _
        | false => exact Aside.fail _

theorem readOnly_revalidateCurrentOwnershipFor (next : KernelPlan) :
    ReadOnly (revalidateCurrentOwnershipFor p next) := by
  refine Aside.bind ReadOnly.get fun backend => ?_
  split
  · exact Aside.pure _
  · exact Aside.fail _
  · refine Aside.bind (ReadOnly.inspect _ _) fun linkdown => ?_
    exact readOnly_onKernel (readOnly_toleratedLostUnicast _ _ _ _)

theorem readOnly_grantMismatch (record : RuntimeRecord) : ReadOnly (grantMismatch p record) := by
  refine Aside.bind (Aside.attempt (Aside.inspectSome _ _ _)) fun boot => ?_
  refine Aside.bind (Aside.attempt (ReadOnly.inspect _ _)) fun namespaceId => ?_
  cases boot with
  | error e => exact Aside.pure _
  | ok boot =>
    cases namespaceId with
    | error e => exact Aside.pure _
    | ok namespaceId =>
      show ReadOnly (if _ then _ else if _ then _ else _)
      split
      · exact Aside.pure _
      · split
        · exact Aside.pure _
        · exact Aside.pure _

theorem readOnly_journalInterrupted : ReadOnly journalInterrupted :=
  Aside.bind readOnly_load fun _ => Aside.pure _

theorem readOnly_statusSnapshot : ReadOnly statusSnapshot :=
  Aside.bind ReadOnly.get fun _ => Aside.pure _

end ReadOnly

/-! ## Adopting the journal -/

/-- The memory after a journal with a runtime was adopted. -/
def adoptedMemory (record : StoredAppliedState) (mismatch : Option String) : Backend :=
  (Backend.fresh.inspected record).runtimeRead (some record) mismatch

section Adopt

variable {p : Primitives} {s : System} {m : Backend} {record : StoredAppliedState}
  {runtime : RuntimeRecord} {mismatch : Option String}

variable (p s m runtime) in
/-- Undisturbed, a grant is found to match exactly when it does. -/
theorem grantMismatch_quiet : ∃ mismatch,
    (grantMismatch p runtime (quiet s m)).result = .ok mismatch ∧
      (mismatch = none ↔ runtime.Matches p s.view) := by
  have hboot : ReadOnly readBootId := Aside.inspectSome _ _ _
  have hnamespace : ReadOnly readNetworkNamespace := ReadOnly.inspect _ _
  rw [grantMismatch, (bind_of_read (Aside.attempt hboot) rfl).1,
    (bind_of_read (Aside.attempt hnamespace) rfl).1]
  have hread : (readNetworkNamespace (quiet s m)).result = .ok s.networkNamespace := rfl
  cases hid : s.bootId with
  | none =>
    rw [readBootId, inspectSome_quiet_none hid]
    refine ⟨_, rfl, ?_⟩
    simp [RuntimeRecord.Matches, System.view, hid]
  | some boot =>
    rw [readBootId, inspectSome_quiet hid, hread]
    dsimp only
    split
    · rename_i hother
      refine ⟨_, rfl, ?_⟩
      simp only [reduceCtorEq, false_iff]
      rintro ⟨hboot, hsame, -⟩
      rcases hother with hne | hne
      · exact hne (Option.some.inj (hid.symm.trans hboot))
      · exact hne hsame
    · rename_i hsame
      obtain ⟨hboot, hsame⟩ := not_or.1 hsame
      split
      · rename_i hpolicy
        refine ⟨_, rfl, ?_⟩
        simp only [reduceCtorEq, false_iff]
        exact fun hmatches => hpolicy hmatches.2.2
      · rename_i hpolicy
        refine ⟨none, rfl, iff_of_true rfl ⟨?_, not_not.1 hsame, not_not.1 hpolicy⟩⟩
        exact hid.trans (congrArg some (not_not.1 hboot))

variable (hstore : s.store = some record) (hcommitted : record.interrupted = false)
  (hvalid : validateJournal p record = .ok ()) (hruntime : record.runtime = some runtime)

include hstore in
theorem load_quiet : (load (quiet s m)).result = .ok (some record) := by
  rw [← hstore]
  rfl

include hstore hcommitted hvalid in
theorem ensureInspectionReady_quiet :
    (ensureInspectionReady p (quiet s m)).result = .ok () ∧
      (ensureInspectionReady p (quiet s m)).world = quiet s (m.inspected record) := by
  have hv2 : record.legacyV2 = none := by
    simp only [StoredAppliedState.interrupted, Bool.or_eq_false_iff] at hcommitted
    simpa using hcommitted.2
  have hv1 : record.legacyV1 = none := by
    simp only [StoredAppliedState.interrupted, Bool.or_eq_false_iff] at hcommitted
    simpa using hcommitted.1.2
  rw [ensureInspectionReady, (bind_of_read readOnly_load (load_quiet hstore)).1,
    (bind_of_read readOnly_load (load_quiet hstore)).2]
  simp only [hv2, hv1, hvalid, Option.isSome_none]
  exact ⟨rfl, rfl⟩

include hstore hruntime in
theorem loadRuntime_quiet (hm : m.runtimeLoaded = false) : ∃ mismatch,
    (mismatch = none ↔ runtime.Matches p s.view) ∧
      (loadRuntime p (quiet s m)).result = .ok () ∧
        (loadRuntime p (quiet s m)).world =
          quiet s (m.runtimeRead (some record) mismatch) := by
  obtain ⟨mismatch, hmismatch, hmatches⟩ := grantMismatch_quiet p s
    { m with runtimeRestore := record.runtimeRestore } runtime
  refine ⟨mismatch, hmatches, ?_⟩
  rw [loadRuntime, get_bind]
  show (((if m.runtimeLoaded = true then _ else _) : BackendM Unit) (quiet s m)).result = _ ∧
    (((if m.runtimeLoaded = true then _ else _) : BackendM Unit) (quiet s m)).world = _
  rw [hm, if_neg Bool.false_ne_true, (bind_of_read readOnly_load (load_quiet hstore)).1,
    (bind_of_read readOnly_load (load_quiet hstore)).2, modify_bind, Option.getD_some, hruntime]
  have hrest := bind_of_read (f := fun mismatch => (modify fun backend => { backend with
    runtime := some (.loaded runtime mismatch), runtimeLoaded := true } : BackendM Unit))
    (readOnly_grantMismatch (p := p) runtime) hmismatch
  refine ⟨hrest.1, hrest.2.trans ?_⟩
  rw [Backend.runtimeRead, Option.getD_some, hruntime]
  rfl

theorem loadRuntime_again (hm : m.runtimeLoaded = true) :
    loadRuntime p (quiet s m) = ⟨.ok (), quiet s m, []⟩ := by
  rw [loadRuntime]
  show ((if m.runtimeLoaded = true then _ else _) : BackendM Unit) (quiet s m) = _
  rw [if_pos hm]
  rfl

/-- The memories of a helper that adopted the journal and may have read its runtime. -/
def Adopted (record : StoredAppliedState) (mismatch : Option String) (m : Backend) : Prop :=
  m = Backend.fresh.inspected record ∨ m = adoptedMemory record mismatch

theorem Adopted.inspected (h : m = .fresh ∨ Adopted record mismatch m) :
    Adopted record mismatch (m.inspected record) := by
  rcases h with rfl | rfl | rfl
  · exact Or.inl rfl
  · exact Or.inl rfl
  · exact Or.inr rfl

theorem Adopted.initialized (h : Adopted record mismatch m) : m.initialized = true := by
  rcases h with rfl | rfl <;> rfl

variable (hload : (loadRuntime p (quiet s (Backend.fresh.inspected record))).result = .ok () ∧
  (loadRuntime p (quiet s (Backend.fresh.inspected record))).world =
    quiet s (adoptedMemory record mismatch))

include hload in
theorem loadRuntime_adopted (h : Adopted record mismatch m) :
    (loadRuntime p (quiet s m)).result = .ok () ∧
      (loadRuntime p (quiet s m)).world = quiet s (adoptedMemory record mismatch) := by
  rcases h with rfl | rfl
  · exact hload
  · rw [loadRuntime_again rfl]
    exact ⟨rfl, rfl⟩

include hstore hcommitted in
theorem journalInterrupted_quiet :
    (journalInterrupted (quiet s m)).result = .ok false := by
  rw [journalInterrupted, (bind_of_read readOnly_load (load_quiet hstore)).1]
  show Except.ok ((some record).any StoredAppliedState.interrupted) = _
  rw [Option.any_some, hcommitted]

include hstore hcommitted hvalid hload in
/-- Preparing ends in the same memory, but tells whether it started from a fresh one. -/
theorem prepareRuntimeOperation_adopted (h : m = .fresh ∨ Adopted record mismatch m) :
    (prepareRuntimeOperation p (quiet s m)).result =
        .ok (!m.initialized && record.active.isSome) ∧
      (prepareRuntimeOperation p (quiet s m)).world =
        quiet s (adoptedMemory record mismatch) := by
  have hlook := journalInterrupted_quiet (m := m) hstore hcommitted
  obtain ⟨hready, hreadyWorld⟩ := ensureInspectionReady_quiet (p := p) (m := m) hstore
    hcommitted hvalid
  obtain ⟨hloaded, hloadedWorld⟩ := loadRuntime_adopted hload (Adopted.inspected h)
  rw [prepareRuntimeOperation, get_bind, (bind_of_read readOnly_journalInterrupted hlook).1,
    (bind_of_read readOnly_journalInterrupted hlook).2]
  show ((ensureInspectionReady p >>= fun _ => _ : BackendM Bool) (quiet s m)).result = _ ∧
    ((ensureInspectionReady p >>= fun _ => _ : BackendM Bool) (quiet s m)).world = _
  rw [bind_of_ok hready, hreadyWorld, bind_of_ok hloaded, hloadedWorld]
  exact ⟨rfl, rfl⟩

include hstore hcommitted hvalid hload in
/-- An inspection adopts the journal, whatever it finds of the kernel. -/
theorem inspectState_adopted (h : m = .fresh ∨ Adopted record mismatch m) :
    ∃ m', Adopted record mismatch m' ∧ (inspectState p (quiet s m)).world =
      quiet s m' := by
  obtain ⟨hready, hreadyWorld⟩ := ensureInspectionReady_quiet (p := p) (m := m) hstore
    hcommitted hvalid
  have hinspected : Adopted record mismatch (m.inspected record) := Adopted.inspected h
  obtain ⟨hloaded, hloadedWorld⟩ := loadRuntime_adopted hload hinspected
  have hend : ∃ m', Adopted record mismatch m' ∧
      ((loadRuntime p >>= fun _ => statusSnapshot) (quiet s (m.inspected record))).world =
        quiet s m' := by
    refine ⟨_, Or.inr rfl, ?_⟩
    rw [bind_of_ok hloaded, hloadedWorld, readOnly_statusSnapshot.world_eq]
  have hread {α : Type} {q : BackendM α} {f : α → BackendM RuntimeStatus} (hq : ReadOnly q)
      (hf : ∀ a, ∃ m', Adopted record mismatch m' ∧
        (f a (quiet s (m.inspected record))).world = quiet s m') :
      ∃ m', Adopted record mismatch m' ∧
        ((q >>= f) (quiet s (m.inspected record))).world = quiet s m' := by
    cases hresult : (q (quiet s (m.inspected record))).result with
    | error e =>
      rw [bind_of_error hresult, hq.world_eq]
      exact ⟨_, hinspected, rfl⟩
    | ok a =>
      rw [bind_of_ok hresult, hq.world_eq]
      exact hf a
  rw [inspectState, bind_of_ok hready, hreadyWorld]
  dsimp only
  refine hread (readOnly_onKernel readOnly_captureSnapshot) fun captured => ?_
  refine hread ReadOnly.get fun backend => ?_
  cases backend.current with
  | none => exact hend
  | some current =>
    cases backend.currentNftFingerprint with
    | none => exact hend
    | some fingerprint =>
      dsimp only
      split
      · refine hread (readOnly_onKernel (readOnly_nftMarkerPresent _)) fun present => ?_
        cases present with
        | true => exact hread (readOnly_onKernel (readOnly_liveNftFingerprint _)) fun _ => hend
        | false => exact hend
      · exact hend

end Adopt

/-! ## The first refresh after a restart -/

/-- The read-only requests. -/
inductive ReadCall where
  | inspect
  | runtimeStatus

def ReadCall.run (p : Primitives) : ReadCall → BackendM RuntimeStatus
  | .inspect => inspectState p
  | .runtimeStatus => RouteLane.runtimeStatus p

/-- A helper that has just been started. -/
def restarted (s : System) : World System Backend := quiet s .fresh

/-- The world after some reads. -/
def afterReads (p : Primitives) (s : System) (reads : List ReadCall) : World System Backend :=
  reads.foldl (fun w read => (read.run p w).world) (restarted s)

/-- The first refresh after some reads. -/
def firstRefresh (p : Primitives) (s : System) (topology : TopologySnapshot) (now : ℕ)
    (reads : List ReadCall) : Outcome System Backend PrivilegedError RuntimeStatus :=
  refreshRuntime p topology now (afterReads p s reads)

section FirstRefresh

variable {p : Primitives} {s : System} {record : StoredAppliedState} {runtime : RuntimeRecord}
  {mismatch : Option String} {topology : TopologySnapshot} {now : ℕ} {m : Backend}
  (hstore : s.store = some record) (hcommitted : record.interrupted = false)
  (hvalid : validateJournal p record = .ok ())
  (hload : (loadRuntime p (quiet s (Backend.fresh.inspected record))).result = .ok () ∧
    (loadRuntime p (quiet s (Backend.fresh.inspected record))).world =
      quiet s (adoptedMemory record mismatch))
include hstore hcommitted hvalid hload

theorem ReadCall.run_adopted (read : ReadCall) (h : m = .fresh ∨ Adopted record mismatch m) :
    ∃ m', Adopted record mismatch m' ∧ (read.run p (quiet s m)).world = quiet s m' := by
  cases read with
  | inspect => exact inspectState_adopted hstore hcommitted hvalid hload h
  | runtimeStatus =>
    obtain ⟨hresult, hworld⟩ := prepareRuntimeOperation_adopted hstore hcommitted hvalid hload h
    refine ⟨_, Or.inr rfl, ?_⟩
    show (RouteLane.runtimeStatus p (quiet s m)).world = _
    rw [RouteLane.runtimeStatus, bind_of_ok hresult, hworld, readOnly_statusSnapshot.world_eq]

/-- What a helper has adopted it goes on with, and a read makes it adopt the journal. -/
theorem afterReads_adopted (reads : List ReadCall) :
    ∃ m, (m = .fresh ∧ reads = [] ∨ Adopted record mismatch m ∧ reads ≠ []) ∧
      afterReads p s reads = quiet s m := by
  have hfold : ∀ (reads : List ReadCall) (m : Backend), Adopted record mismatch m →
      ∃ m', Adopted record mismatch m' ∧
        reads.foldl (fun w read => (read.run p w).world) (quiet s m) = quiet s m' := by
    intro reads
    induction reads with
    | nil => exact fun m hm => ⟨m, hm, rfl⟩
    | cons read reads ih =>
      intro m hm
      obtain ⟨m', hm', hrun⟩ := read.run_adopted hstore hcommitted hvalid hload (Or.inr hm)
      rw [List.foldl_cons, hrun]
      exact ih m' hm'
  cases reads with
  | nil => exact ⟨.fresh, Or.inl ⟨rfl, rfl⟩, rfl⟩
  | cons read reads =>
    obtain ⟨m', hm', hrun⟩ := read.run_adopted hstore hcommitted hvalid hload (Or.inl rfl)
    obtain ⟨m'', hm'', hfolded⟩ := hfold reads m' hm'
    refine ⟨m'', Or.inr ⟨hm'', List.cons_ne_nil _ _⟩, ?_⟩
    rw [afterReads, restarted, List.foldl_cons, hrun]
    exact hfolded

variable (topology now) in
/-- A first refresh goes on from the memory of the adopted journal, and its proof counts as
that of a restarted helper where nothing was read before. -/
theorem firstRefresh_eq (reads : List ReadCall) :
    (firstRefresh p s topology now reads).result = (refreshPrepared p topology now
        (decide (reads = []) && record.active.isSome)
        (quiet s (adoptedMemory record mismatch))).result ∧
      (firstRefresh p s topology now reads).world = (refreshPrepared p topology now
        (decide (reads = []) && record.active.isSome)
        (quiet s (adoptedMemory record mismatch))).world := by
  obtain ⟨m, hm, hworld⟩ := afterReads_adopted hstore hcommitted hvalid hload reads
  have hadopted : m = .fresh ∨ Adopted record mismatch m :=
    hm.imp (fun h => h.1) fun h => h.1
  have hunverified : (!m.initialized) = decide (reads = []) := by
    rcases hm with ⟨rfl, rfl⟩ | ⟨hm, hne⟩
    · rfl
    · rw [hm.initialized, decide_eq_false hne]
      rfl
  have hheld : m.heldUntil now = none := by
    rcases hadopted with rfl | rfl | rfl <;> rfl
  obtain ⟨hresult, hprepared⟩ := prepareRuntimeOperation_adopted hstore hcommitted hvalid hload
    hadopted
  rw [hunverified] at hresult
  have hrun := refreshUnheld_of_ok topology now hresult
  rw [hprepared] at hrun
  rw [firstRefresh, hworld, refreshRuntime_tries hheld]
  exact hrun

end FirstRefresh

/-! ## The proof of the live state -/

/-- The live kernel state is the journaled one, as far as a plan needs it. -/
def LiveStateProved (p : Primitives) (s : System) (record : StoredAppliedState)
    (active candidate : KernelPlan) : Prop :=
  ∃ fingerprint lost, record.activeNftFingerprint = some fingerprint ∧
    (toleratedLostUnicast p s.linkdown active fingerprint candidate
      (quiet s.kernel (.new none ∅))).result = .ok lost

section Proof

variable {p : Primitives} {s : System} {record : StoredAppliedState} {m : Backend}
  {active candidate : KernelPlan} {runtime : ArmedRuntime} {topology : TopologySnapshot} {now : ℕ}

theorem onKernel_result {α : Type} (q : Runner α) :
    (onKernel q (quiet s m)).result = (q (quiet s.kernel (.new none ∅))).result := by
  have hrun : (withRunner (.new none ∅) q (quiet s m) : Outcome System Backend
      PrivilegedError _).result = .ok ((q (quiet s.kernel (.new none ∅))).result,
        (q (quiet s.kernel (.new none ∅))).world.memory) := rfl
  rw [onKernel, bind_of_ok hrun]
  cases (q (quiet s.kernel (.new none ∅))).result with
  | ok a => rfl
  | error e => rfl

theorem revalidateCurrentOwnershipFor_iff (hcurrent : m.current = some active)
    (hfingerprint : m.currentNftFingerprint = record.activeNftFingerprint) :
    (∃ lost, (revalidateCurrentOwnershipFor p candidate (quiet s m)).result = .ok lost) ↔
      LiveStateProved p s record active candidate := by
  have hlinkdown : (Program.inspect "inspect IPv4 routing tables" System.linkdown
      (quiet s m) : Outcome System Backend PrivilegedError _).result = .ok s.linkdown := rfl
  have hmemory : (quiet s m).memory = m := rfl
  rw [revalidateCurrentOwnershipFor, get_bind, LiveStateProved, ← hfingerprint, hmemory, hcurrent]
  cases hknown : m.currentNftFingerprint with
  | none =>
    constructor
    · rintro ⟨lost, ⟨⟩⟩
    · rintro ⟨fingerprint, lost, ⟨⟩, -⟩
  | some fingerprint =>
    dsimp only
    rw [(bind_of_read (.inspect _ _) hlinkdown).1, onKernel_result]
    constructor
    · rintro ⟨lost, hproved⟩
      exact ⟨fingerprint, lost, rfl, hproved⟩
    · rintro ⟨_, lost, ⟨⟩, hproved⟩
      exact ⟨lost, hproved⟩

/-- What the refresh does apart from the proof of the live state knows nothing of reads. -/
theorem refreshArmed_of_proved (hcurrent : m.current = some active)
    (hfingerprint : m.currentNftFingerprint = record.activeNftFingerprint)
    (hproved : ∀ candidate, runtime.phase ≠ .needsReauthorization → topology.observed = true →
      (refreshCandidate p runtime active topology now).plan = .ok candidate →
      LiveStateProved p s record active candidate) (unverified : Bool) :
    refreshArmed p runtime topology now unverified (quiet s m) =
      refreshArmed p runtime topology now false (quiet s m) := by
  have hmemory : (quiet s m).memory = m := rfl
  unfold refreshArmed
  split
  · rfl
  rename_i hphase
  split
  · rfl
  rename_i hobserved
  have hobserved : topology.observed = true := by simpa using hobserved
  rw [get_bind, get_bind, hmemory, hcurrent]
  dsimp only
  cases hplan : (refreshCandidate p runtime active topology now).plan with
  | error e => rfl
  | ok candidate =>
    dsimp only
    obtain ⟨lost, hlost⟩ := (revalidateCurrentOwnershipFor_iff (p := p) (s := s) hcurrent
      hfingerprint).2 (hproved candidate hphase hobserved hplan)
    rw [attempt_bind, attempt_bind, hlost]

/-- A proof that fails freezes the runtime of a helper that read nothing before. -/
theorem refreshArmed_of_unproved (hcurrent : m.current = some active)
    (hfingerprint : m.currentNftFingerprint = record.activeNftFingerprint)
    (hphase : runtime.phase ≠ .needsReauthorization) (hobserved : topology.observed = true)
    (hplan : (refreshCandidate p runtime active topology now).plan = .ok candidate)
    (hproved : ¬LiveStateProved p s record active candidate) (unverified : Bool) :
    ∃ e, (refreshArmed p runtime topology now unverified (quiet s m)).result =
        .ok ((runtime.computed (refreshCandidate p runtime active topology now)).unproved unverified,
          .error e) ∧
      (refreshArmed p runtime topology now unverified (quiet s m)).world =
        quiet s m := by
  have hmemory : (quiet s m).memory = m := rfl
  have hobserves : ¬topology.observed = false := by simp [hobserved]
  have hread : ReadOnly (revalidateCurrentOwnershipFor p candidate) :=
    readOnly_revalidateCurrentOwnershipFor candidate
  obtain ⟨e, he⟩ : ∃ e, (revalidateCurrentOwnershipFor p candidate (quiet s m)).result =
      .error e := by
    cases hresult : (revalidateCurrentOwnershipFor p candidate (quiet s m)).result with
    | error e => exact ⟨e, rfl⟩
    | ok lost =>
      exact absurd ((revalidateCurrentOwnershipFor_iff hcurrent hfingerprint).1 ⟨lost, hresult⟩)
        hproved
  rw [refreshArmed, if_neg hphase, if_neg hobserves, get_bind, hmemory, hcurrent]
  dsimp only
  rw [hplan]
  dsimp only
  rw [attempt_bind, he, hread.world_eq]
  cases unverified with
  | true => exact ⟨_, rfl, rfl⟩
  | false => exact ⟨_, rfl, rfl⟩

theorem status_phase {runtime : ArmedRuntime} (hlegacy : m.legacyV2 = none)
    (hruntime : m.runtime = some runtime) : m.status.phase = runtime.phase := by
  simp [Backend.status, hlegacy, hruntime]

variable {armed : ArmedRuntime} (hruntime : m.runtime = some armed)
  (hcurrent : m.current = some active)
  (hfingerprint : m.currentNftFingerprint = record.activeNftFingerprint)
include hruntime hcurrent hfingerprint

theorem refreshPrepared_of_proved
    (hproved : ∀ candidate, armed.phase ≠ .needsReauthorization → topology.observed = true →
      (refreshCandidate p armed active topology now).plan = .ok candidate →
      LiveStateProved p s record active candidate) (unverified : Bool) :
    refreshPrepared p topology now unverified (quiet s m) =
      refreshPrepared p topology now false (quiet s m) := by
  have hmemory : (quiet s m).memory = m := rfl
  have hsame := refreshArmed_of_proved (s := s) (m := m.taken) (p := p) hcurrent hfingerprint hproved
    unverified
  rw [refreshPrepared, refreshPrepared, get_bind, get_bind, hmemory, hruntime]
  dsimp only
  rw [modify_bind, modify_bind]
  exact bind_congr_apply hsame

/-- How a refresh ends whose proof failed. -/
theorem refreshPrepared_of_unproved (hstore : s.store = some record)
    (hcommitted : record.interrupted = false) (hlegacy : m.legacyV2 = none)
    (hphase : armed.phase ≠ .needsReauthorization) (hobserved : topology.observed = true)
    (hplan : (refreshCandidate p armed active topology now).plan = .ok candidate)
    (hproved : ¬LiveStateProved p s record active candidate) (unverified : Bool) :
    (∃ status, (refreshPrepared p topology now unverified (quiet s m)).result = .ok status ∧
        status.phase = if unverified then .needsReauthorization else .degraded) ∧
      (refreshPrepared p topology now unverified (quiet s m)).world.machine = s ∧
      (refreshPrepared p topology now unverified (quiet s m)).world.memory.current =
        some active := by
  have hmemory : (quiet s m).memory = m := rfl
  obtain ⟨e, hresult, hworld⟩ := refreshArmed_of_unproved (s := s) (m := m.taken) (p := p) hcurrent
    hfingerprint hphase hobserved hplan hproved unverified
  have hlook := journalInterrupted_quiet (m := m.taken) hstore hcommitted
  rw [refreshPrepared, get_bind, hmemory, hruntime]
  dsimp only
  rw [modify_bind]
  generalize hw : World.mk _ _ _ = w
  obtain rfl : quiet s m.taken = w := hw
  rw [bind_of_ok hresult, hworld]
  dsimp only
  rw [attempt_bind, hlook, readOnly_journalInterrupted.world_eq]
  refine ⟨⟨_, rfl, ?_⟩, rfl, hcurrent⟩
  refine (status_phase ?_ rfl).trans ?_
  · exact hlegacy
  cases unverified with
  | true => rfl
  | false => exact if_neg hphase

end Proof

/-! ## Reads and the restart proof -/

/-- The journal of a committed runtime, with nothing interrupted. -/
structure JournaledRuntime (p : Primitives) (s : System) (record : StoredAppliedState)
    (runtime : RuntimeRecord) : Prop where
  store : s.store = some record
  committed : record.interrupted = false
  valid : validateJournal p record = .ok ()
  runtime : record.runtime = some runtime

/-- What a refresh leads to: the phase it tells of, the system and the plan in force. -/
structure RefreshEnd where
  phase : Option RuntimePhase
  machine : System
  current : Option KernelPlan

def refreshEnd (o : Outcome System Backend PrivilegedError RuntimeStatus) : RefreshEnd :=
  ⟨o.result.toOption.map RuntimeStatus.phase, o.world.machine, o.world.memory.current⟩

/-- A first refresh gets to the proof of the live state, and the proof fails. -/
def ProofFails (p : Primitives) (s : System) (record : StoredAppliedState)
    (runtime : RuntimeRecord) (topology : TopologySnapshot) (now : ℕ) : Prop :=
  runtime.Matches p s.view ∧ topology.observed = true ∧
    ∃ active candidate, record.active = some active ∧
      (refreshCandidate p (.loaded runtime none) active topology now).plan = .ok candidate ∧
        ¬LiveStateProved p s record active candidate

/-- The first refresh ends as it does where nothing was read before it, and a proof that
fails ends in a runtime that needs to be authorized again. -/
structure ReadsDoNotMatter (p : Primitives) (s : System) (record : StoredAppliedState)
    (runtime : RuntimeRecord) (topology : TopologySnapshot) (now : ℕ) (reads : List ReadCall) :
    Prop where
  same : refreshEnd (firstRefresh p s topology now reads) =
    refreshEnd (firstRefresh p s topology now [])
  frozen : ProofFails p s record runtime topology now →
    (refreshEnd (firstRefresh p s topology now reads)).phase = some .needsReauthorization

section Reads

variable {p : Primitives} {s : System} {record : StoredAppliedState} {runtime : RuntimeRecord}
  {mismatch : Option String} {topology : TopologySnapshot} {now : ℕ}

theorem phase_loaded (h : (ArmedRuntime.loaded runtime mismatch).phase ≠ .needsReauthorization) :
    mismatch = none := by
  cases mismatch with
  | none => rfl
  | some reason => exact absurd rfl h

theorem adoptedMemory_runtime (h : record.runtime = some runtime) :
    (adoptedMemory record mismatch).runtime = some (.loaded runtime mismatch) := by
  simp [adoptedMemory, Backend.runtimeRead, h]

/-- A refresh whose proof does not fail ends the same, whatever its proof counts as. -/
theorem refreshPrepared_adopted (hruntime : record.runtime = some runtime)
    (hmatches : mismatch = none ↔ runtime.Matches p s.view)
    (hproves : ¬ProofFails p s record runtime topology now) (unverified : Bool) :
    refreshPrepared p topology now (unverified && record.active.isSome)
        (quiet s (adoptedMemory record mismatch)) =
      refreshPrepared p topology now false (quiet s (adoptedMemory record mismatch)) := by
  cases hactive : record.active with
  | none => rw [Option.isSome_none, Bool.and_false]
  | some active =>
    have hcurrent : (adoptedMemory record mismatch).current = some active := hactive
    have hfingerprint : (adoptedMemory record mismatch).currentNftFingerprint =
        record.activeNftFingerprint := rfl
    refine refreshPrepared_of_proved (adoptedMemory_runtime hruntime) hcurrent hfingerprint ?_ _
    intro candidate hphase hobserved hplan
    obtain rfl := phase_loaded hphase
    by_contra hunproved
    exact hproves ⟨hmatches.1 rfl, hobserved, active, candidate, hactive, hplan, hunproved⟩

/-- **Reads before the first refresh decide about a proof that fails.**  Where it comes
first, the refresh of a restarted helper freezes a runtime it cannot prove; after a status
or an inspection it takes the runtime for a degraded one. -/
theorem reads_do_not_matter_iff (p : Primitives) (s : System) (record : StoredAppliedState)
    (runtime : RuntimeRecord) (topology : TopologySnapshot) (now : ℕ) (reads : List ReadCall)
    (h : JournaledRuntime p s record runtime) :
    ReadsDoNotMatter p s record runtime topology now reads ↔
      reads = [] ∨ ¬ProofFails p s record runtime topology now := by
  obtain ⟨mismatch, hmatches, hload⟩ := loadRuntime_quiet (p := p) (s := s)
    (m := Backend.fresh.inspected record) h.store h.runtime rfl
  have hfirst : ∀ reads, refreshEnd (firstRefresh p s topology now reads) =
      refreshEnd (refreshPrepared p topology now (decide (reads = []) && record.active.isSome)
        (quiet s (adoptedMemory record mismatch))) := by
    intro reads
    obtain ⟨hresult, hworld⟩ := firstRefresh_eq topology now h.store h.committed h.valid hload
      reads
    rw [refreshEnd, refreshEnd, hresult, hworld]
  have hfails : ProofFails p s record runtime topology now → ∀ reads,
      (refreshEnd (firstRefresh p s topology now reads)).phase =
        some (if decide (reads = []) then .needsReauthorization else .degraded) := by
    rintro ⟨hmatch, hobserved, active, candidate, hactive, hplan, hunproved⟩ reads
    obtain rfl := hmatches.2 hmatch
    have hcurrent : (adoptedMemory record none).current = some active := hactive
    have hphase : (ArmedRuntime.loaded runtime none).phase ≠ .needsReauthorization := by
      show RuntimePhase.armed ≠ .needsReauthorization
      decide
    obtain ⟨⟨status, hresult, hstatus⟩, -⟩ := refreshPrepared_of_unproved
      (adoptedMemory_runtime h.runtime) hcurrent rfl h.store h.committed rfl hphase hobserved hplan
      hunproved (decide (reads = []) && record.active.isSome)
    rw [hactive, Option.isSome_some, Bool.and_true] at hresult hstatus
    rw [hfirst, refreshEnd, hactive, Option.isSome_some, Bool.and_true, hresult]
    exact congrArg some hstatus
  constructor
  · intro hreads
    by_contra hnot
    obtain ⟨hne, hproof⟩ := not_or.1 hnot
    have hphase := hfails (not_not.1 hproof) reads
    rw [hreads.frozen (not_not.1 hproof), decide_eq_false hne] at hphase
    cases hphase
  · rintro (rfl | hproves)
    · exact ⟨rfl, fun hproof => hfails hproof []⟩
    · refine ⟨?_, fun hproof => absurd hproof hproves⟩
      rw [hfirst, hfirst, refreshPrepared_adopted h.runtime hmatches hproves,
        refreshPrepared_adopted h.runtime hmatches hproves]

end Reads

/-- The kernel lost the nft table while the helper was down. -/
def tablelessSystem : System :=
  { armedSystem with kernel := { armedSystem.kernel with nft := none } }

theorem tablelessSystem_journaled :
    JournaledRuntime countPrimitives tablelessSystem armedJournal bareRuntime :=
  ⟨rfl, by decide, by decide +kernel, rfl⟩

/-- The plan once the system's default has moved: the traffic of the first lane waits for its
failback. -/
def failbackPlan : KernelPlan :=
  { routedPlan with generation := 2, primary := ⟨⟨some "b", none⟩, ⟨.lane "a", .blocked⟩⟩ }

theorem routedSystem_proves :
    ¬ProofFails countPrimitives routedSystem (journalOf routedPlan routedRuntime) routedRuntime
      (uplinks "wg0") 1 := by
  rintro ⟨-, -, active, candidate, hactive, hplan, hunproved⟩
  obtain rfl := Option.some.inj hactive
  have hcandidate : (refreshCandidate countPrimitives (.loaded routedRuntime none) routedPlan
      (uplinks "wg0") 1).plan = .ok failbackPlan := by decide +kernel
  obtain rfl := Except.ok.inj (hcandidate.symm.trans hplan)
  exact hunproved ⟨_, ∅, rfl, by decide +kernel⟩

/-- A status and an inspection come first, and the state is proved. -/
theorem reads_do_not_matter_proved :
    ReadsDoNotMatter countPrimitives routedSystem (journalOf routedPlan routedRuntime) routedRuntime
      (uplinks "wg0") 1 [.runtimeStatus, .inspect] :=
  (reads_do_not_matter_iff countPrimitives routedSystem (journalOf routedPlan routedRuntime)
    routedRuntime (uplinks "wg0") 1 [.runtimeStatus, .inspect]
    ⟨rfl, by decide, by decide +kernel, rfl⟩).2 (Or.inr routedSystem_proves)

/-- After a status, the refresh that cannot prove its state leaves a degraded runtime where
it would have frozen it. -/
theorem status_hides_failed_proof :
    (refreshEnd (firstRefresh countPrimitives tablelessSystem (bareTopology oneAddress) 0
        [])).phase = some .needsReauthorization ∧
      (refreshEnd (firstRefresh countPrimitives tablelessSystem (bareTopology oneAddress) 0
        [.runtimeStatus])).phase = some .degraded ∧
      ¬∀ (p : Primitives) (s : System) (record : StoredAppliedState) (runtime : RuntimeRecord)
        (topology : TopologySnapshot) (now : ℕ) (reads : List ReadCall),
        JournaledRuntime p s record runtime →
          ReadsDoNotMatter p s record runtime topology now reads := by
  have hfirst : (refreshEnd (firstRefresh countPrimitives tablelessSystem
      (bareTopology oneAddress) 0 [])).phase = some .needsReauthorization := by decide +kernel
  have hsecond : (refreshEnd (firstRefresh countPrimitives tablelessSystem
      (bareTopology oneAddress) 0 [.runtimeStatus])).phase = some .degraded := by decide +kernel
  refine ⟨hfirst, hsecond, fun hall => ?_⟩
  have hsame := (hall countPrimitives tablelessSystem armedJournal bareRuntime
    (bareTopology oneAddress) 0 [.runtimeStatus] tablelessSystem_journaled).same
  have hphase := congrArg RefreshEnd.phase hsame
  rw [hfirst, hsecond] at hphase
  cases hphase

end RouteLane
