import RouteLane.Kernel.Conflicts
import RouteLane.Kernel.Runner
import RouteLane.Lib.Calls

/-!
# Transactions

`transaction.rs` against any `KernelRunner`: which calls it makes, in which order, and what
it makes of an error.  A plan is applied by one call after another; the first that fails
after the snapshot is answered by a restore and the removal of the guard, and by nothing
else.  The runner may do whatever it likes, in the handling of a failure as well.
-/

namespace RouteLane

namespace Transaction

open Calls Client

/-! ## The runner -/

/-- The calls of a `KernelRunner`. -/
inductive RunnerCall where
  | snapshot
  | installGuard (next : KernelPlan)
  | prepareRoutes (next : KernelPlan)
  | activateNft (next : KernelPlan)
  | verify (next : KernelPlan)
  | removeGeneration (generation : ℕ)
  | removeGuard
  | restore (state : Option KernelPlan)
  deriving DecidableEq

/-- Only `snapshot` is answered with something. -/
@[reducible] def RunnerCall.Answer (S : Type) : RunnerCall → Type
  | .snapshot => S
  | .installGuard _ | .prepareRoutes _ | .activateNft _ | .verify _ | .removeGeneration _
  | .removeGuard | .restore _ => Unit

/-- A `KernelRunner` with states `σ` and snapshots `S`. -/
abbrev KernelRunner (σ S : Type) := Server σ RunnerCall (RunnerCall.Answer S) RunnerError

structure MutationFailure where
  stage : ApplyStage
  primaryError : RunnerError
  rollbackError : Option RunnerError
  cleanupError : Option RunnerError

/-- `ApplyError`, over the conflicts a snapshot can be in. -/
inductive ApplyError (K : Type) where
  | staleGeneration (current requested : ℕ)
  | generationConflict (generation : ℕ) (currentHash requestedHash : PlanHash)
  | snapshot (error : RunnerError)
  | resourceConflict (conflict : K)
  | mutation (failure : MutationFailure)

/-- `ApplyError::code`. -/
def ApplyError.code {K : Type} : ApplyError K → String
  | .staleGeneration _ _ => "STALE_GENERATION"
  | .generationConflict _ _ _ => "GENERATION_CONFLICT"
  | .snapshot _ => "KERNEL_SNAPSHOT_FAILED"
  | .resourceConflict _ => "ROUTING_RESOURCE_CONFLICT"
  | .mutation failure =>
    if failure.rollbackError.isSome || failure.cleanupError.isSome then "POLICY_ROLLBACK_FAILED"
    else "POLICY_APPLY_ROLLED_BACK"

/-- The conflicts a transition looks for: an update is measured against what the current
plan owns. -/
def detectConflicts (current : Option KernelPlan) (next : KernelPlan)
    (snapshot : KernelSnapshot) : Except ResourceConflict Unit :=
  match current with
  | some current => detectResourceConflictsForUpdate next current snapshot
  | none => detectResourceConflicts next snapshot

/-! ## The transaction -/

section Apply

variable {σ S K : Type} (runner : KernelRunner σ S)

/-- `run_mutating_stage`. -/
def runMutatingStage (current : Option KernelPlan) (stage : ApplyStage)
    (action : Client σ RunnerCall RunnerError (ApplyError K) (Except RunnerError Unit)) :
    Client σ RunnerCall RunnerError (ApplyError K) Unit := do
  match ← action with
  | .ok () => return ()
  | .error primary =>
    let rollback ← request runner (.restore current)
    let cleanup ← request runner .removeGuard
    fail (.mutation ⟨stage, primary, Client.errorOf rollback, Client.errorOf cleanup⟩)

/-- The stage that only a transition from an applied plan has. -/
def removeOldGeneration (current : Option KernelPlan) :
    Client σ RunnerCall RunnerError (ApplyError K) Unit :=
  match current with
  | none => return ()
  | some plan =>
    runMutatingStage runner current .removeOldGeneration
      (request runner (.removeGeneration plan.generation))

/-- The mutating stages of `transition_plan`. -/
def transitionStages (current : Option KernelPlan) (next : KernelPlan) :
    Client σ RunnerCall RunnerError (ApplyError K) Unit := do
  runMutatingStage runner current .installGuard (request runner (.installGuard next))
  runMutatingStage runner current .prepareRoutes (request runner (.prepareRoutes next))
  runMutatingStage runner current .activateNft (request runner (.activateNft next))
  runMutatingStage runner current .verify (request runner (.verify next))
  removeOldGeneration runner current
  runMutatingStage runner current .removeGuard (request runner .removeGuard)

variable (conflicts : Option KernelPlan → KernelPlan → S → Except K Unit)

/-- `transition_plan`.  An applied state is the plan it was made from. -/
def transitionPlan (current : Option KernelPlan) (next : KernelPlan) :
    Client σ RunnerCall RunnerError (ApplyError K) KernelPlan := do
  match ← request runner .snapshot with
  | .error error => fail (.snapshot error)
  | .ok snapshot =>
    match conflicts current next snapshot with
    | .error conflict => fail (.resourceConflict conflict)
    | .ok () =>
      transitionStages runner current next
      return next

/-- `apply_plan`. -/
def applyPlan (blake3 : Blake3) (current : Option KernelPlan) (next : KernelPlan) :
    Client σ RunnerCall RunnerError (ApplyError K) KernelPlan :=
  match current with
  | none => transitionPlan runner conflicts current next
  | some plan =>
    if next.generation < plan.generation then
      fail (.staleGeneration plan.generation next.generation)
    else if next.generation = plan.generation then
      if next.contentHash blake3 = plan.contentHash blake3 then return plan
      else fail (.generationConflict next.generation (plan.contentHash blake3)
        (next.contentHash blake3))
    else transitionPlan runner conflicts current next

end Apply

/-! ## The calls of a transition -/

/-- The mutating calls, in order. -/
def mutatingCalls (current : Option KernelPlan) (next : KernelPlan) : List RunnerCall :=
  [.installGuard next, .prepareRoutes next, .activateNft next, .verify next] ++
    (current.map fun plan => .removeGeneration plan.generation).toList ++ [.removeGuard]

/-- All calls of a transition nothing stands in the way of. -/
def forwardCalls (current : Option KernelPlan) (next : KernelPlan) : List RunnerCall :=
  .snapshot :: mutatingCalls current next

/-- The stage of a mutating call. -/
def RunnerCall.stage : RunnerCall → Option ApplyStage
  | .installGuard _ => some .installGuard
  | .prepareRoutes _ => some .prepareRoutes
  | .activateNft _ => some .activateNft
  | .verify _ => some .verify
  | .removeGeneration _ => some .removeOldGeneration
  | .removeGuard => some .removeGuard
  | .snapshot | .restore _ => none

/-- How a failed mutating call is handled: its stage and the errors of the restore and of the
removal of the guard are those the transaction reports. -/
def Handled {K : Type} (current : Option KernelPlan) (call : RunnerCall) (primary : RunnerError)
    (error : ApplyError K) (handling : List (Entry RunnerCall RunnerError)) : Prop :=
  ∃ stage rollback cleanup, call.stage = some stage ∧
    error = .mutation ⟨stage, primary, rollback, cleanup⟩ ∧
    handling = [⟨.restore current, rollback⟩, ⟨.removeGuard, cleanup⟩]

variable {σ S K : Type} (runner : KernelRunner σ S)

/-- A stage is one call, and what handles its failure. -/
theorem sequence_runMutatingStage (current : Option KernelPlan) {stage : ApplyStage}
    {call : RunnerCall} (hstage : call.stage = some stage)
    {action : Client σ RunnerCall RunnerError (ApplyError K) (Except RunnerError Unit)}
    (haction : ∀ s, ∃ answer s', action s = ⟨.ok answer, s', [⟨call, Client.errorOf answer⟩]⟩) :
    Sequence (Handled current) [call] (runMutatingStage runner current stage action) := by
  intro s
  obtain ⟨answer, s', hrun⟩ := haction s
  have hok : (action s).result = .ok answer := by rw [hrun]
  rw [runMutatingStage, bind_of_ok hok, hrun]
  cases answer with
  | ok a => exact Or.inl ⟨rfl, rfl⟩
  | error primary =>
    right
    let rollback := runner.answer (.restore current) s'
    let cleanup := runner.answer .removeGuard rollback.2
    exact ⟨[], call, [], primary, .mutation ⟨stage, primary, Client.errorOf rollback.1,
      Client.errorOf cleanup.1⟩, [⟨.restore current, Client.errorOf rollback.1⟩,
      ⟨.removeGuard, Client.errorOf cleanup.1⟩], rfl, ⟨stage, _, _, hstage, rfl, rfl⟩, rfl, rfl⟩

theorem sequence_transitionStages (current : Option KernelPlan) (next : KernelPlan) :
    Sequence (Handled (K := K) current) (mutatingCalls current next)
      (transitionStages runner current next) := by
  have hremove : Sequence (Handled (K := K) current)
      (current.map fun plan => RunnerCall.removeGeneration plan.generation).toList
      (removeOldGeneration runner current) := by
    cases current with
    | none => exact .nil
    | some plan => exact sequence_runMutatingStage runner _ rfl fun s => ⟨_, _, rfl⟩
  have hinstall : Sequence (Handled (K := K) current) [.installGuard next]
      (runMutatingStage runner current .installGuard (request runner (.installGuard next))) :=
    sequence_runMutatingStage runner _ rfl fun s => ⟨_, _, rfl⟩
  have hprepare : Sequence (Handled (K := K) current) [.prepareRoutes next]
      (runMutatingStage runner current .prepareRoutes (request runner (.prepareRoutes next))) :=
    sequence_runMutatingStage runner _ rfl fun s => ⟨_, _, rfl⟩
  have hactivate : Sequence (Handled (K := K) current) [.activateNft next]
      (runMutatingStage runner current .activateNft (request runner (.activateNft next))) :=
    sequence_runMutatingStage runner _ rfl fun s => ⟨_, _, rfl⟩
  have hverify : Sequence (Handled (K := K) current) [.verify next]
      (runMutatingStage runner current .verify (request runner (.verify next))) :=
    sequence_runMutatingStage runner _ rfl fun s => ⟨_, _, rfl⟩
  have hguard : Sequence (Handled (K := K) current) [.removeGuard]
      (runMutatingStage runner current .removeGuard (request runner .removeGuard)) :=
    sequence_runMutatingStage runner _ rfl fun s => ⟨_, _, rfl⟩
  exact hinstall.append (hprepare.append (hactivate.append (hverify.append
    (hremove.append hguard))))

/-! ## The trace law -/

/-- A transition answers the snapshot, and then goes through its mutating calls or handles
the first that fails. -/
theorem transitionPlan_trace (conflicts : Option KernelPlan → KernelPlan → S → Except K Unit)
    (current : Option KernelPlan) (next : KernelPlan) (s : σ) :
    let run := transitionPlan runner conflicts current next s
    (∃ error, (runner.answer .snapshot s).1 = .error error ∧
        run.result = .error (.snapshot error) ∧ run.log = [⟨.snapshot, some error⟩]) ∨
      ∃ snapshot, (runner.answer .snapshot s).1 = .ok snapshot ∧
        ((∃ conflict, conflicts current next snapshot = .error conflict ∧
            run.result = .error (.resourceConflict conflict) ∧
            run.log = answered [.snapshot]) ∨
          conflicts current next snapshot = .ok () ∧
          (run.result = .ok next ∧ run.log = answered (forwardCalls current next) ∨
            ∃ before call after error failure handling,
              mutatingCalls current next = before ++ call :: after ∧
              Handled current call error failure handling ∧ run.result = .error failure ∧
              run.log = answered (.snapshot :: before) ++ ⟨call, some error⟩ :: handling)) := by
  intro run
  have hrun : run = transitionPlan runner conflicts current next s := rfl
  rw [transitionPlan, request_bind] at hrun
  cases hanswer : (runner.answer .snapshot s).1 with
  | error error =>
    rw [hanswer] at hrun
    left
    exact ⟨error, rfl, by rw [hrun]; rfl, by rw [hrun]; rfl⟩
  | ok snapshot =>
    rw [hanswer] at hrun
    right
    refine ⟨snapshot, rfl, ?_⟩
    cases hconflicts : conflicts current next snapshot with
    | error conflict =>
      simp only [hconflicts] at hrun
      left
      exact ⟨conflict, rfl, by rw [hrun]; rfl, by rw [hrun]; rfl⟩
    | ok _ =>
      simp only [hconflicts] at hrun
      right
      refine ⟨rfl, ?_⟩
      rcases sequence_transitionStages (K := K) runner current next (runner.answer .snapshot s).2
        with ⟨hok, hlog⟩ | ⟨before, call, after, error, failure, handling, hcalls, hhandled,
          herror, hlog⟩
      · left
        rw [bind_of_ok hok] at hrun
        refine ⟨by rw [hrun]; rfl, ?_⟩
        rw [hrun]
        simp [hlog, answered, forwardCalls, pure_apply]
      · right
        rw [bind_of_error herror] at hrun
        refine ⟨before, call, after, error, failure, handling, hcalls, hhandled,
          by rw [hrun], ?_⟩
        rw [hrun]
        simp [hlog, answered]

/-- What a transaction comes to, with its calls and their answers. -/
inductive Transacts (blake3 : Blake3)
    (conflicts : Option KernelPlan → KernelPlan → S → Except K Unit)
    (current : Option KernelPlan) (next : KernelPlan) (s : σ) :
    Except (ApplyError K) KernelPlan → List (Entry RunnerCall RunnerError) → Prop
  /-- An older generation is refused without a call, -/
  | stale {plan : KernelPlan} : plan ∈ current → next.generation < plan.generation →
      Transacts blake3 conflicts current next s
        (.error (.staleGeneration plan.generation next.generation)) []
  /-- and so is other content under the generation in force. -/
  | conflicting {plan : KernelPlan} : plan ∈ current → next.generation = plan.generation →
      next.contentHash blake3 ≠ plan.contentHash blake3 →
      Transacts blake3 conflicts current next s
        (.error (.generationConflict next.generation (plan.contentHash blake3)
          (next.contentHash blake3))) []
  /-- What is in force already stays. -/
  | unchanged {plan : KernelPlan} : plan ∈ current → next.generation = plan.generation →
      next.contentHash blake3 = plan.contentHash blake3 →
      Transacts blake3 conflicts current next s (.ok plan) []
  | snapshotFailed {error : RunnerError} : (∀ plan ∈ current, plan.generation < next.generation) →
      (runner.answer .snapshot s).1 = .error error →
      Transacts blake3 conflicts current next s (.error (.snapshot error))
        [⟨.snapshot, some error⟩]
  | occupied {snapshot : S} {conflict : K} :
      (∀ plan ∈ current, plan.generation < next.generation) →
      (runner.answer .snapshot s).1 = .ok snapshot →
      conflicts current next snapshot = .error conflict →
      Transacts blake3 conflicts current next s (.error (.resourceConflict conflict))
        (answered [.snapshot])
  /-- The plan is applied once every call succeeded, and not before. -/
  | applied {snapshot : S} : (∀ plan ∈ current, plan.generation < next.generation) →
      (runner.answer .snapshot s).1 = .ok snapshot → conflicts current next snapshot = .ok () →
      Transacts blake3 conflicts current next s (.ok next) (answered (forwardCalls current next))
  /-- The first mutating call that fails ends the transaction. -/
  | failed {snapshot : S} {before after : List RunnerCall} {call : RunnerCall}
      {error : RunnerError} {failure : ApplyError K}
      {handling : List (Entry RunnerCall RunnerError)} :
      (∀ plan ∈ current, plan.generation < next.generation) →
      (runner.answer .snapshot s).1 = .ok snapshot → conflicts current next snapshot = .ok () →
      mutatingCalls current next = before ++ call :: after →
      Handled current call error failure handling →
      Transacts blake3 conflicts current next s (.error failure)
        (answered (.snapshot :: before) ++ ⟨call, some error⟩ :: handling)

theorem transitionPlan_transacts (blake3 : Blake3)
    (conflicts : Option KernelPlan → KernelPlan → S → Except K Unit)
    {current : Option KernelPlan} {next : KernelPlan} (s : σ)
    (hnewer : ∀ plan ∈ current, plan.generation < next.generation) :
    Transacts runner blake3 conflicts current next s
      (transitionPlan runner conflicts current next s).result
      (transitionPlan runner conflicts current next s).log := by
  rcases transitionPlan_trace runner conflicts current next s with
    ⟨error, herror, hresult, hlog⟩ | ⟨snapshot, hsnapshot,
      ⟨conflict, hconflict, hresult, hlog⟩ | ⟨hfree, ⟨hresult, hlog⟩ |
        ⟨before, call, after, error, failure, handling, hcalls, hhandled, hresult, hlog⟩⟩⟩
  · rw [hresult, hlog]
    exact .snapshotFailed hnewer herror
  · rw [hresult, hlog]
    exact .occupied hnewer hsnapshot hconflict
  · rw [hresult, hlog]
    exact .applied hnewer hsnapshot hfree
  · rw [hresult, hlog]
    exact .failed hnewer hsnapshot hfree hcalls hhandled

/-- A mutating call that failed. -/
def MutatingFailure (entry : Entry RunnerCall RunnerError) : Prop :=
  entry.call ≠ .snapshot ∧ entry.error ≠ none

/-- The law of the calls of a transaction. -/
structure TraceLaw (current : Option KernelPlan) (next : KernelPlan)
    (run : Outcome σ RunnerCall RunnerError (ApplyError K) KernelPlan) : Prop where
  /-- The calls are the first of the forward calls, none of which fails but the last; if
  that is a mutating one, a restore and the removal of the guard follow, and nothing else. -/
  forward : ∃ forward handling, run.log = forward ++ handling ∧
    forward.map Entry.call <+: forwardCalls current next ∧
    (∀ entry ∈ forward.dropLast, entry.error = none) ∧
    ((∃ entry ∈ forward.getLast?, MutatingFailure entry) →
      handling.map Entry.call = [.restore current, .removeGuard]) ∧
    ((∀ entry ∈ forward, ¬MutatingFailure entry) → handling = [])
  /-- The code says rolled back exactly when the restore and the removal succeeded. -/
  code : ∀ error, run.result = .error error → (error.code = "POLICY_APPLY_ROLLED_BACK" ↔
    ∃ forward, run.log = forward ++ [⟨.restore current, none⟩, ⟨.removeGuard, none⟩])

variable {current : Option KernelPlan} {next : KernelPlan}
  {run : Outcome σ RunnerCall RunnerError (ApplyError K) KernelPlan}

theorem map_call_answered (calls : List RunnerCall) :
    (answered calls : List (Entry RunnerCall RunnerError)).map Entry.call = calls := by
  simp [answered, Function.comp_def]

theorem error_of_mem_answered {calls : List RunnerCall} {entry : Entry RunnerCall RunnerError}
    (h : entry ∈ answered calls) : entry.error = none := by
  obtain ⟨call, -, rfl⟩ := List.mem_map.1 h
  rfl

theorem mutatingCalls_ne_snapshot {call : RunnerCall} (h : call ∈ mutatingCalls current next) :
    call ≠ .snapshot := by
  rintro rfl
  simp [mutatingCalls] at h

/-- A restore is no call of a transition nothing stands in the way of. -/
theorem restore_notMem_forward : RunnerCall.restore current ∉ forwardCalls current next := by
  simp [forwardCalls, mutatingCalls]

/-- Calls of which none is handled, and an error that is no mutation. -/
theorem TraceLaw.of_unhandled {log : List (Entry RunnerCall RunnerError)} (hlog : run.log = log)
    (hfirst : log.map Entry.call <+: forwardCalls current next)
    (hdone : ∀ entry ∈ log.dropLast, entry.error = none)
    (hfailed : ∀ entry ∈ log, ¬MutatingFailure entry)
    (hcode : ∀ error, run.result = .error error → error.code ≠ "POLICY_APPLY_ROLLED_BACK") :
    TraceLaw current next run where
  forward := by
    refine ⟨log, [], by rw [hlog, List.append_nil], hfirst, hdone, ?_, fun _ => rfl⟩
    rintro ⟨entry, hentry, hfailure⟩
    exact absurd hfailure (hfailed entry (List.mem_of_mem_getLast? hentry))
  code := by
    intro error herror
    refine iff_of_false (hcode error herror) ?_
    rintro ⟨forward, hforward⟩
    have hmem : RunnerCall.restore current ∈ log.map Entry.call := by
      rw [← hlog, hforward]
      simp
    exact restore_notMem_forward (hfirst.subset hmem)

theorem transitionPlan_lawful
    (conflicts : Option KernelPlan → KernelPlan → S → Except K Unit) (s : σ) :
    TraceLaw current next (transitionPlan runner conflicts current next s) := by
  have hsnapshot : [RunnerCall.snapshot] <+: forwardCalls current next := ⟨_, rfl⟩
  rcases transitionPlan_trace runner conflicts current next s with
    ⟨error, -, hresult, hlog⟩ | ⟨snapshot, -, ⟨conflict, -, hresult, hlog⟩ | ⟨-, hrun⟩⟩
  · refine .of_unhandled hlog hsnapshot (by simp) (by simp [MutatingFailure]) ?_
    intro error' herror
    obtain rfl := Except.error.inj (hresult.symm.trans herror)
    simp [ApplyError.code]
  · refine .of_unhandled hlog hsnapshot (by simp [answered]) ?_ ?_
    · intro entry hentry hfailure
      exact hfailure.2 (error_of_mem_answered hentry)
    · intro error' herror
      obtain rfl := Except.error.inj (hresult.symm.trans herror)
      simp [ApplyError.code]
  · rcases hrun with ⟨hresult, hlog⟩ | ⟨before, call, after, error, failure, handling, hcalls,
      ⟨stage, rollback, cleanup, -, rfl, rfl⟩, hresult, hlog⟩
    · refine .of_unhandled hlog ?_ ?_ ?_ ?_
      · rw [map_call_answered]
      · exact fun entry hentry => error_of_mem_answered (List.dropLast_subset _ hentry)
      · exact fun entry hentry hfailure => hfailure.2 (error_of_mem_answered hentry)
      · intro error herror
        rw [hresult] at herror
        cases herror
    · have hlog' : (transitionPlan runner conflicts current next s).log =
          (answered (.snapshot :: before) ++ [⟨call, some error⟩]) ++
            [⟨.restore current, rollback⟩, ⟨.removeGuard, cleanup⟩] := by
        rw [hlog, List.append_assoc]
        rfl
      have hmem : call ∈ mutatingCalls current next := by
        rw [hcalls]
        simp
      have hcall := mutatingCalls_ne_snapshot hmem
      refine ⟨⟨_, _, hlog', ?_, ?_, fun _ => rfl, fun hfailed => ?_⟩, fun error' herror => ?_⟩
      · rw [List.map_append, map_call_answered]
        exact ⟨after, by simp [forwardCalls, hcalls]⟩
      · rw [List.dropLast_concat]
        exact fun entry hentry => error_of_mem_answered hentry
      · exact absurd ⟨hcall, by simp⟩ (hfailed ⟨call, some error⟩ (by simp))
      · obtain rfl := Except.error.inj (hresult.symm.trans herror)
        have hcode : (ApplyError.mutation ⟨stage, error, rollback, cleanup⟩ :
            ApplyError K).code = "POLICY_APPLY_ROLLED_BACK" ↔
              rollback = none ∧ cleanup = none := by
          cases rollback with
          | none => cases cleanup <;> simp [ApplyError.code]
          | some _ => simp [ApplyError.code]
        rw [hcode, hlog']
        constructor
        · rintro ⟨hrollback, hcleanup⟩
          rw [hrollback, hcleanup]
          exact ⟨_, rfl⟩
        · rintro ⟨forward, hforward⟩
          have hlast := (List.append_inj' hforward rfl).2
          simp only [List.cons.injEq, Entry.mk.injEq, true_and, and_true] at hlast
          exact hlast

/-! ### Before a transition -/

section Generation

variable {runner} {conflicts : Option KernelPlan → KernelPlan → S → Except K Unit}
  {blake3 : Blake3} {plan : KernelPlan} {s : σ}

theorem applyPlan_stale (h : next.generation < plan.generation) :
    applyPlan runner conflicts blake3 (some plan) next s =
      ⟨.error (.staleGeneration plan.generation next.generation), s, []⟩ := by
  simp [applyPlan, h, fail_apply]

theorem applyPlan_same (h : next.generation = plan.generation)
    (hhash : next.contentHash blake3 = plan.contentHash blake3) :
    applyPlan runner conflicts blake3 (some plan) next s = ⟨.ok plan, s, []⟩ := by
  simp [applyPlan, h, hhash, pure_apply]

theorem applyPlan_conflicting (h : next.generation = plan.generation)
    (hhash : next.contentHash blake3 ≠ plan.contentHash blake3) :
    applyPlan runner conflicts blake3 (some plan) next s =
      ⟨.error (.generationConflict next.generation (plan.contentHash blake3)
        (next.contentHash blake3)), s, []⟩ := by
  simp [applyPlan, h, hhash, fail_apply]

theorem applyPlan_newer (h : plan.generation < next.generation) :
    applyPlan runner conflicts blake3 (some plan) next s =
      transitionPlan runner conflicts (some plan) next s := by
  have hstale : ¬next.generation < plan.generation := by omega
  have hsame : next.generation ≠ plan.generation := by omega
  simp [applyPlan, hstale, hsame]

end Generation

/-- A transition is refused before its first mutating call. -/
theorem transitionPlan_refused (conflicts : Option KernelPlan → KernelPlan → S → Except K Unit)
    {s : σ} (h : (∃ error, (runner.answer .snapshot s).1 = .error error) ∨
      ∃ snapshot conflict, (runner.answer .snapshot s).1 = .ok snapshot ∧
        conflicts current next snapshot = .error conflict) :
    ∀ entry ∈ (transitionPlan runner conflicts current next s).log, entry.call = .snapshot := by
  rcases transitionPlan_trace runner conflicts current next s with
    ⟨error, -, -, hlog⟩ | ⟨snapshot, hanswer, ⟨conflict, -, -, hlog⟩ | ⟨hfree, -⟩⟩
  · simp [hlog]
  · simp [hlog, answered]
  · rcases h with ⟨error, herror⟩ | ⟨snapshot', conflict, hanswer', hconflict⟩
    · rw [hanswer] at herror
      cases herror
    · obtain rfl := Except.ok.inj (hanswer.symm.trans hanswer')
      rw [hfree] at hconflict
      cases hconflict

/-- Without a call the law holds, as long as no rollback is reported. -/
theorem TraceLaw.of_quiet {result : Except (ApplyError K) KernelPlan} {s : σ}
    (hcode : ∀ error, result = .error error → error.code ≠ "POLICY_APPLY_ROLLED_BACK") :
    TraceLaw current next
      (⟨result, s, []⟩ : Outcome σ RunnerCall RunnerError (ApplyError K) KernelPlan) :=
  .of_unhandled rfl List.nil_prefix (by simp) (by simp) hcode

/-- Whatever the runner does and whichever call fails: the result and the calls of
`apply_plan` are one of the pairs a transaction can come to, which obey the trace law; a
stale or conflicting generation, a failed snapshot and a resource conflict cause no mutating
call; and the same generation with the same content returns the current state without a
call. -/
theorem applyPlan_trace (blake3 : Blake3) (runner : KernelRunner σ KernelSnapshot)
    (current : Option KernelPlan) (next : KernelPlan) (s : σ) :
    let run := applyPlan runner detectConflicts blake3 current next s
    Transacts runner blake3 detectConflicts current next s run.result run.log ∧
      TraceLaw current next run ∧
      ((∃ plan ∈ current, next.generation < plan.generation ∨
            next.generation = plan.generation ∧
              next.contentHash blake3 ≠ plan.contentHash blake3) ∨
          (∃ error, (runner.answer .snapshot s).1 = .error error) ∨
          (∃ snapshot conflict, (runner.answer .snapshot s).1 = .ok snapshot ∧
            detectConflicts current next snapshot = .error conflict) →
        ∀ entry ∈ run.log, entry.call = .snapshot) ∧
      ∀ plan ∈ current, next.generation = plan.generation →
        next.contentHash blake3 = plan.contentHash blake3 →
          run.result = .ok plan ∧ run.log = [] := by
  intro run
  cases current with
  | none =>
    refine ⟨transitionPlan_transacts runner blake3 detectConflicts s (by simp),
      transitionPlan_lawful runner detectConflicts s, fun h => ?_, by simp⟩
    exact transitionPlan_refused runner detectConflicts (by simpa using h)
  | some plan =>
    have hrun : run = applyPlan runner detectConflicts blake3 (some plan) next s := rfl
    simp only [Option.mem_some_iff, exists_eq_left', forall_eq']
    rcases lt_trichotomy next.generation plan.generation with hstale | hsame | hnewer
    · rw [applyPlan_stale hstale] at hrun
      rw [hrun]
      exact ⟨.stale rfl hstale, .of_quiet (by simp [ApplyError.code]), by simp, by omega⟩
    · by_cases hhash : next.contentHash blake3 = plan.contentHash blake3
      · rw [applyPlan_same hsame hhash] at hrun
        rw [hrun]
        exact ⟨.unchanged rfl hsame hhash, .of_quiet (by simp), by simp, fun _ _ => ⟨rfl, rfl⟩⟩
      · rw [applyPlan_conflicting hsame hhash] at hrun
        rw [hrun]
        exact ⟨.conflicting rfl hsame hhash, .of_quiet (by simp [ApplyError.code]), by simp,
          fun _ h => absurd h hhash⟩
    · rw [applyPlan_newer hnewer] at hrun
      rw [hrun]
      refine ⟨transitionPlan_transacts runner blake3 detectConflicts s (by simpa using hnewer),
        transitionPlan_lawful runner detectConflicts s, fun h => ?_, by omega⟩
      refine transitionPlan_refused runner detectConflicts (h.resolve_left ?_)
      omega

/-! ## The command runner -/

/-- What `CommandKernelRunner` does with a call. -/
def program (blake3 : Blake3) : (call : RunnerCall) → Runner (call.Answer KernelState)
  | .snapshot => RouteLane.snapshot
  | .installGuard next => RouteLane.installGuard blake3 next
  | .prepareRoutes next => RouteLane.prepareRoutes next
  | .activateNft next => RouteLane.activateNft blake3 next
  | .verify next => RouteLane.verifyPlan blake3 next
  | .removeGeneration generation => RouteLane.removeGeneration generation
  | .removeGuard => RouteLane.removeGuard
  | .restore state => RouteLane.restore blake3 state

/-- The world of the command runner, and the events that lie behind it. -/
abbrev CommandState :=
  Faults.World KernelState CommandKernelRunner × List (Faults.Event KernelState)

/-- `CommandKernelRunner` as a runner of transactions. -/
def commandRunner (blake3 : Blake3) : KernelRunner CommandState KernelState where
  answer call s :=
    let o := program blake3 call s.1
    (o.result, o.world, s.2 ++ o.events)

/-- The error of the command runner's transition. -/
def ApplyError.toCommand : ApplyError String → RouteLane.ApplyError
  | .staleGeneration current requested => .staleGeneration current requested
  | .generationConflict generation currentHash requestedHash =>
    .generationConflict generation currentHash requestedHash
  | .snapshot error => .snapshot error
  | .resourceConflict conflict => .resourceConflict conflict
  | .mutation failure =>
    .mutation failure.stage failure.primaryError failure.rollbackError failure.cleanupError

/-- A transition of the command runner does what the transaction does with it as its
runner. -/
def Follows {α : Type} (p : Transition α)
    (client : Client CommandState RunnerCall RunnerError (ApplyError String) α) : Prop :=
  ∀ w events, (p w).result = (client (w, events)).result.mapError ApplyError.toCommand ∧
    (client (w, events)).state = ((p w).world, events ++ (p w).events)

namespace Follows

variable {α β : Type} {blake3 : Blake3}

theorem pure (a : α) : Follows (Pure.pure a) (Pure.pure a) := by
  intro w events
  refine ⟨rfl, ?_⟩
  show (w, events) = (w, events ++ [])
  rw [List.append_nil]

theorem fail (error : ApplyError String) :
    Follows (Faults.Program.fail error.toCommand : Transition α) (Client.fail error) := by
  intro w events
  refine ⟨rfl, ?_⟩
  show (w, events) = (w, events ++ [])
  rw [List.append_nil]

theorem call (action : RunnerCall) :
    Follows (Faults.Program.attempt (program blake3 action))
      (request (commandRunner blake3) action) := fun _ _ => ⟨rfl, rfl⟩

theorem bind {p : Transition α} {client : Client CommandState RunnerCall RunnerError _ α}
    {f : α → Transition β} {g : α → Client CommandState RunnerCall RunnerError _ β}
    (h : Follows p client) (hnext : ∀ a, Follows (f a) (g a)) :
    Follows (p >>= f) (client >>= g) := by
  intro w events
  obtain ⟨hresult, hstate⟩ := h w events
  have hbind : (p >>= f) w = Faults.Program.bind p f w := rfl
  rw [hbind, Faults.Program.bind]
  cases hclient : (client (w, events)).result with
  | ok a =>
    rw [bind_of_ok hclient]
    rw [hclient] at hresult
    rcases hrun : p w with ⟨result, w', passed⟩
    rw [hrun] at hresult hstate
    obtain rfl : result = .ok a := hresult
    obtain ⟨hresult', hstate'⟩ := hnext a w' (events ++ passed)
    rw [hstate]
    refine ⟨hresult', hstate'.trans ?_⟩
    rw [List.append_assoc]
  | error error =>
    rw [bind_of_error hclient]
    rw [hclient] at hresult
    rcases hrun : p w with ⟨result, w', passed⟩
    rw [hrun] at hresult hstate
    obtain rfl : result = .error error.toCommand := hresult
    exact ⟨rfl, hstate⟩

/-- What both do with the answer to a mutating call. -/
theorem runMutatingStage (current : Option KernelPlan) (stage : ApplyStage) {run : Runner Unit}
    {action : Client CommandState RunnerCall RunnerError (ApplyError String)
      (Except RunnerError Unit)}
    (h : Follows (Faults.Program.attempt run) action) :
    Follows (RouteLane.runMutatingStage blake3 current stage run)
      (Transaction.runMutatingStage (commandRunner blake3) current stage action) := by
  have herror : ∀ answer : Except RunnerError Unit,
      RouteLane.errorOf answer = Client.errorOf answer := by
    intro answer
    cases answer <;> rfl
  refine h.bind fun answer => ?_
  cases answer with
  | ok _ => exact .pure ()
  | error primary =>
    refine (call (.restore current)).bind fun rollback => ?_
    refine (call .removeGuard).bind fun cleanup => ?_
    rw [herror, herror]
    exact fail (.mutation ⟨stage, primary, _, _⟩)

theorem transitionStages (current : Option KernelPlan) (next : KernelPlan) :
    Follows (RouteLane.transitionStages blake3 current next)
      (Transaction.transitionStages (commandRunner blake3) current next) := by
  have hretire : Follows (RouteLane.retireCurrent blake3 current)
      (removeOldGeneration (commandRunner blake3) current) := by
    cases current with
    | none => exact .pure ()
    | some plan => exact runMutatingStage _ _ (call (.removeGeneration plan.generation))
  refine (runMutatingStage _ _ (call (.installGuard next))).bind fun _ => ?_
  refine (runMutatingStage _ _ (call (.prepareRoutes next))).bind fun _ => ?_
  refine (runMutatingStage _ _ (call (.activateNft next))).bind fun _ => ?_
  refine (runMutatingStage _ _ (call (.verify next))).bind fun _ => ?_
  exact hretire.bind fun _ => runMutatingStage _ _ (call .removeGuard)

end Follows

/-- The check of a snapshot against a plan, told as a conflict. -/
def reported (conflict : KernelState → Option String) (_ : Option KernelPlan) (_ : KernelPlan)
    (captured : KernelState) : Except String Unit :=
  match conflict captured with
  | some c => .error c
  | none => .ok ()

/-- The command runner's `apply_plan` is the transaction with that runner, whose calls the
trace law is about. -/
theorem follows_applyPlan (blake3 : Blake3) (conflict : KernelState → Option String)
    (current : Option KernelPlan) (next : KernelPlan) :
    Follows (RouteLane.applyPlan blake3 conflict current next)
      (applyPlan (commandRunner blake3) (reported conflict) blake3 current next) := by
  have htransition : Follows (RouteLane.transitionPlan blake3 conflict current next)
      (transitionPlan (commandRunner blake3) (reported conflict) current next) := by
    refine (Follows.call .snapshot).bind fun answer => ?_
    cases answer with
    | error error => exact .fail (.snapshot error)
    | ok captured =>
      dsimp only
      cases hconflict : conflict captured with
      | some c =>
        simp only [reported, hconflict]
        exact .fail (.resourceConflict c)
      | none =>
        simp only [reported, hconflict]
        exact (Follows.transitionStages current next).bind fun _ => .pure next
  cases current with
  | none => exact htransition
  | some plan =>
    unfold RouteLane.applyPlan applyPlan
    dsimp only
    split
    · exact .fail (.staleGeneration _ _)
    · split
      · split
        · exact .pure plan
        · exact .fail (.generationConflict _ _ _)
      · exact htransition

end Transaction

end RouteLane
