import RouteLane.Backend.FailedRefresh
import RouteLane.Daemon.Operations
import RouteLane.Ui.Session

/-!
# The order of the daemon's statuses

A client takes a status for older than another by its event sequence, and by its
generation within one event.  The daemon's own status never gets older in this sense as
long as a write that announces nothing stores no smaller generation: the sequence of the
others orders them.  Reconciliation and orphan recovery do store one without announcing it,
and then a client that saw the status before drops the true one.
-/

namespace RouteLane

open Tasks

/-! ## Statuses that do not get older -/

/-- The status of the second state is not older than that of the first. -/
def DaemonState.Precedes (state later : DaemonState) : Prop :=
  ¬later.status.OlderThan state.generation state.eventSequence

theorem DaemonState.precedes_iff {state later : DaemonState} :
    state.Precedes later ↔ state.eventSequence < later.eventSequence ∨
      state.eventSequence = later.eventSequence ∧ state.generation ≤ later.generation := by
  unfold Precedes DaemonStatus.OlderThan
  show ¬(later.eventSequence < state.eventSequence ∨
    later.eventSequence = state.eventSequence ∧ later.generation < state.generation) ↔ _
  omega

theorem DaemonState.precedes_refl (state : DaemonState) : state.Precedes state := by
  rw [precedes_iff]
  omega

theorem DaemonState.Precedes.trans {state later latest : DaemonState}
    (h : state.Precedes later) (h' : later.Precedes latest) : state.Precedes latest := by
  rw [precedes_iff] at *
  omega

/-- A write stores no smaller generation, unless it advances the sequence. -/
def StateWrite.KeepsOrder (w : StateWrite) (state : DaemonState) : Prop :=
  (w.announces state = true ∧ state.eventSequence < u64Max) ∨
    ∀ generation ∈ w.stores state, state.generation ≤ generation

instance (w : StateWrite) (state : DaemonState) : Decidable (w.KeepsOrder state) :=
  inferInstanceAs (Decidable (_ ∨ ∀ generation ∈ w.stores state, _))

/-- The condition on the steps of the service. -/
def Section.KeepsOrder (l : Section) (daemon : Daemon) : Prop :=
  ∀ w ∈ l.stateWrite, w.KeepsOrder daemon.state

instance (l : Section) (daemon : Daemon) : Decidable (l.KeepsOrder daemon) :=
  inferInstanceAs (Decidable (∀ w ∈ l.stateWrite, _))

/-- What a write leaves of the sequence and the generation. -/
theorem Daemon.revision_write (daemon : Daemon) (w : StateWrite) :
    (daemon.write w).state.generation =
        (w.stores daemon.state).getD daemon.state.generation ∧
      (daemon.write w).state.eventSequence =
        if w.announces daemon.state = true ∧ daemon.state.eventSequence < u64Max then
          daemon.state.eventSequence + 1
        else daemon.state.eventSequence := by
  have hgeneration := DaemonState.write_generation daemon.state w
  have hsequence := DaemonState.write_eventSequence daemon.state w
  rw [daemon.state_write]
  split
  · exact ⟨hgeneration, rfl⟩
  · exact ⟨hgeneration, hsequence⟩

/-- A write keeps the order exactly under its condition. -/
theorem Daemon.precedes_write_iff (daemon : Daemon) (w : StateWrite) :
    daemon.state.Precedes (daemon.write w).state ↔ w.KeepsOrder daemon.state := by
  obtain ⟨hgeneration, hsequence⟩ := daemon.revision_write w
  rw [DaemonState.precedes_iff, hgeneration, hsequence, StateWrite.KeepsOrder]
  by_cases hadvance : w.announces daemon.state = true ∧ daemon.state.eventSequence < u64Max
  · rw [if_pos hadvance]
    exact iff_of_true (Or.inl (by omega)) (Or.inl hadvance)
  · rw [if_neg hadvance]
    cases w.stores daemon.state with
    | none => simp
    | some generation => simp [hadvance]

/-- A step that meets the condition keeps the order. -/
theorem precedes_perform {l : Section} {daemon : Daemon} (h : l.KeepsOrder daemon) :
    daemon.state.Precedes (service.perform l daemon).state := by
  cases l with
  | write w => exact (daemon.precedes_write_iff w).2 (h w rfl)
  | _ => exact daemon.state.precedes_refl

/-- Hearing an answer leaves the state. -/
theorem state_hear (q : Call) (a : q.Reply) (daemon : Daemon) :
    (service.hear q a daemon).state = daemon.state := by
  cases q with
  | inspect => cases a <;> rfl
  | _ => rfl

theorem precedes_hear (q : Call) (a : q.Reply) (daemon : Daemon) :
    daemon.state.Precedes (service.hear q a daemon).state := by
  rw [state_hear]
  exact daemon.state.precedes_refl

variable (p : Primitives) (texts : ProbeTexts)

/-- In any run whose steps meet the condition, whatever operations overlap in it, the
status never gets older, and a client that accepted the one before accepts it. -/
theorem status_order {c c' : Config Daemon Section Call Call.Reply (Option DaemonResponse)}
    (hruns : Runs service (Service.IsOperation p texts) Section.KeepsOrder c c') :
    ¬c'.state.state.status.OlderThan c.state.state.generation c.state.state.eventSequence ∧
      ∀ session : UiSession,
        session.acceptedRevision =
          some (c.state.state.generation, c.state.state.eventSequence) →
        (session.acceptStatus c'.state.state.status).isSome = true := by
  have horder : c.state.state.Precedes c'.state.state := by
    refine Runs.relates (R := fun daemon later => daemon.state.Precedes later.state)
      (fun daemon => daemon.state.precedes_refl) (fun h h' => h.trans h') ?_ ?_ hruns
    · exact fun l daemon _ hallowed => precedes_perform hallowed
    · exact precedes_hear
  refine ⟨horder, fun session haccepted => ?_⟩
  have hnewer : ¬c'.state.state.status.OlderThan c.state.state.generation
      c.state.state.eventSequence := horder
  simp [UiSession.acceptStatus, haccepted, hnewer]

/-! ## A daemon and two clients -/

def plainTexts : ProbeTexts := ⟨fun _ => "", id⟩

/-- What a helper tells that holds a plan of this generation, armed, in a kernel somebody
emptied. -/
def emptiedInspection (generation : ℕ) : InspectResponse where
  generation := some generation
  planHash := some ((barePlan generation []).contentHash countPrimitives.blake3)
  appliedPlan := some (barePlan generation [])
  routelaneTablePresent := false
  snapshot := .empty
  diagnostics := []
  runtime := ⟨some bareRuntime.grant, generation, some noPrimary, .armed, none, none⟩

/-- A world in which every inspection is told alike and nothing else works but cleanup. -/
def world (inspected : InspectResponse) : (call : Call) → call.Reply
  | .inspect => .ok inspected
  | .cleanup => .ok true
  | .topology _ => .error (.helper "")
  | .resolutions _ => .error (.helper "")
  | .saveConfig _ => .error (.helper "")
  | .activateRuntime _ => .error (.helper "")
  | .restoreRuntime _ => .error (.helper "")
  | .recoverOrphanedResources => .error (.helper "")
  | .prepareApplicationCgroup _ => .error (.helper "")
  | .adoptApplicationProcess _ _ => .error (.helper "")
  | .matchingProcesses _ => []
  | .canonicalize _ => .error ""
  | .spawn _ _ _ => .error ""

/-- The daemon after an operation that ran alone in such a world. -/
def Daemon.after (daemon : Daemon) (operation : Service.Operation)
    (inspected : InspectResponse) : Daemon :=
  (Tasks.exec service (fun _ => world inspected) 0 (operation.task countPrimitives plainTexts)
    daemon).state

def getStatus : Service.Operation := .request ⟨ipcProtocolVersion, "1", .getStatus⟩

def deactivation : Service.Operation := .request ⟨ipcProtocolVersion, "2", .deactivate⟩

/-- An operation that runs alone is a run of the service. -/
theorem Daemon.runs_after (allowed : Section → Daemon → Prop) (daemon : Daemon)
    (operation : Service.Operation) (inspected : InspectResponse)
    (results : List (Option DaemonResponse))
    (hobeys : Obeys service (fun _ => world inspected) allowed 0
      (operation.task countPrimitives plainTexts) daemon)
    (h : (Tasks.exec service (fun _ => world inspected) 0
      (operation.task countPrimitives plainTexts) daemon).result.isSome = true) :
    ∃ response, Runs service (Service.IsOperation countPrimitives plainTexts) allowed
      ⟨daemon, [], results⟩ ⟨daemon.after operation inspected, [], response :: results⟩ := by
  have hstart : Service.IsOperation countPrimitives plainTexts
      (operation.task countPrimitives plainTexts) := ⟨operation, rfl⟩
  obtain ⟨response, -, hruns⟩ := runs_of_start hstart hobeys h
  exact ⟨response, hruns⟩

/-- The daemon after a client asked for its status while the helper holds a plan of
generation five in an emptied kernel. -/
def driftedDaemon : Daemon := (Daemon.new none).after getStatus (emptiedInspection 5)

/-- The client deactivates: the smaller generation comes with a larger sequence. -/
theorem status_order_deactivation :
    let daemon := driftedDaemon.after deactivation (emptiedInspection 5)
    daemon.state.generation < driftedDaemon.state.generation ∧
      ¬daemon.state.status.OlderThan driftedDaemon.state.generation
        driftedDaemon.state.eventSequence := by
  obtain ⟨response, hruns⟩ := driftedDaemon.runs_after Section.KeepsOrder deactivation
    (emptiedInspection 5) [] (by decide +kernel) (by decide +kernel)
  exact ⟨by decide +kernel, (status_order countPrimitives plainTexts hruns).1⟩

/-- Another client cleans up on the helper, and the next request finds nothing there: the
daemon's true status is now older than the one the client saw, which drops it. -/
theorem reconciled_status_older :
    ∃ c c', Runs service (Service.IsOperation countPrimitives plainTexts) (fun _ _ => True)
        ⟨Daemon.new none, [], []⟩ c ∧
      Runs service (Service.IsOperation countPrimitives plainTexts) (fun _ _ => True) c c' ∧
      c'.state.state.status.OlderThan c.state.state.generation c.state.state.eventSequence ∧
      ∃ session : UiSession,
        session.acceptedRevision =
          some (c.state.state.generation, c.state.state.eventSequence) ∧
        session.acceptStatus c'.state.state.status = none := by
  obtain ⟨seen, hseen⟩ := (Daemon.new none).runs_after (fun _ _ => True) getStatus
    (emptiedInspection 5) [] obeys_true (by decide +kernel)
  obtain ⟨told, htold⟩ := driftedDaemon.runs_after (fun _ _ => True) getStatus .empty [seen]
    obeys_true (by decide +kernel)
  have holder : (driftedDaemon.after getStatus .empty).state.status.OlderThan
      driftedDaemon.state.generation driftedDaemon.state.eventSequence := by
    decide +kernel
  have hrejected : ((UiSession.new bareProfile true).noteStatus
      driftedDaemon.state.status).acceptStatus
        (driftedDaemon.after getStatus .empty).state.status = none := by
    decide +kernel
  exact ⟨_, _, hseen, htold, holder, _, rfl, hrejected⟩

end RouteLane
