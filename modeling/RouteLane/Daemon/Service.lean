import RouteLane.Application.Process
import RouteLane.Backend.Journal
import RouteLane.Daemon.State
import RouteLane.Lib.Tasks

/-!
# The daemon's service

Every operation of `DaemonService` as a task: its critical sections are steps, and what it
asks of the helper, the topology, the resolver, the configuration and the system are
questions anything may answer.  Mutations exclude one another, and so do reconciliations;
a reconciliation may run beside a mutation, since only its gate is held while it does.
-/

namespace RouteLane

open Tasks

/-! ## What the service shares -/

structure ReconciliationGate where
  attempts : ℕ
  completed : Bool
  lastResult : Option (Except DaemonError Unit)

/-- `ReconciliationGate::default`. -/
def ReconciliationGate.default : ReconciliationGate := ⟨0, false, none⟩

structure ReconciliationOutcome where
  result : Except DaemonError Unit
  firstWave : Bool

/-- The fields of `DaemonService` its operations share.  The last two are the history the
statements speak of; no operation reads them. -/
structure Daemon where
  state : DaemonState
  /-- Whether an operation holds `mutation`. -/
  mutation : Bool
  /-- Whether an operation holds the lock of the gate. -/
  reconciliation : Bool
  gate : ReconciliationGate
  reconciliationAttempts : ℕ
  /-- The events published, the newest first. -/
  events : List DaemonEvent
  /-- The states before the present one, the newest first. -/
  past : List DaemonState
  /-- What the helper told, the newest first. -/
  inspections : List InspectResponse

namespace Daemon

/-- A service no operation of which is under way. -/
def idle (state : DaemonState) : Daemon where
  state := state
  mutation := false
  reconciliation := false
  gate := .default
  reconciliationAttempts := 0
  events := []
  past := []
  inspections := []

def new (desired : Option Profile) : Daemon := idle (.new desired)

/-- A critical section of the state.  `advance_event_sequence` comes after its last
assignment, so where the sequence is exhausted the state stays written and nothing is
published. -/
def write (daemon : Daemon) (w : StateWrite) : Daemon :=
  let (state, event) := daemon.state.write w
  let daemon := { daemon with past := daemon.state :: daemon.past }
  match event with
  | none => { daemon with state := state }
  | some event =>
    if daemon.state.eventSequence < u64Max then
      let sequence := daemon.state.eventSequence + 1
      { daemon with
        state := { state with eventSequence := sequence }
        events := event sequence :: daemon.events }
    else { daemon with state := state }

/-- A write leaves what `DaemonState.write` does, under the next sequence number if it
announces it. -/
theorem state_write (daemon : Daemon) (w : StateWrite) :
    (daemon.write w).state =
      if w.announces daemon.state = true ∧ daemon.state.eventSequence < u64Max then
        { (daemon.state.write w).1 with eventSequence := daemon.state.eventSequence + 1 }
      else (daemon.state.write w).1 := by
  rw [← DaemonState.write_announces, write]
  rcases daemon.state.write w with ⟨state, event⟩
  cases event with
  | none => simp
  | some event => by_cases hroom : daemon.state.eventSequence < u64Max <;> simp [hroom]

@[simp] theorem past_write (daemon : Daemon) (w : StateWrite) :
    (daemon.write w).past = daemon.state :: daemon.past := by
  rw [write]
  rcases daemon.state.write w with ⟨state, event⟩
  cases event with
  | none => rfl
  | some event => by_cases hroom : daemon.state.eventSequence < u64Max <;> simp [hroom]

@[simp] theorem inspections_write (daemon : Daemon) (w : StateWrite) :
    (daemon.write w).inspections = daemon.inspections := by
  rw [write]
  rcases daemon.state.write w with ⟨state, event⟩
  cases event with
  | none => rfl
  | some event => by_cases hroom : daemon.state.eventSequence < u64Max <;> simp [hroom]

/-- A write publishes nothing, or its event under the number the state then has. -/
theorem events_write (daemon : Daemon) (w : StateWrite) :
    (daemon.write w).events = daemon.events ∨
      ∃ event, (daemon.state.write w).2 = some event ∧
        (daemon.write w).events = event (daemon.write w).state.eventSequence :: daemon.events := by
  rw [write]
  rcases daemon.state.write w with ⟨state, event⟩
  cases event with
  | none => exact Or.inl rfl
  | some event =>
    by_cases hroom : daemon.state.eventSequence < u64Max
    · exact Or.inr ⟨event, rfl, by simp [hroom]⟩
    · exact Or.inl (by simp [hroom])

end Daemon

/-- The steps of an operation that others can see, or that wait for others. -/
inductive Section where
  | lockMutation
  | unlockMutation
  | loadAttempts
  | lockGate
  | unlockGate
  /-- The end of a reconciliation attempt, the gate still held. -/
  | settleGate (attempts : ℕ) (result : Except DaemonError Unit)
  | storeAttempts (attempts : ℕ)
  /-- `deactivate` marks the gate. -/
  | completeGate
  /-- `recover_orphaned_resources` starts the gate over. -/
  | resetGate
  | read
  | write (w : StateWrite)

namespace Section

/-- The write a section makes to the state, if it makes one. -/
def stateWrite : Section → Option StateWrite
  | .write w => some w
  | _ => none

def ready : Section → Daemon → Bool
  | .lockMutation, daemon => !daemon.mutation
  | .lockGate, daemon | .completeGate, daemon | .resetGate, daemon => !daemon.reconciliation
  | _, _ => true

def perform : Section → Daemon → Daemon
  | .lockMutation, daemon => { daemon with mutation := true }
  | .unlockMutation, daemon => { daemon with mutation := false }
  | .lockGate, daemon => { daemon with reconciliation := true }
  | .unlockGate, daemon => { daemon with reconciliation := false }
  | .settleGate attempts result, daemon =>
    { daemon with gate := ⟨attempts, result.toBool, some result⟩ }
  | .storeAttempts attempts, daemon => { daemon with reconciliationAttempts := attempts }
  | .completeGate, daemon =>
    { daemon with
      gate := { daemon.gate with completed := true, lastResult := some (.ok ()) } }
  | .resetGate, daemon => { daemon with gate := .default, reconciliationAttempts := 0 }
  | .write w, daemon => daemon.write w
  | .loadAttempts, daemon | .read, daemon => daemon

/-- A section that writes nothing leaves the state, the events and the history alone. -/
theorem perform_of_no_write {l : Section} (h : l.stateWrite = none) (daemon : Daemon) :
    (l.perform daemon).state = daemon.state ∧ (l.perform daemon).events = daemon.events ∧
      (l.perform daemon).past = daemon.past ∧
      (l.perform daemon).inspections = daemon.inspections := by
  cases l with
  | write w => exact nomatch h
  | _ => exact ⟨rfl, rfl, rfl, rfl⟩

end Section

/-! ## What the service asks -/

inductive Call where
  | topology (profile : Profile)
  | resolutions (profile : Profile)
  | saveConfig (desired : Option Profile)
  | inspect
  | activateRuntime (activation : RuntimeActivation)
  | restoreRuntime (receipt : String)
  | cleanup
  | recoverOrphanedResources
  | prepareApplicationCgroup (ruleId : RuleId)
  | adoptApplicationProcess (ruleId : RuleId) (process : RunningProcess)
  | matchingProcesses (selector : ApplicationSelector)
  /-- `fs::canonicalize`. -/
  | canonicalize (path : PathBuf)
  /-- Starts a program that writes its PID to a control file first. -/
  | spawn (program : PathBuf) (arguments : List String) (control : PathBuf)

@[reducible] def Call.Reply : Call → Type
  | .topology _ => Except DaemonError TopologySnapshot
  | .resolutions _ => Except DaemonError ResolutionSnapshot
  | .saveConfig _ => Except DaemonError Unit
  | .inspect => Except DaemonError InspectResponse
  | .activateRuntime _ => Except DaemonError RuntimeApplyResponse
  | .restoreRuntime _ => Except DaemonError RuntimeStatus
  | .cleanup => Except DaemonError Bool
  | .recoverOrphanedResources => Except DaemonError Bool
  | .prepareApplicationCgroup _ => Except DaemonError PathBuf
  | .adoptApplicationProcess _ _ => Except DaemonError Unit
  | .matchingProcesses _ => List RunningProcess
  | .canonicalize _ => Except String PathBuf
  | .spawn _ _ _ => Except String (Option ℕ)

/-- An inspection that was answered is remembered. -/
def Call.hear : (call : Call) → call.Reply → Daemon → Daemon
  | .inspect, .ok inspected, daemon =>
    { daemon with inspections := inspected :: daemon.inspections }
  | _, _, daemon => daemon

def service : Machine Daemon Section Call Call.Reply where
  ready := Section.ready
  perform := Section.perform
  hear := Call.hear

abbrev ServiceTask (α : Type) : Type := Task Daemon Section Call Call.Reply α

namespace Service

def inspect : ServiceTask (Except DaemonError InspectResponse) := Task.question Call.inspect

def topology (profile : Profile) : ServiceTask (Except DaemonError TopologySnapshot) :=
  Task.question (Call.topology profile)

/-- A look at the state. -/
def readState : ServiceTask DaemonState := do
  let found ← Task.step Section.read
  return found.state

/-- A write, which breaks the operation off where the event sequence is exhausted. -/
def write (w : StateWrite) : ServiceTask Unit := do
  let found ← Task.step (Section.write w)
  if (found.state.write w).2.isSome ∧ u64Max ≤ found.state.eventSequence then .panicked
  else return ()

/-- Runs an operation with `mutation` held. -/
def withMutation {α : Type} (task : ServiceTask α) : ServiceTask α :=
  .act .lockMutation fun _ => task.guarded .unlockMutation

/-- Runs an operation with the gate held, told what is in it. -/
def underGate {α : Type} (task : ReconciliationGate → ServiceTask α) : ServiceTask α :=
  .act .lockGate fun found => (task found.gate).guarded .unlockGate

end Service

end RouteLane
