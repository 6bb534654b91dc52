import RouteLane.Domain.Profile
import RouteLane.Lib.Closure

/-!
# Processes of an application

The processes an application rule applies to: those that run its executable, and where the
rule asks for it the processes they started, however far down.  The snapshot is read while
the system changes, so the parent of a process may be gone, or its number may be another's.
-/

namespace RouteLane

structure RunningProcess where
  pid : ℕ
  startTime : ℕ
  executablePath : PathBuf
  parentPid : Option ℕ
  deriving DecidableEq, Repr

/-- Whether a process can have been started by another one: it names it as its parent, and did
not start before it. -/
def RunningProcess.startedBy (parent process : RunningProcess) : Bool :=
  decide (process.parentPid = some parent.pid) && decide (parent.startTime ≤ process.startTime)

/-- The processes that run the executable.  `canonicalize` is that of the file system. -/
def runningExecutable (canonicalize : PathBuf → Option PathBuf) (selector : ApplicationSelector)
    (processes : List RunningProcess) : List RunningProcess :=
  let executable := (canonicalize selector.executablePath).getD selector.executablePath
  processes.filter fun process => samePath process.executablePath executable

/-- `matching_from_snapshot`; `none` where its loop takes more rounds than there are processes. -/
def matchingFromSnapshot (canonicalize : PathBuf → Option PathBuf) (selector : ApplicationSelector)
    (processes : List RunningProcess) : Option (List RunningProcess) :=
  if selector.includeChildren then
    Closure.saturate RunningProcess.pid RunningProcess.startedBy processes (processes.length + 1)
      (runningExecutable canonicalize selector processes)
  else some (runningExecutable canonicalize selector processes)

/-- A process whose executable is that of the selector, both by the components of their paths. -/
def RunningProcess.Runs (canonicalize : PathBuf → Option PathBuf) (selector : ApplicationSelector)
    (process : RunningProcess) : Prop :=
  components process.executablePath =
    components ((canonicalize selector.executablePath).getD selector.executablePath)

theorem mem_runningExecutable {canonicalize : PathBuf → Option PathBuf}
    {selector : ApplicationSelector} {processes : List RunningProcess} {process : RunningProcess} :
    process ∈ runningExecutable canonicalize selector processes ↔
      process ∈ processes ∧ process.Runs canonicalize selector := by
  rw [runningExecutable, List.mem_filter, samePath, beq_iff_eq, RunningProcess.Runs]

/-- The sets of processes that contain all that run the executable and with a process every one
it can have started. -/
def DescendantClosed (canonicalize : PathBuf → Option PathBuf) (selector : ApplicationSelector)
    (processes : List RunningProcess) : Set (Set RunningProcess) :=
  {S | (∀ process ∈ processes, process.Runs canonicalize selector → process ∈ S) ∧
    ∀ parent ∈ S, ∀ child ∈ processes, child.parentPid = some parent.pid →
      parent.startTime ≤ child.startTime → child ∈ S}

theorem closedSets_startedBy (canonicalize : PathBuf → Option PathBuf)
    (selector : ApplicationSelector) (processes : List RunningProcess) :
    Closure.closedSets RunningProcess.startedBy processes
        (runningExecutable canonicalize selector processes) =
      DescendantClosed canonicalize selector processes := by
  ext S
  refine and_congr ?_ ?_
  · simp only [mem_runningExecutable, and_imp]
  · simp only [RunningProcess.startedBy, Bool.and_eq_true, decide_eq_true_eq, and_imp]

/-- What the selection of a snapshot comes to. -/
structure Selection (canonicalize : PathBuf → Option PathBuf) (selector : ApplicationSelector)
    (processes selected : List RunningProcess) : Prop where
  /-- Every process is returned once. -/
  once : (selected.map RunningProcess.pid).Nodup
  /-- Without children, the processes that run the executable. -/
  alone : selector.includeChildren = false → ∀ process, process ∈ selected ↔
    process ∈ processes ∧ process.Runs canonicalize selector
  /-- With children, the least set closed under descent. -/
  descendants : selector.includeChildren = true →
    IsLeast (DescendantClosed canonicalize selector processes) {process | process ∈ selected}

/-- **The descendant closure.**  The selection of every snapshot ends, however its parent links
run, and selects exactly the descendants. -/
theorem matchingFromSnapshot_selects (canonicalize : PathBuf → Option PathBuf)
    (selector : ApplicationSelector) (processes : List RunningProcess)
    (hpids : (processes.map RunningProcess.pid).Nodup) :
    ∃ selected, matchingFromSnapshot canonicalize selector processes = some selected ∧
      Selection canonicalize selector processes selected := by
  unfold matchingFromSnapshot
  cases hchildren : selector.includeChildren with
  | true =>
    have hstart : (runningExecutable canonicalize selector processes).Sublist processes :=
      List.filter_sublist
    obtain ⟨selected, hselected, honce, hleast⟩ := Closure.saturate_isLeast RunningProcess.pid
      RunningProcess.startedBy processes hpids hstart
    rw [if_pos rfl, hselected]
    refine ⟨selected, rfl, honce, fun halone => ?_, fun _ => ?_⟩
    · rw [hchildren] at halone
      cases halone
    · rwa [closedSets_startedBy] at hleast
  | false =>
    rw [if_neg Bool.false_ne_true]
    refine ⟨_, rfl, hpids.sublist (List.filter_sublist.map _), fun _ process => ?_, fun hwith => ?_⟩
    · exact mem_runningExecutable
    · rw [hchildren] at hwith
      cases hwith

/-- A browser, its renderer, and a process whose parent's number was taken over. -/
def browserSnapshot : List RunningProcess :=
  [⟨44, 102, "/usr/bin/network", some 43⟩, ⟨43, 101, "/usr/bin/renderer", some 42⟩,
    ⟨42, 100, "/usr/bin/browser", some 44⟩, ⟨45, 99, "/usr/bin/other", some 42⟩]

def browserSelector : ApplicationSelector := ⟨none, "/usr//bin/./browser", true, none⟩

theorem matchingFromSnapshot_selects_browser :
    ∃ selected, matchingFromSnapshot (fun _ => none) browserSelector browserSnapshot =
      some selected ∧ Selection (fun _ => none) browserSelector browserSnapshot selected :=
  matchingFromSnapshot_selects (fun _ => none) browserSelector browserSnapshot (by decide)

-- the file cannot be resolved any more, and the selector spells its path in another way
example : (matchingFromSnapshot (fun _ => none) browserSelector browserSnapshot).map
    (List.map RunningProcess.pid) = some [42, 43, 44] := by decide

end RouteLane
