import RouteLane.Backend.FailedRefresh
import RouteLane.Lib.Backoff

/-!
# Automatic recovery is held back

The monitor calls the backend without an authorization, and each of its calls may replay a
journal that was interrupted.  A refresh whose recovery fails holds the next one back, for
longer each time; a refresh looks at this before it replays anything.  The status and the
report of a degraded runtime go through the same preparation, but look at nothing: a run of
calls keeps to the waits as long as neither of them meets an interrupted journal.
-/

namespace RouteLane

open Nft Faults Program Backoff

/-! ## Calls without an authorization -/

/-- What the monitor asks the backend for. -/
inductive InternalCall where
  | refreshRuntime (topology : TopologySnapshot)
  | runtimeStatus
  | degradeRuntime (reason : String)

/-- A call, when it is made and what it meets. -/
structure InternalStep where
  now : ℕ
  call : InternalCall
  world : World System Backend

def InternalCall.run (p : Primitives) (now : ℕ) : InternalCall → BackendM RuntimeStatus
  | .refreshRuntime topology => RouteLane.refreshRuntime p topology now
  | .runtimeStatus => RouteLane.runtimeStatus p
  | .degradeRuntime reason => RouteLane.degradeRuntime p reason

/-- What was interrupted can be finished. -/
def Replayed (p : Primitives) (w : World System Backend) : Prop :=
  (journalInterrupted w).result = .ok true ∧
    (ensureReconciled p (journalInterrupted w).world).result = .ok ()

namespace InternalStep

variable (p : Primitives) (s : InternalStep)

def outcome : Outcome System Backend PrivilegedError RuntimeStatus := s.call.run p s.now s.world

/-- The hold the call meets. -/
def before : Hold := s.world.memory.recoveryHeldBack

/-- The hold the call leaves. -/
def after : Hold := (s.outcome p).world.memory.recoveryHeldBack

/-- The journal tells of something that was interrupted. -/
def Interrupted : Prop := s.world.machine.view.interrupted = true

instance : Decidable s.Interrupted := inferInstanceAs (Decidable (_ = true))

/-- The call does no more than look at the journal. -/
def OnlyLooks : Prop :=
  (s.outcome p).world.machine = s.world.machine ∧ (s.outcome p).events.length ≤ 1

/-- The call replays the journal. -/
def Replays : Prop := s.Interrupted ∧ ¬s.OnlyLooks p

/-- The call replays the journal and fails at it, or at reading what it left. -/
def ReplayFails : Prop :=
  s.Replays p ∧ ∃ e, (prepareRuntimeOperation p s.world).result = .error e

/-- The next call comes later, in the memory this one leaves. -/
def Precedes (next : InternalStep) : Prop :=
  s.now ≤ next.now ∧ next.world.memory = (s.outcome p).world.memory

end InternalStep

/-- The waits of a run of calls: each failure of a recovery is followed by one, the first of
`FIRST_RETRY_WAIT` and each further one twice as long as the one before, up to
`MAX_RETRY_WAIT`, until a recovery succeeds; and nothing is replayed before it has passed. -/
structure BacksOff (p : Primitives) (run : List InternalStep) : Prop where
  hold : ∀ s ∈ run, Step firstRetryWait maxRetryWait s.now (Replayed p s.world) s.before (s.after p)
  failure : ∀ s ∈ run, s.ReplayFails p →
    s.after p = some (held firstRetryWait maxRetryWait s.now s.before) ∨
      Replayed p s.world ∧ s.after p = some (held firstRetryWait maxRetryWait s.now none)
  wait : run.Pairwise fun s later => s.ReplayFails p → ∀ retryAt wait,
    s.after p = some (retryAt, wait) → retryAt = s.now + wait ∧
      (later.now < s.now + wait → ¬later.Replays p)

/-! ## What keeps the hold -/

section Kept

variable {p : Primitives} {flag : Option StoredAppliedState → Bool} {v v' : JournalView}
  {m m' : Backend} {b : Bool} {now : ℕ}

theorem Inspected.recoveryHeldBack {store : Option StoredAppliedState}
    (h : Inspected p m store m') : m'.recoveryHeldBack = m.recoveryHeldBack := by
  cases h <;> rfl

theorem RuntimeLoaded.recoveryHeldBack (h : RuntimeLoaded p v m m') :
    m'.recoveryHeldBack = m.recoveryHeldBack := by
  cases h <;> rfl

theorem TransitionFailed.recoveryHeldBack {t : Move}
    (h : TransitionFailed flag p t v m b v' m') : m'.recoveryHeldBack = m.recoveryHeldBack := by
  cases h <;> rfl

theorem ArmedRefreshed.recoveryHeldBack {runtime runtime' : ArmedRuntime}
    {topology : TopologySnapshot} {unverified : Bool} {outcome : Except PrivilegedError Unit}
    (h : ArmedRefreshed flag p v m runtime topology now unverified b runtime' outcome v' m') :
    m'.recoveryHeldBack = m.recoveryHeldBack := by
  cases h with
  | unauthorized _ => rfl
  | unobserved _ _ _ => rfl
  | uncompiled _ _ _ _ => rfl
  | unproved _ _ _ _ _ _ => rfl
  | proved _ _ _ _ _ _ hcommitted =>
    cases hcommitted with
    | unchanged _ _ => rfl
    | heldBack _ _ => rfl
    | failed _ _ _ hfailed => exact hfailed.recoveryHeldBack
    | committed _ _ _ _ _ => rfl

/-- A prepared refresh keeps the hold, or is the next failure. -/
theorem PreparedRefreshed.recoveryHeldBack {topology : TopologySnapshot} {unverified : Bool}
    (h : PreparedRefreshed flag p v m topology now unverified b v' m') :
    m'.recoveryHeldBack = m.recoveryHeldBack ∨
      m'.recoveryHeldBack =
        some (held firstRetryWait maxRetryWait now m.recoveryHeldBack) := by
  cases h with
  | inactive _ => exact Or.inl rfl
  | told _ hrefreshed => exact Or.inl hrefreshed.recoveryHeldBack
  | failed _ hrefreshed _ _ => exact Or.inl hrefreshed.recoveryHeldBack
  | @stalled _ _ _ _ _ _ m₁ _ hrefreshed _ =>
    have hsame : m₁.recoveryHeldBack = m.recoveryHeldBack := hrefreshed.recoveryHeldBack
    rw [← hsame]
    exact Or.inr rfl

end Kept

/-! ## One call -/

section Call

variable {p : Primitives} {w : World System Backend} {topology : TopologySnapshot} {now : ℕ}

/-- Looking at the journal is one command. -/
theorem journalInterrupted_apply :
    (w.faults 0 = true ∧ ∃ e, journalInterrupted w = ⟨.error e, w.tick, [⟨w.machine, true⟩]⟩) ∨
      (w.faults 0 = false ∧
        journalInterrupted w = ⟨.ok w.machine.view.interrupted, w.tick, [⟨w.machine, false⟩]⟩) := by
  have hload : load w = if w.faults 0 then
      ⟨.error "applied-state persistence failed: open persisted applied state", w.tick,
        [⟨w.machine, true⟩]⟩
    else ⟨.ok w.machine.store, w.tick, [⟨w.machine, false⟩]⟩ := rfl
  cases hfault : w.faults 0 with
  | true =>
    rw [hfault, if_pos rfl] at hload
    exact Or.inl ⟨rfl, _, by rw [journalInterrupted, bind_of_error (congrArg Outcome.result hload),
      hload]⟩
  | false =>
    rw [hfault, if_neg Bool.false_ne_true] at hload
    refine Or.inr ⟨rfl, ?_⟩
    rw [journalInterrupted, bind_of_ok (congrArg Outcome.result hload), hload]
    rfl

theorem world_journalInterrupted : (journalInterrupted w).world = w.tick := by
  rcases journalInterrupted_apply (w := w) with ⟨-, e, hlook⟩ | ⟨-, hlook⟩ <;> rw [hlook]

/-- `prepare_runtime_operation` on a journal that was interrupted. -/
def replayInterrupted (p : Primitives) : BackendM Bool := do
  ensureReconciled p
  modify fun backend => { backend with recoveryHeldBack := none, runtimeLoaded := false }
  loadRuntime p
  return false

/-- `prepare_runtime_operation` on any other journal. -/
def readUninterrupted (p : Primitives) (initialized : Bool) : BackendM Bool := do
  ensureInspectionReady p
  loadRuntime p
  let ready ← get
  return !initialized && ready.current.isSome

theorem prepareRuntimeOperation_apply :
    prepareRuntimeOperation p w = (journalInterrupted >>= fun interrupted =>
      if interrupted then replayInterrupted p else readUninterrupted p w.memory.initialized) w :=
  rfl

theorem recoveryHeldBack_loadRuntime :
    (loadRuntime p w).world.memory.recoveryHeldBack = w.memory.recoveryHeldBack := by
  have hspec : Journals (fun _ => True) (fun _ => false) w.machine.view w.memory (loadRuntime p)
    _ _ := loadRuntime_spec trivial
  have hpost := (hspec w.machine w.faults rfl).2
  cases hresult : (loadRuntime p w).result with
  | ok _ =>
    rw [hresult] at hpost
    exact hpost.2.2.recoveryHeldBack
  | error e =>
    rw [hresult] at hpost
    rw [hpost.2.1]

theorem recoveryHeldBack_readUninterrupted (initialized : Bool) :
    (readUninterrupted p initialized w).world.memory.recoveryHeldBack =
      w.memory.recoveryHeldBack := by
  have hspec : Journals (fun _ => True) (fun _ => false) w.machine.view w.memory
    (ensureInspectionReady p) _ _ := ensureInspectionReady_spec trivial
  have hpost := (hspec w.machine w.faults rfl).2
  rw [readUninterrupted]
  cases hresult : (ensureInspectionReady p w).result with
  | error e =>
    rw [hresult] at hpost
    rw [bind_of_error hresult, hpost.2.1]
  | ok _ =>
    rw [hresult] at hpost
    rw [bind_of_ok hresult, ← hpost.2.2.recoveryHeldBack]
    have hload := recoveryHeldBack_loadRuntime (p := p) (w := (ensureInspectionReady p w).world)
    cases hloaded : (loadRuntime p (ensureInspectionReady p w).world).result with
    | error e => rwa [bind_of_error hloaded]
    | ok _ => rwa [bind_of_ok hloaded]

/-- A replay that fails keeps the hold; one that succeeds lets go of it. -/
theorem recoveryHeldBack_replayInterrupted :
    ((ensureReconciled p w).result = .ok () ∧
        (replayInterrupted p w).world.memory.recoveryHeldBack = none) ∨
      (∃ e, (ensureReconciled p w).result = .error e) ∧
        (replayInterrupted p w).world.memory.recoveryHeldBack = w.memory.recoveryHeldBack := by
  have hspec : Journals (fun _ => True) (fun _ => false) w.machine.view w.memory
    (ensureReconciled p) _ _ := ensureReconciled_spec trivial fun _ _ _ _ => trivial
  have hpost := (hspec w.machine w.faults rfl).2
  rw [replayInterrupted]
  cases hresult : (ensureReconciled p w).result with
  | error e =>
    rw [hresult] at hpost
    rw [bind_of_error hresult, hpost.2.1]
    exact Or.inr ⟨⟨e, rfl⟩, rfl⟩
  | ok _ =>
    refine Or.inl ⟨rfl, ?_⟩
    rw [bind_of_ok hresult]
    show ((loadRuntime p >>= fun _ => pure false : BackendM Bool)
      ⟨_, _, _⟩).world.memory.recoveryHeldBack = none
    rw [world_bind_pure, recoveryHeldBack_loadRuntime]

/-- A preparation keeps the hold, unless what was interrupted is finished. -/
theorem recoveryHeldBack_prepareRuntimeOperation :
    (Replayed p w ∧ (prepareRuntimeOperation p w).world.memory.recoveryHeldBack = none) ∨
      (prepareRuntimeOperation p w).world.memory.recoveryHeldBack = w.memory.recoveryHeldBack := by
  rw [prepareRuntimeOperation_apply]
  rcases journalInterrupted_apply (w := w) with ⟨-, e, hlook⟩ | ⟨-, hlook⟩
  · right
    rw [bind_of_error (congrArg Outcome.result hlook), hlook]
    rfl
  · have hresult := congrArg Outcome.result hlook
    rw [bind_of_ok hresult, hlook]
    cases hinterrupted : w.machine.view.interrupted with
    | true =>
      rw [hinterrupted] at hresult
      rcases recoveryHeldBack_replayInterrupted (p := p) (w := w.tick) with ⟨hdone, hnone⟩ | hkept
      · refine Or.inl ⟨⟨hresult, ?_⟩, hnone⟩
        rwa [world_journalInterrupted]
      · exact Or.inr hkept.2
    | false => exact Or.inr (recoveryHeldBack_readUninterrupted _)

/-- A refresh that was not prepared is a failure. -/
theorem refreshUnheld_of_error {e : PrivilegedError}
    (h : (prepareRuntimeOperation p w).result = .error e) :
    (refreshUnheld p topology now w).world.memory.recoveryHeldBack =
      some (held firstRetryWait maxRetryWait now
        (prepareRuntimeOperation p w).world.memory.recoveryHeldBack) := by
  rw [refreshUnheld, attempt_bind]
  dsimp only
  rw [h]
  rcases (prepareRuntimeOperation p w).world with
    ⟨machine, ⟨_, _, _, _, _, _, _, _ | runtime, _, _, hold⟩, faults⟩
  · rfl
  · rfl

variable (topology now) in
theorem refreshUnheld_of_ok {unverified : Bool}
    (h : (prepareRuntimeOperation p w).result = .ok unverified) :
    (refreshUnheld p topology now w).result =
        (refreshPrepared p topology now unverified (prepareRuntimeOperation p w).world).result ∧
      (refreshUnheld p topology now w).world =
        (refreshPrepared p topology now unverified (prepareRuntimeOperation p w).world).world := by
  rw [refreshUnheld, attempt_bind]
  dsimp only
  rw [h]
  exact ⟨rfl, rfl⟩

variable (p w topology now) in
theorem recoveryHeldBack_refreshPrepared (unverified : Bool) :
    (refreshPrepared p topology now unverified w).world.memory.recoveryHeldBack =
        w.memory.recoveryHeldBack ∨
      (refreshPrepared p topology now unverified w).world.memory.recoveryHeldBack =
        some (held firstRetryWait maxRetryWait now w.memory.recoveryHeldBack) := by
  have hspec : Journals (fun _ => True) (fun _ => false) w.machine.view w.memory
      (refreshPrepared p topology now unverified) _ _ :=
    refreshPrepared_spec trivial fun _ _ _ _ _ _ _ =>
      ⟨fun _ _ => trivial, fun _ _ => trivial, fun _ _ => trivial⟩
  have hpost := (hspec w.machine w.faults rfl).2
  cases hresult : (refreshPrepared p topology now unverified w).result with
  | error e =>
    rw [hresult] at hpost
    exact hpost.elim
  | ok status =>
    rw [hresult] at hpost
    exact hpost.2.recoveryHeldBack

variable (p w topology now) in
/-- What a refresh that looks at no hold makes of it. -/
theorem step_refreshUnheld :
    Step firstRetryWait maxRetryWait now (Replayed p w) w.memory.recoveryHeldBack
      (refreshUnheld p topology now w).world.memory.recoveryHeldBack := by
  have hprepared := recoveryHeldBack_prepareRuntimeOperation (p := p) (w := w)
  cases hresult : (prepareRuntimeOperation p w).result with
  | error e =>
    rw [refreshUnheld_of_error hresult]
    rcases hprepared with ⟨hreplayed, hnone⟩ | hkept
    · rw [hnone]
      exact .failedAnew hreplayed
    · rw [hkept]
      exact .failed
  | ok unverified =>
    rw [(refreshUnheld_of_ok topology now hresult).2]
    rcases recoveryHeldBack_refreshPrepared p (prepareRuntimeOperation p w).world topology now
      unverified with hsame | hfailed
    · rw [hsame]
      rcases hprepared with ⟨hreplayed, hnone⟩ | hkept
      · rw [hnone]
        exact .released hreplayed
      · rw [hkept]
        exact .kept
    · rw [hfailed]
      rcases hprepared with ⟨hreplayed, hnone⟩ | hkept
      · rw [hnone]
        exact .failedAnew hreplayed
      · rw [hkept]
        exact .failed

variable (p topology) in
/-- A refresh that is held back looks at the journal and does no more, unless it finds
nothing interrupted. -/
theorem refreshRuntime_held {retryAt : ℕ} (h : w.memory.heldUntil now = some retryAt)
    (hinterrupted : w.machine.view.interrupted = true) :
    (refreshRuntime p topology now w).world.machine = w.machine ∧
      (refreshRuntime p topology now w).events.length = 1 ∧
      (refreshRuntime p topology now w).world.memory.recoveryHeldBack =
        w.memory.recoveryHeldBack := by
  rw [refreshRuntime, get_bind, h]
  dsimp only
  rw [attempt_bind]
  rcases journalInterrupted_apply (w := w) with ⟨-, e, hlook⟩ | ⟨-, hlook⟩
  · rw [hlook]
    exact ⟨rfl, rfl, rfl⟩
  · rw [hlook, hinterrupted]
    exact ⟨rfl, rfl, rfl⟩

/-- A refresh that goes on, without a hold or because nothing was interrupted. -/
theorem refreshRuntime_tries (h : w.memory.heldUntil now = none) :
    refreshRuntime p topology now w = refreshUnheld p topology now w := by
  rw [refreshRuntime, get_bind, h]

variable (p topology) in
theorem refreshRuntime_uninterrupted {retryAt : ℕ} (h : w.memory.heldUntil now = some retryAt)
    (hnot : w.machine.view.interrupted = false) :
    (refreshRuntime p topology now w).world.memory.recoveryHeldBack =
        w.memory.recoveryHeldBack ∨
      (refreshRuntime p topology now w).world =
        (refreshUnheld p topology now w.tick).world := by
  rw [refreshRuntime, get_bind, h]
  dsimp only
  rw [attempt_bind]
  rcases journalInterrupted_apply (w := w) with ⟨-, e, hlook⟩ | ⟨-, hlook⟩
  · rw [hlook]
    exact Or.inl rfl
  · rw [hlook, hnot]
    exact Or.inr rfl

/-- Nothing is replayed where nothing was interrupted. -/
theorem Replayed.interrupted (h : Replayed p w) : w.machine.view.interrupted = true := by
  rcases journalInterrupted_apply (w := w) with ⟨-, e, hlook⟩ | ⟨-, hlook⟩
  · rw [Replayed, hlook] at h
    cases h.1
  · rw [Replayed, hlook] at h
    exact Except.ok.inj h.1

/-- What a refresh makes of the hold. -/
theorem step_refreshRuntime :
    Step firstRetryWait maxRetryWait now (Replayed p w) w.memory.recoveryHeldBack
      (refreshRuntime p topology now w).world.memory.recoveryHeldBack := by
  cases hheld : w.memory.heldUntil now with
  | none =>
    rw [refreshRuntime_tries hheld]
    exact step_refreshUnheld p w topology now
  | some retryAt =>
    cases hinterrupted : w.machine.view.interrupted with
    | true =>
      rw [(refreshRuntime_held p topology hheld hinterrupted).2.2]
      exact .kept
    | false =>
      rcases refreshRuntime_uninterrupted p topology hheld hinterrupted with hsame | htried
      · rw [hsame]
        exact .kept
      · rw [htried]
        have hstep := step_refreshUnheld p w.tick topology now
        have hnot : ¬Replayed p w.tick := by
          intro hreplayed
          rw [World.tick] at hreplayed
          exact absurd (hreplayed.interrupted.symm.trans hinterrupted) (by decide)
        exact hstep.of_not hnot

theorem recoveryHeldBack_runtimeStatus :
    (runtimeStatus p w).world.memory.recoveryHeldBack =
      (prepareRuntimeOperation p w).world.memory.recoveryHeldBack := by
  rw [runtimeStatus]
  cases hresult : (prepareRuntimeOperation p w).result with
  | error e => rw [bind_of_error hresult]
  | ok _ =>
    rw [bind_of_ok hresult]
    rfl

theorem recoveryHeldBack_degradeRuntime (reason : String) :
    (degradeRuntime p reason w).world.memory.recoveryHeldBack =
      (prepareRuntimeOperation p w).world.memory.recoveryHeldBack := by
  rw [degradeRuntime]
  cases hresult : (prepareRuntimeOperation p w).result with
  | error e => rw [bind_of_error hresult]
  | ok _ =>
    rw [bind_of_ok hresult]
    rfl

end Call

/-! ## Runs of calls -/

theorem firstRetryWait_le_maxRetryWait : firstRetryWait ≤ maxRetryWait := by decide

namespace InternalStep

variable {p : Primitives} {s later : InternalStep} {deadline : ℕ}

/-- A status and a report keep the hold their preparation leaves. -/
theorem after_of_preparing (h : ¬∃ topology, s.call = .refreshRuntime topology) :
    s.after p = (prepareRuntimeOperation p s.world).world.memory.recoveryHeldBack := by
  rcases s with ⟨now, topology | _ | reason, w⟩
  · exact absurd ⟨topology, rfl⟩ h
  · exact recoveryHeldBack_runtimeStatus
  · exact recoveryHeldBack_degradeRuntime reason

theorem step : Step firstRetryWait maxRetryWait s.now (Replayed p s.world) s.before (s.after p) := by
  by_cases hcall : ∃ topology, s.call = .refreshRuntime topology
  · obtain ⟨topology, hcall⟩ := hcall
    rw [after, outcome, hcall]
    exact step_refreshRuntime
  · rw [after_of_preparing hcall]
    rcases recoveryHeldBack_prepareRuntimeOperation (p := p) (w := s.world) with
      ⟨hreplayed, hnone⟩ | hkept
    · rw [hnone]
      exact .released hreplayed
    · rw [hkept]
      exact .kept

/-- A call that is held back. -/
theorem heldBack {retryAt : ℕ} (hrefresh : ∃ topology, s.call = .refreshRuntime topology)
    (hinterrupted : s.Interrupted) (hheld : s.world.memory.heldUntil s.now = some retryAt) :
    s.OnlyLooks p ∧ s.after p = s.before := by
  obtain ⟨topology, hcall⟩ := hrefresh
  have hrun := refreshRuntime_held p topology hheld hinterrupted
  rw [OnlyLooks, after, outcome, hcall]
  exact ⟨⟨hrun.1, hrun.2.1.le⟩, hrun.2.2⟩

theorem heldUntil_of_until (h : Until deadline s.before) (hnow : s.now < deadline) :
    ∃ retryAt, s.world.memory.heldUntil s.now = some retryAt := by
  obtain ⟨retryAt, wait, hhold, hdeadline⟩ := h
  have hlater : s.now < retryAt := lt_of_lt_of_le hnow hdeadline
  refine ⟨retryAt, ?_⟩
  rw [before] at hhold
  rw [Backend.heldUntil, hhold, Option.filter_some, if_pos (by simpa using hlater)]
  rfl

/-- A hold that has not passed outlasts the call. -/
theorem until_after (h : Until deadline s.before) (hnow : s.now < deadline)
    (hplaced : Placed maxRetryWait s.now s.before)
    (hcalls : s.Interrupted → ∃ topology, s.call = .refreshRuntime topology) :
    Until deadline (s.after p) ∧ ¬s.Replays p := by
  by_cases hinterrupted : s.Interrupted
  · obtain ⟨retryAt, hheld⟩ := heldUntil_of_until h hnow
    obtain ⟨hlooks, hkept⟩ := heldBack (p := p) (hcalls hinterrupted) hinterrupted hheld
    rw [hkept]
    exact ⟨h, fun hreplays => hreplays.2 hlooks⟩
  · have hnot : ¬Replayed p s.world := fun hreplayed => hinterrupted hreplayed.interrupted
    exact ⟨h.step hplaced hnot step, fun hreplays => hinterrupted hreplays.1⟩

/-- A refresh that fails to replay the journal holds the next one back. -/
theorem failure (hfails : s.ReplayFails p)
    (hcalls : s.Interrupted → ∃ topology, s.call = .refreshRuntime topology) :
    s.after p = some (held firstRetryWait maxRetryWait s.now s.before) ∨
      Replayed p s.world ∧ s.after p = some (held firstRetryWait maxRetryWait s.now none) := by
  obtain ⟨⟨hinterrupted, hmore⟩, e, herror⟩ := hfails
  have hrefresh := hcalls hinterrupted
  cases hheld : s.world.memory.heldUntil s.now with
  | some retryAt => exact absurd (heldBack hrefresh hinterrupted hheld).1 hmore
  | none =>
    obtain ⟨topology, hcall⟩ := hrefresh
    have hafter : s.after p = some (held firstRetryWait maxRetryWait s.now
        (prepareRuntimeOperation p s.world).world.memory.recoveryHeldBack) := by
      rw [after, outcome, hcall]
      show (refreshRuntime p topology s.now s.world).world.memory.recoveryHeldBack = _
      rw [refreshRuntime_tries hheld]
      exact refreshUnheld_of_error herror
    rw [hafter]
    rcases recoveryHeldBack_prepareRuntimeOperation (p := p) (w := s.world) with
      ⟨hreplayed, hnone⟩ | hkept
    · rw [hnone]
      exact Or.inr ⟨hreplayed, rfl⟩
    · rw [hkept]
      exact Or.inl rfl

end InternalStep

/-- The clock never goes back. -/
theorem now_le_of_precedes {p : Primitives} {s later : InternalStep} {run : List InternalStep}
    (h : (s :: run).IsChain (InternalStep.Precedes p)) (hlater : later ∈ run) :
    s.now ≤ later.now := by
  induction run generalizing s with
  | nil => exact absurd hlater List.not_mem_nil
  | cons next run ih =>
    obtain ⟨hprecedes, hchain⟩ := List.isChain_cons_cons.1 h
    rcases List.mem_cons.1 hlater with rfl | hlater
    · exact hprecedes.1
    · exact hprecedes.1.trans (ih hchain hlater)

/-- From a call whose hold lasts until then, no later call replays anything before. -/
theorem not_replays_of_until {p : Primitives} {deadline : ℕ} {later : InternalStep}
    {run : List InternalStep} :
    ∀ {s : InternalStep}, (s :: run).IsChain (InternalStep.Precedes p) →
      Placed maxRetryWait s.now (s.after p) → Until deadline (s.after p) →
      (∀ next ∈ run, next.Interrupted → ∃ topology, next.call = .refreshRuntime topology) →
      later ∈ run → later.now < deadline → ¬later.Replays p := by
  induction run with
  | nil =>
    intro s _ _ _ _ hlater
    exact absurd hlater List.not_mem_nil
  | cons next run ih =>
    intro s hchain hplaced huntil hcalls hlater hnow
    obtain ⟨hprecedes, hchain⟩ := List.isChain_cons_cons.1 hchain
    have hsame : next.before = s.after p := congrArg Backend.recoveryHeldBack hprecedes.2
    have hplaced : Placed maxRetryWait next.now next.before := by
      rw [hsame]
      exact hplaced.later hprecedes.1
    rw [← hsame] at huntil
    have hnext := hcalls next List.mem_cons_self
    rcases List.mem_cons.1 hlater with rfl | hlater
    · exact (InternalStep.until_after huntil hnow hplaced hnext).2
    · have hfirst : next.now ≤ later.now := now_le_of_precedes hchain hlater
      exact ih hchain (hplaced.step firstRetryWait_le_maxRetryWait InternalStep.step)
        (InternalStep.until_after huntil (hfirst.trans_lt hnow) hplaced hnext).1
        (fun other hother => hcalls other (List.mem_cons_of_mem _ hother)) hlater hnow

/-- The waits of a run whose first call meets a hold that was placed before. -/
theorem internal_calls_back_off {p : Primitives} {run : List InternalStep}
    (hchain : run.IsChain (InternalStep.Precedes p))
    (hcalls : ∀ s ∈ run, s.Interrupted → ∃ topology, s.call = .refreshRuntime topology)
    (hstart : ∀ s ∈ run.head?, Placed maxRetryWait s.now s.before) : BacksOff p run where
  hold _ _ := InternalStep.step
  failure s hs hfails := InternalStep.failure hfails (hcalls s hs)
  wait := by
    induction run with
    | nil => exact List.Pairwise.nil
    | cons s run ih =>
      have hplaced : Placed maxRetryWait s.now s.before := hstart s rfl
      have hafter : Placed maxRetryWait s.now (s.after p) :=
        hplaced.step firstRetryWait_le_maxRetryWait InternalStep.step
      refine List.pairwise_cons.2 ⟨?_, ih hchain.tail ?_ ?_⟩
      · intro later hlater hfails retryAt wait hheld
        have hretry : retryAt = s.now + wait := by
          rcases InternalStep.failure hfails (hcalls s List.mem_cons_self) with h | ⟨-, h⟩
          · obtain ⟨rfl, rfl⟩ := Prod.mk.inj (Option.some.inj (hheld.symm.trans h))
            rfl
          · obtain ⟨rfl, rfl⟩ := Prod.mk.inj (Option.some.inj (hheld.symm.trans h))
            rfl
        refine ⟨hretry, fun hnow => ?_⟩
        exact not_replays_of_until hchain hafter ⟨retryAt, wait, hheld, hretry.ge⟩
          (fun next hnext => hcalls next (List.mem_cons_of_mem _ hnext)) hlater hnow
      · exact fun next hnext => hcalls next (List.mem_cons_of_mem _ hnext)
      · intro next hnext
        cases run with
        | nil => cases hnext
        | cons other run =>
          obtain rfl := Option.some.inj hnext
          obtain ⟨hprecedes, -⟩ := List.isChain_cons_cons.1 hchain
          have hsame : other.before = s.after p := congrArg Backend.recoveryHeldBack hprecedes.2
          rw [hsame]
          exact hafter.later hprecedes.1

/-- The journal of a cleanup that was interrupted. -/
def cleaningJournal : StoredAppliedState :=
  { armedJournal with cleanupPending := true, runtime := none }

/-- A helper was started after a cleanup was interrupted, and cannot run its first kernel
command. -/
def failedReplay : InternalStep :=
  ⟨0, .refreshRuntime (bareTopology oneAddress),
    ⟨{ armedSystem with store := some cleaningJournal }, .fresh, fun i => i == 2⟩⟩

/-- What is asked of the backend a second later. -/
def afterFailedReplay (call : InternalCall) : InternalStep :=
  ⟨1000000000, call, ⟨(failedReplay.outcome countPrimitives).world.machine,
    (failedReplay.outcome countPrimitives).world.memory, fun _ => false⟩⟩

theorem failedReplay_precedes (call : InternalCall) :
    [failedReplay, afterFailedReplay call].IsChain (InternalStep.Precedes countPrimitives) := by
  refine List.isChain_cons_cons.2 ⟨⟨Nat.zero_le _, rfl⟩, ?_⟩
  exact List.isChain_singleton _

theorem failedReplay_fails : failedReplay.ReplayFails countPrimitives ∧
    failedReplay.after countPrimitives = some (2000000000, 2000000000) := by
  have hmore : ¬(failedReplay.outcome countPrimitives).events.length ≤ 1 := by decide +kernel
  have hnothing : (prepareRuntimeOperation countPrimitives failedReplay.world).result.toOption =
      none := by decide +kernel
  refine ⟨⟨⟨by decide +kernel, fun hlooks => hmore hlooks.2⟩, ?_⟩, by decide +kernel⟩
  cases hresult : (prepareRuntimeOperation countPrimitives failedReplay.world).result with
  | error e => exact ⟨e, rfl⟩
  | ok unverified =>
    rw [hresult] at hnothing
    cases hnothing

/-- The refresh that follows a failed replay at once does not replay. -/
theorem internal_calls_back_off_refresh :
    BacksOff countPrimitives
      [failedReplay, afterFailedReplay (.refreshRuntime (bareTopology oneAddress))] := by
  refine internal_calls_back_off (failedReplay_precedes _) ?_ ?_
  · intro s hs _
    rcases List.mem_cons.1 hs with rfl | hs
    · exact ⟨_, rfl⟩
    · obtain rfl := List.mem_singleton.1 hs
      exact ⟨_, rfl⟩
  · rintro s ⟨⟩
    exact placed_none

/-- The status that follows a failed replay at once replays, a second before the wait of two
has passed. -/
theorem status_replays_early :
    loaderAccepts countPrimitives cleaningJournal = .ok () ∧
      ¬∀ (p : Primitives) (run : List InternalStep), run.IsChain (InternalStep.Precedes p) →
        (∀ s ∈ run.head?, Placed maxRetryWait s.now s.before) → BacksOff p run := by
  refine ⟨by decide +kernel, fun hall => ?_⟩
  have hbacks := hall countPrimitives [failedReplay, afterFailedReplay .runtimeStatus]
    (failedReplay_precedes _) (by
      rintro s ⟨⟩
      exact placed_none)
  obtain ⟨hfails, hafter⟩ := failedReplay_fails
  have hwait := (List.pairwise_cons.1 hbacks.wait).1 _ (List.mem_singleton_self _) hfails _ _ hafter
  have hmore : ¬((afterFailedReplay .runtimeStatus).outcome countPrimitives).events.length ≤ 1 := by
    decide +kernel
  exact hwait.2 (by decide) ⟨by decide +kernel, fun hlooks => hmore hlooks.2⟩

end RouteLane
