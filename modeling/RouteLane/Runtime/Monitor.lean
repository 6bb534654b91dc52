import RouteLane.Lib.Steps
import RouteLane.Runtime.Authority

/-!
# The runtime monitor

`drive_runtime` takes events off a bounded channel.  A change is followed by a refresh,
after a window in which the rest of a burst is taken too; a monitor that closed is
reported, restarted after a wait, and followed by a refresh.  Events are sent at any
moment, and the driver's steps are interleaved with theirs in any order.

The loop that empties the channel after a burst ends at the first thing it takes that is
not a change, and drops it.  `driveRuntime_answers_iff` says that this is the only way an
event is lost.
-/

namespace RouteLane

open Steps

inductive MonitorEvent where
  | changed
  | closed (reason : String)
  deriving DecidableEq, Repr

/-- Both times are in milliseconds. -/
structure MonitorTiming where
  coalesce : ℕ
  restartBackoff : ℕ
  deriving DecidableEq, Repr

/-- `MonitorTiming::default`. -/
def MonitorTiming.default : MonitorTiming := ⟨150, 1000⟩

/-- The capacity `run_runtime_monitor` gives its channel. -/
def channelCapacity : ℕ := 1

/-- `failback_wait`. -/
def failbackWait (status : Option RuntimeStatus) : Option ℕ :=
  status.bind RuntimeStatus.failbackInMs

/-- What the driver did, in order. -/
inductive DriverAct where
  | took (event : MonitorEvent)
  | refreshed
  | degraded (reason : String)
  | restarted
  deriving DecidableEq, Repr

/-- Where `drive_runtime` stands. -/
inductive DriverPoint where
  | refreshing
  | waiting (deadline : Option ℕ)
  | coalescing (wakeAt : ℕ)
  | draining
  | degrading (reason : String)
  | backingOff (wakeAt : ℕ)
  | restarting
  | returned
  deriving DecidableEq, Repr

/-- The driver, its channel and the clock. -/
structure Monitor where
  now : ℕ
  queue : List MonitorEvent
  senderAlive : Bool
  point : DriverPoint
  log : List DriverAct
  deriving DecidableEq, Repr

/-- Subscribing happens before the initial refresh. -/
def Monitor.start : Monitor := ⟨0, [], true, .refreshing, []⟩

inductive MonitorStep where
  | send (event : MonitorEvent)
  | hangUp
  | elapse (ms : ℕ)
  /-- `refresher.refresh()` returns. -/
  | refresh (status : Option RuntimeStatus)
  /-- `events.recv()` returns. -/
  | receive
  /-- The wait for an event ends without one. -/
  | timeOut
  /-- A `sleep` ends. -/
  | wake
  /-- `events.try_recv()` returns. -/
  | poll
  | degrade
  | restart
  deriving DecidableEq

namespace Monitor

variable (timing : MonitorTiming) (capacity : ℕ)

/-- Take an event off the channel. -/
def take (m : Monitor) (event : MonitorEvent) (rest : List MonitorEvent) (point : DriverPoint) :
    Monitor := { m with queue := rest, point := point, log := m.log ++ [.took event] }

/-- Do something and go on to the next point. -/
def act (m : Monitor) (done : DriverAct) (point : DriverPoint) : Monitor :=
  { m with point := point, log := m.log ++ [done] }

/-- One step of `drive_runtime` or of its environment, if it is possible. -/
def step (m : Monitor) : MonitorStep → Option Monitor
  | .send event =>
    if m.senderAlive ∧ m.queue.length < capacity then some { m with queue := m.queue ++ [event] }
    else none
  | .hangUp => some { m with senderAlive := false }
  | .elapse ms => some { m with now := m.now + ms }
  | .refresh status =>
    match m.point with
    | .refreshing => some (m.act .refreshed (.waiting ((failbackWait status).map (m.now + ·))))
    | _ => none
  | .receive =>
    match m.point, m.queue with
    | .waiting _, .changed :: rest =>
      some (m.take .changed rest (.coalescing (m.now + timing.coalesce)))
    | .waiting _, .closed reason :: rest => some (m.take (.closed reason) rest (.degrading reason))
    | .waiting _, [] => if m.senderAlive then none else some { m with point := .returned }
    | _, _ => none
  | .timeOut =>
    -- the timeout looks at the channel before it looks at the clock
    match m.point, m.queue with
    | .waiting (some deadline), [] =>
      if deadline ≤ m.now then some { m with point := .refreshing } else none
    | _, _ => none
  | .wake =>
    match m.point with
    | .coalescing wakeAt => if wakeAt ≤ m.now then some { m with point := .draining } else none
    | .backingOff wakeAt => if wakeAt ≤ m.now then some { m with point := .restarting } else none
    | _ => none
  | .poll =>
    match m.point, m.queue with
    | .draining, .changed :: rest => some (m.take .changed rest .draining)
    -- the pattern of the loop does not match: the event is dropped
    | .draining, .closed reason :: rest => some (m.take (.closed reason) rest .refreshing)
    | .draining, [] => some { m with point := .refreshing }
    | _, _ => none
  | .degrade =>
    match m.point with
    | .degrading reason =>
      some (m.act (.degraded reason) (.backingOff (m.now + timing.restartBackoff)))
    | _ => none
  | .restart =>
    match m.point with
    | .restarting => some (m.act .restarted .refreshing)
    | _ => none

end Monitor

/-! ## Answering events -/

/-- What an event asks for. -/
def MonitorEvent.answer : MonitorEvent → List DriverAct
  | .changed => [.refreshed]
  | .closed reason => [.degraded reason, .restarted, .refreshed]

def DriverAct.tookClosed : DriverAct → Bool
  | .took (.closed _) => true
  | _ => false

/-- Each event that was taken was answered afterwards, and each report and each restart
answers one monitor that closed. -/
structure Answered (log : List DriverAct) : Prop where
  followed : ∀ before event after, log = before ++ .took event :: after →
    event.answer.Sublist after
  degraded : ∀ reason, log.count (.degraded reason) = log.count (.took (.closed reason))
  restarted : log.count .restarted = log.countP DriverAct.tookClosed

/-- What the driver is going to do before it looks for another event. -/
def DriverPoint.owes : DriverPoint → List DriverAct
  | .refreshing | .coalescing _ | .draining => [.refreshed]
  | .degrading reason => [.degraded reason, .restarted, .refreshed]
  | .backingOff _ | .restarting => [.restarted, .refreshed]
  | .waiting _ | .returned => []

/-- The driver waits for an event, or has returned. -/
def DriverPoint.idle : DriverPoint → Bool
  | .waiting _ | .returned => true
  | _ => false

theorem DriverPoint.owes_of_idle {point : DriverPoint} (h : point.idle = true) :
    point.owes = [] := by
  cases point with
  | waiting deadline => rfl
  | returned => rfl
  | _ => exact absurd h Bool.false_ne_true

/-- The loop over the burst meets a monitor that closed. -/
def Monitor.Drops (m : Monitor) (step : MonitorStep) : Prop :=
  step = .poll ∧ m.point = .draining ∧ ∃ reason, m.queue.head? = some (.closed reason)

/-- What was done and what is owed. -/
def Monitor.account (m : Monitor) : List DriverAct := m.log ++ m.point.owes

section Account

variable {timing : MonitorTiming} {capacity : ℕ} {m t : Monitor} {x : MonitorStep}

/-- What a step does to the account: nothing, or it takes an event and owes its answer, or
the timer asks for a refresh, or a further change of the burst is taken, or the loop drops
a monitor that closed. -/
theorem Monitor.step_cases (h : m.step timing capacity x = some t) :
    t.account = m.account ∨
    (∃ event, m.point.owes = [] ∧ t.account = m.log ++ .took event :: event.answer) ∨
    (m.point.owes = [] ∧ t.account = m.log ++ [.refreshed]) ∨
    (m.point.owes = [.refreshed] ∧ t.account = m.log ++ [.took .changed, .refreshed]) ∨
    (m.Drops x ∧ m.point.owes = [.refreshed] ∧
      ∃ reason, t.account = m.log ++ [.took (.closed reason), .refreshed]) := by
  cases x with
  | send event =>
    simp only [Monitor.step, Option.ite_none_right_eq_some, Option.some.injEq] at h
    obtain ⟨-, rfl⟩ := h
    exact Or.inl rfl
  | hangUp =>
    obtain rfl := Option.some.inj h
    exact Or.inl rfl
  | elapse ms =>
    obtain rfl := Option.some.inj h
    exact Or.inl rfl
  | refresh status =>
    simp only [Monitor.step] at h
    split at h
    · rename_i hpoint
      obtain rfl := Option.some.inj h
      exact Or.inl (by simp [account, act, hpoint, DriverPoint.owes])
    · cases h
  | receive =>
    simp only [Monitor.step] at h
    split at h
    · rename_i hpoint _
      obtain rfl := Option.some.inj h
      refine Or.inr (Or.inl ⟨.changed, by rw [hpoint]; rfl, ?_⟩)
      simp [account, take, DriverPoint.owes, MonitorEvent.answer]
    · rename_i reason _ hpoint _
      obtain rfl := Option.some.inj h
      refine Or.inr (Or.inl ⟨.closed reason, by rw [hpoint]; rfl, ?_⟩)
      simp [account, take, DriverPoint.owes, MonitorEvent.answer]
    · rename_i hpoint _
      split at h
      · cases h
      · obtain rfl := Option.some.inj h
        exact Or.inl (by simp [account, hpoint, DriverPoint.owes])
    · cases h
  | timeOut =>
    simp only [Monitor.step] at h
    split at h
    · rename_i hpoint _
      simp only [Option.ite_none_right_eq_some, Option.some.injEq] at h
      obtain ⟨-, rfl⟩ := h
      exact Or.inr (Or.inr (Or.inl ⟨by rw [hpoint]; rfl, rfl⟩))
    · cases h
  | wake =>
    simp only [Monitor.step] at h
    split at h
    · rename_i hpoint
      simp only [Option.ite_none_right_eq_some, Option.some.injEq] at h
      obtain ⟨-, rfl⟩ := h
      exact Or.inl (by simp [account, hpoint, DriverPoint.owes])
    · rename_i hpoint
      simp only [Option.ite_none_right_eq_some, Option.some.injEq] at h
      obtain ⟨-, rfl⟩ := h
      exact Or.inl (by simp [account, hpoint, DriverPoint.owes])
    · cases h
  | poll =>
    simp only [Monitor.step] at h
    split at h
    · rename_i hpoint _
      obtain rfl := Option.some.inj h
      refine Or.inr (Or.inr (Or.inr (Or.inl ⟨by rw [hpoint]; rfl, ?_⟩)))
      simp [account, take, DriverPoint.owes]
    · rename_i reason _ hpoint hqueue
      obtain rfl := Option.some.inj h
      refine Or.inr (Or.inr (Or.inr (Or.inr ⟨⟨rfl, hpoint, reason, by rw [hqueue]; rfl⟩,
        by rw [hpoint]; rfl, reason, ?_⟩)))
      simp [account, take, DriverPoint.owes]
    · rename_i hpoint _
      obtain rfl := Option.some.inj h
      exact Or.inl (by simp [account, hpoint, DriverPoint.owes])
    · cases h
  | degrade =>
    simp only [Monitor.step] at h
    split at h
    · rename_i hpoint
      obtain rfl := Option.some.inj h
      exact Or.inl (by simp [account, act, hpoint, DriverPoint.owes])
    · cases h
  | restart =>
    simp only [Monitor.step] at h
    split at h
    · rename_i hpoint
      obtain rfl := Option.some.inj h
      exact Or.inl (by simp [account, act, hpoint, DriverPoint.owes])
    · cases h

end Account

/-- What every event of a list asks for comes after it. -/
def Followed (log : List DriverAct) : Prop :=
  ∀ before event after, log = before ++ .took event :: after → event.answer.Sublist after

/-- Replacing the end of a list by a longer one keeps what was answered answered. -/
theorem Followed.extend {log tail tail' : List DriverAct} (h : Followed (log ++ tail))
    (hsub : tail.Sublist tail') (htail : Followed tail') : Followed (log ++ tail') := by
  intro before event after heq
  rcases List.append_eq_append_iff.1 heq with ⟨mid, rfl, hmid⟩ | ⟨mid, hlog, hmid⟩
  · exact htail mid event after hmid
  · cases mid with
    | nil => exact htail [] event after hmid.symm
    | cons act mid =>
      rw [List.cons_append, List.cons.injEq] at hmid
      obtain ⟨rfl, rfl⟩ := hmid
      have hbefore := h before event (mid ++ tail) (by rw [hlog]; simp)
      exact hbefore.trans (List.Sublist.append (List.Sublist.refl _) hsub)

theorem followed_refreshed : Followed [.refreshed] := by
  intro before event after heq
  have hmem : DriverAct.took event ∈ [DriverAct.refreshed] := by rw [heq]; simp
  simp at hmem

theorem followed_answer (event : MonitorEvent) : Followed (.took event :: event.answer) := by
  intro before event' after heq
  cases before with
  | nil =>
    obtain ⟨hevent, rfl⟩ := List.cons.inj heq
    obtain rfl := DriverAct.took.inj hevent
    exact List.Sublist.refl _
  | cons act before =>
    have hmem : DriverAct.took event' ∈ event.answer := by
      rw [(List.cons.inj heq).2]
      simp
    cases event <;> simp [MonitorEvent.answer] at hmem

/-- How many monitors that closed were not restarted. -/
def lag (log : List DriverAct) : ℤ :=
  log.countP DriverAct.tookClosed - log.count .restarted

theorem lag_append (log log' : List DriverAct) : lag (log ++ log') = lag log + lag log' := by
  simp only [lag, List.countP_append, List.count_append]
  omega

theorem lag_refreshed : lag [.refreshed] = 0 := rfl

theorem lag_dropped (reason : String) : lag [.took (.closed reason), .refreshed] = 1 := rfl

theorem lag_answer (event : MonitorEvent) : lag (.took event :: event.answer) = 0 := by
  cases event <;> rfl

theorem Answered.lag_eq_zero {log : List DriverAct} (h : Answered log) : lag log = 0 := by
  have := h.restarted
  unfold lag
  omega

/-- Taking an event and owing its answer keeps a list answered. -/
theorem Answered.take {log : List DriverAct} (h : Answered log) (event : MonitorEvent) :
    Answered (log ++ .took event :: event.answer) where
  followed := by
    have hlog : Followed (log ++ []) := by
      rw [List.append_nil]
      exact h.followed
    exact hlog.extend (List.nil_sublist _) (followed_answer event)
  degraded reason := by
    have := h.degraded reason
    cases event with
    | changed => simp [MonitorEvent.answer, this]
    | closed closed => simp [MonitorEvent.answer, List.count_cons, this]
  restarted := by
    have hlag := h.lag_eq_zero
    have htotal : lag (log ++ .took event :: event.answer) = 0 := by
      rw [lag_append, lag_answer, hlag, add_zero]
    unfold lag at htotal
    omega

/-- Changes and refreshes make no report and no restart due. -/
theorem Answered.of_counts {log log' : List DriverAct} (h : Answered log)
    (hfollowed : Followed log') (hcount : ∀ act, act ≠ .took .changed → act ≠ .refreshed →
      log'.count act = log.count act)
    (hclosed : log'.countP DriverAct.tookClosed = log.countP DriverAct.tookClosed) :
    Answered log' where
  followed := hfollowed
  degraded reason := by
    rw [hcount _ (by simp) (by simp), hcount _ (by simp) (by simp)]
    exact h.degraded reason
  restarted := by
    rw [hcount _ (by simp) (by simp), hclosed]
    exact h.restarted

section Steps

variable {timing : MonitorTiming} {capacity : ℕ} {m t : Monitor} {x : MonitorStep}

theorem answered_start : Answered Monitor.start.account where
  followed := followed_refreshed
  degraded _ := rfl
  restarted := rfl

/-- A step that does not drop an event keeps what was answered answered. -/
theorem answered_step (hm : Answered m.account) (hkeep : ¬m.Drops x)
    (h : m.step timing capacity x = some t) : Answered t.account := by
  rcases Monitor.step_cases h with hsame | ⟨event, howes, ht⟩ | ⟨howes, ht⟩ | ⟨howes, ht⟩ |
    ⟨hdrop, -⟩
  · rw [hsame]
    exact hm
  · rw [Monitor.account, howes, List.append_nil] at hm
    rw [ht]
    exact hm.take event
  · rw [ht]
    refine hm.of_counts ?_ ?_ ?_
    · have hfollowed : Followed (m.log ++ m.point.owes) := hm.followed
      rw [howes] at hfollowed
      exact hfollowed.extend (List.nil_sublist _) followed_refreshed
    · intro act _ hrefreshed
      simp [Monitor.account, howes, Ne.symm hrefreshed]
    · simp [Monitor.account, howes, DriverAct.tookClosed]
  · rw [ht]
    refine hm.of_counts ?_ ?_ ?_
    · have hfollowed : Followed (m.log ++ m.point.owes) := hm.followed
      rw [howes] at hfollowed
      exact hfollowed.extend (List.sublist_cons_self _ _) (followed_answer .changed)
    · intro act hchanged _
      simp [Monitor.account, howes, List.count_cons, Ne.symm hchanged]
    · simp [Monitor.account, howes, DriverAct.tookClosed]
  · exact absurd hdrop hkeep

/-- A monitor that closed and was dropped is never made up for. -/
theorem lag_step (h : m.step timing capacity x = some t) : lag m.account ≤ lag t.account := by
  have hlag : lag m.account = lag m.log + lag m.point.owes := lag_append _ _
  rcases Monitor.step_cases h with hsame | ⟨event, howes, ht⟩ | ⟨howes, ht⟩ | ⟨howes, ht⟩ |
    ⟨-, howes, reason, ht⟩
  · rw [hsame]
  · rw [ht, hlag, howes, lag_append, lag_answer]
    exact le_refl _
  · rw [ht, hlag, howes, lag_append]
    exact le_refl _
  · rw [ht, hlag, howes, lag_append]
    exact le_refl _
  · rw [ht, hlag, howes, lag_append, lag_dropped, lag_refreshed]
    omega

theorem lag_drop (hdrop : m.Drops x) (h : m.step timing capacity x = some t) :
    lag t.account = lag m.account + 1 := by
  obtain ⟨rfl, hpoint, reason, hhead⟩ := hdrop
  obtain ⟨rest, hqueue⟩ : ∃ rest, m.queue = .closed reason :: rest := by
    rw [List.head?_eq_some_iff] at hhead
    exact hhead
  simp only [Monitor.step, hpoint, hqueue, Option.some.injEq] at h
  subst h
  rw [Monitor.account, Monitor.account, hpoint]
  simp only [Monitor.take, DriverPoint.owes, List.append_assoc, List.cons_append, List.nil_append]
  rw [lag_append, lag_append, lag_dropped, lag_refreshed, add_zero]

end Steps

/-! ## Runs -/

section Runs

variable (timing : MonitorTiming) (capacity : ℕ)

/-- **No event is lost unless the loop over a burst meets a monitor that closed.**  For
every sequence of events and of steps, whenever the driver looks for another event it has
answered all those it took exactly when that loop has never dropped one. -/
theorem driveRuntime_answers_iff (steps : List MonitorStep) (m : Monitor)
    (hrun : replay (Monitor.step timing capacity) Monitor.start steps = some m)
    (hidle : m.point.idle = true) :
    Answered m.log ↔
      Along (Monitor.step timing capacity) (fun m x => ¬m.Drops x) Monitor.start steps := by
  have haccount : m.account = m.log := by
    rw [Monitor.account, DriverPoint.owes_of_idle hidle, List.append_nil]
  rw [← haccount]
  constructor
  · intro hanswered
    by_contra hdropped
    have hbehind : 0 < lag m.account := by
      refine replay_of_not_along (I := fun m => 0 ≤ lag m.account)
        (B := fun m => 0 < lag m.account) ?_ ?_ ?_ (by decide) hdropped hrun
      · exact fun m x t hm hstep => hm.trans (lag_step hstep)
      · intro m x t hm hdrop hstep
        rw [lag_drop (not_not.1 hdrop) hstep]
        exact Int.lt_add_one_of_le hm
      · exact fun m x t hm hstep => hm.trans_le (lag_step hstep)
    rw [hanswered.lag_eq_zero] at hbehind
    exact lt_irrefl _ hbehind
  · intro hkept
    exact replay_invariant (I := fun m => Answered m.account)
      (fun m x t hm hkeep => answered_step hm hkeep) answered_start hkept hrun

/-- A monitor that closes while the driver waits. -/
def closedWhileWaiting : List MonitorStep :=
  [.refresh none, .send (.closed "kernel monitor closed"), .receive, .degrade, .elapse 1000, .wake,
    .restart, .refresh none]

theorem closedWhileWaiting_answers_iff :
    ∃ m, replay (Monitor.step .default channelCapacity) Monitor.start closedWhileWaiting = some m ∧
      (Answered m.log ↔ Along (Monitor.step .default channelCapacity) (fun m x => ¬m.Drops x)
        Monitor.start closedWhileWaiting) :=
  ⟨_, rfl, driveRuntime_answers_iff .default channelCapacity closedWhileWaiting _ rfl rfl⟩

/-- The driver can get to where it looks for another event. -/
def Settles (m : Monitor) : Prop :=
  ∃ steps t, replay (Monitor.step timing capacity) m steps = some t ∧ t.point.idle = true

variable {timing capacity}

theorem Settles.of_step {m t : Monitor} (x : MonitorStep) (h : m.step timing capacity x = some t)
    (ht : Settles timing capacity t) : Settles timing capacity m := by
  obtain ⟨steps, u, hrun, hidle⟩ := ht
  exact ⟨x :: steps, u, replay_cons.2 ⟨t, h, hrun⟩, hidle⟩

theorem settles_refreshing {m : Monitor} (h : m.point = .refreshing) :
    Settles timing capacity m := by
  refine Settles.of_step (.refresh none) (t := m.act .refreshed (.waiting none)) ?_ ?_
  · simp [Monitor.step, h, failbackWait]
  · exact ⟨[], _, rfl, rfl⟩

theorem settles_restarting {m : Monitor} (h : m.point = .restarting) :
    Settles timing capacity m := by
  refine Settles.of_step .restart (t := m.act .restarted .refreshing) ?_ (settles_refreshing rfl)
  simp [Monitor.step, h]

theorem settles_backingOff {m : Monitor} {wakeAt : ℕ} (h : m.point = .backingOff wakeAt) :
    Settles timing capacity m := by
  refine Settles.of_step (.elapse wakeAt) rfl ?_
  refine Settles.of_step .wake (t := { m with now := m.now + wakeAt, point := .restarting }) ?_
    (settles_restarting rfl)
  simp [Monitor.step, h]

/-- The loop over a burst ends: by induction on what is in the channel. -/
theorem settles_draining {queue : List MonitorEvent} :
    ∀ {m : Monitor}, m.point = .draining → m.queue = queue → Settles timing capacity m := by
  induction queue with
  | nil =>
    intro m hpoint hqueue
    refine Settles.of_step .poll (t := { m with point := .refreshing }) ?_ (settles_refreshing rfl)
    simp [Monitor.step, hpoint, hqueue]
  | cons event rest ih =>
    intro m hpoint hqueue
    cases event with
    | changed =>
      refine Settles.of_step .poll (t := m.take .changed rest .draining) ?_ (ih rfl rfl)
      simp [Monitor.step, hpoint, hqueue]
    | closed reason =>
      refine Settles.of_step .poll (t := m.take (.closed reason) rest .refreshing) ?_
        (settles_refreshing rfl)
      simp [Monitor.step, hpoint, hqueue]

variable (timing capacity)

/-- From every state the driver gets back to looking for an event without being sent one. -/
theorem driveRuntime_settles (m : Monitor) : Settles timing capacity m := by
  cases hpoint : m.point with
  | refreshing => exact settles_refreshing hpoint
  | waiting deadline => exact ⟨[], m, rfl, by rw [hpoint]; rfl⟩
  | coalescing wakeAt =>
    refine Settles.of_step (.elapse wakeAt) rfl ?_
    refine Settles.of_step .wake (t := { m with now := m.now + wakeAt, point := .draining }) ?_
      (settles_draining rfl rfl)
    simp [Monitor.step, hpoint]
  | draining => exact settles_draining hpoint rfl
  | degrading reason =>
    refine Settles.of_step .degrade (t := m.act (.degraded reason)
      (.backingOff (m.now + timing.restartBackoff))) ?_ (settles_backingOff rfl)
    simp [Monitor.step, hpoint]
  | backingOff wakeAt => exact settles_backingOff hpoint
  | restarting => exact settles_restarting hpoint
  | returned => exact ⟨[], m, rfl, by rw [hpoint]; rfl⟩

end Runs

/-- A change, and a monitor that closes while its burst is awaited. -/
def closedInBurst : List MonitorStep :=
  [.refresh none, .send .changed, .receive, .send (.closed "kernel monitor closed"), .elapse 150,
    .wake, .poll, .refresh none]

/-- The driver waits without a deadline for a monitor that nobody restarted. -/
theorem closedInBurst_unanswered :
    ∃ m, replay (Monitor.step .default channelCapacity) Monitor.start closedInBurst = some m ∧
      m.point = .waiting none ∧ m.queue = [] ∧ ¬Answered m.log := by
  refine ⟨_, rfl, rfl, rfl, ?_⟩
  intro h
  exact absurd h.restarted (by decide)

end RouteLane
