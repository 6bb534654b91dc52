import RouteLane.Ipc.Client
import RouteLane.Ui.Controller
import RouteLane.Lib.Channels

/-!
# The bridge between the desktop and the daemon

`daemon_bridge` takes the desktop's requests one by one and passes on what the daemon has to
say.  It keeps one subscription, opens a new one when that is lost, and numbers the
connections: each message it sends names the connection it comes from.  The main result is what
one can rely on who sees no more than the messages.

What the daemon and the system answer is given with each step.  A step is one turn of the
bridge's loop; nobody but the bridge sends on its channel, so that a turn that sends more than
one message is taken as a whole.
-/

namespace RouteLane

open Steps Channels Streams

/-- What the desktop asks of the bridge; a request with its id. -/
inductive UiToDaemon where
  | request (id : String) (request : DaemonRequest)
  | refreshSnapshot
  | shutdown
  deriving DecidableEq

def daemonEventSequence : DaemonEvent → ℕ
  | .stateChanged sequence _ _ => sequence
  | .operationFailed sequence _ _ _ => sequence
  | .primaryChanged sequence _ _ => sequence

/-! ## Waiting -/

/-- `initial_reconnect_delay` and `maximum_reconnect_delay`, in milliseconds. -/
def initialReconnectDelay : ℕ := 250
def maximumReconnectDelay : ℕ := 8000

/-- `ConnectionPolicy::reconnect_delay`. -/
def reconnectDelay (attempt : ℕ) : ℕ :=
  min (initialReconnectDelay * 2 ^ min attempt 16) maximumReconnectDelay

/-- The delay doubles with each attempt, up to a bound it reaches before the shift does. -/
theorem reconnectDelay_eq (attempt : ℕ) : reconnectDelay attempt = min (250 * 2 ^ attempt) 8000 := by
  show min (250 * 2 ^ min attempt 16) 8000 = _
  rcases le_total attempt 16 with hle | hle
  · rw [min_eq_left hle]
  · have hlarge : 2 ^ 16 ≤ 2 ^ attempt := Nat.pow_le_pow_right (by decide) hle
    rw [min_eq_right hle]
    omega

/-- `saturating_add(1)` of a 32-bit count. -/
def nextAttempt (attempt : ℕ) : ℕ := min (attempt + 1) (2 ^ 32 - 1)

/-! ## Asking the daemon -/

/-- A request of the bridge's own: its fresh id, and what reaching the daemon meets. -/
structure OwnRequest where
  id : String
  reach : Reach

/-- The two requests of a refresh. -/
structure Refreshing where
  status : OwnRequest
  profiles : OwnRequest

/-- The requests that open a connection. -/
structure Establishing where
  subscribe : OwnRequest
  refresh : Refreshing

/-- What a subscription has yet to give, and what it has got beyond. -/
structure EventSubscription where
  receiver : List DaemonEvent
  minimumSequence : ℕ
  deriving DecidableEq

/-- `EventSubscription::recv`: the next event that is news, and the subscription then. -/
def EventSubscription.recv (minimumSequence : ℕ) :
    List DaemonEvent → Option (DaemonEvent × EventSubscription)
  | [] => none
  | event :: receiver =>
    if minimumSequence < daemonEventSequence event then
      some (event, ⟨receiver, daemonEventSequence event⟩)
    else recv minimumSequence receiver

section Requests

variable (wire : WireText)

/-- The reply a request of the bridge's own asks for, where `expected` reads it off the result. -/
def askDaemon {α : Type} (own : OwnRequest) (request : DaemonRequest) (expected : DaemonResult → Option α)
    (message : String) : Except IpcError α := do
  let response ← DaemonClient.send wire own.reach (.new own.id request)
  match response.error with
  | some error => .error error
  | none =>
    match response.result.bind expected with
    | some answer => .ok answer
    | none => .error ⟨"IPC_INVALID_RESPONSE", message⟩

def requestStatus (own : OwnRequest) : Except IpcError DaemonStatus :=
  askDaemon wire own .getStatus
    (fun result => match result with
      | .status status => some status
      | _ => none)
    "status request returned an unexpected response"

def requestProfiles (own : OwnRequest) : Except IpcError (List Profile) :=
  askDaemon wire own .listProfiles
    (fun result => match result with
      | .profiles profiles => some profiles
      | _ => none)
    "profile request returned an unexpected response"

/-- `refresh_daemon_state`: the snapshot that is sent, and its event sequence. -/
def refreshDaemonState (refreshing : Refreshing) (epoch : ℕ) :
    Except IpcError (DaemonToUi × ℕ) := do
  let status ← requestStatus wire refreshing.status
  let profiles ← requestProfiles wire refreshing.profiles
  return (.snapshot epoch status profiles, status.eventSequence)

/-- `advance_connection_epoch`; the program ends where the numbers are exhausted. -/
def advanceConnectionEpoch (epoch : ℕ) : Option ℕ :=
  if epoch + 1 < 2 ^ 64 then some (epoch + 1) else none

/-- What a part of the bridge leaves: the number of the connection, what was sent, and what came
of it. -/
structure Exchanged (α : Type) where
  epoch : ℕ
  sent : List DaemonToUi
  outcome : Except IpcError α

/-- `establish_subscription_and_refresh`. -/
def establishSubscriptionAndRefresh (establishing : Establishing) (epoch : ℕ) :
    Option (Exchanged EventSubscription) :=
  match DaemonClient.subscribe wire establishing.subscribe.reach establishing.subscribe.id with
  | .error error => some ⟨epoch, [], .error error⟩
  | .ok receiver =>
    (advanceConnectionEpoch epoch).map fun epoch =>
      match refreshDaemonState wire establishing.refresh epoch with
      | .error error => ⟨epoch, [.connectionEstablished epoch], .error error⟩
      | .ok (snapshot, minimumSequence) =>
        ⟨epoch, [.connectionEstablished epoch, snapshot], .ok ⟨receiver, minimumSequence⟩⟩

/-- The attempts of `wait_for_daemon`, each after the last has failed. -/
def attemptConnections : List Establishing → Exchanged EventSubscription →
    Option (Exchanged EventSubscription)
  | [], before => some before
  | establishing :: rest, before =>
    match before.outcome with
    | .ok _ => some before
    | .error _ =>
      (establishSubscriptionAndRefresh wire establishing before.epoch).bind fun next =>
        attemptConnections rest { next with sent := before.sent ++ next.sent }

/-- `wait_for_daemon`. -/
def waitForDaemon (attempts : ℕ → Establishing) (epoch : ℕ) :
    Option (Exchanged EventSubscription) :=
  attemptConnections wire ((List.range 6).map attempts)
    ⟨epoch, [], .error ⟨"IPC_CONNECT_FAILED", "daemon did not create its socket"⟩⟩

/-- `deliver_request`: what is sent, and whether the daemon was there. -/
def deliverRequest (id : String) (request : DaemonRequest) (reach : Reach) (epoch : ℕ) :
    DaemonToUi × Bool :=
  match DaemonClient.send wire reach (.new id request) with
  | .ok response => (.response epoch response, true)
  | .error error => (.daemonUnavailable epoch (some id) error, false)

end Requests

/-! ## The bridge -/

structure Bridge where
  /-- `connection_epoch` -/
  epoch : ℕ
  subscription : Option EventSubscription
  reconnectAttempt : ℕ
  /-- In milliseconds. -/
  nextReconnect : ℕ
  running : Bool
  deriving DecidableEq

/-- What a turn of the loop meets.  Each `now` is the time that is read when the bridge has to
wait before it connects again. -/
inductive BridgeInput where
  /-- The next thing the desktop asks, and what the daemon has to say. -/
  | request (id : String) (request : DaemonRequest) (reach : Reach) (now : ℕ)
  | refreshSnapshot (refreshing : Refreshing) (now : ℕ)
  | shutdown
  /-- The subscription has something to give, or ends. -/
  | event (now : ℕ)
  /-- The wait is over. -/
  | reconnect (woken : ℕ) (establishing : Establishing) (now : ℕ)

/-- What the desktop asked, where the turn is about that. -/
def BridgeInput.command : BridgeInput → Option UiToDaemon
  | .request id asked _ _ => some (.request id asked)
  | .refreshSnapshot .. => some .refreshSnapshot
  | .shutdown => some .shutdown
  | .event _ | .reconnect .. => none

namespace Bridge

/-- There is no subscription now, and a while to wait before there can be one. -/
def lose (b : Bridge) (now : ℕ) : Bridge :=
  { b with
    subscription := none
    nextReconnect := now + reconnectDelay b.reconnectAttempt
    reconnectAttempt := nextAttempt b.reconnectAttempt }

variable (wire : WireText)

/-- The event branch of the loop. -/
def takeEvent (b : Bridge) (subscription : EventSubscription) (now : ℕ) :
    Bridge × List DaemonToUi :=
  match EventSubscription.recv subscription.minimumSequence subscription.receiver with
  | some (event, subscription) =>
    ({ b with subscription := some subscription }, [.event b.epoch event])
  | none =>
    (b.lose now, [.daemonUnavailable b.epoch none
      ⟨"IPC_DISCONNECTED", "daemon event subscription disconnected"⟩])

/-- The reconnect branch of the loop. -/
def reconnect (b : Bridge) (establishing : Establishing) (now : ℕ) :
    Option (Bridge × List DaemonToUi) :=
  (establishSubscriptionAndRefresh wire establishing b.epoch).map fun exchanged =>
    match exchanged.outcome with
    | .ok subscription =>
      ({ b with
          epoch := exchanged.epoch
          subscription := some subscription
          reconnectAttempt := 0 },
        exchanged.sent)
    | .error error =>
      ({ b.lose now with epoch := exchanged.epoch },
        exchanged.sent ++ [.daemonUnavailable exchanged.epoch none error])

/-- A turn of the loop of `daemon_bridge`. -/
def step (b : Bridge) (x : BridgeInput) : Option (Bridge × List DaemonToUi) :=
  if b.running = false then none
  else
    match x with
    | .request id request reach now =>
      let delivered := deliverRequest wire id request reach b.epoch
      some (if delivered.2 then b else b.lose now, [delivered.1])
    | .refreshSnapshot refreshing now =>
      match refreshDaemonState wire refreshing b.epoch with
      | .ok (snapshot, _) => some (b, [snapshot])
      | .error error => some (b.lose now, [.daemonUnavailable b.epoch none error])
    | .shutdown => some ({ b with running := false }, [])
    | .event now => b.subscription.map fun subscription => b.takeEvent subscription now
    | .reconnect woken establishing now =>
      if b.subscription = none ∧ b.nextReconnect ≤ woken then b.reconnect wire establishing now
      else none

end Bridge

/-! ## Starting -/

/-- What `daemon_bridge` meets before its loop. -/
structure Startup where
  /-- `socket_path` -/
  socketPath : Except IpcError String
  first : Establishing
  /-- `activate_user_daemon` -/
  activation : Except String Unit
  attempts : ℕ → Establishing
  /-- The time at the start of the loop. -/
  now : ℕ

namespace Bridge

variable (wire : WireText)

/-- The bridge at the start of its loop, with what it sent before. -/
def enterLoop (startup : Startup) (sent : List DaemonToUi)
    (exchanged : Exchanged EventSubscription) : Bridge × List DaemonToUi :=
  match exchanged.outcome with
  | .ok subscription =>
    (⟨exchanged.epoch, some subscription, 0, startup.now, true⟩, sent ++ exchanged.sent)
  | .error error =>
    (⟨exchanged.epoch, none, 0, startup.now, true⟩,
      sent ++ exchanged.sent ++ [.daemonUnavailable exchanged.epoch none error])

/-- `daemon_bridge` up to its loop. -/
def start (startup : Startup) : Option (Bridge × List DaemonToUi) :=
  match startup.socketPath with
  | .error error =>
    some (⟨0, none, 0, startup.now, false⟩, [.daemonUnavailable 0 none error])
  | .ok _ =>
    (establishSubscriptionAndRefresh wire startup.first 0).bind fun first =>
      match first.outcome with
      | .ok _ => some (enterLoop startup [] first)
      | .error firstError =>
        match startup.activation with
        | .error activationError =>
          some (enterLoop startup [] { first with
            outcome := .error ⟨"DAEMON_ACTIVATION_FAILED",
              firstError.code ++ ": " ++ firstError.message ++
                "; systemd user activation failed: " ++ activationError⟩ })
        | .ok () =>
          (waitForDaemon wire startup.attempts first.epoch).map (enterLoop startup first.sent)

end Bridge

/-- Where the socket's path is known, the bridge enters its loop. -/
theorem Bridge.running_start {wire : WireText} {startup : Startup} {path : String}
    {started : Bridge × List DaemonToUi} (hpath : startup.socketPath = .ok path)
    (h : start wire startup = some started) : started.1.running = true := by
  have henter : ∀ sent exchanged, (enterLoop startup sent exchanged).1.running = true := by
    intro sent exchanged
    unfold enterLoop
    split <;> rfl
  unfold start at h
  simp only [hpath] at h
  obtain ⟨first, -, h⟩ := Option.bind_eq_some_iff.1 h
  split at h
  · obtain rfl := Option.some.inj h
    exact henter _ _
  · split at h
    · obtain rfl := Option.some.inj h
      exact henter _ _
    · obtain ⟨waited, -, rfl⟩ := Option.map_eq_some_iff.1 h
      exact henter _ _

/-! ## What the desktop can rely on -/

/-- How far a connection is, for one who sees only the messages. -/
inductive ConnectionStage where
  | opening
  /-- Events follow, and are later than this. -/
  | live (sequence : ℕ)
  | closed
  deriving DecidableEq

structure ConnectionView where
  epoch : ℕ
  stage : ConnectionStage
  deriving DecidableEq

namespace ConnectionView

/-- What can come next: connections are numbered without a gap, every other message is of the
current one, events follow a snapshot with growing sequences, and end with the connection. -/
def Expects (v : ConnectionView) : DaemonToUi → Prop
  | .connectionEstablished epoch => epoch = v.epoch + 1
  | .snapshot epoch _ _ => epoch = v.epoch
  | .response epoch response =>
    epoch = v.epoch ∧ response.protocolVersion = ipcProtocolVersion
  | .event epoch event =>
    epoch = v.epoch ∧ ∃ sequence < daemonEventSequence event, v.stage = .live sequence
  | .daemonUnavailable epoch _ _ => epoch = v.epoch

/-- How far the connection is after a message. -/
def after (v : ConnectionView) : DaemonToUi → ConnectionView
  | .connectionEstablished epoch => ⟨epoch, .opening⟩
  | .snapshot _ status _ =>
    if v.stage = .opening then ⟨v.epoch, .live status.eventSequence⟩ else v
  | .response .. => v
  | .event _ event => ⟨v.epoch, .live (daemonEventSequence event)⟩
  | .daemonUnavailable .. => ⟨v.epoch, .closed⟩

end ConnectionView

/-- The messages are what one expects, and lead to this view. -/
def LeadsTo (v : ConnectionView) (sent : List DaemonToUi) (v' : ConnectionView) : Prop :=
  Follows ConnectionView.Expects ConnectionView.after v sent ∧
    run ConnectionView.after v sent = v'

theorem LeadsTo.append {v v' v'' : ConnectionView} {sent sent' : List DaemonToUi}
    (h : LeadsTo v sent v') (h' : LeadsTo v' sent' v'') : LeadsTo v (sent ++ sent') v'' := by
  obtain ⟨hfollows, rfl⟩ := h
  exact ⟨follows_append.2 ⟨hfollows, h'.1⟩, by rw [run_append, h'.2]⟩

/-- The id of the request a message answers. -/
def DaemonToUi.answered : DaemonToUi → Option String
  | .response _ reply => some reply.requestId
  | .daemonUnavailable _ requestId _ => requestId
  | _ => none

def DaemonToUi.isEstablished : DaemonToUi → Bool
  | .connectionEstablished _ => true
  | _ => false

/-! ## What the parts of a turn send -/

section Parts

variable {wire : WireText}

theorem refreshDaemonState_eq_ok {refreshing : Refreshing} {epoch sequence : ℕ}
    {snapshot : DaemonToUi}
    (h : refreshDaemonState wire refreshing epoch = .ok (snapshot, sequence)) :
    ∃ status profiles, snapshot = .snapshot epoch status profiles ∧
      sequence = status.eventSequence := by
  obtain ⟨status, -, h⟩ := Fallible.bind_eq_ok.1 h
  obtain ⟨profiles, -, h⟩ := Fallible.bind_eq_ok.1 h
  obtain ⟨rfl, rfl⟩ := Prod.mk.inj (Except.ok.inj h)
  exact ⟨status, profiles, rfl, rfl⟩

/-- What was sent leads to the connection it ends with, and past its snapshot where there is a
subscription; none of it answers a request. -/
def Exchanged.From (v : ConnectionView) (exchanged : Exchanged EventSubscription) : Prop :=
  ∃ stage, LeadsTo v exchanged.sent ⟨exchanged.epoch, stage⟩ ∧
    (∀ subscription, exchanged.outcome = .ok subscription →
      stage = .live subscription.minimumSequence) ∧
    exchanged.sent.filterMap DaemonToUi.answered = []

theorem establish_from {establishing : Establishing} {v : ConnectionView}
    {exchanged : Exchanged EventSubscription}
    (h : establishSubscriptionAndRefresh wire establishing v.epoch = some exchanged) :
    exchanged.From v := by
  unfold establishSubscriptionAndRefresh at h
  split at h
  · obtain rfl := Option.some.inj h
    exact ⟨v.stage, ⟨trivial, rfl⟩, fun _ h => (by cases h), rfl⟩
  · obtain ⟨epoch, hepoch, rfl⟩ := Option.map_eq_some_iff.1 h
    have hnext : epoch = v.epoch + 1 := by
      unfold advanceConnectionEpoch at hepoch
      split at hepoch
      · exact (Option.some.inj hepoch).symm
      · cases hepoch
    split
    · exact ⟨.opening, ⟨⟨hnext, trivial⟩, rfl⟩, fun _ h => (by cases h), rfl⟩
    · next snapshot sequence hrefresh =>
      obtain ⟨status, profiles, rfl, rfl⟩ := refreshDaemonState_eq_ok hrefresh
      refine ⟨.live status.eventSequence, ⟨⟨hnext, rfl, trivial⟩, rfl⟩, ?_, rfl⟩
      intro subscription hsubscription
      obtain rfl := Except.ok.inj hsubscription
      rfl

/-- Attempts that follow one another. -/
theorem Exchanged.From.next {v : ConnectionView} {before next : Exchanged EventSubscription}
    {establishing : Establishing} (h : before.From v)
    (hnext : establishSubscriptionAndRefresh wire establishing before.epoch = some next) :
    ({ next with sent := before.sent ++ next.sent } : Exchanged EventSubscription).From v := by
  obtain ⟨stage, hleads, -, hanswered⟩ := h
  obtain ⟨stage', hleads', hstage, hanswered'⟩ :=
    establish_from (v := ⟨before.epoch, stage⟩) hnext
  refine ⟨stage', hleads.append hleads', hstage, ?_⟩
  rw [List.filterMap_append, hanswered, hanswered']
  rfl

theorem attemptConnections_from {v : ConnectionView} {establishings : List Establishing}
    {before exchanged : Exchanged EventSubscription} (hbefore : before.From v)
    (h : attemptConnections wire establishings before = some exchanged) : exchanged.From v := by
  induction establishings generalizing before with
  | nil =>
    obtain rfl := Option.some.inj h
    exact hbefore
  | cons establishing rest ih =>
    rw [attemptConnections] at h
    split at h
    · obtain rfl := Option.some.inj h
      exact hbefore
    · obtain ⟨next, hnext, h⟩ := Option.bind_eq_some_iff.1 h
      exact ih (hbefore.next hnext) h

theorem waitForDaemon_from {v : ConnectionView} {attempts : ℕ → Establishing}
    {exchanged : Exchanged EventSubscription}
    (h : waitForDaemon wire attempts v.epoch = some exchanged) : exchanged.From v := by
  refine attemptConnections_from ?_ h
  exact ⟨v.stage, ⟨trivial, rfl⟩, fun _ h => (by cases h), rfl⟩

/-- An attempt that succeeds sends that the connection is there, and a snapshot. -/
theorem establish_sent {establishing : Establishing} {epoch : ℕ}
    {exchanged : Exchanged EventSubscription} {subscription : EventSubscription}
    (h : establishSubscriptionAndRefresh wire establishing epoch = some exchanged)
    (hok : exchanged.outcome = .ok subscription) :
    ∃ epoch snapshot, exchanged.sent = [.connectionEstablished epoch, snapshot] ∧
      snapshot.isUnavailable = false := by
  unfold establishSubscriptionAndRefresh at h
  split at h
  · obtain rfl := Option.some.inj h
    cases hok
  · obtain ⟨epoch, -, rfl⟩ := Option.map_eq_some_iff.1 h
    split at hok
    · cases hok
    · next snapshot sequence hrefresh =>
      obtain ⟨status, profiles, rfl, -⟩ := refreshDaemonState_eq_ok hrefresh
      exact ⟨epoch, _, rfl, rfl⟩

theorem recv_eq_some {sequence : ℕ} {receiver : List DaemonEvent} {event : DaemonEvent}
    {subscription : EventSubscription}
    (h : EventSubscription.recv sequence receiver = some (event, subscription)) :
    sequence < daemonEventSequence event ∧
      subscription.minimumSequence = daemonEventSequence event := by
  induction receiver with
  | nil => cases h
  | cons first receiver ih =>
    rw [EventSubscription.recv] at h
    split at h
    · next hlater =>
      obtain ⟨rfl, rfl⟩ := Prod.mk.inj (Option.some.inj h)
      exact ⟨hlater, rfl⟩
    · exact ih h

end Parts

/-! ## What a turn sends -/

namespace Bridge

/-- What the messages so far show of a bridge. -/
def view (b : Bridge) : ConnectionView :=
  ⟨b.epoch, match b.subscription with
    | some subscription => .live subscription.minimumSequence
    | none => .closed⟩

/-- The id of the request a turn is about. -/
def taken : BridgeInput → Option String
  | .request id _ _ _ => some id
  | _ => none

variable {wire : WireText} {b b' : Bridge} {sent : List DaemonToUi}

theorem view_lose (b : Bridge) (now : ℕ) : (b.lose now).view = ⟨b.epoch, .closed⟩ := rfl

theorem deliverRequest_leads (wire : WireText) (b : Bridge) (id : String)
    (request : DaemonRequest) (reach : Reach) :
    (deliverRequest wire id request reach b.epoch).1.answered = some id ∧
      LeadsTo b.view [(deliverRequest wire id request reach b.epoch).1]
        (if (deliverRequest wire id request reach b.epoch).2 then b.view
          else ⟨b.epoch, .closed⟩) := by
  unfold deliverRequest
  split
  · next hsend =>
    obtain ⟨hversion, hid⟩ := DaemonClient.send_eq_ok hsend
    exact ⟨congrArg some hid, ⟨⟨rfl, hversion⟩, trivial⟩, rfl⟩
  · exact ⟨rfl, ⟨rfl, trivial⟩, rfl⟩

theorem takeEvent_leads (subscription : EventSubscription) (now : ℕ)
    (h : b.subscription = some subscription) :
    LeadsTo b.view (b.takeEvent subscription now).2 (b.takeEvent subscription now).1.view ∧
      (b.takeEvent subscription now).2.filterMap DaemonToUi.answered = [] := by
  unfold takeEvent
  split
  · next hrecv =>
    obtain ⟨hlater, hminimum⟩ := recv_eq_some hrecv
    refine ⟨⟨⟨⟨rfl, subscription.minimumSequence, hlater, ?_⟩, trivial⟩, ?_⟩, rfl⟩
    · simp only [view, h]
    · simp only [view, hminimum]
      rfl
  · exact ⟨⟨⟨rfl, trivial⟩, rfl⟩, rfl⟩

theorem reconnect_leads {establishing : Establishing} {now : ℕ}
    (h : b.reconnect wire establishing now = some (b', sent)) :
    LeadsTo b.view sent b'.view ∧ sent.filterMap DaemonToUi.answered = [] := by
  obtain ⟨exchanged, hexchanged, h⟩ := Option.map_eq_some_iff.1 h
  obtain ⟨stage, hleads, hstage, hanswered⟩ := establish_from (v := b.view) hexchanged
  split at h
  · next subscription houtcome =>
    obtain ⟨rfl, rfl⟩ := Prod.mk.inj h
    rw [hstage subscription houtcome] at hleads
    exact ⟨hleads, hanswered⟩
  · obtain ⟨rfl, rfl⟩ := Prod.mk.inj h
    refine ⟨hleads.append ⟨⟨rfl, trivial⟩, rfl⟩, ?_⟩
    rw [List.filterMap_append, hanswered]
    rfl

/-- Every turn sends what one expects, and an answer to the request it is about. -/
theorem step_leads {x : BridgeInput} (h : b.step wire x = some (b', sent)) :
    LeadsTo b.view sent b'.view ∧ sent.filterMap DaemonToUi.answered = (taken x).toList := by
  unfold step at h
  split at h
  · cases h
  · cases x with
    | request id request reach now =>
      obtain ⟨rfl, rfl⟩ := Prod.mk.inj (Option.some.inj h)
      obtain ⟨hanswered, hleads⟩ := deliverRequest_leads wire b id request reach
      refine ⟨?_, List.filterMap_cons_some hanswered⟩
      split at hleads
      · next hthere =>
        rw [if_pos hthere]
        exact hleads
      · next hgone =>
        rw [if_neg hgone, view_lose]
        exact hleads
    | refreshSnapshot refreshing now =>
      simp only at h
      split at h
      · next hrefresh =>
        obtain ⟨rfl, rfl⟩ := Prod.mk.inj (Option.some.inj h)
        obtain ⟨status, profiles, rfl, -⟩ := refreshDaemonState_eq_ok hrefresh
        refine ⟨⟨⟨rfl, trivial⟩, ?_⟩, rfl⟩
        -- the bridge is past the first snapshot of the connection, or has none
        have hpast : b.view.stage ≠ .opening := by
          unfold view
          cases b.subscription <;> simp
        exact if_neg hpast
      · obtain ⟨rfl, rfl⟩ := Prod.mk.inj (Option.some.inj h)
        exact ⟨⟨⟨rfl, trivial⟩, rfl⟩, rfl⟩
    | shutdown =>
      obtain ⟨rfl, rfl⟩ := Prod.mk.inj (Option.some.inj h)
      exact ⟨⟨trivial, rfl⟩, rfl⟩
    | event now =>
      obtain ⟨subscription, hsubscription, h⟩ := Option.map_eq_some_iff.1 h
      obtain ⟨rfl, rfl⟩ := Prod.ext_iff.1 h
      exact takeEvent_leads subscription now hsubscription
    | reconnect woken establishing now =>
      simp only at h
      split at h
      · exact reconnect_leads h
      · cases h

/-- Only the desktop ends the bridge. -/
theorem running_step {x : BridgeInput} (hx : x ≠ .shutdown) (hrunning : b.running = true)
    (h : b.step wire x = some (b', sent)) : b'.running = true := by
  unfold step at h
  rw [if_neg (by simp [hrunning])] at h
  cases x with
  | request id request reach now =>
    obtain ⟨rfl, -⟩ := Prod.mk.inj (Option.some.inj h)
    split <;> exact hrunning
  | refreshSnapshot refreshing now =>
    simp only at h
    split at h <;> obtain ⟨rfl, -⟩ := Prod.mk.inj (Option.some.inj h) <;> exact hrunning
  | shutdown => exact absurd rfl hx
  | event now =>
    obtain ⟨subscription, -, h⟩ := Option.map_eq_some_iff.1 h
    unfold takeEvent at h
    split at h <;> obtain ⟨rfl, -⟩ := Prod.mk.inj h <;> exact hrunning
  | reconnect woken establishing now =>
    simp only at h
    split at h
    · obtain ⟨exchanged, -, h⟩ := Option.map_eq_some_iff.1 h
      split at h <;> obtain ⟨rfl, -⟩ := Prod.mk.inj h <;> exact hrunning
    · cases h

/-! ## Waiting between connections -/

/-- The time a turn reads if it has to wait. -/
def clock : BridgeInput → ℕ
  | .request _ _ _ now => now
  | .refreshSnapshot _ now => now
  | .shutdown => 0
  | .event now => now
  | .reconnect _ _ now => now

/-- When the bridge began to wait, the latest first, since it last had a connection: a message
that the daemon is not there begins a wait, a connection without one ends them. -/
def noteLosses (losses : List ℕ) (now : ℕ) (sent : List DaemonToUi) : List ℕ :=
  if sent.any DaemonToUi.isUnavailable then now :: losses
  else if sent.any DaemonToUi.isEstablished then []
  else losses

/-- The wait is the one for as many losses. -/
structure Waits (b : Bridge) (losses : List ℕ) : Prop where
  attempt : min b.reconnectAttempt 16 = min losses.length 16
  deadline : ∀ now before, losses = now :: before →
    b.nextReconnect = now + reconnectDelay before.length

theorem Waits.lose {losses : List ℕ} (h : Waits b losses) (now : ℕ) :
    Waits (b.lose now) (now :: losses) where
  attempt := by
    have hattempt := h.attempt
    show min (min (b.reconnectAttempt + 1) (2 ^ 32 - 1)) 16 = min (losses.length + 1) 16
    omega
  deadline := by
    intro now' before heq
    obtain ⟨rfl, rfl⟩ := List.cons.inj heq
    show now + reconnectDelay b.reconnectAttempt = now + reconnectDelay losses.length
    rw [reconnectDelay, reconnectDelay, h.attempt]

/-- The waits are counted by what the bridge says. -/
theorem step_waits {x : BridgeInput} {losses : List ℕ} (hwaits : Waits b losses)
    (h : b.step wire x = some (b', sent)) : Waits b' (noteLosses losses (clock x) sent) := by
  unfold step at h
  split at h
  · cases h
  · cases x with
    | request id request reach now =>
      obtain ⟨rfl, rfl⟩ := Prod.mk.inj (Option.some.inj h)
      unfold deliverRequest
      split
      · exact hwaits
      · exact hwaits.lose now
    | refreshSnapshot refreshing now =>
      simp only at h
      split at h
      · next hrefresh =>
        obtain ⟨rfl, rfl⟩ := Prod.mk.inj (Option.some.inj h)
        obtain ⟨status, profiles, rfl, -⟩ := refreshDaemonState_eq_ok hrefresh
        exact hwaits
      · obtain ⟨rfl, rfl⟩ := Prod.mk.inj (Option.some.inj h)
        exact hwaits.lose now
    | shutdown =>
      obtain ⟨rfl, rfl⟩ := Prod.mk.inj (Option.some.inj h)
      exact ⟨hwaits.attempt, hwaits.deadline⟩
    | event now =>
      obtain ⟨subscription, -, h⟩ := Option.map_eq_some_iff.1 h
      unfold takeEvent at h
      split at h
      · obtain ⟨rfl, rfl⟩ := Prod.mk.inj h
        exact ⟨hwaits.attempt, hwaits.deadline⟩
      · obtain ⟨rfl, rfl⟩ := Prod.mk.inj h
        exact hwaits.lose now
    | reconnect woken establishing now =>
      simp only at h
      split at h
      · obtain ⟨exchanged, hexchanged, h⟩ := Option.map_eq_some_iff.1 h
        split at h
        · next subscription houtcome =>
          obtain ⟨rfl, rfl⟩ := Prod.mk.inj h
          obtain ⟨epoch, snapshot, hsent, hsnapshot⟩ := establish_sent hexchanged houtcome
          rw [hsent]
          simp only [noteLosses, List.any_cons, List.any_nil, hsnapshot]
          exact ⟨rfl, fun _ _ h => by cases h⟩
        · obtain ⟨rfl, rfl⟩ := Prod.mk.inj h
          have hlost := hwaits.lose now
          have hunavailable : ∀ l : List DaemonToUi, ∀ error,
              noteLosses losses now (l ++ [.daemonUnavailable exchanged.epoch none error]) =
                now :: losses := by
            intro l error
            refine if_pos ?_
            rw [List.any_append]
            exact Bool.or_true _
          rw [clock, hunavailable]
          exact ⟨hlost.attempt, hlost.deadline⟩
      · cases h

end Bridge

/-! ## Runs -/

/-- A bridge, with what it has sent, the ids of the requests it has taken, and its waits. -/
structure BridgeRun where
  bridge : Bridge
  sent : List DaemonToUi
  taken : List String
  losses : List ℕ
  deriving DecidableEq

namespace BridgeRun

variable (wire : WireText)

def start (startup : Startup) : Option BridgeRun :=
  (Bridge.start wire startup).map fun started => ⟨started.1, started.2, [], []⟩

def step (r : BridgeRun) (x : BridgeInput) : Option BridgeRun :=
  (r.bridge.step wire x).map fun turned =>
    ⟨turned.1, r.sent ++ turned.2, r.taken ++ (Bridge.taken x).toList,
      Bridge.noteLosses r.losses (Bridge.clock x) turned.2⟩

variable {wire}

/-- What holds of every run. -/
structure Kept (r : BridgeRun) : Prop where
  leads : LeadsTo ⟨0, .closed⟩ r.sent r.bridge.view
  answered : r.sent.filterMap DaemonToUi.answered = r.taken
  waits : r.bridge.Waits r.losses

/-- The loop is entered with a subscription, or with the word that there is none. -/
theorem kept_enterLoop {startup : Startup} {sent : List DaemonToUi}
    {exchanged : Exchanged EventSubscription}
    (h : ({ exchanged with sent := sent ++ exchanged.sent } : Exchanged EventSubscription).From
      ⟨0, .closed⟩) :
    Kept ⟨(Bridge.enterLoop startup sent exchanged).1, (Bridge.enterLoop startup sent exchanged).2,
      [], []⟩ := by
  obtain ⟨stage, hleads, hstage, hanswered⟩ := h
  unfold Bridge.enterLoop
  split
  · next subscription houtcome =>
    obtain rfl := hstage subscription houtcome
    exact ⟨hleads, hanswered, rfl, fun _ _ h => (by cases h)⟩
  · refine ⟨hleads.append ⟨⟨rfl, trivial⟩, rfl⟩, ?_, rfl, fun _ _ h => (by cases h)⟩
    rw [List.filterMap_append, hanswered]
    rfl

theorem kept_start {startup : Startup} {r : BridgeRun} (h : start wire startup = some r) :
    Kept r := by
  obtain ⟨started, hstarted, rfl⟩ := Option.map_eq_some_iff.1 h
  unfold Bridge.start at hstarted
  split at hstarted
  · obtain rfl := Option.some.inj hstarted
    exact ⟨⟨⟨rfl, trivial⟩, rfl⟩, rfl, rfl, fun _ _ h => (by cases h)⟩
  · obtain ⟨first, hfirst, hstarted⟩ := Option.bind_eq_some_iff.1 hstarted
    have hfrom : first.From ⟨0, .closed⟩ := establish_from hfirst
    split at hstarted
    · obtain rfl := Option.some.inj hstarted
      exact kept_enterLoop hfrom
    · split at hstarted
      · obtain rfl := Option.some.inj hstarted
        obtain ⟨stage, hleads, -, hanswered⟩ := hfrom
        exact kept_enterLoop ⟨stage, hleads, fun _ h => (by cases h), hanswered⟩
      · obtain ⟨waited, hwaited, rfl⟩ := Option.map_eq_some_iff.1 hstarted
        obtain ⟨stage, hleads, -, hanswered⟩ := hfrom
        obtain ⟨stage', hleads', hstage', hanswered'⟩ :=
          waitForDaemon_from (v := ⟨first.epoch, stage⟩) hwaited
        refine kept_enterLoop ⟨stage', hleads.append hleads', hstage', ?_⟩
        rw [List.filterMap_append, hanswered, hanswered']
        rfl

theorem kept_step {r r' : BridgeRun} {x : BridgeInput} (hr : Kept r)
    (h : r.step wire x = some r') : Kept r' := by
  obtain ⟨turned, hturned, rfl⟩ := Option.map_eq_some_iff.1 h
  obtain ⟨hleads, hanswered⟩ := Bridge.step_leads hturned
  refine ⟨hr.leads.append hleads, ?_, Bridge.step_waits hr.waits hturned⟩
  rw [List.filterMap_append, hr.answered, hanswered]

/-- In every run of the bridge the messages come as one who sees only them can expect: the
connections are numbered without a gap, every other message names the current one, events follow
its snapshot with growing sequences and none comes once it is lost.  Every request that is taken
is answered exactly once, in this order.  And after a loss the bridge connects again only when
the wait is over that doubles with every loss since it last had a connection. -/
theorem messages_in_order {startup : Startup} {inputs : List BridgeInput} {r r' : BridgeRun}
    (hstart : start wire startup = some r) (hrun : replay (step wire) r inputs = some r') :
    Follows ConnectionView.Expects ConnectionView.after ⟨0, .closed⟩ r'.sent ∧
      r'.sent.filterMap DaemonToUi.answered = r'.taken ∧
      ∀ woken establishing now lost before, r'.losses = lost :: before →
        (r'.step wire (.reconnect woken establishing now)).isSome = true →
        lost + min (250 * 2 ^ before.length) 8000 ≤ woken := by
  have hkept := replay_keeps (fun _ _ _ hr hstep => kept_step hr hstep) (kept_start hstart) hrun
  refine ⟨hkept.leads.1, hkept.answered, ?_⟩
  intro woken establishing now lost before hlosses hstep
  have hwoken : r'.bridge.nextReconnect ≤ woken := by
    by_contra hearly
    have hnone : r'.bridge.step wire (.reconnect woken establishing now) = none := by
      unfold Bridge.step
      split
      · rfl
      · exact if_neg fun hwait => hearly hwait.2
    simp [step, hnone] at hstep
  rw [hkept.waits.deadline lost before hlosses, reconnectDelay_eq] at hwoken
  exact hwoken

/-! ## An instance -/

/-- The JSON of an envelope with a request without parameters. -/
def envelopeText (envelope : DaemonEnvelope) : String :=
  "\x7b\"protocol_version\":" ++ toString envelope.protocolVersion ++ ",\"request_id\":\"" ++
    envelope.requestId ++ "\",\"request\":\x7b\"method\":\"" ++
    (match envelope.request with
      | .getStatus => "GetStatus"
      | .listProfiles => "ListProfiles"
      | .subscribe => "Subscribe"
      | _ => "Deactivate") ++
    "\"\x7d\x7d"

/-- The JSON of a reply with this result. -/
def replyText (id result : String) : String :=
  "\x7b\"protocol_version\":2,\"request_id\":\"" ++ id ++ "\",\"result\":" ++ result ++
    ",\"error\":null\x7d"

def subscribedText : String := replyText "a" "\x7b\"kind\":\"Subscribed\"\x7d"

def statusText : String := replyText "b"
  ("\x7b\"kind\":\"Status\",\"value\":\x7b\"generation\":0,\"event_sequence\":0,\"health\":" ++
    "\x7b\"state\":\"Inactive\",\"lanes\":\x7b\x7d,\"diagnostics\":[]\x7d," ++
    "\"desired_profile_id\":null,\"applied_profile_id\":null,\"last_error\":null," ++
    "\"primary\":\x7b\"grant\":null,\"generation\":0,\"decision\":null," ++
    "\"phase\":\"Inactive\",\"last_error\":null\x7d\x7d\x7d")

def profilesText : String := replyText "c" "\x7b\"kind\":\"Profiles\",\"value\":[]\x7d"

def eventText : String :=
  "\x7b\"event\":\"StateChanged\",\"value\":\x7b\"sequence\":1,\"generation\":1,\"health\":" ++
    "\x7b\"state\":\"Inactive\",\"lanes\":\x7b\x7d,\"diagnostics\":[]\x7d\x7d\x7d"

/-- What is said to a client that finds an inactive daemon. -/
def inactiveText : WireText where
  envelope := ⟨fun envelope => .ok (envelopeText envelope), fun _ => .error "not read"⟩
  response := ⟨fun _ => .error "not written", fun text =>
    if text = subscribedText then .ok (.success "a" .subscribed)
    else if text = statusText then
      .ok (.success "b" (.status ⟨0, 0, .inactive, none, none, none, .inactive 0⟩))
    else if text = profilesText then .ok (.success "c" (.profiles []))
    else .error "not read"⟩
  event := ⟨fun _ => .error "not written", fun text =>
    if text = eventText then .ok (.stateChanged 1 1 .inactive) else .error "not read"⟩

/-- A connection with these frames. -/
def reached (texts : List String) : Reach :=
  .connected (openSink []) (ofPieces (texts.map frameBytes))

def inactiveDaemon : Establishing :=
  ⟨⟨"a", reached [subscribedText, eventText]⟩,
    ⟨⟨"b", reached [statusText]⟩, ⟨"c", reached [profilesText]⟩⟩⟩

def inactiveStartup : Startup :=
  ⟨.ok "/run/user/1000/routelane/routelane.sock", inactiveDaemon, .ok (), fun _ => inactiveDaemon, 0⟩

theorem decode_subscribed {text : String} (h : text = subscribedText) :
    inactiveText.response.decode text = .ok (.success "a" .subscribed) := if_pos h

theorem decode_status {text : String} (h : text = statusText) :
    inactiveText.response.decode text =
      .ok (.success "b" (.status ⟨0, 0, .inactive, none, none, none, .inactive 0⟩)) := by
  have hother : text ≠ subscribedText := by
    rw [h]
    decide +kernel
  exact (if_neg hother).trans (if_pos h)

theorem decode_profiles {text : String} (h : text = profilesText) :
    inactiveText.response.decode text = .ok (.success "c" (.profiles [])) := by
  have hother : text ≠ subscribedText ∧ text ≠ statusText := by
    rw [h]
    decide +kernel
  exact (if_neg hother.1).trans ((if_neg hother.2).trans (if_pos h))

theorem decode_event {text : String} (h : text = eventText) :
    inactiveText.event.decode text = .ok (.stateChanged 1 1 .inactive) := if_pos h

/-- What the daemon says to a request comes back. -/
theorem exchange_inactive {id text reply : String} {result : DaemonResult} (texts : List String)
    (message : String) (request : DaemonRequest)
    (hrequest : inactiveText.envelope.encode (.new id request) = .ok text)
    (hreply : inactiveText.response.decode reply = .ok (.success id result))
    (hfits : text.utf8ByteSize ≤ maxFrameBytes ∧ reply.utf8ByteSize ≤ maxFrameBytes) :
    ∃ rest, DaemonClient.exchange inactiveText (reached (reply :: texts)) (.new id request) message =
      .ok (.success id result, ofPieces rest) ∧ rest.flatten = (texts.map frameBytes).flatten :=
  DaemonClient.exchange_of_decode message hrequest hfits.1 hreply hfits.2
    (validateResponseIdentity_eq_ok.2 ⟨rfl, rfl⟩) rfl

theorem subscribe_inactive :
    DaemonClient.subscribe inactiveText (reached [subscribedText, eventText]) "a" =
      .ok [.stateChanged 1 1 .inactive] := by
  obtain ⟨rest, hexchange, hrest⟩ := exchange_inactive [eventText] "daemon subscription timed out"
    .subscribe rfl (decode_subscribed rfl) (by decide +kernel)
  refine DaemonClient.subscribe_eq_ok.2 ⟨_, hexchange, rfl, rfl, ?_⟩
  exact readEvents_singleton (decode_event rfl) (by decide +kernel)
    (hrest.trans (List.append_nil _))

theorem send_inactive {id text reply : String} {result : DaemonResult} (request : DaemonRequest)
    (hrequest : inactiveText.envelope.encode (.new id request) = .ok text)
    (hreply : inactiveText.response.decode reply = .ok (.success id result))
    (hfits : text.utf8ByteSize ≤ maxFrameBytes ∧ reply.utf8ByteSize ≤ maxFrameBytes) :
    DaemonClient.send inactiveText (reached [reply]) (.new id request) =
      .ok (.success id result) := by
  obtain ⟨rest, hexchange, -⟩ := exchange_inactive [] "daemon request timed out" request
    hrequest hreply hfits
  exact Fallible.bind_eq_ok.2 ⟨_, hexchange, rfl⟩

theorem refresh_inactive : refreshDaemonState inactiveText inactiveDaemon.refresh 1 =
    .ok (.snapshot 1 ⟨0, 0, .inactive, none, none, none, .inactive 0⟩ [], 0) := by
  have hsent := send_inactive .getStatus rfl (decode_status rfl) (by decide +kernel)
  have hlisted := send_inactive .listProfiles rfl (decode_profiles rfl) (by decide +kernel)
  refine Fallible.bind_eq_ok.2 ⟨_, Fallible.bind_eq_ok.2 ⟨_, hsent, rfl⟩, ?_⟩
  exact Fallible.bind_eq_ok.2 ⟨_, Fallible.bind_eq_ok.2 ⟨_, hlisted, rfl⟩, rfl⟩

theorem start_inactive :
    Bridge.start inactiveText inactiveStartup =
      some (⟨1, some ⟨[.stateChanged 1 1 .inactive], 0⟩, 0, 0, true⟩,
        [.connectionEstablished 1,
          .snapshot 1 ⟨0, 0, .inactive, none, none, none, .inactive 0⟩ []]) := by
  have hestablished : establishSubscriptionAndRefresh inactiveText inactiveDaemon 0 =
      some ⟨1, [.connectionEstablished 1,
        .snapshot 1 ⟨0, 0, .inactive, none, none, none, .inactive 0⟩ []],
        .ok ⟨[.stateChanged 1 1 .inactive], 0⟩⟩ := by
    have hsubscribed : DaemonClient.subscribe inactiveText inactiveDaemon.subscribe.reach
        inactiveDaemon.subscribe.id = .ok [.stateChanged 1 1 .inactive] := subscribe_inactive
    have hepoch : advanceConnectionEpoch 0 = some 1 := by decide
    simp only [establishSubscriptionAndRefresh, hsubscribed, hepoch, Option.map_some,
      refresh_inactive]
  simp only [Bridge.start, inactiveStartup, hestablished, Option.bind_some, Bridge.enterLoop,
    List.nil_append]

/-- The daemon is not there again. -/
def noDaemon : Establishing := ⟨⟨"e", .refused "refused"⟩, inactiveDaemon.refresh⟩

/-- One event comes; then the daemon is gone, and not there again at the first attempt. -/
def lossInputs : List BridgeInput :=
  [.event 10, .request "d" .deactivate .timeout 20, .reconnect 270 noDaemon 271]

def lossRun : Option BridgeRun :=
  (start inactiveText inactiveStartup).bind fun r => replay (step inactiveText) r lossInputs

/-- The request is answered, and after the second loss the wait is half a second. -/
theorem messages_in_order_loss :
    ∃ r ∈ lossRun, r.taken = ["d"] ∧ r.sent.filterMap DaemonToUi.answered = ["d"] ∧
      Follows ConnectionView.Expects ConnectionView.after ⟨0, .closed⟩ r.sent ∧
      (r.step inactiveText (.reconnect 771 noDaemon 772)).isSome = true ∧ 271 + 500 ≤ 771 := by
  obtain ⟨first, hstart⟩ : ∃ first, start inactiveText inactiveStartup = some first :=
    ⟨_, by rw [start, start_inactive]; rfl⟩
  have hobserved : lossRun.any (fun r => decide (r.taken = ["d"] ∧ r.losses = [271, 20] ∧
      (r.step inactiveText (.reconnect 771 noDaemon 772)).isSome = true)) = true := by
    rw [lossRun, start, start_inactive]
    decide +kernel
  obtain ⟨r, hr, hobserved⟩ := (Option.any_eq_true _ _).1 hobserved
  obtain ⟨htaken, hlosses, hagain⟩ := of_decide_eq_true hobserved
  have hrun : replay (step inactiveText) first lossInputs = some r := by
    rw [lossRun, hstart] at hr
    exact hr
  obtain ⟨hfollows, hanswered, hwaits⟩ := messages_in_order hstart hrun
  exact ⟨r, hr, htaken, htaken ▸ hanswered, hfollows, hagain,
    hwaits 771 noDaemon 772 271 [20] hlosses hagain⟩

end BridgeRun

end RouteLane
