import RouteLane.Ui.Session
import RouteLane.Lib.Histories

/-!
# The controller of the desktop client

`UiController` sits between the window, the session and the two workers.  When an apply fails
because of resources that are nobody's, the controller offers to recover them; once the user
has confirmed and the daemon has recovered them, it applies the profile again by itself.
-/

namespace RouteLane

open Histories

/-- `DAEMON_ORPHANED_RESOURCES`. -/
def orphanedResources : String := "DAEMON_ORPHANED_RESOURCES"

/-- The profile a request applies. -/
def DaemonRequest.profileToApply : DaemonRequest → Option Profile
  | .applyProfile profile => some profile
  | _ => none

def AfterSave.profileToApply : AfterSave → Option Profile
  | .request following => following.profileToApply
  | .none | .quitApplication => .none

def DaemonToUi.isSnapshot : DaemonToUi → Bool
  | .snapshot .. => true
  | _ => false

def DaemonToUi.isUnavailable : DaemonToUi → Bool
  | .daemonUnavailable .. => true
  | _ => false

def DaemonResult.isRecovered : DaemonResult → Bool
  | .orphanedResourcesRecovered _ => true
  | _ => false

def UiSession.acceptsReply (s : UiSession) (epoch : ℕ) (id : String) : Bool :=
  epoch == s.epoch && s.awaitsReply id

def UiSession.operation (s : UiSession) : Option OperationKind := s.pending.map Pending.kind

structure UiController where
  session : UiSession
  /-- There is a configuration writer. -/
  persistence : Bool
  recovery : Option Profile
  retryUsed : Bool
  recoveryStarted : Bool
  retryAfterRefresh : Bool
  completedId : Option String
  deriving DecidableEq

namespace UiController

def new (session : UiSession) (persistence : Bool) : UiController :=
  ⟨session, persistence, none, false, false, false, none⟩

/-- What an apply of the user's resets. -/
def newCycle (c : UiController) : UiController :=
  { c with retryUsed := false, recoveryStarted := false, recovery := none }

/-- `save`, with what it asks for and whether it was begun; the program ends where the counter of
saves is exhausted. -/
def save (c : UiController) (config : ConfigV4) (profile : Profile) (followUp : AfterSave) :
    Option (UiController × List UiEffect × Bool) :=
  if c.persistence = false then
    some ({ c with
      session := c.session.configurationFailed "configuration writer is unavailable" }, [], false)
  else
    match c.session.beginSave config profile followUp with
    | .error _ => some (c, [], false)
    | .ok none => none
    | .ok (some begun) =>
      let c' := if followUp.profileToApply.isSome then c.newCycle else c
      some ({ c' with session := begun.1 }, begun.2, true)

/-- `submit_request`, with what it asks for and whether it was begun. -/
def submitRequest (c : UiController) (id : String) (request : DaemonRequest)
    (submittedProfile : Option Profile) (startsCycle : Bool) :
    UiController × List UiEffect × Bool :=
  match c.session.beginRequest id request submittedProfile with
  | .error _ => (c, [], false)
  | .ok begun =>
    let c' := if request.profileToApply.isSome && startsCycle then c.newCycle else c
    ({ c' with session := begun.1 }, begun.2, true)

def request (c : UiController) (id : String) (request : DaemonRequest)
    (submittedProfile : Option Profile) : UiController × List UiEffect × Bool :=
  c.submitRequest id request submittedProfile true

def recoveryAvailable (c : UiController) : Bool :=
  c.recovery.isSome && !c.recoveryStarted && !c.retryUsed && !c.retryAfterRefresh

def cancelRecovery (c : UiController) : UiController :=
  { c with recovery := none, recoveryStarted := false, retryAfterRefresh := false }

def confirmRecovery (c : UiController) (id : String) : UiController × List UiEffect × Bool :=
  if c.recoveryAvailable = false then (c, [], false)
  else
    let asked := { c with recoveryStarted := true }.request id .recoverOrphanedResources none
    if asked.2.2 then asked else ({ asked.1 with recoveryStarted := false }, asked.2.1, false)

/-- The reply says that the pending apply met resources that are nobody's. -/
def failsOrphaned (s : UiSession) (response : DaemonResponse) : Bool :=
  s.operation == some .apply && response.error.any fun error => error.code == orphanedResources

/-- The reply says that the pending recovery is done. -/
def reportsRecovery (s : UiSession) (response : DaemonResponse) : Bool :=
  s.operation == some .recover && response.result.any DaemonResult.isRecovered

/-- What `receive` notes of a reply before the session handles it. -/
def noteReply (c : UiController) : DaemonToUi → UiController
  | .response epoch response =>
    if c.session.acceptsReply epoch response.requestId then
      { c with
        recovery :=
          if failsOrphaned c.session response && !c.retryUsed then
            c.session.pending.bind Pending.candidate
          else c.recovery
        retryAfterRefresh := reportsRecovery c.session response || c.retryAfterRefresh
        completedId := some response.requestId }
    else c
  | _ => c

/-- The profile is applied again, with what that asks for. -/
def retry (c : UiController) (id : String) : UiController × List UiEffect :=
  let c' := { c with retryAfterRefresh := false, retryUsed := true, recovery := none }
  match c.recovery with
  | none => (c', [])
  | some profile =>
    let submitted := c'.submitRequest id (.applyProfile profile) (some profile) false
    (submitted.1, submitted.2.1)

/-- The session once the message is handled. -/
def handled (c : UiController) (message : DaemonToUi) : UiController :=
  { c.noteReply message with session := (c.session.handleDaemon message).1 }

/-- The condition under which a message makes the controller try again. -/
def retries (c : UiController) (message : DaemonToUi) : Bool :=
  message.isSnapshot && c.retryAfterRefresh && c.session.known && !c.session.isBusy

/-- `receive`; `id` is the fresh id of a request that follows. -/
def receive (c : UiController) (message : DaemonToUi) (id : String) :
    UiController × List UiEffect :=
  -- a lost connection is retried by the bridge, and not by a refresh
  let effects := if message.isUnavailable then [] else (c.session.handleDaemon message).2
  if (c.handled message).retries message then
    (((c.handled message).retry id).1, effects ++ ((c.handled message).retry id).2)
  else (c.handled message, effects)

end UiController

/-! ## Runs -/

/-- What can happen to a controller. -/
inductive ControllerInput where
  | save (config : ConfigV4) (profile : Profile) (followUp : AfterSave)
  | request (id : String) (request : DaemonRequest) (submittedProfile : Option Profile)
  | refresh
  | cancelRecovery
  | confirmRecovery (id : String)
  | receive (message : DaemonToUi) (id : String)
  | persisted (generation : ℕ) (result : Except String Unit) (id : String)

namespace UiController

/-- One input, with what the controller asks for. -/
def react (c : UiController) : ControllerInput → Option (UiController × List UiEffect)
  | .save config profile followUp =>
    (c.save config profile followUp).map fun saved => (saved.1, saved.2.1)
  | .request id request submittedProfile =>
    some ((c.request id request submittedProfile).1, (c.request id request submittedProfile).2.1)
  | .refresh => some (c, [.refreshSnapshot])
  | .cancelRecovery => some (c.cancelRecovery, [])
  | .confirmRecovery id => some ((c.confirmRecovery id).1, (c.confirmRecovery id).2.1)
  | .receive message id => some (c.receive message id)
  | .persisted generation result id =>
    some ({ c with session := (c.session.handlePersistence generation result id).1 },
      (c.session.handlePersistence generation result id).2)

end UiController

/-! ## What is observed -/

/-- What matters to a recovery. -/
inductive RecoveryEvent where
  /-- The user began an apply, by itself or after a save. -/
  | userApply (profile : Profile)
  /-- The pending apply failed with resources that are nobody's. -/
  | applyFailed (profile : Profile)
  | confirmed
  | cancelled
  /-- The daemon reported the recovery done. -/
  | recovered
  /-- A snapshot was accepted. -/
  | refreshed
  /-- The controller applied a profile by itself, with the session as it was then. -/
  | reapplied (profile : Profile) (session : UiSession)
  deriving DecidableEq

/-- The session takes the snapshot for its state. -/
def UiSession.acceptsSnapshot (s : UiSession) (epoch : ℕ) (status : DaemonStatus) : Bool :=
  epoch == s.epoch && !s.predates status && (s.acceptStatus status).isSome

namespace UiController

/-- The profile the user's input begins to apply. -/
def startedApply (c : UiController) : ControllerInput → Option Profile
  | .save config profile followUp =>
    if (c.save config profile followUp).any fun saved => saved.2.2 then followUp.profileToApply
    else none
  | .request id request submittedProfile =>
    if (c.request id request submittedProfile).2.2 then request.profileToApply else none
  | _ => none

/-- What a message tells, to the session as it is before. -/
def reported (s : UiSession) : DaemonToUi → List RecoveryEvent
  | .response epoch response =>
    if s.acceptsReply epoch response.requestId then
      (if failsOrphaned s response then
        ((s.pending.bind Pending.candidate).map .applyFailed).toList else []) ++
      if reportsRecovery s response then [.recovered] else []
    else []
  | .snapshot epoch status _ => if s.acceptsSnapshot epoch status then [.refreshed] else []
  | _ => []

/-- The profile an effect applies. -/
def applied : UiEffect → Option Profile
  | .send _ request => request.profileToApply
  | _ => none

/-- What an input is to a recovery, the latest first. -/
def observe (c : UiController) : ControllerInput → List RecoveryEvent
  | .save config profile followUp =>
    ((c.startedApply (.save config profile followUp)).map .userApply).toList
  | .request id request submittedProfile =>
    ((c.startedApply (.request id request submittedProfile)).map .userApply).toList
  | .refresh => []
  | .cancelRecovery => [.cancelled]
  | .confirmRecovery id => if (c.confirmRecovery id).2.2 then [.confirmed] else []
  | .receive message id =>
    ((c.receive message id).2.filterMap applied).map (.reapplied · (c.handled message).session) ++
      reported c.session message
  | .persisted .. => []

end UiController

/-- A controller, and what was observed of it. -/
structure ObservedController where
  controller : UiController
  history : List RecoveryEvent
  deriving DecidableEq

namespace ObservedController

def start (profile : Profile) (writable persistence : Bool) : ObservedController :=
  ⟨.new (.new profile writable) persistence, []⟩

def step (o : ObservedController) (x : ControllerInput) : Option ObservedController :=
  (o.controller.react x).map fun reacted => ⟨reacted.1, o.controller.observe x ++ o.history⟩

end ObservedController

/-! ## The law -/

namespace RecoveryEvent

/-- Nothing that ends the recovery of a failed apply or begins another. -/
def Quiet : RecoveryEvent → Prop
  | .userApply _ | .applyFailed _ | .cancelled | .reapplied .. => False
  | .confirmed | .recovered | .refreshed => True

instance : DecidablePred Quiet
  | .userApply _ | .applyFailed _ | .cancelled | .reapplied .. => instDecidableFalse
  | .confirmed | .recovered | .refreshed => instDecidableTrue

/-- The apply of the profile is the last thing that failed, and that is where things stand. -/
def Failed (profile : Profile) : List RecoveryEvent → Prop :=
  Since Quiet (.applyFailed profile) fun _ => True

/-- The user has confirmed the recovery for it since. -/
def Confirmed (profile : Profile) : List RecoveryEvent → Prop :=
  Since Quiet .confirmed (Failed profile)

/-- The daemon has reported the recovery done since. -/
def Recovered (profile : Profile) : List RecoveryEvent → Prop :=
  Since Quiet .recovered (Confirmed profile)

/-- A snapshot has been accepted since. -/
def Refreshed (profile : Profile) : List RecoveryEvent → Prop :=
  Since Quiet .refreshed (Recovered profile)

instance (profile : Profile) : DecidablePred (Failed profile) :=
  inferInstanceAs (DecidablePred (Since _ _ _))

instance (profile : Profile) : DecidablePred (Confirmed profile) :=
  inferInstanceAs (DecidablePred (Since _ _ _))

instance (profile : Profile) : DecidablePred (Recovered profile) :=
  inferInstanceAs (DecidablePred (Since _ _ _))

instance (profile : Profile) : DecidablePred (Refreshed profile) :=
  inferInstanceAs (DecidablePred (Since _ _ _))

/-- Nothing was applied again since the last apply of the user's. -/
def Unspent : List RecoveryEvent → Prop
  | .userApply _ :: _ => True
  | .reapplied .. :: _ => False
  | _ :: before => Unspent before
  | [] => True

/-- Whatever was applied again: its apply had failed, the user had confirmed the recovery, the
daemon had reported it done, a snapshot had been accepted, in this order and with nothing in
between that ends it; the session was not busy; and nothing had been applied again since the
user's last apply. -/
def Lawful (history : List RecoveryEvent) : Prop :=
  ∀ profile session before, .reapplied profile session :: before <:+ history →
    Refreshed profile before ∧ Unspent before ∧ session.known = true ∧ session.isBusy = false

end RecoveryEvent

end RouteLane
