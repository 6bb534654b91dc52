import RouteLane.Config.Schema
import RouteLane.Lib.Fallible
import RouteLane.Lib.Steps
import RouteLane.Ipc.Protocol

/-!
# The session of the desktop client

`UiSession` holds what the client knows about the daemon and the one operation it is
waiting for.  The user begins saves and requests; the results of the configuration writer
and the messages of the daemon arrive in any order, those of earlier requests and of
earlier connections among them.
-/

namespace RouteLane

open Fallible Steps

inductive OperationKind where
  | apply
  | setRuleEnabled
  | deactivate
  | launch
  | adopt
  | recover
  | saveOnly
  | changeLanguage
  deriving DecidableEq, Repr

inductive OperationStage where
  | saving
  | awaitingReply
  | awaitingSnapshot
  deriving DecidableEq, Repr

inductive SaveState where
  | clean
  | saving
  | savedInactive
  | applying
  | applied
  | savedUnapplied
  | failed
  deriving DecidableEq, Repr

inductive UiGateError where
  | busy
  | stateUnknown
  | readOnlyConfig
  | unappliedProfile
  | disabledRule
  deriving DecidableEq, Repr

inductive AfterSave where
  | none
  | request (request : DaemonRequest)
  | quitApplication
  deriving DecidableEq, Repr

def AfterSave.isRequest : AfterSave → Bool
  | .request _ => true
  | _ => false

inductive UiEffect where
  | persist (generation : ℕ) (config : ConfigV4)
  | send (requestId : String) (request : DaemonRequest)
  | refreshSnapshot
  | quitApplication
  deriving DecidableEq, Repr

/-- A request that changes something, or starts to. -/
def DaemonRequest.mutates : DaemonRequest → Bool
  | .getStatus | .listProfiles | .subscribe => false
  | _ => true

/-- What the bridge to the daemon tells the client. -/
inductive DaemonToUi where
  | connectionEstablished (epoch : ℕ)
  | snapshot (epoch : ℕ) (status : DaemonStatus) (profiles : List Profile)
  | response (epoch : ℕ) (response : DaemonResponse)
  | event (epoch : ℕ) (event : DaemonEvent)
  | daemonUnavailable (epoch : ℕ) (requestId : Option String) (error : IpcError)
  deriving DecidableEq

/-- The operation the client waits for. -/
structure Pending where
  kind : OperationKind
  stage : OperationStage
  requestId : Option String
  saveGeneration : Option ℕ
  candidate : Option Profile
  followUp : AfterSave
  expectedGeneration : Option ℕ
  deriving DecidableEq, Repr

structure UiSession where
  epoch : ℕ
  known : Bool
  status : Option DaemonStatus
  /-- Generation and event sequence of the last status accepted on this connection. -/
  acceptedRevision : Option (ℕ × ℕ)
  savedProfile : Profile
  appliedRevision : Option (ℕ × Profile)
  writable : Bool
  persistenceGeneration : ℕ
  pending : Option Pending
  error : Option IpcError
  configError : Option IpcError
  saveState : SaveState
  profiles : List Profile
  result : Option DaemonResult
  deriving DecidableEq

/-- `same_profile`: equal up to whether they are enabled. -/
def sameProfile (left right : Profile) : Bool :=
  { left with enabled := false }.same { right with enabled := false }

namespace UiSession

def new (profile : Profile) (configWritable : Bool) : UiSession where
  epoch := 0
  known := false
  status := none
  acceptedRevision := none
  savedProfile := profile
  appliedRevision := none
  writable := configWritable
  persistenceGeneration := 0
  pending := none
  error := none
  configError := none
  saveState := .clean
  profiles := []
  result := none

def configurationFailed (s : UiSession) (error : String) : UiSession :=
  { s with writable := false, saveState := .failed,
           configError := some ⟨"UI_CONFIG_FAILED", error⟩ }

def isBusy (s : UiSession) : Bool :=
  s.pending.isSome ||
    (s.known && s.status.any fun status => status.health.state == .applying)

def needsReapply (s : UiSession) (profile : Profile) : Bool :=
  !s.known || !s.appliedRevision.any fun revision =>
    (s.status.any fun status =>
      status.generation == revision.1 && status.appliedProfileId == some profile.id) &&
    sameProfile revision.2 profile && sameProfile s.savedProfile profile

def applicationActionsEnabled (s : UiSession) (profile : Profile) (rule : Rule) : Bool :=
  !s.isBusy && !s.needsReapply profile && rule.enabled && rule.source != .any &&
    profile.rules.any (·.same rule)

/-- The stage of the pending operation. -/
def stage (s : UiSession) : Option OperationStage := s.pending.map Pending.stage

/-! ## Beginning an operation -/

/-- `begin_save`; there is no session after it where the counter of saves is exhausted. -/
def beginSave (s : UiSession) (config : ConfigV4) (profile : Profile) (followUp : AfterSave) :
    Except UiGateError (Option (UiSession × List UiEffect)) :=
  if s.isBusy then .error .busy
  else if !s.writable then .error .readOnlyConfig
  else if followUp.isRequest && !s.known then .error .stateUnknown
  else if s.persistenceGeneration + 1 = 2 ^ 64 then .ok none
  else
    .ok (some
      ({ s with
          persistenceGeneration := s.persistenceGeneration + 1
          pending := some
            { kind := if followUp = .quitApplication then .changeLanguage else .saveOnly
              stage := .saving
              requestId := none
              saveGeneration := some (s.persistenceGeneration + 1)
              candidate := some profile
              followUp := followUp
              expectedGeneration := none }
          saveState := .saving
          error := none },
        [.persist (s.persistenceGeneration + 1) config]))

/-- The error of the last operation offers recovery. -/
def recoveryOffered (s : UiSession) : Bool :=
  s.error.any fun error => error.code == "DAEMON_ORPHANED_RESOURCES"

/-- The checks launching and adopting share. -/
def applicationGate (s : UiSession) (profileId : ProfileId) (ruleId : RuleId)
    (submittedProfile : Option Profile) (kind : OperationKind) : Except UiGateError OperationKind :=
  let profile := submittedProfile.getD s.savedProfile
  match profile.rules.find? fun rule => rule.id == ruleId with
  | none => .error .disabledRule
  | some rule =>
    if profile.id != profileId || !s.applicationActionsEnabled profile rule then
      .error .unappliedProfile
    else .ok kind

/-- The kind of operation a request asks for; those that only read are not asked about. -/
def operationKind (s : UiSession) (submittedProfile : Option Profile) :
    DaemonRequest → Except UiGateError OperationKind
  | .applyProfile _ => .ok .apply
  | .setRuleEnabled .. => .ok .setRuleEnabled
  | .launchApplication profileId ruleId =>
    s.applicationGate profileId ruleId submittedProfile .launch
  | .adoptApplicationProcesses profileId ruleId =>
    s.applicationGate profileId ruleId submittedProfile .adopt
  | .recoverOrphanedResources => if s.recoveryOffered then .ok .recover else .error .unappliedProfile
  | _ =>
    if s.status.all fun status => status.appliedProfileId.isNone then .error .unappliedProfile
    else .ok .deactivate

/-- The kind of operation a request that changes something starts, or why it is refused. -/
def requestGate (s : UiSession) (submittedProfile : Option Profile) (request : DaemonRequest) :
    Except UiGateError OperationKind := do
  failIf (s.isBusy = true) .busy
  failIf (s.known = false ∧ ¬(request = .recoverOrphanedResources ∧ s.recoveryOffered = true))
    .stateUnknown
  let kind ← s.operationKind submittedProfile request
  failIf ((kind = .apply ∨ kind = .setRuleEnabled) ∧ s.writable = false) .readOnlyConfig
  return kind

/-- The profile the client submits with a request. -/
def candidateOf (request : DaemonRequest) (submittedProfile : Option Profile) : Option Profile :=
  match request with
  | .applyProfile profile => some profile
  | _ => submittedProfile

/-- `begin_request`; `id` is the fresh id of the request. -/
def beginRequest (s : UiSession) (id : String) (request : DaemonRequest)
    (submittedProfile : Option Profile) : Except UiGateError (UiSession × List UiEffect) :=
  if request.mutates = false then .ok (s, [.send id request])
  else do
    let kind ← s.requestGate submittedProfile request
    return ({ s with
        pending := some
          { kind := kind
            stage := .awaitingReply
            requestId := some id
            saveGeneration := none
            candidate := candidateOf request submittedProfile
            followUp := .none
            expectedGeneration := none }
        error := none
        result := none
        saveState := if kind = .apply ∨ kind = .setRuleEnabled then .applying else s.saveState },
      [.send id request])

/-! ## The configuration writer -/

/-- The save with this number is pending. -/
def awaitsPersistence (s : UiSession) (generation : ℕ) : Bool :=
  s.pending.any fun p => p.stage == .saving && p.saveGeneration == some generation

/-- `handle_persistence` once the save it answers is taken. -/
def finishSave (s : UiSession) (pending : Pending) (id : String) :
    Except String Unit → UiSession × List UiEffect
  | .error error => (({ s with pending := none }).configurationFailed error, [])
  | .ok () =>
    let s' : UiSession :=
      { s with
        pending := none
        savedProfile := pending.candidate.getD s.savedProfile
        saveState :=
          if s.status.any fun status => status.appliedProfileId.isSome then .savedUnapplied
          else .savedInactive }
    match pending.followUp with
    | .none => (s', [])
    | .quitApplication => (s', [.quitApplication])
    | .request request =>
      match s'.beginRequest id request (some s'.savedProfile) with
      | .ok begun => begun
      | .error _ => ({ s' with saveState := .savedUnapplied }, [.refreshSnapshot])

/-- `handle_persistence`; `id` is the fresh id of a request that follows the save. -/
def handlePersistence (s : UiSession) (generation : ℕ) (result : Except String Unit)
    (id : String) : UiSession × List UiEffect :=
  match s.pending with
  | some pending =>
    if s.awaitsPersistence generation then s.finishSave pending id result else (s, [])
  | none => (s, [])

/-! ## The daemon -/

/-- `accept_status`, where it accepts. -/
def acceptStatus (s : UiSession) (status : DaemonStatus) : Option UiSession :=
  -- helper generations restart after a cleanup, event sequences do not
  if s.acceptedRevision.any fun revision => status.OlderThan revision.1 revision.2 then none
  else some { s with acceptedRevision := some (status.generation, status.eventSequence),
                     status := some status }

/-- The status, where it is accepted. -/
def noteStatus (s : UiSession) (status : DaemonStatus) : UiSession :=
  (s.acceptStatus status).getD s

/-- An operation that is not a save is dropped. -/
def abandon (s : UiSession) : UiSession :=
  if s.pending.any fun p => p.stage != .saving then
    { s with pending := none, saveState := .savedUnapplied }
  else s

/-- The snapshot confirms the plan the pending operation was told of. -/
def Confirms (p : Pending) (status : DaemonStatus) : Prop :=
  p.expectedGeneration = some status.generation ∧
    status.appliedProfileId = p.candidate.map Profile.id

instance (p : Pending) (status : DaemonStatus) : Decidable (Confirms p status) :=
  inferInstanceAs (Decidable (_ ∧ _))

/-- The applied revision is no longer what the status tells of. -/
def supersedes (status : DaemonStatus) (revision : ℕ × Profile) : Bool :=
  revision.1 != status.generation || status.appliedProfileId != some revision.2.id

/-- What an accepted snapshot does to the pending operation. -/
def settle (s : UiSession) (status : DaemonStatus) : UiSession :=
  match s.pending with
  | none => s
  | some p =>
    if p.stage = .awaitingSnapshot ∧ Confirms p status then
      { s with pending := none, saveState := .applied }
    else if p.stage = .awaitingSnapshot then
      { s with pending := none, appliedRevision := none, saveState := .savedUnapplied }
    else s

/-- The snapshot is from before the generation the pending operation was told of. -/
def predates (s : UiSession) (status : DaemonStatus) : Bool :=
  s.pending.any fun p =>
    p.stage == .awaitingSnapshot && p.expectedGeneration.any fun expected =>
      status.generation < expected

def handleSnapshot (s : UiSession) (status : DaemonStatus) (profiles : List Profile) : UiSession :=
  if s.predates status then s
  else
    match s.acceptStatus status with
    | none => s
    | some t =>
      settle { t with
        profiles := profiles
        known := true
        appliedRevision := t.appliedRevision.filter fun revision => !supersedes status revision }
        status

/-- The status an event tells of: what the client has, with the event's part replaced. -/
def statusAfter (status : DaemonStatus) : DaemonEvent → DaemonStatus
  | .primaryChanged sequence generation primary =>
    { status with generation := generation, eventSequence := sequence, primary := primary }
  | .stateChanged sequence generation health =>
    { status with generation := generation, eventSequence := sequence, health := health }
  | .operationFailed sequence generation health _ =>
    { status with generation := generation, eventSequence := sequence, health := health }

def handleEvent (s : UiSession) (event : DaemonEvent) : UiSession :=
  match s.status with
  | none => s
  | some status => s.noteStatus (statusAfter status event)

/-- A reply that cannot be what the request asked for. -/
def refuseResponse (s : UiSession) (message : String) : UiSession :=
  { s with error := some ⟨"IPC_INVALID_RESPONSE", message⟩, known := false }

/-- `accepts_reply` on the current connection. -/
def awaitsReply (s : UiSession) (requestId : String) : Bool :=
  s.pending.any fun p => p.stage == .awaitingReply && p.requestId == some requestId

/-- The result of the pending request, once the reply is one without an error. -/
def handleResult (s : UiSession) (pending : Pending) :
    Option DaemonResult → UiSession × List UiEffect
  | some (.applied result) =>
    if pending.kind = .apply ∨ pending.kind = .setRuleEnabled then
      ({ s with
          appliedRevision :=
            match pending.candidate with
            | some profile => some (result.generation, profile)
            | none => s.appliedRevision
          pending := some { pending with stage := .awaitingSnapshot,
                                         expectedGeneration := some result.generation }
          saveState := .applying },
        [.refreshSnapshot])
    else unexpected
  | some .deactivated =>
    if pending.kind = .deactivate then
      ({ s with
          status := s.status.map fun status =>
            { status with appliedProfileId := none, health := .inactive, lastError := none }
          appliedRevision := none
          saveState := .savedInactive
          result := some .deactivated },
        [.refreshSnapshot])
    else unexpected
  | some (.applicationLaunched result) =>
    if pending.kind = .launch then
      ({ s with result := some (.applicationLaunched result) }, [])
    else unexpected
  | some (.applicationProcessesAdopted result) =>
    if pending.kind = .adopt then
      ({ s with result := some (.applicationProcessesAdopted result) }, [])
    else unexpected
  | some (.orphanedResourcesRecovered result) =>
    if pending.kind = .recover then
      ({ s with result := some (.orphanedResourcesRecovered result), known := false,
                appliedRevision := none },
        [.refreshSnapshot])
    else unexpected
  | _ => unexpected
where
  unexpected : UiSession × List UiEffect :=
    ({ s.refuseResponse "request returned an unexpected response" with appliedRevision := none },
      [.refreshSnapshot])

/-- The reply to a request nothing waits for. -/
def noteUnmatched (s : UiSession) (response : DaemonResponse) : UiSession :=
  match response.result with
  | some (.status status) => s.noteStatus status
  | _ => s

def handleResponse (s : UiSession) (response : DaemonResponse) : UiSession × List UiEffect :=
  match s.pending with
  | some pending =>
    if s.awaitsReply response.requestId then
      let s' := { s with pending := none }
      if response.protocolVersion ≠ ipcProtocolVersion then
        (s'.refuseResponse "unsupported response version", [.refreshSnapshot])
      else
        match response.error with
        | some error =>
          ({ s' with error := some error, appliedRevision := none, saveState := .savedUnapplied,
                     known := false },
            [.refreshSnapshot])
        | none => s'.handleResult pending response.result
    else (s.noteUnmatched response, [])
  | none => (s.noteUnmatched response, [])

/-- The loss concerns another request than the pending one. -/
def otherRequest (s : UiSession) (requestId : Option String) : Bool :=
  requestId.any fun id => s.pending.any fun p => p.requestId != some id

def handleUnavailable (s : UiSession) (requestId : Option String) (error : IpcError) :
    UiSession × List UiEffect :=
  if s.otherRequest requestId then (s, [])
  else
    (({ s with known := false, appliedRevision := none, error := some error }).abandon,
      [.refreshSnapshot])

def handleConnection (s : UiSession) (epoch : ℕ) : UiSession :=
  if epoch ≤ s.epoch then s
  else
    ({ s with epoch := epoch, known := false, acceptedRevision := none,
              appliedRevision := none }).abandon

def handleDaemon (s : UiSession) : DaemonToUi → UiSession × List UiEffect
  | .connectionEstablished epoch => (s.handleConnection epoch, [])
  | .snapshot epoch status profiles =>
    if epoch = s.epoch then (s.handleSnapshot status profiles, []) else (s, [])
  | .response epoch response => if epoch = s.epoch then s.handleResponse response else (s, [])
  | .event epoch event =>
    if epoch = s.epoch then (s.handleEvent event, [.refreshSnapshot]) else (s, [])
  | .daemonUnavailable epoch requestId error =>
    if epoch = s.epoch then s.handleUnavailable requestId error else (s, [])

end UiSession

/-! ## Runs -/

/-- What can happen to a session. -/
inductive UiInput where
  | save (config : ConfigV4) (profile : Profile) (followUp : AfterSave)
  | request (id : String) (request : DaemonRequest) (submittedProfile : Option Profile)
  | persisted (generation : ℕ) (result : Except String Unit) (id : String)
  | daemon (message : DaemonToUi)
  | configurationFailed (error : String)

namespace UiSession

/-- One input, with what the session asks for; a refused operation changes nothing. -/
def react (s : UiSession) : UiInput → Option (UiSession × List UiEffect)
  | .save config profile followUp =>
    match s.beginSave config profile followUp with
    | .error _ => some (s, [])
    | .ok begun => begun
  | .request id request submittedProfile =>
    match s.beginRequest id request submittedProfile with
    | .error _ => some (s, [])
    | .ok begun => some begun
  | .persisted generation result id => some (s.handlePersistence generation result id)
  | .daemon message => some (s.handleDaemon message)
  | .configurationFailed error => some (s.configurationFailed error, [])

def step (s : UiSession) (x : UiInput) : Option UiSession := (s.react x).map Prod.fst

end UiSession

end RouteLane
