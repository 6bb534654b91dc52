import RouteLane.Helper.Cgroups

/-!
# The service of the helper

The methods on the system bus and the monitor of the kernel, as tasks that run side by side.
A backend operation holds the lock of the backend from its start to its end, so it is one
step; bus, polkit, kernel and file system answer what they answer, and while one task waits
the others go on.

* `PrivilegedService` is the core every method goes through: who asks is authorized, what is
  asked for is decoded and checked, and only then the backend runs.
* `HelperRequest.serve` is a method of `Helper1` or `Helper2`.
* `HelperRefresher` is what the monitor runs.  It asks nobody and no method leads to it.
-/

namespace RouteLane

open Tasks Faults

/-! ## The backend -/

/-- The operations of `PrivilegedBackend`. -/
inductive BackendCall where
  | apply (plan : KernelPlan)
  | inspect
  | restore (failedCandidate : KernelPlan) (previous : Option KernelPlan)
  | cleanup
  | recoverOrphaned
  | activateRuntime (activation : RuntimeActivation) (uid : ℕ) (topology : TopologySnapshot)
      (now : ℕ)
  | refreshRuntime (topology : TopologySnapshot) (now : ℕ)
  | restoreRuntime (token : String) (uid : ℕ)
  | runtimeStatus
  | degradeRuntime (reason : String)

/-- What an operation returns; of responses what the memory shows. -/
@[reducible] def BackendCall.Reply : BackendCall → Type
  | .apply _ | .restore _ _ | .recoverOrphaned => Unit
  | .cleanup => Bool
  | .activateRuntime _ _ _ _ => RuntimeStatus × Option KernelPlan × String
  | .inspect | .refreshRuntime _ _ | .restoreRuntime _ _ | .runtimeStatus | .degradeRuntime _ =>
    RuntimeStatus

/-- An activation, with the status and the plan it left in force. -/
def activateAndTell (p : Primitives) (activation : RuntimeActivation) (uid : ℕ)
    (topology : TopologySnapshot) (now : ℕ) :
    BackendM (RuntimeStatus × Option KernelPlan × String) := do
  let token ← activateRuntime p activation uid topology now
  let backend ← Program.get
  return (backend.status, backend.current, token)

def BackendCall.program (p : Primitives) : (call : BackendCall) → BackendM call.Reply
  | .apply plan => RouteLane.apply p plan
  | .inspect => inspectState p
  | .restore failedCandidate previous => restorePlan p failedCandidate previous
  | .cleanup => cleanupWithReceipt p none
  | .recoverOrphaned => RouteLane.recoverOrphaned p
  | .activateRuntime activation uid topology now => activateAndTell p activation uid topology now
  | .refreshRuntime topology now => RouteLane.refreshRuntime p topology now
  | .restoreRuntime token uid => RouteLane.restoreRuntime p token uid
  | .runtimeStatus => RouteLane.runtimeStatus p
  | .degradeRuntime reason => RouteLane.degradeRuntime p reason

/-! ## The process -/

/-- What the helper was told. -/
inductive Fact where
  /-- polkit granted a request of the sender. -/
  | granted (sender : String) (request : HelperRequest)
  | identified (sender : String) (uid : ℕ)
  | captured (topology : TopologySnapshot)

structure Helper where
  backend : World System Backend
  /-- The status the monitor saw last. -/
  last : Option RuntimeStatus
  /-- The `RuntimeChanged` signals, the latest last. -/
  signals : List RuntimeStatus
  /-- Every state a command of the backend left behind. -/
  left : List (Event System)
  facts : List Fact

/-- A process that has just been started. -/
def Helper.started (machine : System) (faults : ℕ → Bool) : Helper :=
  ⟨⟨machine, .fresh, faults⟩, none, [], [], []⟩

inductive HelperStep where
  | backend (call : BackendCall)
  /-- `publish` remembers the status. -/
  | remember (status : RuntimeStatus)
  | announce (status : RuntimeStatus)
  /-- Something else changes the system. -/
  | disturb (machine : System)

/-- The state after an operation of the backend. -/
def Helper.ran (s : Helper) {α : Type} (q : BackendM α) : Helper :=
  { s with backend := (q s.backend).world, left := s.left ++ (q s.backend).events }

def HelperStep.perform (p : Primitives) : HelperStep → Helper → Helper
  | .backend call, s => s.ran (call.program p)
  | .remember status, s => { s with last := some status }
  | .announce status, s => { s with signals := s.signals ++ [status] }
  | .disturb machine, s => { s with backend := { s.backend with machine := machine } }

/-- The fact an answer is. -/
def HelperCall.fact : (q : HelperCall) → q.Reply → Option Fact
  | .connectionUnixUser sender, .ok uid => some (.identified sender uid)
  | .checkAuthorization sender request, .ok (authorized, challenge) =>
    match authorizationResult authorized challenge with
    | .ok () => some (.granted sender request)
    | .error _ => none
  | .captureTopology, .ok topology => some (.captured topology)
  | _, _ => none

def helperMachine (p : Primitives) : Machine Helper HelperStep HelperCall HelperCall.Reply where
  ready _ _ := true
  perform l s := l.perform p s
  hear q a s := { s with facts := s.facts ++ (q.fact a).toList }

/-- Nobody else writes the journal. -/
def HelperStep.allowed : HelperStep → Helper → Prop
  | .disturb machine, s => machine.store = s.backend.machine.store
  | _, _ => True

abbrev HelperTask (α : Type) := Task Helper HelperStep HelperCall HelperCall.Reply α

/-! ## Requests -/

/-- `serde_json::from_str` of what clients send. -/
structure HelperCodec where
  plan : String → Except String KernelPlan
  activation : String → Except String RuntimeActivation

/-- What a method answers with. -/
inductive HelperResponse where
  | applied
  | inspected (status : RuntimeStatus)
  | restored
  | cleaned (cleaned : Bool)
  | recovered
  | prepared (path : PathBuf)
  | adopted
  | activated (status : RuntimeStatus) (plan : Option KernelPlan) (rollbackReceipt : String)
  | status (status : RuntimeStatus)

section Service

variable (p : Primitives) (codec : HelperCodec)

/-- `run_backend`. -/
def runBackend (call : BackendCall) : HelperTask (Except ServiceError call.Reply) := do
  let found ← Task.step (HelperStep.backend call)
  return (call.program p found.backend).result.mapError .backend

/-- `caller_uid`. -/
def callerUid (sender : String) : HelperTask (Except AuthorizationError ℕ) := do
  let uid : Except String ℕ ← Task.question (HelperCall.connectionUnixUser sender)
  return uid.mapError .uidLookup

/-- `authorize` of polkit. -/
def checkAuthorization (sender : String) (request : HelperRequest) :
    HelperTask (Except AuthorizationError Unit) := do
  let answer : Except String (Bool × Bool) ←
    Task.question (HelperCall.checkAuthorization sender request)
  match answer with
  | .error message => return .error (.policyCheck message)
  | .ok (authorized, challenge) => return authorizationResult authorized challenge

namespace PrivilegedService

/-- `authorize`, which is also `authorize_mutation`. -/
def authorize (request : HelperRequest) (sender : Option String) :
    HelperTask (Except ServiceError String) :=
  match sender with
  | none => return .error .missingSender
  | some sender =>
    ((callerUid sender).mapError .authorization).andThen fun _ =>
      ((checkAuthorization sender request).mapError .authorization).andThen fun _ =>
        return .ok sender

/-- What is sent is not too large and can be decoded. -/
def decode {α : Type} (read : String → Except String α) (maximum : ℕ) (json : String) :
    Except ServiceError α :=
  if maximum < json.utf8ByteSize then .error (.planTooLarge json.utf8ByteSize maximum)
  else (read json).mapError .invalidPlanJson

/-- `validate_privileged_plan`, with the error as the service has it. -/
def validatePlan (plan : KernelPlan) : Except ServiceError Unit :=
  (validatePrivilegedPlan plan).mapError fun error => .validation (p.validationErrorText error)

/-- `decode_plan`. -/
def decodePlan (json : String) : Except ServiceError KernelPlan := do
  let plan ← decode codec.plan maxPlanJsonBytes json
  validatePlan p plan
  return plan

/-- `apply_plan`. -/
def applyPlan (request : HelperRequest) (sender : Option String) (planJson : String) :
    HelperTask (Except ServiceError Unit) :=
  (authorize request sender).andThen fun _ =>
    match decodePlan p codec planJson with
    | .error error => return .error error
    | .ok plan =>
      match validateNewPlanRules p plan with
      | .error message => return .error (.validation message)
      | .ok () => runBackend p (.apply plan)

/-- `inspect`. -/
def inspect : HelperTask (Except ServiceError RuntimeStatus) := runBackend p .inspect

/-- `restore_plan`. -/
def restorePlan (request : HelperRequest) (sender : Option String)
    (failedCandidateJson : String) (previousJson : Option String) :
    HelperTask (Except ServiceError Unit) :=
  (authorize request sender).andThen fun _ =>
    match decodePlan p codec failedCandidateJson with
    | .error error => return .error error
    | .ok failedCandidate =>
      match previousJson with
      | none => runBackend p (.restore failedCandidate none)
      | some json =>
        match decodePlan p codec json with
        | .error error => return .error error
        | .ok previous => runBackend p (.restore failedCandidate (some previous))

/-- `cleanup`. -/
def cleanup (request : HelperRequest) (sender : Option String) :
    HelperTask (Except ServiceError Bool) :=
  (authorize request sender).andThen fun _ => runBackend p .cleanup

/-- `recover_orphaned_resources`. -/
def recoverOrphanedResources (request : HelperRequest) (sender : Option String) :
    HelperTask (Except ServiceError Unit) :=
  (authorize request sender).andThen fun _ => runBackend p .recoverOrphaned

/-- `activate_runtime`.  What has to be prepared is prepared once the request is authorized and
before the kernel is changed. -/
def activateRuntime (request : HelperRequest) (sender : Option String) (activationJson : String)
    (uid : ℕ) (topology : TopologySnapshot) (now : ℕ)
    (prepare : RuntimeActivation → HelperTask (Except ServiceError Unit)) :
    HelperTask (Except ServiceError (RuntimeStatus × Option KernelPlan × String)) :=
  (authorize request sender).andThen fun _ =>
    match decode codec.activation maxActivationJsonBytes activationJson with
    | .error error => return .error error
    | .ok activation =>
      (prepare activation).andThen fun _ =>
        runBackend p (.activateRuntime activation uid topology now)

/-- `restore_runtime`. -/
def restoreRuntime (request : HelperRequest) (sender : Option String) (token : String)
    (uid : ℕ) : HelperTask (Except ServiceError RuntimeStatus) :=
  (authorize request sender).andThen fun _ => runBackend p (.restoreRuntime token uid)

end PrivilegedService

/-! ## The methods -/

/-- `runtime_changed`. -/
def announce (status : RuntimeStatus) : HelperTask Unit := do
  let _ ← Task.step (HelperStep.announce status)

/-- `cgroups.prepare` of each rule. -/
def prepareCgroups (uid : ℕ) : List RuleId → HelperTask (Except CgroupError Unit)
  | [] => return .ok ()
  | ruleId :: ruleIds =>
    (ApplicationCgroupManager.system.prepare ruleId uid).andThen fun _ => prepareCgroups uid ruleIds

/-- A rule is about an application. -/
def RuleSource.isApplication : RuleSource → Bool
  | .application _ => true
  | .any => false

/-- `prepare_application_cgroups`. -/
def prepareApplicationCgroups (activation : RuntimeActivation) (uid : ℕ) :
    HelperTask (Except ServiceError Unit) :=
  (prepareCgroups uid ((activation.profile.rules.filter (·.source.isApplication)).map (·.id))).mapError
    fun error => .backend error.text

/-- The user the sender is, where the method has to know. -/
def knownCaller (sender : String) : HelperTask (Except FdoError ℕ) :=
  (callerUid sender).mapError fun error => .accessDenied error.text

namespace Helper1Request

/-- `DbusHelper::apply_plan`. -/
def serveApplyPlan (request : HelperRequest) (planJson : String) (sender : Option String) :
    HelperTask (Except FdoError HelperResponse) :=
  ((PrivilegedService.authorize request sender).mapError toFdoError).andThen fun _ =>
    if maxPlanJsonBytes < planJson.utf8ByteSize then
      return .error (.invalidArgs "kernel plan exceeds the maximum size")
    else
      match codec.plan planJson with
      | .error message => return .error (.invalidArgs message)
      | .ok plan =>
        match validatePrivilegedPlan plan with
        | .error error => return .error (.invalidArgs (p.validationErrorText error))
        | .ok () =>
          match sender with
          | none => return .error (.accessDenied "missing sender")
          | some name =>
            (knownCaller name).andThen fun uid =>
              match applicationCgroupRuleIds plan.rules with
              | .error error => return .error (.invalidArgs error.text)
              | .ok ruleIds =>
                ((prepareCgroups uid ruleIds).mapError fun error => .failed error.text).andThen
                  fun _ =>
                    ((PrivilegedService.applyPlan p codec request sender planJson).mapError
                      toFdoError).andThen fun _ => return .ok .applied

/-- `DbusHelper::recover_orphaned_resources`. -/
def serveRecoverOrphaned (request : HelperRequest) (sender : Option String) :
    HelperTask (Except FdoError HelperResponse) :=
  ((PrivilegedService.authorize request sender).mapError toFdoError).andThen fun _ =>
    (ApplicationCgroupManager.system.verifiedOrphanDirectories.mapError fun error =>
        .failed error.text).andThen fun cgroups =>
      ((PrivilegedService.recoverOrphanedResources p request sender).mapError toFdoError).andThen
        fun _ =>
          ((ApplicationCgroupManager.system.removeVerifiedOrphanDirectories cgroups).mapError
            fun error => .failed error.text).andThen fun _ => return .ok .recovered

/-- `DbusHelper::prepare_application_cgroup`. -/
def servePrepare (request : HelperRequest) (ruleId : RuleId) (sender : Option String) :
    HelperTask (Except FdoError HelperResponse) :=
  ((PrivilegedService.authorize request sender).mapError toFdoError).andThen fun _ =>
    match sender with
    | none => return .error (.accessDenied "missing sender")
    | some name =>
      (knownCaller name).andThen fun uid =>
        ((ApplicationCgroupManager.system.prepare ruleId uid).mapError fun error =>
          .failed error.text).andThen fun path => return .ok (.prepared path)

/-- `DbusHelper::adopt_application_process`. -/
def serveAdopt (request : HelperRequest) (ruleId : RuleId) (identity : ProcessIdentity)
    (sender : Option String) : HelperTask (Except FdoError HelperResponse) :=
  ((PrivilegedService.authorize request sender).mapError toFdoError).andThen fun _ =>
    ((ApplicationCgroupManager.system.adopt ruleId identity).mapError fun error =>
      .failed error.text).andThen fun _ => return .ok .adopted

/-- The methods of `DbusHelper`. -/
def serve (request : Helper1Request) (sender : Option String) :
    HelperTask (Except FdoError HelperResponse) :=
  match request with
  | .applyPlan planJson => serveApplyPlan p codec (.helper1 request) planJson sender
  | .inspect =>
    ((PrivilegedService.inspect p).mapError toFdoError).andThen fun status =>
      return .ok (.inspected status)
  | .restorePlan failedCandidateJson previousJson =>
    ((PrivilegedService.restorePlan p codec (.helper1 request) sender failedCandidateJson
      (if previousJson.isEmpty then none else some previousJson)).mapError toFdoError).andThen
        fun _ => return .ok .restored
  | .cleanup =>
    ((PrivilegedService.cleanup p (.helper1 request) sender).mapError toFdoError).andThen
      fun cleaned => return .ok (.cleaned cleaned)
  | .recoverOrphanedResources => serveRecoverOrphaned p (.helper1 request) sender
  | .prepareApplicationCgroup ruleId => servePrepare (.helper1 request) ruleId sender
  | .adoptApplicationProcess ruleId pid startTime executablePath =>
    serveAdopt (.helper1 request) ruleId ⟨pid, startTime, executablePath⟩ sender

end Helper1Request

namespace Helper2Request

/-- `DbusHelper2::caller_uid`. -/
def callerUid (sender : Option String) : HelperTask (Except FdoError ℕ) :=
  match sender with
  | none => return .error (.accessDenied "missing sender")
  | some name => knownCaller name

/-- `DbusHelper2::activate_runtime`. -/
def serveActivate (request : HelperRequest) (activationJson : String) (sender : Option String) :
    HelperTask (Except FdoError HelperResponse) :=
  (callerUid sender).andThen fun uid => do
    let captured : Except String TopologySnapshot ← Task.question HelperCall.captureTopology
    match captured with
    | .error message => return .error (.failed message)
    | .ok topology =>
      let elapsed : ℕ ← Task.question HelperCall.elapsed
      ((PrivilegedService.activateRuntime p codec request sender activationJson uid topology
        elapsed fun activation => prepareApplicationCgroups activation uid).mapError
          toFdoError).andThen fun (status, plan, rollbackReceipt) => do
        announce status
        return .ok (.activated status plan rollbackReceipt)

/-- `DbusHelper2::restore_runtime`. -/
def serveRestore (request : HelperRequest) (receipt : String) (sender : Option String) :
    HelperTask (Except FdoError HelperResponse) :=
  (callerUid sender).andThen fun uid =>
    ((PrivilegedService.restoreRuntime p request sender receipt uid).mapError toFdoError).andThen
      fun status => do
        announce status
        return .ok (.status status)

/-- `DbusHelper2::cleanup`. -/
def serveCleanup (request : HelperRequest) (sender : Option String) :
    HelperTask (Except FdoError HelperResponse) :=
  ((PrivilegedService.cleanup p request sender).mapError toFdoError).andThen fun cleaned => do
    match ← runBackend p .runtimeStatus with
    | .ok status => announce status
    | .error _ => pure ()
    return .ok (.cleaned cleaned)

/-- The methods of `DbusHelper2`. -/
def serve (request : Helper2Request) (sender : Option String) :
    HelperTask (Except FdoError HelperResponse) :=
  match request with
  | .activateRuntime activationJson => serveActivate p codec (.helper2 request) activationJson sender
  | .restoreRuntime receipt => serveRestore p (.helper2 request) receipt sender
  | .inspect =>
    ((PrivilegedService.inspect p).mapError toFdoError).andThen fun status =>
      return .ok (.inspected status)
  | .cleanup => serveCleanup p (.helper2 request) sender

end Helper2Request

def HelperRequest.serve (request : HelperRequest) (sender : Option String) :
    HelperTask (Except FdoError HelperResponse) :=
  match request with
  | .helper1 request => request.serve p codec sender
  | .helper2 request => request.serve p codec sender

/-! ## The monitor -/

namespace HelperRefresher

/-- `publish`: only a status that changed is announced. -/
def publish (status : RuntimeStatus) : HelperTask Unit := do
  let found ← Task.step (HelperStep.remember status)
  if found.last = some status then return ()
  else announce status

/-- `refresh`. -/
def refresh : HelperTask (Option RuntimeStatus) := do
  match ← runBackend p .runtimeStatus with
  | .error _ => return none
  | .ok status =>
    if status.phase = .inactive then
      publish status
      return some status
    else
      let captured : Except String TopologySnapshot ← Task.question HelperCall.captureTopology
      match captured with
      | .ok topology =>
        let elapsed : ℕ ← Task.question HelperCall.elapsed
        told (← runBackend p (.refreshRuntime topology elapsed))
      | .error message => told (← runBackend p (.degradeRuntime message))
where
  /-- The status the backend returned. -/
  told : Except ServiceError RuntimeStatus → HelperTask (Option RuntimeStatus)
    | .error _ => return none
    | .ok status => do
      publish status
      return some status

/-- `degrade`. -/
def degrade (reason : String) : HelperTask Unit := do
  match ← runBackend p (.degradeRuntime reason) with
  | .error _ => return ()
  | .ok status => publish status

end HelperRefresher

end Service

end RouteLane
