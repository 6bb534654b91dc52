import RouteLane.Backend.Operations
import RouteLane.Daemon.Service

/-!
# The operations of the daemon

`DaemonService::handle` and what it dispatches to, the announcements of the helper, and
the reconciliation every request starts with.
-/

namespace RouteLane

open Tasks

namespace Service

/-! ## Reconciliation -/

section Reconciliation

variable (p : Primitives) (texts : ProbeTexts)

/-- `record_reconciliation_drift_with_code`. -/
def recordReconciliationDriftWithCode (plan : Option KernelPlan) (code detail : String) :
    ServiceTask (Except DaemonError Unit) := do
  write (.drift plan code detail)
  return .error ⟨code, detail⟩

/-- `record_reconciliation_drift`. -/
def recordReconciliationDrift (plan : KernelPlan) (detail : String) :
    ServiceTask (Except DaemonError Unit) :=
  recordReconciliationDriftWithCode (some plan) "DAEMON_RECONCILIATION_FAILED" detail

/-- The error a failed inspection is reported as. -/
def reconciliationError (error : DaemonError) : DaemonError :=
  if error.needsAuthorization then error
  else ⟨"DAEMON_RECONCILIATION_FAILED",
    s!"could not inspect persisted helper state: {error.message}"⟩

/-- `reconcile_from_helper`, with a plan: taken over if the helper's account of it agrees,
and then compared with the kernel. -/
def reconcilePlan (inspected : InspectResponse) (plan : KernelPlan) :
    ServiceTask (Except DaemonError Unit) := do
  if inspected.generation ≠ some plan.generation ∨
      inspected.planHash ≠ some (plan.contentHash p.blake3) then
    recordReconciliationDrift plan
      "helper applied-plan metadata does not match the validated plan"
  else
    let health := evaluateHealth p.blake3 texts (some plan) inspected.snapshot
    let state ← readState
    let appliedProfile := state.desired.filter fun profile => profile.id == plan.profileId
    write (.reconciledPlan plan appliedProfile health inspected.runtime)
    if kernelResourcesMatchPlan health then return .ok ()
    else
      recordReconciliationDrift plan
        "persisted helper plan does not exactly match live kernel state"

/-- `reconcile_from_helper`. -/
def reconcileFromHelper : ServiceTask (Except DaemonError Unit) := do
  match ← inspect with
  | .error error =>
    let error := reconciliationError error
    write (.reconciliationFailed error)
    return .error error
  | .ok inspected =>
    if inspected.diagnostics.any fun diagnostic =>
        "DAEMON_LEGACY_CLEANUP_REQUIRED:".toList.isPrefixOf diagnostic.toList then
      recordReconciliationDriftWithCode none "DAEMON_LEGACY_CLEANUP_REQUIRED"
        "validated legacy RouteLane state requires authorized cleanup before activation"
    else
      match inspected.appliedPlan with
      | some plan => reconcilePlan p texts inspected plan
      | none =>
        if inspected.generation.isSome || inspected.planHash.isSome ||
            inspected.routelaneTablePresent then
          recordReconciliationDriftWithCode none "DAEMON_ORPHANED_RESOURCES"
            "helper reported owned resources without a validated applied plan"
        else
          write (.reconciledInactive inspected.runtime)
          return .ok ()

/-- `ensure_reconciled`: one attempt at a time; who waited for one takes its result. -/
def ensureReconciled : ServiceTask ReconciliationOutcome := do
  let before ← Task.step Section.loadAttempts
  let observedAttempts := before.reconciliationAttempts
  let (outcome, completedAttempts) ← underGate fun gate => do
    if observedAttempts < gate.attempts then
      match gate.lastResult with
      | some result => return (⟨result, true⟩, none)
      | none => .panicked
    else if gate.completed then return (⟨.ok (), false⟩, none)
    else
      let result ← reconcileFromHelper p texts
      if gate.attempts < u64Max then
        let _ ← Task.step (Section.settleGate (gate.attempts + 1) result)
        return (⟨result, true⟩, some (gate.attempts + 1))
      else .panicked
  match completedAttempts with
  | some attempts =>
    let _ ← Task.step (Section.storeAttempts attempts)
    return outcome
  | none => return outcome

end Reconciliation

/-! ## Status -/

section Status

variable (p : Primitives) (texts : ProbeTexts)

/-- The snapshot of an inspection with the topology as it is now, where there is a profile
to ask it for. -/
def withLiveTopology (profile : Option Profile) (snapshot : KernelSnapshot) :
    ServiceTask (Except DaemonError KernelSnapshot) :=
  match profile with
  | none => return .ok snapshot
  | some profile => do
    match ← topology profile with
    | .error error => return .error error
    | .ok observed => return .ok (snapshot.withTopology observed)

/-- A runtime is reported armed only for the exact plan the daemon verified. -/
def reportedRuntime (inspected : InspectResponse) (plan : KernelPlan) : RuntimeStatus :=
  if ¬inspected.PairsWith p.blake3 plan ∧ inspected.runtime.phase = .armed then
    { inspected.runtime with
      phase := .degraded
      lastError := some "helper state does not pair with the verified applied plan" }
  else inspected.runtime

/-- `inspect_plan_health`. -/
def inspectPlanHealth (profile : Option Profile) (plan : KernelPlan) :
    ServiceTask (Except DaemonError (HealthReport × RuntimeStatus)) := do
  match ← inspect with
  | .error error => return .error error
  | .ok inspected =>
    match ← withLiveTopology profile inspected.snapshot with
    | .error error => return .error error
    | .ok snapshot =>
      return .ok (evaluateHealth p.blake3 texts (some plan) snapshot,
        reportedRuntime p inspected plan)

/-- The health a status reports of an inspected plan. -/
def reportedHealth (report : HealthReport) (runtime : RuntimeStatus) : HealthReport :=
  if runtime.phase ≠ .armed ∧ runtime.grant.isSome ∧ report.state = .healthy then
    .fromParts .degraded report.lanes report.diagnostics
  else report

/-- The health a status reports where the plan could not be inspected. -/
def uninspectedHealth (error : DaemonError) : HealthReport :=
  .failure (if error.needsAuthorization then .needsAuthorization else .degraded)
    .nftablesFeatureMissing .healthInspection "RouteLane could not inspect live policy health"
    error.text (some "Authorize or restore the privileged helper, then retry.")

/-- `current_status`. -/
def currentStatus : ServiceTask DaemonStatus := do
  let reconciliation ← ensureReconciled p texts
  if reconciliation.firstWave || !reconciliation.result.toBool then
    let state ← readState
    return state.status
  else
    let base ← readState
    match base.applied with
    | none => return { base.status with health := .inactive }
    | some applied =>
      match ← inspectPlanHealth p texts base.appliedProfile applied.plan with
      | .error error => return { base.status with health := uninspectedHealth error }
      | .ok (report, runtime) =>
        return { base.status with health := reportedHealth report runtime, primary := runtime }

end Status

/-! ## Activation -/

section Activation

variable (p : Primitives) (texts : ProbeTexts)

/-- `inspect_runtime`: pairs the helper's state with a plan it just reported.  A newer
generation of the same grant is accepted and verified instead. -/
def inspectRuntime (profile : Option Profile) (plan : KernelPlan) (expectedPolicy : PlanHash) :
    ServiceTask (Except DaemonError VerifiedRuntime) := do
  match ← inspect with
  | .error error => return .error error
  | .ok inspected =>
    let sameGrant := inspected.runtime.grant.any fun grant => grant.policyHash == expectedPolicy
    let live := inspected.appliedPlan.filter fun live =>
      decide (inspected.PairsWith p.blake3 live) &&
        (decide (live = plan) || (sameGrant && decide (plan.generation < live.generation)))
    match live with
    | none =>
      return .error ⟨"DAEMON_HELPER_RESPONSE_MISMATCH",
        "helper inspection does not pair with the reported runtime generation"⟩
    | some live =>
      match ← withLiveTopology profile inspected.snapshot with
      | .error error => return .error error
      | .ok snapshot =>
        return .ok ⟨live, evaluateHealth p.blake3 texts (some live) snapshot, inspected.runtime⟩

/-- `restore_runtime_receipt`: a newer helper commit makes the receipt ineligible; it is
never overwritten from here. -/
def restoreRuntimeReceipt (receipt : String) : ServiceTask (Except DaemonError Unit) := do
  let reply : Except DaemonError RuntimeStatus ← Task.question (Call.restoreRuntime receipt)
  match reply with
  | .ok _ => return .ok ()
  | .error error =>
    let error : DaemonError := ⟨"DAEMON_KERNEL_ROLLBACK_FAILED",
      s!"failed to restore the previous runtime: {error.text}"⟩
    write (.recordKernelRestoreFailure error)
    return .error error

/-- Restores what was before the activation, and records why. -/
def rolledBack {α : Type} (receipt : String) (record : StateWrite) (error : DaemonError) :
    ServiceTask (Except DaemonError α) := do
  match ← restoreRuntimeReceipt receipt with
  | .error failed => return .error failed
  | .ok () =>
    write record
    return .error error

/-- Records a failure, and fails with it. -/
def failWith {α : Type} (error : DaemonError) : ServiceTask (Except DaemonError α) := do
  write (.recordFailure error)
  return .error error

/-- Whether an activation is the one that was requested. -/
def matchesRequest (profile : Profile) (resolutions : ResolutionSnapshot)
    (expectedGeneration : ℕ) (response : RuntimeApplyResponse) : Bool :=
  (response.status.grant.any fun grant =>
      grant.policyHash == p.policyHash profile resolutions) &&
    response.plan.profileId == profile.id &&
    decide (expectedGeneration < response.plan.generation) &&
    response.status.generation == response.plan.generation

/-- The error a failed verification is reported as. -/
def verificationError (error : DaemonError) : DaemonError :=
  if error.needsAuthorization then error
  else ⟨"DAEMON_HEALTH_INSPECTION_FAILED",
    s!"could not inspect live kernel health: {error.message}"⟩

/-- `apply_profile_locked` from the helper's activation on: it is restored unless it is the
one requested and the live kernel matches. -/
def verifyActivation (profile : Profile) (resolutions : ResolutionSnapshot)
    (expectedGeneration : ℕ) (response : RuntimeApplyResponse) :
    ServiceTask (Except DaemonError ApplyProfileResult) := do
  let receipt := response.rollbackReceipt
  if !matchesRequest p profile resolutions expectedGeneration response then
    let error : DaemonError := ⟨"DAEMON_HELPER_RESPONSE_MISMATCH",
      "privileged helper armed a runtime that does not match the requested profile"⟩
    rolledBack receipt (.recordRolledBackFailure error) error
  else
    match ← inspectRuntime p texts (some profile) response.plan
        (p.policyHash profile resolutions) with
    | .error error =>
      let error := verificationError error
      rolledBack receipt (.recordRolledBackFailure error) error
    | .ok verified =>
      if kernelResourcesMatchPlan verified.health then
        write (.commit profile verified)
        return .ok ⟨response.plan.generation, response.plan.contentHash p.blake3⟩
      else
        let error : DaemonError := ⟨"DAEMON_HEALTH_VERIFICATION_FAILED",
          "live kernel state did not match the applied plan"⟩
        rolledBack receipt (.recordVerificationFailure error verified.health) error

/-- `apply_profile_locked`.  What is saved as desired is distinct from what becomes active. -/
def applyProfileLocked (profile : Profile) :
    ServiceTask (Except DaemonError ApplyProfileResult) := do
  match validateProfile p.toLowercase profile with
  | .error error => failWith (.validation (p.domainErrorText error))
  | .ok () =>
    let saved : Except DaemonError Unit ← Task.question (Call.saveConfig (some profile))
    match saved with
    | .error error => failWith error
    | .ok () =>
      let found ← Task.step (Section.write (.beginApply profile))
      let expectedGeneration := found.state.generation
      let resolved : Except DaemonError ResolutionSnapshot ←
        Task.question (Call.resolutions profile)
      match resolved with
      | .error error => failWith error
      | .ok resolutions =>
        -- The helper compiles and owns the plan; the daemon sends no preview of it.
        let activated : Except DaemonError RuntimeApplyResponse ←
          Task.question (Call.activateRuntime
            ⟨runtimeProtocolVersion, profile, resolutions, expectedGeneration⟩)
        match activated with
        | .error error => failWith error
        | .ok response => verifyActivation p texts profile resolutions expectedGeneration response

/-- `apply_profile`. -/
def applyProfile (profile : Profile) : ServiceTask (Except DaemonError ApplyProfileResult) := do
  match (← ensureReconciled p texts).result with
  | .error error => return .error error
  | .ok () => withMutation (applyProfileLocked p texts profile)

/-- The profile with the first rule of this id enabled or disabled. -/
def withRuleEnabled (profile : Profile) (ruleId : RuleId) (enabled : Bool) : Profile :=
  { profile with
    rules := profile.rules.replaceF fun rule =>
      if rule.id = ruleId then some { rule with enabled := enabled } else none }

/-- `set_rule_enabled`. -/
def setRuleEnabled (profileId : ProfileId) (ruleId : RuleId) (enabled : Bool) :
    ServiceTask (Except DaemonError ApplyProfileResult) := do
  match (← ensureReconciled p texts).result with
  | .error error => return .error error
  | .ok () => withMutation do
    let state ← readState
    match state.desired with
    | none => return .error ⟨"DAEMON_PROFILE_NOT_FOUND", "no profile is stored"⟩
    | some profile =>
      if profile.id ≠ profileId then
        return .error ⟨"DAEMON_PROFILE_NOT_FOUND", "requested profile is not stored"⟩
      else if !profile.rules.any fun rule => rule.id == ruleId then
        return .error ⟨"DAEMON_RULE_NOT_FOUND", "requested rule is not stored"⟩
      else applyProfileLocked p texts (withRuleEnabled profile ruleId enabled)

end Activation

/-! ## Announcements -/

section Announcements

variable (p : Primitives) (texts : ProbeTexts)

/-- The snapshot `follow_runtime` evaluates: without a topology where none can be had. -/
def followedSnapshot (profile : Option Profile) (snapshot : KernelSnapshot) :
    ServiceTask KernelSnapshot := do
  match ← withLiveTopology profile snapshot with
  | .error _ => return snapshot
  | .ok snapshot => return snapshot

/-- The plan an inspection pairs with: of the policy announced, if one was. -/
def pairedPlan (announced : Option RuntimeStatus) (inspected : InspectResponse) :
    Option KernelPlan :=
  let policy (status : RuntimeStatus) := status.grant.map RuntimeGrant.policyHash
  inspected.appliedPlan.filter fun live =>
    decide (inspected.PairsWith p.blake3 live) &&
      announced.all fun status => decide (policy inspected.runtime = policy status)

/-- `follow_runtime`.  The topology is asked for while the state stays locked, so it is
asked for here before the section that goes by it. -/
def followRuntime (announced : Option RuntimeStatus) : ServiceTask Unit := withMutation do
  let state ← readState
  if announced.any fun status => decide (status.generation < state.generation) then return ()
  else
    match ← inspect with
    | .error error =>
      write (.recordFailure ⟨"DAEMON_HEALTH_INSPECTION_FAILED",
        s!"could not inspect helper after a runtime change: {error.text}"⟩)
    | .ok inspected =>
      match pairedPlan p announced inspected with
      | some plan =>
        let snapshot ← followedSnapshot state.appliedProfile inspected.snapshot
        let health := evaluateHealth p.blake3 texts (some plan) snapshot
        write (.follow (some (plan, health)) inspected)
      | none => write (.follow none inspected)

/-- `on_runtime_changed`. -/
def onRuntimeChanged (announced : RuntimeStatus) : ServiceTask Unit :=
  followRuntime p texts (some announced)

/-- `resync_runtime`: re-reads the helper after it appeared on the bus, or at startup. -/
def resyncRuntime : ServiceTask Unit := followRuntime p texts none

end Announcements

/-! ## Deactivation and recovery -/

section Removal

variable (p : Primitives) (texts : ProbeTexts)

/-- Whether a deactivation goes on after a reconciliation with this result.  A validated
plan with missing live resources must remain removable. -/
def removable (result : Except DaemonError Unit) : ServiceTask Bool :=
  match result with
  | .ok () => return true
  | .error error =>
    if error.code = "DAEMON_LEGACY_CLEANUP_REQUIRED" then return true
    else if error.code = "DAEMON_RECONCILIATION_FAILED" then do
      let state ← readState
      return state.applied.isSome
    else return false

/-- `deactivate`. -/
def deactivate : ServiceTask (Except DaemonError Unit) := withMutation do
  let reconciliation ← ensureReconciled p texts
  if ← removable reconciliation.result then
    let cleaned : Except DaemonError Bool ← Task.question Call.cleanup
    match cleaned with
    | .error error => failWith error
    | .ok _ =>
      let _ ← Task.step Section.completeGate
      write .deactivated
      return .ok ()
  else return reconciliation.result

/-- `recover_orphaned_resources`. -/
def recoverOrphanedResources : ServiceTask (Except DaemonError OrphanRecoveryResult) :=
  withMutation do
    let state ← readState
    if !state.lastError.any fun error => error.code == "DAEMON_ORPHANED_RESOURCES" then
      return .error ⟨"DAEMON_ORPHAN_RECOVERY_UNAVAILABLE",
        "orphan recovery requires a detected orphaned-resource conflict"⟩
    else
      let recovered : Except DaemonError Bool ← Task.question Call.recoverOrphanedResources
      match recovered with
      | .error error => return .error error
      | .ok cleaned =>
        let _ ← Task.step Section.resetGate
        write .recovered
        match (← ensureReconciled p texts).result with
        | .error error => return .error error
        | .ok () => return .ok ⟨cleaned⟩

end Removal

/-! ## Applications -/

section Applications

variable (p : Primitives) (texts : ProbeTexts)

/-- `Path::file_name` of a canonical path. -/
def fileName (path : PathBuf) : Option String :=
  ((path.splitOn "/").getLast?).filter fun name => name ≠ ""

/-- Shared sandbox launchers are rejected: matching them could select unrelated
applications. -/
def rejectSandboxes : List PathBuf → ServiceTask (Except DaemonError Unit)
  | [] => return .ok ()
  | program :: rest => do
    let resolved : Except String PathBuf ← Task.question (Call.canonicalize program)
    match resolved with
    | .error error =>
      return .error (.validation s!"application executable is unavailable: {error}")
    | .ok resolved =>
      if fileName resolved = some "snap" ∨ fileName resolved = some "flatpak" then
        return .error ⟨"DAEMON_APPLICATION_SANDBOX_UNSUPPORTED",
          "Snap/Flatpak application routing is not supported. " ++
            "Select an application installed directly on the host."⟩
      else rejectSandboxes rest

/-- The application an enabled rule of the applied profile is about. -/
def selectedApplication (state : DaemonState) (profileId : ProfileId) (ruleId : RuleId) :
    Except DaemonError ApplicationSelector :=
  if !state.applied.any fun applied => applied.plan.profileId == profileId then
    .error ⟨"DAEMON_APPLICATION_INACTIVE",
      "Enable the application's routing profile before launching or adopting its processes."⟩
  else
    match state.appliedProfile.filter fun profile => profile.id == profileId with
    | none => .error (.validation "application profile is unavailable")
    | some profile =>
      match profile.rules.find? fun rule => rule.id == ruleId && rule.enabled with
      | none => .error (.validation "application rule is unavailable")
      | some rule =>
        match rule.source with
        | .application selector => .ok selector
        | .any => .error (.validation "rule is not an application rule")

/-- `application_selector`. -/
def applicationSelector (profileId : ProfileId) (ruleId : RuleId) :
    ServiceTask (Except DaemonError ApplicationSelector) := do
  let state ← readState
  match selectedApplication state profileId ruleId with
  | .error error => return .error error
  | .ok selector =>
    match ← rejectSandboxes (selector.executablePath ::
        (selector.launch.map ApplicationLaunch.executable).toList) with
    | .error error => return .error error
    | .ok () => return .ok selector

/-- `launch_application`. -/
def launchApplication (profileId : ProfileId) (ruleId : RuleId) :
    ServiceTask (Except DaemonError ApplicationLaunchResult) := withMutation do
  match (← ensureReconciled p texts).result with
  | .error error => return .error error
  | .ok () =>
    match ← applicationSelector profileId ruleId with
    | .error error => return .error error
    | .ok selector =>
      let prepared : Except DaemonError PathBuf ←
        Task.question (Call.prepareApplicationCgroup ruleId)
      match prepared with
      | .error error => return .error error
      | .ok cgroup =>
        let program := (selector.launch.map ApplicationLaunch.executable).getD
          selector.executablePath
        let arguments := (selector.launch.map ApplicationLaunch.arguments).getD []
        let spawned : Except String (Option ℕ) ←
          Task.question (Call.spawn program arguments s!"{cgroup}/cgroup.procs")
        match spawned with
        | .error error => return .error (.helper s!"start application: {error}")
        | .ok none => return .error (.helper "started application has no PID")
        | .ok (some pid) => return .ok ⟨pid⟩

/-- The processes of an application, one after the other: a refused authorization ends the
adoption, any other refusal skips the process. -/
def adoptProcesses (ruleId : RuleId) :
    List RunningProcess → ApplicationAdoptionResult →
      ServiceTask (Except DaemonError ApplicationAdoptionResult)
  | [], counts => return .ok counts
  | process :: rest, counts => do
    let adopted : Except DaemonError Unit ←
      Task.question (Call.adoptApplicationProcess ruleId process)
    match adopted with
    | .ok () => adoptProcesses ruleId rest { counts with adoptedCount := counts.adoptedCount + 1 }
    | .error error =>
      if error.needsAuthorization then return .error error
      else adoptProcesses ruleId rest { counts with skippedCount := counts.skippedCount + 1 }

/-- `adopt_application_processes`. -/
def adoptApplicationProcesses (profileId : ProfileId) (ruleId : RuleId) :
    ServiceTask (Except DaemonError ApplicationAdoptionResult) := withMutation do
  match (← ensureReconciled p texts).result with
  | .error error => return .error error
  | .ok () =>
    match ← applicationSelector profileId ruleId with
    | .error error => return .error error
    | .ok selector =>
      let processes : List RunningProcess ← Task.question (Call.matchingProcesses selector)
      adoptProcesses ruleId processes ⟨0, 0⟩

end Applications

/-! ## Requests -/

section Requests

variable (p : Primitives) (texts : ProbeTexts)

/-- The response to a request that was carried out, or failed. -/
def respond {α : Type} (requestId : String) (wrap : α → DaemonResult)
    (task : ServiceTask (Except DaemonError α)) : ServiceTask DaemonResponse := do
  match ← task with
  | .ok a => return .success requestId (wrap a)
  | .error error => return .failure requestId error.toIpc

/-- The dispatch of `handle`. -/
def dispatch (requestId : String) : DaemonRequest → ServiceTask DaemonResponse
  | .getStatus => do
    let status ← currentStatus p texts
    return .success requestId (.status status)
  | .listProfiles => do
    let _ ← ensureReconciled p texts
    let state ← readState
    return .success requestId (.profiles state.desired.toList)
  | .applyProfile profile => respond requestId .applied (applyProfile p texts profile)
  | .setRuleEnabled profileId ruleId enabled =>
    respond requestId .applied (setRuleEnabled p texts profileId ruleId enabled)
  | .launchApplication profileId ruleId =>
    respond requestId .applicationLaunched (launchApplication p texts profileId ruleId)
  | .adoptApplicationProcesses profileId ruleId =>
    respond requestId .applicationProcessesAdopted
      (adoptApplicationProcesses p texts profileId ruleId)
  | .recoverOrphanedResources =>
    respond requestId .orphanedResourcesRecovered (recoverOrphanedResources p texts)
  | .deactivate => respond requestId (fun _ => .deactivated) (deactivate p texts)
  | .subscribe => return .success requestId .subscribed

def handle (envelope : DaemonEnvelope) : ServiceTask DaemonResponse :=
  if envelope.protocolVersion ≠ ipcProtocolVersion then
    return .failure envelope.requestId ⟨"IPC_UNSUPPORTED_PROTOCOL_VERSION",
      s!"protocol version {envelope.protocolVersion} is unsupported; " ++
        s!"expected {ipcProtocolVersion}"⟩
  else if envelope.requestId = "" then
    return .failure envelope.requestId
      ⟨"IPC_INVALID_REQUEST_ID", "request_id must not be empty"⟩
  else dispatch p texts envelope.requestId envelope.request

/-- What sets the service to work: a client's request, an announcement of the helper, or
its appearance on the bus. -/
inductive Operation where
  | request (envelope : DaemonEnvelope)
  | runtimeChanged (announced : RuntimeStatus)
  | helperAppeared

/-- The task of an operation, with the response if it has one. -/
def Operation.task : Operation → ServiceTask (Option DaemonResponse)
  | .request envelope => some <$> handle p texts envelope
  | .runtimeChanged announced => do
    onRuntimeChanged p texts announced
    return none
  | .helperAppeared => do
    resyncRuntime p texts
    return none

/-- The tasks a service may be set to. -/
def IsOperation (task : ServiceTask (Option DaemonResponse)) : Prop :=
  ∃ operation : Operation, task = operation.task p texts

end Requests

end Service

end RouteLane
