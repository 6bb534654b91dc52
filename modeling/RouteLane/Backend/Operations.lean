import RouteLane.Backend.Legacy

/-!
# The operations of the backend

What a caller of the helper, or the monitor, can ask the privileged backend for.  Apart
from the monitor's own requests every one of them is authorized first.
-/

namespace RouteLane

open Nft Faults Program Fallible

/-- `FIRST_RETRY_WAIT`. -/
def firstRetryWait : ℕ := 2000000000

/-- `MAX_RETRY_WAIT`. -/
def maxRetryWait : ℕ := 60000000000

/-- The wait after another failure. -/
def nextRetryWait (previous : Option ℕ) : ℕ :=
  match previous with
  | none => firstRetryWait
  | some wait => min (wait * 2) maxRetryWait

/-- `RUNTIME_PROTOCOL_VERSION`. -/
def runtimeProtocolVersion : ℕ := 2

/-- `generation + 1` on 64 bits. -/
def nextGeneration (generation : ℕ) : ℕ := (generation + 1) % 2 ^ 64

section Operations

variable (p : Primitives)

/-! ## Shared checks -/

/-- `refuse_legacy_activation`. -/
def refuseLegacyActivation : BackendM Unit := do
  let backend ← get
  if backend.legacyV2.isSome then
    fail "a schema-2 RouteLane journal requires authorized cleanup before activation"
  else
    require (backend.legacy.isNone)
      "a schema-1 RouteLane journal is cleanup-only; clean it up before activation"

/-- `refuse_armed_runtime`. -/
def refuseArmedRuntime : BackendM Unit := do
  loadRuntime p
  let backend ← get
  require (backend.runtime.isNone)
    "runtime authority is armed; change it through runtime activation or cleanup"

/-- `revalidate_current_ownership`. -/
def revalidateCurrentOwnership : BackendM Unit := do
  let backend ← get
  match backend.current, backend.currentNftFingerprint with
  | none, _ => return ()
  | some _, none => fail "active RouteLane state is missing its committed nftables fingerprint"
  | some current, some fingerprint =>
    let complete ← onKernel (verifyPersistedOwnership p current fingerprint)
    require (complete = true)
      "committed RouteLane kernel resources are incomplete; refusing apply"

/-- `revalidate_current_ownership_for`. -/
def revalidateCurrentOwnershipFor (next : KernelPlan) : BackendM LostUnicast := do
  let backend ← get
  match backend.current, backend.currentNftFingerprint with
  | none, _ => return ∅
  | some _, none => fail "active RouteLane state is missing its committed nftables fingerprint"
  | some current, some fingerprint =>
    let linkdown ← inspect "inspect IPv4 routing tables" System.linkdown
    onKernel (toleratedLostUnicast p linkdown current fingerprint next)

/-! ## Cleanup -/

/-- `cleanup_with_receipt` once runtime authority was revoked. -/
def cleanupCommitted (restoreReceipt : Option RestoreReceipt) : BackendM Bool := do
  let backend ← get
  match backend.current with
  | none =>
    if restoreReceipt.isNone then
      clear
      modify fun backend => { backend with restoreReceipt := none }
      return false
    else return false
  | some current =>
    onKernel (verifyCleanupTableOwnership p (some current) backend.currentNftFingerprint)
    save p
      { active := some current
        activeNftFingerprint := backend.currentNftFingerprint
        cleanupPending := true
        restoreReceipt := restoreReceipt
        interfaceSettings := backend.interfaceSettings }
    let (result, _) ← withRunner (.new (some current) ∅) (do
      let _ ← snapshot
      restore p.blake3 none)
    lift result
    let _ ← restoreSettingReceipts backend.interfaceSettings
    modify fun backend => { backend with interfaceSettings := [] }
    match restoreReceipt with
    | some receipt => save p (.committed none none (some receipt))
    | none => clear
    modify fun backend => { backend with
      current := none
      currentNftFingerprint := none
      restoreReceipt := restoreReceipt }
    return true

/-- `cleanup_with_receipt`: whether there was something to clean. -/
def cleanupWithReceipt (restoreReceipt : Option RestoreReceipt) : BackendM Bool := do
  ensureInspectionReady p
  ensureReconciled p
  let backend ← get
  match backend.legacyV2, backend.legacy with
  | some legacy, _ => cleanupLegacyV2 p legacy
  | none, some legacy => cleanupLegacy p legacy
  | none, none =>
    -- a refresh that is queued can never bring back what this cleanup removes
    modify fun backend =>
      { backend with runtime := none, runtimeRestore := none, runtimeLoaded := true }
    cleanupCommitted p restoreReceipt

/-! ## Plans of a client -/

/-- The rules of a new plan are distinct verdicts: `validate_new_plan_rules`. -/
def validateNewPlanRules (plan : KernelPlan) : Except PrivilegedError Unit :=
  match firstDuplicate [] plan.rules with
  | none => .ok ()
  | some rule => .error (p.validationErrorText (.duplicateCompiledRule rule.id))
where
  firstDuplicate (seen : List (IpFamily × CompiledTarget × CompiledAction)) :
      List CompiledRule → Option CompiledRule
    | [] => none
    | rule :: rules =>
      if rule.routingKey ∈ seen then some rule
      else firstDuplicate (rule.routingKey :: seen) rules

/-- `apply` of a plan that is at or behind the one in force, from the restore receipt on. -/
def applyCurrent (plan : KernelPlan) (current : KernelPlan) : BackendM Unit := do
  require (plan.contentHash p.blake3 = current.contentHash p.blake3)
    ("generation " ++ toString plan.generation ++ " has different policy content")
  let backend ← get
  if backend.restoreReceipt.isSome then
    persistCommitted p backend.current backend.currentNftFingerprint backend.committedExtras
    modify fun backend => { backend with restoreReceipt := none }
  else return ()

/-- `apply`. -/
def apply (plan : KernelPlan) : BackendM Unit := do
  lift (validateNewPlanRules p plan)
  ensureReconciled p
  refuseLegacyActivation
  refuseArmedRuntime p
  let lost ← revalidateCurrentOwnershipFor p plan
  let backend ← get
  match backend.current with
  | none => Backend.transitionWith p plan none lost none none
  | some current =>
    if plan.generation < current.generation then
      fail ("requested generation " ++ toString plan.generation ++
        " is older than applied generation " ++ toString current.generation)
    else if plan.generation = current.generation then applyCurrent p plan current
    else Backend.transitionWith p plan none lost none none

/-- `restore`. -/
def restorePlan (failedCandidate : KernelPlan) (previous : Option KernelPlan) :
    BackendM Unit := do
  ensureReconciled p
  refuseLegacyActivation
  refuseArmedRuntime p
  revalidateCurrentOwnership p
  let receipt := RestoreReceipt.new p failedCandidate previous
  require (∀ plan ∈ previous, plan.generation < failedCandidate.generation)
    "restore target must be older than the failed candidate"
  let backend ← get
  if backend.restoreReceipt = some receipt ∧
      receipt.previousMatches p backend.current = true then
    return ()
  else match backend.current with
    | none => fail "cannot restore because no candidate plan is currently applied"
    | some current =>
      require (current.generation = failedCandidate.generation ∧
          current.contentHash p.blake3 = failedCandidate.contentHash p.blake3)
        "cannot restore because the live committed plan is not the failed candidate"
      match previous with
      | some plan => Backend.transitionWith p plan (some receipt) ∅ none none
      | none =>
        let _ ← cleanupWithReceipt p (some receipt)
        return ()

/-! ## Reading -/

/-- `inspect`; of its response only what concerns the memory is kept. -/
def inspectState : BackendM RuntimeStatus := do
  ensureInspectionReady p
  let captured ← onKernel captureSnapshot
  let backend ← get
  match backend.current, backend.currentNftFingerprint with
  | some current, some _ =>
    if captured.nft.isSome then
      if ← onKernel (nftMarkerPresent p current) then
        let _ ← onKernel (liveNftFingerprint p.blake3)
        pure ()
      else pure ()
    else pure ()
  | _, _ => pure ()
  loadRuntime p
  statusSnapshot

/-- `prepare_runtime_operation`: whether the memory was adopted from the journal without a
look at the kernel. -/
def prepareRuntimeOperation : BackendM Bool := do
  let backend ← get
  if ← journalInterrupted then
    ensureReconciled p
    modify fun backend => { backend with recoveryHeldBack := none, runtimeLoaded := false }
    loadRuntime p
    return false
  else
    ensureInspectionReady p
    loadRuntime p
    let ready ← get
    return !backend.initialized && ready.current.isSome

/-- `runtime_status`. -/
def runtimeStatus : BackendM RuntimeStatus := do
  let _ ← prepareRuntimeOperation p
  statusSnapshot

/-- What `degrade_runtime` does to an armed runtime. -/
def ArmedRuntime.degraded (runtime : ArmedRuntime) (reason : String) : ArmedRuntime :=
  if runtime.phase = .needsReauthorization then runtime
  else { runtime with phase := .degraded, lastError := some reason }

/-- `degrade_runtime`. -/
def degradeRuntime (reason : String) : BackendM RuntimeStatus := do
  let _ ← prepareRuntimeOperation p
  modify fun backend =>
    { backend with runtime := backend.runtime.map (ArmedRuntime.degraded · reason) }
  statusSnapshot

/-! ## Orphans -/

/-- The slots of a rule are not those of one lane. -/
def RuleOwnership.mixed (rule : RuleOwnership) : Bool :=
  checkedSub rule.table tableBase != checkedSub rule.priority rulePriorityBase ||
    checkedSub rule.table tableBase != checkedSub rule.mark markBase

/-- The table of a rule has another rule of its family. -/
def RoutingOwnership.crowded (ownership : RoutingOwnership) (rule : RuleOwnership) : Bool :=
  (ownership.rules.filter fun candidate =>
    candidate.family = rule.family ∧ candidate.table = rule.table).card != 1

/-- `validate_orphan_routing`.  The rules are checked in their order, each for its slots
first, so slots are reported only when no earlier rule is one of several. -/
def validateOrphanRouting (ownership : RoutingOwnership) : Except PrivilegedError Unit := do
  failIf (∃ rule ∈ ownership.rules, rule.mixed ∧
      ∀ other ∈ ownership.rules, ownership.crowded other → (compare rule other).isLE)
    "ambiguous RouteLane ownership: policy rule does not match a reserved lane tuple"
  failIf (∃ rule ∈ ownership.rules, ownership.crowded rule)
    "ambiguous RouteLane ownership: routing table has multiple policy rules"
  failIf (∃ route ∈ ownership.routes, (ownership.routes.filter fun candidate =>
      candidate.family = route.family ∧ candidate.table = route.table ∧
        candidate.terminal = route.terminal).card ≠ 1)
    "ambiguous RouteLane ownership: routing table has multiple default routes"

/-- `capture_verified_orphaned_ownership`. -/
def captureVerifiedOrphanedOwnership : BackendM OrphanedOwnership := do
  let captured ← onKernel captureSnapshot
  lift (validateOrphanRouting captured.routing)
  if captured.nft.isSome then
    let table ← onKernel (inspect "inspect exact RouteLane nftables table" KernelState.nft)
    let document := table.getD []
    match p.orphanDocumentError document with
    | some e => fail e
    | none => return ⟨some (nftDocumentFingerprint p.blake3 document), captured.routing⟩
  else
    require (captured.routing = .empty)
      ("ambiguous RouteLane ownership: reserved routing resources have no ownership-marked " ++
        "nftables table")
    return ⟨none, captured.routing⟩

/-- `recover_orphaned`. -/
def recoverOrphaned : BackendM Unit := do
  let _ ← load
  ensureReconciled p
  let backend ← get
  require (backend.current.isNone ∧ backend.legacy.isNone ∧ backend.legacyV2.isNone)
    "validated RouteLane state must use normal cleanup"
  let ownership ← captureVerifiedOrphanedOwnership p
  if ownership.nftFingerprint.isNone ∧ ownership.routing = .empty then return ()
  else
    save p { orphanCleanup := some ownership }
    resumeOrphanCleanup p

/-! ## The runtime -/

/-- `compile_runtime_plan`. -/
def compileRuntimePlan (profile : Profile) (topology : TopologySnapshot)
    (resolutions : ResolutionSnapshot) (decision : PrimaryDecision) (generation : ℕ) :
    Except PrivilegedError KernelPlan := do
  let plan ← (compileProfileWithPrimary p.toLowercase profile topology resolutions decision
    generation).mapError fun
      | .error e => "compile runtime plan: " ++ p.planErrorText e
      | .panic | .diverge => "compile runtime plan: aborted"
  (validatePrivilegedPlan plan).mapError fun e =>
    "runtime plan is invalid: " ++ p.validationErrorText e
  failIf (maxPlanJsonBytes < p.planBytes plan) "runtime plan exceeds the size limit"
  return plan

/-- The devices the lanes of a profile are granted. -/
def grantedInterfaces (profile : Profile) (topology : TopologySnapshot) :
    OrderedMap LaneId InterfaceIdentity := frozenBindings profile topology

/-- The checks of a request at the head of `activate_runtime_inner`. -/
def validateActivation (activation : RuntimeActivation) (topology : TopologySnapshot) :
    Except PrivilegedError Unit := do
  failIf (activation.protocolVersion ≠ runtimeProtocolVersion)
    ("runtime protocol " ++ toString activation.protocolVersion ++
      " is not supported; expected 2")
  failIf (maxActivationJsonBytes < p.activationBytes activation)
    "runtime activation exceeds the size limit"
  (validateProfile p.toLowercase activation.profile).mapError fun e =>
    "invalid profile: " ++ p.domainErrorText e
  failIf (!topology.observed) "runtime activation requires observed kernel topology"

/-- `activate_runtime_inner`; of its response only the token is kept. -/
def activateRuntime (activation : RuntimeActivation) (uid : ℕ) (topology : TopologySnapshot)
    (now : ℕ) : BackendM String := do
  lift (validateActivation p activation topology)
  let _ ← prepareRuntimeOperation p
  refuseLegacyActivation
  let backend ← get
  let generation := (backend.current.map KernelPlan.generation).getD 0
  require (activation.expectedGeneration = generation)
    ("runtime activation expected generation " ++ toString activation.expectedGeneration ++
      " but " ++ toString generation ++ " is applied")
  let profile := activation.profile
  let bootId ← readBootId
  let networkNamespace ← readNetworkNamespace
  let grant : RuntimeGrant := ⟨uid, bootId, networkNamespace,
    p.policyHash profile activation.resolutions, grantedInterfaces profile topology⟩
  let filtered := restrictToGrant topology grant
  let (selector, decision) :=
    (PrimarySelector.new profile filtered).update profile.routing filtered now
  let plan ← lift (compileRuntimePlan p profile filtered activation.resolutions decision
    (nextGeneration generation))
  let lost ← revalidateCurrentOwnershipFor p plan
  let token ← newToken
  let receipt : RuntimeRestoreReceipt := ⟨p.tokenHash token, uid, plan.generation,
    plan.contentHash p.blake3, backend.current, backend.runtime.map ArmedRuntime.record⟩
  let record : RuntimeRecord := ⟨grant, profile, activation.resolutions, decision⟩
  Backend.transitionWith p plan none lost (some record) (some receipt)
  modify fun backend =>
    { backend with runtime := some ⟨record, some selector, .armed, none, none, none⟩ }
  return token

/-- What a refresh computes before it looks at the kernel. -/
structure RefreshCandidate where
  selector : PrimarySelector
  decision : PrimaryDecision
  failbackInMs : Option ℕ
  plan : Except PrivilegedError KernelPlan

/-- The pure part of `refresh_armed`. -/
def refreshCandidate (runtime : ArmedRuntime) (current : KernelPlan)
    (topology : TopologySnapshot) (now : ℕ) : RefreshCandidate :=
  let record := runtime.record
  let filtered := restrictToGrant topology record.grant
  let (selector, decision) :=
    (runtime.selector.getD (.resume record.profile filtered record.decision)).update
      record.profile.routing filtered now
  ⟨selector, decision,
    selector.nextDeadline.map fun deadline => max (asMillis (deadline - now)) 1,
    compileRuntimePlan p record.profile filtered record.resolutions decision
      (nextGeneration current.generation)⟩

/-- `ms.map_or(wait, |ms| ms.min(wait))`. -/
def sooner (failbackInMs : Option ℕ) (wait : ℕ) : Option ℕ :=
  some ((failbackInMs.map (min · wait)).getD wait)

/-- `refresh_armed` from the proof of the live state on.  The runtime is handed back also
with an error. -/
def commitCandidate (runtime : ArmedRuntime) (current : KernelPlan) (decision : PrimaryDecision)
    (candidate : KernelPlan) (lost : LostUnicast) (now : ℕ) :
    BackendM (ArmedRuntime × Except PrivilegedError Unit) := do
  let hash := candidate.contentHash p.blake3
  if hash = current.contentHash p.blake3 ∧ decision = runtime.record.decision then
    return ({ runtime with phase := .armed, lastError := none, heldBack := none }, .ok ())
  else
    let held := runtime.heldBack.filter fun held => held.planHash = hash
    match held.filter fun held => now < held.retryAt with
    | some held =>
      -- the same failed candidate, typically echoed back by its own rollback
      return ({ runtime with
        failbackInMs := sooner runtime.failbackInMs (max (asMillis (held.retryAt - now)) 1) },
        .ok ())
    | none =>
      let record := { runtime.record with decision := decision }
      let backend ← get
      let outcome : Except PrivilegedError Unit ← attempt (Backend.transitionWith p candidate none
        lost (some record) backend.runtimeRestore)
      match outcome with
      | .error e =>
        let wait := nextRetryWait (held.map HeldBackCandidate.wait)
        return ({ runtime with
          phase := .switching
          heldBack := some ⟨hash, now + wait, wait⟩
          failbackInMs := sooner runtime.failbackInMs (asMillis wait) }, .error e)
      | .ok () =>
        return ({ runtime with
          record := record, phase := .armed, lastError := none, heldBack := none }, .ok ())

/-- `refresh_armed`. -/
def refreshArmed (runtime : ArmedRuntime) (topology : TopologySnapshot) (now : ℕ)
    (unverified : Bool) : BackendM (ArmedRuntime × Except PrivilegedError Unit) := do
  if runtime.phase = .needsReauthorization then return (runtime, .ok ())
  else if topology.observed = false then
    return (runtime, .error "runtime refresh requires observed kernel topology")
  else
    let backend ← get
    match backend.current with
    | none => return (runtime, .error "armed runtime has no committed RouteLane generation")
    | some current =>
      let computed := refreshCandidate p runtime current topology now
      let runtime := { runtime with
        selector := some computed.selector, failbackInMs := computed.failbackInMs }
      match computed.plan with
      | .error e => return (runtime, .error e)
      | .ok candidate =>
        let lost : Except PrivilegedError LostUnicast ←
          attempt (revalidateCurrentOwnershipFor p candidate)
        match lost with
        | .error e =>
          if unverified then
            return ({ runtime with phase := .needsReauthorization },
              .error ("restarted helper could not prove its runtime state: " ++ e))
          else return (runtime, .error e)
        | .ok lost => commitCandidate p runtime current computed.decision candidate lost now

/-- `hold_back_recovery`. -/
def holdBackRecovery (now : ℕ) : BackendM ℕ := do
  let backend ← get
  let wait := nextRetryWait (backend.recoveryHeldBack.map Prod.snd)
  modify fun backend => { backend with recoveryHeldBack := some (now + wait, wait) }
  return wait

/-- What a failed refresh leaves of its runtime. -/
def ArmedRuntime.failed (runtime : ArmedRuntime) (error : PrivilegedError) : ArmedRuntime :=
  { runtime with
    phase := if runtime.phase = .needsReauthorization then .needsReauthorization else .degraded
    lastError := some error
    selector := none }

/-- `refresh_runtime_inner` once the operation was prepared. -/
def refreshPrepared (topology : TopologySnapshot) (now : ℕ) (unverified : Bool) :
    BackendM RuntimeStatus := do
  let backend ← get
  match backend.runtime with
  | none => statusSnapshot
  | some runtime =>
    -- `self.runtime.take()`: the runtime is not in the memory while it is refreshed
    modify fun backend => { backend with runtime := none }
    let (runtime, outcome) ← refreshArmed p runtime topology now unverified
    match outcome with
    | .ok () =>
      modify fun backend => { backend with runtime := some runtime }
      statusSnapshot
    | .error e =>
      let interrupted : Except PrivilegedError Bool ← attempt journalInterrupted
      let failback ← match interrupted with
        | .ok false => pure runtime.failbackInMs
        | _ => do
          let wait ← holdBackRecovery now
          pure (sooner runtime.failbackInMs (asMillis wait))
      modify fun backend =>
        { backend with
          runtime := some { runtime.failed e with failbackInMs := failback } }
      statusSnapshot

/-- The moment until which automatic recovery is held back. -/
def Backend.heldUntil (backend : Backend) (now : ℕ) : Option ℕ :=
  (backend.recoveryHeldBack.filter fun held => now < held.1).map Prod.fst

/-- `refresh_runtime_inner` when no recovery is held back. -/
def refreshUnheld (topology : TopologySnapshot) (now : ℕ) : BackendM RuntimeStatus := do
  let unverified : Except PrivilegedError Bool ← attempt (prepareRuntimeOperation p)
  match unverified with
  | .ok unverified => refreshPrepared p topology now unverified
  | .error e =>
    let wait ← holdBackRecovery now
    let backend ← get
    match backend.runtime with
    | none => fail e
    | some runtime =>
      -- an error would be dropped by the monitor, so the status tells it
      modify fun backend => { backend with
        runtime := some { runtime with
          phase := .degraded
          lastError := some e
          selector := none
          failbackInMs := some (asMillis wait) } }
      statusSnapshot

/-- `refresh_runtime_inner`. -/
def refreshRuntime (topology : TopologySnapshot) (now : ℕ) : BackendM RuntimeStatus := do
  let backend ← get
  match backend.heldUntil now with
  | none => refreshUnheld p topology now
  | some retryAt =>
    let interrupted : Except PrivilegedError Bool ← attempt journalInterrupted
    match interrupted with
    | .ok false => refreshUnheld p topology now
    | _ =>
      modify fun backend =>
        { backend with
          runtime := backend.runtime.map fun runtime =>
            { runtime with failbackInMs := some (max (asMillis (retryAt - now)) 1) } }
      statusSnapshot

/-- `restore_runtime_inner`. -/
def restoreRuntime (token : String) (uid : ℕ) : BackendM RuntimeStatus := do
  let _ ← prepareRuntimeOperation p
  refuseLegacyActivation
  let backend ← get
  match backend.runtimeRestore with
  | none => fail "no runtime restore receipt is available"
  | some receipt =>
    require (p.tokenHash token = receipt.tokenHash ∧ uid = receipt.ownerUid)
      "runtime restore receipt does not belong to this caller"
    match backend.current with
    | none => fail "runtime restore receipt has no committed generation"
    | some current =>
      require (current.generation = receipt.issuedForGeneration ∧
          current.contentHash p.blake3 = receipt.issuedForPlanHash)
        "a newer RouteLane transition superseded this runtime restore receipt"
      match receipt.previousPlan with
      | none =>
        let _ ← cleanupWithReceipt p none
        statusSnapshot
      | some previous =>
        let previous := { previous with generation := nextGeneration current.generation }
        let lost ← revalidateCurrentOwnershipFor p previous
        Backend.transitionWith p previous none lost receipt.previousRecord none
        modify fun backend => { backend with
          runtime := receipt.previousRecord.map fun record =>
            ⟨record, none, .armed, none, none, none⟩ }
        statusSnapshot

end Operations

end RouteLane
