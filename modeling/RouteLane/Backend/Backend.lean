import RouteLane.Backend.System

/-!
# The privileged backend

The parts its operations share: reading the journal without touching the kernel,
finishing what a journal says was interrupted, and the transaction that moves the kernel
and the journal from one plan to the next.
-/

namespace RouteLane

open Nft Faults Program

/-- How an error of `apply_plan` is written out. -/
def ApplyStage.label : ApplyStage → String
  | .installGuard => "install guard"
  | .prepareRoutes => "prepare routes"
  | .activateNft => "activate nftables"
  | .verify => "verify generation"
  | .removeOldGeneration => "remove old generation"
  | .removeGuard => "remove guard"

def ApplyError.text : ApplyError → String
  | .staleGeneration current requested =>
    "requested generation " ++ toString requested ++ " is older than applied generation " ++
      toString current
  | .generationConflict generation _ _ =>
    "generation " ++ toString generation ++ " has different policy content"
  | .snapshot error => "kernel snapshot failed: " ++ error
  | .resourceConflict conflict => "routing resource conflict: " ++ conflict
  | .mutation stage primary rollback cleanup =>
    stage.label ++ " failed: " ++ primary ++
      ((rollback.map ("; restore failed: " ++ ·)).getD "") ++
      ((cleanup.map ("; guard cleanup failed: " ++ ·)).getD "")

/-- `rollback_error().is_none() && cleanup_error().is_none()`. -/
def ApplyError.rolledBack : ApplyError → Bool
  | .mutation _ _ rollback cleanup => rollback.isNone && cleanup.isNone
  | _ => true

/-- `result_label`. -/
def resultLabel {α : Type} : Except PrivilegedError α → String
  | .ok _ => "ok"
  | .error e => e

section Backend

variable (p : Primitives)

/-! ## Reading the journal -/

/-- `adopt_legacy_v2`. -/
def adoptLegacyV2 (record : StoredAppliedState) : BackendM Unit := do
  lift (validateLegacyV2Envelope record)
  modify fun backend => { backend with
    current := none
    currentNftFingerprint := none
    interfaceSettings := []
    restoreReceipt := none
    legacy := none
    legacyV2 := record.legacyV2
    runtime := none
    runtimeRestore := none
    runtimeLoaded := true
    initialized := true }

/-- What a schema-1 journal leaves of the memory: it is only ever removed by a cleanup. -/
def adoptLegacyV1 (record : StoredAppliedState) : BackendM Unit := do
  lift (validateLegacyEnvelope record)
  modify fun backend => { backend with
    current := none
    currentNftFingerprint := none
    interfaceSettings := []
    restoreReceipt := none
    legacy := record.legacyV1
    initialized := true }

/-- `ensure_inspection_ready`. -/
def ensureInspectionReady : BackendM Unit := do
  match ← load with
  | none => modify fun backend => { backend with initialized := true }
  | some record =>
    if record.legacyV2.isSome then adoptLegacyV2 record
    else if record.legacyV1.isSome then adoptLegacyV1 record
    else
      lift (validateJournal p record)
      modify fun backend => { backend with
        current := record.active
        currentNftFingerprint := record.activeNftFingerprint
        interfaceSettings := record.interfaceSettings
        restoreReceipt := record.restoreReceipt
        legacy := none
        initialized := true }

/-- `grant_mismatch`. -/
def grantMismatch (record : RuntimeRecord) : BackendM (Option String) := do
  let boot : Except PrivilegedError String ← attempt readBootId
  let namespaceId : Except PrivilegedError ℕ ← attempt readNetworkNamespace
  match boot, namespaceId with
  | .error e, _ => return some e
  | .ok _, .error e => return some e
  | .ok boot, .ok namespaceId =>
    if boot ≠ record.grant.bootId ∨ namespaceId ≠ record.grant.networkNamespace then
      return some "runtime grant belongs to another boot or network namespace"
    else if p.policyHash record.profile record.resolutions ≠ record.grant.policyHash then
      return some "runtime grant does not match its journaled policy"
    else return none

/-- What `load_runtime` arms a journaled record as. -/
def ArmedRuntime.loaded (record : RuntimeRecord) (mismatch : Option String) : ArmedRuntime :=
  ⟨record, none, if mismatch.isSome then .needsReauthorization else .armed, mismatch, none, none⟩

/-- `load_runtime`: the journaled record is read once. -/
def loadRuntime : BackendM Unit := do
  let backend ← get
  if backend.runtimeLoaded then return ()
  else
    let record := (← load).getD {}
    modify fun backend => { backend with runtimeRestore := record.runtimeRestore }
    match record.runtime with
    | none => modify fun backend => { backend with runtime := none, runtimeLoaded := true }
    | some runtime =>
      let mismatch ← grantMismatch p runtime
      modify fun backend => { backend with
        runtime := some (.loaded runtime mismatch), runtimeLoaded := true }

/-- `runtime_status_snapshot`. -/
def Backend.status (backend : Backend) : RuntimeStatus :=
  let generation := (backend.current.map KernelPlan.generation).getD 0
  if backend.legacyV2.isSome then
    { RuntimeStatus.inactive 0 with
      phase := .needsReauthorization
      lastError := some "schema-2 ownership requires authorized cleanup before activation" }
  else match backend.runtime with
    | none => .inactive generation
    | some runtime => ⟨some runtime.record.grant, generation, some runtime.record.decision,
        runtime.phase, runtime.lastError, runtime.failbackInMs⟩

def statusSnapshot : BackendM RuntimeStatus := do
  let backend ← get
  return backend.status

/-- `journal_interrupted`. -/
def journalInterrupted : BackendM Bool := do
  let record ← load
  return record.any StoredAppliedState.interrupted

/-! ## Writing the journal -/

/-- `committed_extras`. -/
def Backend.committedExtras (backend : Backend) : CommittedExtras :=
  ⟨backend.interfaceSettings, backend.runtime.map ArmedRuntime.record, backend.runtimeRestore⟩

/-- The journal of a committed plan. -/
def committedRecord (plan : KernelPlan) (fingerprint : String)
    (restoreReceipt : Option RestoreReceipt) (extras : CommittedExtras) : StoredAppliedState :=
  { StoredAppliedState.committed (some plan) (some fingerprint) restoreReceipt with
    interfaceSettings := extras.settings
    runtime := extras.runtime
    runtimeRestore := extras.runtimeRestore }

/-- `persist_committed_with_receipt`. -/
def persistCommittedWithReceipt (state : Option KernelPlan) (nftFingerprint : Option String)
    (restoreReceipt : Option RestoreReceipt) (extras : CommittedExtras) : BackendM Unit := do
  require (state.isSome ∨ extras.isEmpty = true)
    "interface setting and runtime receipts require an active committed plan"
  match state, nftFingerprint with
  | some plan, some fingerprint => save p (committedRecord plan fingerprint restoreReceipt extras)
  | none, none =>
    match restoreReceipt with
    | some receipt => save p (.committed none none (some receipt))
    | none => clear
  | _, _ => fail "cannot persist an active plan without its exact nftables fingerprint"

/-- `persist_committed`. -/
def persistCommitted (state : Option KernelPlan) (nftFingerprint : Option String)
    (extras : CommittedExtras) : BackendM Unit :=
  persistCommittedWithReceipt p state nftFingerprint none extras

/-! ## Orphans -/

/-- `orphan_journal`. -/
def orphanJournal (ownership : OrphanedOwnership) : StoredAppliedState :=
  { orphanCleanup := some ownership }

/-- Delete the rules of an orphan, journaling each. -/
def removeOrphanRules (ownership : OrphanedOwnership) : List RuleOwnership →
    BackendM OrphanedOwnership
  | [] => return ownership
  | rule :: rules => do
    onKernel (sendRemoval (.deleteRule rule.family rule.priority rule.table rule.mark)
      "remove verified orphan RouteLane policy rule")
    let rest := { ownership with
      routing := { ownership.routing with rules := ownership.routing.rules.erase rule } }
    save p (orphanJournal rest)
    removeOrphanRules rest rules

/-- Flush the tables of the routes of an orphan, journaling each. -/
def removeOrphanRoutes (ownership : OrphanedOwnership) : List RouteOwnership →
    BackendM OrphanedOwnership
  | [] => return ownership
  | route :: routes => do
    onKernel (sendRemoval (.flushTable route.family route.table)
      "flush verified orphan RouteLane routing table")
    let rest := { ownership with
      routing := { ownership.routing with
        routes := ownership.routing.routes.filter fun value =>
          value.family ≠ route.family ∨ value.table ≠ route.table } }
    save p (orphanJournal rest)
    removeOrphanRoutes rest routes

/-- What an orphan record still owns of the live state, or why it does not own it. -/
def OrphanedOwnership.resumed (ownership : OrphanedOwnership) (live : RoutingOwnership)
    (liveFingerprint : Option String) : Except PrivilegedError OrphanedOwnership := do
  let fingerprint ← match liveFingerprint, ownership.nftFingerprint with
    | some _, none => throw "orphan cleanup journal does not own the live nftables table"
    | some fingerprint, some expected =>
      if fingerprint = expected then .ok (some expected)
      else throw "orphan cleanup journal does not exactly own the live inet/routelane table"
    | none, _ =>
      if live = .empty then .ok none
      else throw "orphan cleanup table is missing while routing resources remain"
  if live.routes ⊆ ownership.routing.routes ∧ live.rules ⊆ ownership.routing.rules then
    return ⟨fingerprint, live⟩
  else throw "orphan cleanup journal conflicts with live routing resources"

/-- The end of `resume_orphan_cleanup`: the table goes last. -/
def removeOrphanTable (ownership : OrphanedOwnership) : BackendM Unit :=
  match ownership.nftFingerprint with
  | none => return ()
  | some expected => do
    let live ← onKernel (liveNftFingerprint p.blake3)
    require (live = expected)
      "orphan cleanup journal does not exactly own the live inet/routelane table"
    onKernel (runNftBatch .deleteTable "delete verified orphan RouteLane nftables table")
    save p (orphanJournal { ownership with nftFingerprint := none })

/-- `resume_orphan_cleanup`. -/
def resumeOrphanCleanup : BackendM Unit := do
  match ← load with
  | none => fail "orphan cleanup journal is missing"
  | some record =>
    lift (validateOrphanJournal record)
    match record.orphanCleanup with
    | none => fail "validated orphan journal"
    | some ownership =>
      let captured ← onKernel captureSnapshot
      let fingerprint ← onKernel (capturedFingerprint p captured)
      let ownership ← lift (ownership.resumed captured.routing fingerprint)
      save p (orphanJournal ownership)
      let ownership ← removeOrphanRules p ownership (p.rulesInOrder ownership.routing.rules)
      let ownership ← removeOrphanRoutes p ownership (p.routesInOrder ownership.routing.routes)
      removeOrphanTable p ownership
      let captured ← onKernel captureSnapshot
      require (captured.nft.isNone ∧ captured.routing = .empty)
        "verified orphan RouteLane resources remain after cleanup"
      clear

/-! ## Recovery -/

/-- The memory after a journal without anything in force was recovered. -/
def Backend.cleared (backend : Backend) (restoreReceipt : Option RestoreReceipt) : Backend :=
  { backend with
    current := none
    currentNftFingerprint := none
    restoreReceipt := restoreReceipt
    initialized := true }

/-- The memory of a committed plan. -/
def Backend.adopting (backend : Backend) (record : StoredAppliedState)
    (restoreReceipt : Option RestoreReceipt) : Backend :=
  { backend with
    current := record.active
    currentNftFingerprint := record.activeNftFingerprint
    interfaceSettings := record.interfaceSettings
    restoreReceipt := restoreReceipt
    initialized := true }

/-- The cleanup part of `ensure_reconciled`. -/
def resumeCleanup (record : StoredAppliedState) : BackendM Unit := do
  onKernel (verifyCleanupTableOwnership p record.active record.activeNftFingerprint)
  let (result, _) ← withRunner (.new record.active ∅) (do
    let _ ← snapshot
    restore p.blake3 none)
  lift (result.mapError ("resume persisted cleanup: " ++ ·))
  let _ ← restoreSettingReceipts record.interfaceSettings
  match record.restoreReceipt with
  | some receipt => save p (.committed none none (some receipt))
  | none => clear
  modify fun backend => { backend.cleared record.restoreReceipt with interfaceSettings := [] }

/-- The pending part of `ensure_reconciled`: the active plan is restored. -/
def resumePending (record : StoredAppliedState) (pending : KernelPlan)
    (expectations : JournaledExpectations) : BackendM Unit := do
  let journal : PendingJournal := ⟨record.active, record.activeNftFingerprint, pending,
    expectations.toPendingExpectations⟩
  onKernel (checkPendingTableOwnership p journal)
  let (result, _) ← withRunner (.recovering journal) (recoverPending p.blake3 journal)
  lift (result.mapError ("recover pending kernel transaction: " ++ ·))
  let (exact, _) ← withRunner (.new none ∅)
    (verifyExactKernelBasis p record.active record.activeNftFingerprint expectations.lostUnicast)
  lift (exact.mapError ("recovered kernel state differs from the exact rollback target; " ++
    "pending journal retained: " ++ ·))
  let _ ← restoreSettingReceipts (record.pendingInterfaceSettings.filter fun receipt =>
    receipt ∉ record.interfaceSettings)
  persistCommittedWithReceipt p record.active record.activeNftFingerprint none (.of record)
  modify fun backend => { backend.adopting record none with runtimeLoaded := false }

/-- The last part of `ensure_reconciled`: nothing was interrupted. -/
def adoptCommitted (record : StoredAppliedState) : BackendM Unit := do
  match record.active with
  | some active =>
    if ← onKernel (verifyPersistedOwnership p active (record.activeNftFingerprint.getD "")) then
      modify fun backend => backend.adopting record record.restoreReceipt
    else fail ("persisted RouteLane generation is incomplete; refusing implicit repair without " ++
      "a pending journal")
  | none =>
    if record.restoreReceipt.isNone then clear else pure ()
    modify fun backend => backend.cleared record.restoreReceipt

/-- `ensure_reconciled` on a journal it has to look at. -/
def reconcile (record : StoredAppliedState) : BackendM Unit := do
  if record.legacyV2.isSome then adoptLegacyV2 record
  else if record.legacyV1.isSome then adoptLegacyV1 record
  else
    lift (validateJournal p record)
    if record.orphanCleanup.isSome then
      resumeOrphanCleanup p
      modify fun backend => backend.cleared none
    else if record.cleanupPending then resumeCleanup p record
    else match record.pending, record.pendingExpectations with
      | some pending, some expectations => resumePending p record pending expectations
      | some _, none => fail "validated pending state has exact expectations"
      | none, _ => adoptCommitted p record

/-- `ensure_reconciled`. -/
def ensureReconciled : BackendM Unit := do
  let record ← load
  let backend ← get
  match record with
  | none => modify fun backend => { backend with initialized := true }
  | some record =>
    if !backend.initialized || record.pending.isSome || record.cleanupPending ||
        record.orphanCleanup.isSome then
      reconcile p record
    else return ()

/-! ## Transitions -/

/-- `repair_committed_journal_after_rollback`. -/
def repairCommittedJournalAfterRollback (state : Option KernelPlan)
    (nftFingerprint : Option String) (lost : LostUnicast) (extras : CommittedExtras)
    (rollbackSucceeded : Bool) : BackendM Unit := do
  require (rollbackSucceeded = true)
    "rollback did not complete; exact pending state is still required for recovery"
  onKernel (verifyExactKernelBasis p state nftFingerprint lost)
  persistCommitted p state nftFingerprint extras

/-- The `undo` of `transition_with`: the settings are restored only after the journal is
back on the previous generation. -/
def undoTransition (previous : Option KernelPlan) (previousNftFingerprint : Option String)
    (lost : LostUnicast) (extras : CommittedExtras) (newSettings : List InterfaceSettingReceipt)
    (rollbackSucceeded : Bool) : BackendM Unit := do
  repairCommittedJournalAfterRollback p previous previousNftFingerprint lost extras
    rollbackSucceeded
  let diverged ← restoreSettingReceipts newSettings
  require (diverged = []) ("; ".intercalate diverged)

/-- Whether an attempt succeeded. -/
def succeeded {ε α : Type} : Except ε α → Bool
  | .ok _ => true
  | .error _ => false

/-- Roll the kernel back after it had taken the plan, and report it. -/
def rollBackTaken (undo : Bool → BackendM Unit) (runner : CommandKernelRunner)
    (previous : Option KernelPlan) (error : PrivilegedError) : BackendM Unit := do
  let (rollback, _) ← withRunner runner (restore p.blake3 previous)
  let repair : Except PrivilegedError Unit ← attempt (undo (succeeded rollback))
  fail (error ++ "; rollback: " ++ resultLabel rollback ++ "; state repair: " ++
    resultLabel repair)

/-- `live_routing_fingerprint` of the committed state. -/
def committedRoutingFingerprint : BackendM String := do
  let captured ← onKernel captureSnapshot
  return p.routingFingerprint captured.routing

/-- `transition_with` once the kernel has taken the plan. -/
def commitTaken (undo : Bool → BackendM Unit) (runner : CommandKernelRunner)
    (previous : Option KernelPlan) (plan : KernelPlan) (expectations : JournaledExpectations)
    (restoreReceipt : Option RestoreReceipt) (extras : CommittedExtras) : BackendM Unit := do
  let live : Except PrivilegedError String ← attempt (onKernel (liveNftFingerprint p.blake3))
  match live with
  | .error e =>
    rollBackTaken p undo runner previous
      ("kernel apply completed but exact nftables state could not be recorded: " ++ e)
  | .ok fingerprint =>
    let routing : Except PrivilegedError String ← attempt (committedRoutingFingerprint p)
    match routing with
    | .error e =>
      rollBackTaken p undo runner previous e
    | .ok routing =>
      if routing = expectations.committedRoutingFingerprint ∧
          fingerprint = expectations.committedNftFingerprint then
        let persisted : Except PrivilegedError Unit ←
          attempt (persistCommittedWithReceipt p (some plan) (some fingerprint) restoreReceipt extras)
        match persisted with
        | .error e =>
          rollBackTaken p undo runner previous
            ("kernel apply completed but state commit failed: " ++ e)
        | .ok () =>
          modify fun backend => { backend with
            current := some plan
            currentNftFingerprint := some fingerprint
            interfaceSettings := extras.settings
            runtimeRestore := extras.runtimeRestore
            restoreReceipt := restoreReceipt }
      else
        rollBackTaken p undo runner previous
          "live kernel state differs from the exact journaled pending commit"

/-- The journal of a transition that has just started. -/
def pendingRecord (previous : Option KernelPlan) (previousNftFingerprint : Option String)
    (plan : KernelPlan) (lost : LostUnicast) (restoreReceipt : Option RestoreReceipt)
    (extras : CommittedExtras) (runtime : Option RuntimeRecord) : StoredAppliedState where
  active := previous
  activeNftFingerprint := previousNftFingerprint
  pending := some plan
  pendingExpectations := some (journaledExpectations p previous lost plan)
  restoreReceipt := restoreReceipt
  interfaceSettings := extras.settings
  runtime := extras.runtime
  pendingRuntime := runtime
  runtimeRestore := extras.runtimeRestore

/-- `transition_with` from the settings on: the pending journal is saved. -/
def transitionSaved (previous : Option KernelPlan) (previousNftFingerprint : Option String)
    (previousExtras : CommittedExtras) (plan : KernelPlan) (lost : LostUnicast)
    (restoreReceipt : Option RestoreReceipt) (runtime : Option RuntimeRecord)
    (runtimeRestore : Option RuntimeRestoreReceipt) (record : StoredAppliedState) :
    BackendM Unit := do
  let (record, settings) ← ensureInterfaceSettings p record plan
  match settings with
  | .error e =>
    -- the kernel is untouched: only the settings and the journal go back
    let restored ← restoreSettingReceipts record.pendingInterfaceSettings
    let repair : Except PrivilegedError Unit ←
      attempt (persistCommitted p previous previousNftFingerprint previousExtras)
    fail (e ++ "; setting restore: " ++
      (if restored = [] then "ok" else "; ".intercalate restored) ++ "; state repair: " ++
      resultLabel repair)
  | .ok newSettings =>
    let extras : CommittedExtras :=
      ⟨previousExtras.settings ++ newSettings, runtime, runtimeRestore⟩
    let undo := undoTransition p previous previousNftFingerprint lost previousExtras newSettings
    let conflict := p.conflictsFrom previous plan
    let (applied, runner) ← withRunner (.new previous lost)
      (if restoreReceipt.isSome then transitionPlan p.blake3 conflict previous plan
      else applyPlan p.blake3 conflict previous plan)
    match applied with
    | .error e =>
      let repair : Except PrivilegedError Unit ← attempt (undo e.rolledBack)
      match repair with
      | .ok () => fail e.text
      | .error repair => fail (e.text ++ "; pending journal retained: " ++ repair)
    | .ok applied =>
      commitTaken p undo runner previous applied (journaledExpectations p previous lost plan)
        restoreReceipt extras

/-- `transition_with`. -/
def Backend.transitionWith (plan : KernelPlan) (restoreReceipt : Option RestoreReceipt)
    (lost : LostUnicast) (runtime : Option RuntimeRecord)
    (runtimeRestore : Option RuntimeRestoreReceipt) : BackendM Unit := do
  let backend ← get
  let extras := backend.committedExtras
  onKernel (preflightPlan p backend.current plan)
  let record := pendingRecord p backend.current backend.currentNftFingerprint plan lost
    restoreReceipt extras runtime
  save p record
  modify fun backend => { backend with restoreReceipt := none }
  transitionSaved p backend.current backend.currentNftFingerprint extras plan lost restoreReceipt
    runtime runtimeRestore record

end Backend

end RouteLane
