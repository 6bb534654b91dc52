import RouteLane.Backend.Backend

/-!
# Journals of earlier schemas

What an earlier helper left behind is proved to be its own and removed, and never becomes
a plan of this one.
-/

namespace RouteLane

open Nft Faults Program Fallible

/-! ## Schema 1 -/

/-- `LegacyPlanV1::ownership`: what one lane had for one family. -/
def LegacyLaneV1.gateway (lane : LegacyLaneV1) : IpFamily → Option (Option IpAddr)
  | .v4 => lane.routeV4.map fun route => route.gateway.map .v4
  | .v6 => lane.routeV6.map fun route => route.gateway.map .v6

/-- `LegacyPlanV1::ownership`. -/
def LegacyPlanV1.ownership (plan : LegacyPlanV1) : RoutingOwnership where
  routes := ((plan.lanes.filter fun lane => lane.availability == .available).flatMap fun lane =>
    families.filterMap fun f => (lane.gateway f).map fun gateway =>
      RouteOwnership.mk f lane.table gateway lane.interface false).toFinset
  rules := ((plan.lanes.filter fun lane => lane.availability == .available).flatMap fun lane =>
    families.filterMap fun f => (lane.gateway f).map fun _ =>
      RuleOwnership.mk f lane.rulePriority lane.table lane.mark).toFinset

section Legacy

variable (p : Primitives)

/-- The closure `verify` of `cleanup_legacy`: whether the table is still there. -/
def verifyLegacyV1 (active : LegacyPlanV1) (fingerprint : String) (exact : Bool) :
    Runner Bool := do
  let captured ← captureSnapshot
  let expected := active.ownership
  if (if exact then captured.routing = expected
      else captured.routing.routes ⊆ expected.routes ∧
        captured.routing.rules ⊆ expected.rules) then
    if captured.nft.isSome then
      let document := (← inspect "inspect exact RouteLane nftables table" KernelState.nft).getD []
      if p.legacyStateChain active ∈ chainNames document ∧
          p.legacyNftFingerprint document = fingerprint then return true
      else fail "schema-1 journal does not exactly own the live inet/routelane table"
    else if captured.routing = .empty ∧ exact = false then return false
    else fail "schema-1 journal is missing its committed nftables table"
  else fail "schema-1 journal does not own the exact live RouteLane routing state"

/-- The deletions of `cleanup_legacy`. -/
def removeLegacyV1 (active : LegacyPlanV1) (fingerprint : String) (tablePresent : Bool) :
    Runner Unit := do
  forEach (fun rule : RuleOwnership =>
      runRoutingStep "remove schema-1 RouteLane policy rule"
        (.deleteRule rule.family rule.priority rule.table rule.mark))
    (p.rulesInOrder active.ownership.rules)
  forEach (fun route : RouteOwnership =>
      runRoutingStep "flush schema-1 RouteLane routing table"
        (.flushTable route.family route.table))
    (p.routesInOrder active.ownership.routes)
  if tablePresent then
    if ← verifyLegacyV1 p active fingerprint false then
      runNftBatch .deleteTable "delete schema-1 RouteLane nftables table"
    else pure ()
  else pure ()
  verifyExactKernelState p none none

/-- `cleanup_legacy`: whether there was something to clean. -/
def cleanupLegacy (legacy : LegacyJournalV1) : BackendM Bool := do
  require (legacy.pending.isNone ∧ legacy.pendingExpectations.isNone ∧
      legacy.orphanCleanup.isNone)
    ("an interrupted schema-1 transaction cannot be proven by this helper; leaving its " ++
      "resources untouched")
  match legacy.active, legacy.activeNftFingerprint with
  | none, _ =>
    clear
    modify fun backend => { backend with legacy := none }
    return false
  | some _, none => fail "schema-1 journal is missing its nftables fingerprint"
  | some active, some fingerprint =>
    let tablePresent ← onKernel (verifyLegacyV1 p active fingerprint !legacy.cleanupPending)
    save p { legacyV1 := some { legacy with cleanupPending := true } }
    onKernel (removeLegacyV1 p active fingerprint tablePresent)
    clear
    modify fun backend => { backend with legacy := none }
    return true

/-! ## Schema 2 -/

/-- The lane tuples `validate_legacy_v2_evidence` accepts. -/
def checkLegacyLanes (seen : List LanePlan) : List LanePlan → Except PrivilegedError Unit
  | [] => .ok ()
  | lane :: lanes => do
    failIf (lane.table < tableBase ∨ tableBase + 100 ≤ lane.table)
      "invalid schema-2 reserved table"
    failIf ((∃ other ∈ seen, other.table = lane.table) ∨
        lane.mark ≠ markBase + (lane.table - tableBase) ∨
        lane.rulePriority ≠ rulePriorityBase + (lane.table - tableBase) ∨
        (∃ other ∈ seen, other.id = lane.id) ∨ !isKernelInterfaceName lane.interface)
      "invalid schema-2 reserved lane tuple"
    checkLegacyLanes (lane :: seen) lanes

def checkLegacyPlans : List LegacyPlanV2 → Except PrivilegedError Unit
  | [] => .ok ()
  | plan :: plans => do
    failIf (plan.generation = 0 ∨ 100 < plan.lanes.length) "invalid schema-2 plan bounds"
    checkLegacyLanes [] plan.lanes
    checkLegacyPlans plans

/-- The plans a schema-2 journal names. -/
def LegacyJournalV2.plans (legacy : LegacyJournalV2) : List LegacyPlanV2 :=
  legacy.active.toList ++ legacy.pending.toList

/-- `legacy_v2_expected_nft`. -/
def legacyExpectedNft (active pending : Option LegacyPlanV2) (guard : Bool) : String :=
  nftDocumentFingerprint p.blake3 (p.legacyDocument active pending guard)

/-- What the pending expectations of a schema-2 journal have to be. -/
def legacyExpectations (active : Option LegacyPlanV2) (lost : LostUnicast)
    (pending : LegacyPlanV2) : JournaledExpectations where
  guardNftFingerprint := legacyExpectedNft p active (some pending) true
  guardlessTransactionNftFingerprint := legacyExpectedNft p active (some pending) false
  activatedNftFingerprint := legacyExpectedNft p (some pending) none true
  committedNftFingerprint := legacyExpectedNft p (some pending) none false
  lostUnicast := lost
  committedRoutingFingerprint := p.routingFingerprint (planRoutingOwnership pending)
  routingModelFingerprint := p.routingModelFingerprint
    ((active.map (routingBasis lost)).map (KernelPlan.contentHash p.blake3))
    (pending.contentHash p.blake3)

/-- `validate_legacy_v2_evidence`. -/
def validateLegacyV2Evidence (legacy : LegacyJournalV2) : Except PrivilegedError Unit := do
  checkLegacyPlans legacy.plans
  match legacy.active, legacy.activeNftFingerprint with
  | some active, some fingerprint =>
    failIf (fingerprint ≠ legacyExpectedNft p (some active) none false)
      "schema-2 committed fingerprint does not match frozen policy"
  | none, none => .ok ()
  | _, _ => .error "schema-2 committed fingerprint does not match frozen policy"
  match legacy.pending, legacy.pendingExpectations with
  | none, none => .ok ()
  | some pending, some expectations =>
    failIf (expectations ≠ legacyExpectations p legacy.active expectations.lostUnicast pending)
      "schema-2 pending expectations do not match frozen policy"
  | _, _ => .error "schema-2 pending plan/expectations are incomplete"

/-- The phase `verify_legacy_v2_live` reads off the nft table; of the fingerprints that
match, the last one counts. -/
def legacyPhase (legacy : LegacyJournalV2) (fingerprint : Option String) :
    Option PendingNftPhase :=
  let untouched : Option PendingNftPhase :=
    if fingerprint = legacy.activeNftFingerprint ∧ fingerprint.isSome then some .untouched
    else none
  match legacy.pendingExpectations with
  | none => untouched
  | some e =>
    match fingerprint with
    | none => some .rollbackAbsent
    | some live =>
      if live = e.committedNftFingerprint then some .committed
      else if live = e.activatedNftFingerprint then some .activated
      else if live = e.guardlessTransactionNftFingerprint then some .guardlessTransaction
      else if live = e.guardNftFingerprint then some .guard
      else untouched

/-- The routing states `verify_legacy_v2_live` accepts in a phase. -/
def legacyRoutingValid (legacy : LegacyJournalV2) (live : RoutingOwnership)
    (phase : PendingNftPhase) : Except PrivilegedError Bool :=
  match legacy.pending with
  | some pending =>
    let lost := (legacy.pendingExpectations.map fun e => e.lostUnicast).getD ∅
    let active := legacy.active.map (routingBasis lost)
    if phase = .rollbackAbsent ∧ legacy.cleanupPending = true then
      .ok (anyReaches (buildAbsentRollbackStates active) active pending live)
    else routingStateReachableForPhase live active pending phase
  | none =>
    match legacy.active with
    | some active =>
      .ok (live == planRoutingOwnership active || (legacy.cleanupPending &&
        rollbackPrefixReaches (planRoutingOwnership active) none active live))
    | none => .ok (live == .empty)

/-- `verify_legacy_v2_live`: whether the table is still there. -/
def verifyLegacyV2Live (legacy : LegacyJournalV2) : Runner Bool := do
  let captured ← captureSnapshot
  if captured.nft.isNone ∧ legacy.cleanupPending = true ∧ captured.routing = .empty then
    return false
  else
    let fingerprint ← capturedFingerprint p captured
    match legacyPhase legacy fingerprint with
    | none => fail "schema-2 journal does not exactly own the live nftables state"
    | some phase =>
      match legacyRoutingValid legacy captured.routing phase with
      | .error e => fail e
      | .ok true => return captured.nft.isSome
      | .ok false => fail "schema-2 cleanup is outside an exact owned command prefix"

/-- The deletions of `cleanup_legacy_v2`: the live state is proved again before each. -/
def removeLegacyV2 (legacy : LegacyJournalV2) : Runner Unit := do
  forEach (fun step => do
      let _ ← verifyLegacyV2Live p legacy
      runRoutingStep "remove exact schema-2 RouteLane resource" step)
    (rollbackSteps legacy.plans)
  if ← verifyLegacyV2Live p legacy then
    runNftBatch .deleteTable "delete exact schema-2 RouteLane nftables table"
  else pure ()
  verifyExactKernelState p none none

/-- The settings a schema-2 journal may have changed, one receipt a device. -/
def LegacyJournalV2.receipts (legacy : LegacyJournalV2) : List InterfaceSettingReceipt :=
  legacy.pendingInterfaceSettings.foldl (fun receipts receipt =>
    if receipts.any fun r => decide (r.identity = receipt.identity) then receipts
    else receipts ++ [receipt]) legacy.interfaceSettings

/-- No lane of a schema-2 journal names a device that changed. -/
def checkLegacyIdentities : List LanePlan → BackendM Unit
  | [] => return ()
  | lane :: lanes => do
    match lane.identity with
    | none => pure ()
    | some identity =>
      let live ← readIdentity identity.name
      require (live = identity) "schema-2 interface identity changed; refusing cleanup"
    checkLegacyIdentities lanes

/-- `cleanup_legacy_v2`: whether there was something to clean. -/
def cleanupLegacyV2 (legacy : LegacyJournalV2) : BackendM Bool := do
  match legacy.legacyV1 with
  | some v1 =>
    require (legacy.active.isNone ∧ legacy.pending.isNone ∧ legacy.orphanCleanup.isNone)
      "mixed schema-1/schema-2 ownership cannot be cleaned"
    save p { legacyV1 := some v1 }
    modify fun backend => { backend with legacyV2 := none, legacy := some v1 }
    cleanupLegacy p v1
  | none =>
    require (legacy.orphanCleanup.isNone)
      "schema-2 orphan recovery needs exact legacy proof; resources were left untouched"
    lift (validateLegacyV2Evidence p legacy)
    checkLegacyIdentities (legacy.plans.flatMap KernelPlan.lanes)
    let _ ← onKernel (verifyLegacyV2Live p legacy)
    let legacy := { legacy with cleanupPending := true }
    save p { legacyV2 := some legacy }
    modify fun backend =>
      { backend with legacyV2 := some legacy, runtime := none, runtimeRestore := none }
    onKernel (removeLegacyV2 p legacy)
    let _ ← restoreSettingReceipts legacy.receipts
    clear
    modify fun backend => { backend with legacyV2 := none }
    return true

end Legacy

end RouteLane
