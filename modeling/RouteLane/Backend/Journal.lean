import RouteLane.Config.Schema
import RouteLane.Kernel.CrashModel
import RouteLane.Net.Derived
import RouteLane.Runtime.Authority

/-!
# The journal

What the helper keeps on disk: the plan in force, a transition on its way, a cleanup on
its way, and everything that commits together with a plan.  A journal is read back as a
whole and has to pass all of the loader's checks, whatever step it was written at.
-/

namespace RouteLane

open Fallible Nft

/-- `PrivilegedError`. -/
abbrev PrivilegedError := String

/-! ## Records -/

/-- A setting the helper changed, and what it was before. -/
structure InterfaceSettingReceipt where
  identity : InterfaceIdentity
  previous : ℕ
  applied : ℕ
  deriving DecidableEq

/-- Which restore the plan in force, or the empty state, is the result of. -/
structure RestoreReceipt where
  failedGeneration : ℕ
  failedPlanHash : PlanHash
  previousGeneration : Option ℕ
  previousPlanHash : Option PlanHash
  deriving DecidableEq

structure OrphanedOwnership where
  nftFingerprint : Option String
  routing : RoutingOwnership
  deriving DecidableEq

/-- The `PendingExpectations` of the journal: those of the nft table, and those of the
routing. -/
structure JournaledExpectations extends PendingExpectations where
  committedRoutingFingerprint : String
  routingModelFingerprint : String
  deriving DecidableEq

/-! ### Earlier schemas -/

/-- A lane of a schema-1 plan; its id and failure policy only enter its digest. -/
structure LegacyLaneV1 where
  id : LaneId
  interface : String
  routeV4 : Option (RouteMode Ipv4Addr)
  routeV6 : Option (RouteMode Ipv6Addr)
  availability : LaneAvailability
  table : ℕ
  mark : ℕ
  rulePriority : ℕ
  failurePolicy : LaneFailurePolicy
  deriving DecidableEq

/-- A rule of a schema-1 plan, for both families. -/
structure LegacyRuleV1 where
  id : RuleId
  priority : ℕ
  target : CompiledTarget
  action : CompiledAction
  deriving DecidableEq

structure LegacyPlanV1 where
  generation : ℕ
  profileId : ProfileId
  lanes : List LegacyLaneV1
  rules : List LegacyRuleV1
  deriving DecidableEq

/-- A schema-1 journal.  Its pending expectations, its restore receipt and its orphan record
are not decoded. -/
structure LegacyJournalV1 where
  active : Option LegacyPlanV1
  activeNftFingerprint : Option String
  pending : Option LegacyPlanV1
  pendingExpectations : Option Undecoded
  cleanupPending : Bool
  restoreReceipt : Option Undecoded
  orphanCleanup : Option Undecoded
  deriving DecidableEq

/-- A schema-2 plan has the fields of a plan. -/
abbrev LegacyPlanV2 := KernelPlan

structure RuntimeRecordV2 where
  grant : RuntimeGrant
  profile : ProfileV3
  resolutions : ResolutionSnapshot
  decision : PrimaryDecision
  deriving DecidableEq

structure RuntimeRestoreReceiptV2 where
  tokenHash : String
  ownerUid : ℕ
  issuedForGeneration : ℕ
  issuedForPlanHash : PlanHash
  previousPlan : Option LegacyPlanV2
  previousRecord : Option RuntimeRecordV2
  deriving DecidableEq

/-- A schema-2 journal. -/
structure LegacyJournalV2 where
  journalVersion : UInt32
  active : Option LegacyPlanV2
  activeNftFingerprint : Option String
  pending : Option LegacyPlanV2
  pendingExpectations : Option JournaledExpectations
  cleanupPending : Bool
  restoreReceipt : Option RestoreReceipt
  orphanCleanup : Option OrphanedOwnership
  interfaceSettings : List InterfaceSettingReceipt
  pendingInterfaceSettings : List InterfaceSettingReceipt
  legacyV1 : Option LegacyJournalV1
  runtime : Option RuntimeRecordV2
  pendingRuntime : Option RuntimeRecordV2
  runtimeRestore : Option RuntimeRestoreReceiptV2
  deriving DecidableEq

/-! ### The current schema -/

structure StoredAppliedState where
  active : Option KernelPlan := none
  activeNftFingerprint : Option String := none
  pending : Option KernelPlan := none
  pendingExpectations : Option JournaledExpectations := none
  cleanupPending : Bool := false
  restoreReceipt : Option RestoreReceipt := none
  orphanCleanup : Option OrphanedOwnership := none
  /-- What the plan in force changed, to be restored at cleanup. -/
  interfaceSettings : List InterfaceSettingReceipt := []
  /-- What a transition on its way is about to change. -/
  pendingInterfaceSettings : List InterfaceSettingReceipt := []
  legacyV1 : Option LegacyJournalV1 := none
  legacyV2 : Option LegacyJournalV2 := none
  /-- Commits together with `active`. -/
  runtime : Option RuntimeRecord := none
  /-- Commits only together with `pending`. -/
  pendingRuntime : Option RuntimeRecord := none
  /-- The one restore of the record `active` replaced. -/
  runtimeRestore : Option RuntimeRestoreReceipt := none
  deriving DecidableEq

/-- `StoredAppliedState::committed`. -/
def StoredAppliedState.committed (active : Option KernelPlan)
    (activeNftFingerprint : Option String) (restoreReceipt : Option RestoreReceipt) :
    StoredAppliedState :=
  { active := active, activeNftFingerprint := activeNftFingerprint,
    restoreReceipt := restoreReceipt }

/-- The journal of something that was interrupted. -/
def StoredAppliedState.interrupted (record : StoredAppliedState) : Bool :=
  record.pending.isSome || record.cleanupPending || record.orphanCleanup.isSome ||
    record.legacyV1.isSome || record.legacyV2.isSome

/-- What is journaled alongside a plan. -/
structure CommittedExtras where
  settings : List InterfaceSettingReceipt := []
  runtime : Option RuntimeRecord := none
  runtimeRestore : Option RuntimeRestoreReceipt := none
  deriving DecidableEq

/-- `CommittedExtras::of`. -/
def CommittedExtras.of (record : StoredAppliedState) : CommittedExtras :=
  ⟨record.interfaceSettings, record.runtime, record.runtimeRestore⟩

/-- `CommittedExtras::is_empty`. -/
def CommittedExtras.isEmpty (extras : CommittedExtras) : Bool := extras = {}

structure RuntimeActivation where
  protocolVersion : ℕ
  profile : Profile
  resolutions : ResolutionSnapshot
  expectedGeneration : ℕ
  deriving DecidableEq

/-! ## Digests, encodings and texts -/

/-- What the helper computes with libraries, with derived code and from the routes and
rules of others: digests over canonical JSON, the length of an encoding, how an error
value is written out, the conflicts of a plan with resources that are not RouteLane's, and
what it takes a table without a journal for. -/
structure Primitives where
  blake3 : Blake3
  toLowercase : String → String
  routingFingerprint : RoutingOwnership → String
  routingModelFingerprint : Option PlanHash → PlanHash → String
  policyHash : Profile → ResolutionSnapshot → PlanHash
  tokenHash : String → String
  stateBytes : StoredAppliedState → ℕ
  planBytes : KernelPlan → ℕ
  activationBytes : RuntimeActivation → ℕ
  domainErrorText : DomainError → String
  planErrorText : PlanError → String
  validationErrorText : ValidationError → String
  conflicts : KernelPlan → KernelState → Option String
  conflictsForUpdate : KernelPlan → KernelPlan → KernelState → Option String
  /-- The elements of a set in the order of their keys. -/
  rulesInOrder : Finset RuleOwnership → List RuleOwnership
  routesInOrder : Finset RouteOwnership → List RouteOwnership
  /-- `validate_orphan_nft_document`. -/
  orphanDocumentError : Document → Option String
  /-- The name of the ownership marker of a schema-1 plan. -/
  legacyStateChain : LegacyPlanV1 → ChainName
  legacyNftFingerprint : Document → String
  /-- The nft document of a schema-2 helper. -/
  legacyDocument : Option LegacyPlanV2 → Option LegacyPlanV2 → Bool → Document

/-- `MAX_PLAN_JSON_BYTES`. -/
def maxPlanJsonBytes : ℕ := 1024 * 1024

/-- `MAX_ACTIVATION_JSON_BYTES`. -/
def maxActivationJsonBytes : ℕ := 1024 * 1024

/-- `MAX_STATE_BYTES`. -/
def maxStateBytes : ℕ :=
  maxPlanJsonBytes * 3 + (maxActivationJsonBytes + 64 * 1024) * 3 + 256 * 1024

section Checks

variable (p : Primitives)

/-! ## The loader's checks -/

/-- `validate_stored_plan`. -/
def validateStoredPlan (plan : Option KernelPlan) (label : String) :
    Except PrivilegedError Unit :=
  match plan with
  | none => .ok ()
  | some plan => (validatePrivilegedPlan plan).mapError fun e =>
      "invalid persisted " ++ label ++ " plan: " ++ p.validationErrorText e

def isHexDigit (c : Char) : Bool :=
  c.isDigit || ('a' ≤ c && c ≤ 'f') || ('A' ≤ c && c ≤ 'F')

/-- The digits of a 256-bit digest. -/
def isDigest (text : String) : Bool := text.length == 64 && text.toList.all isHexDigit

/-- `validate_stored_fingerprint_pair`. -/
def validateStoredFingerprintPair (active : Option KernelPlan)
    (activeNftFingerprint : Option String) : Except PrivilegedError Unit :=
  match active, activeNftFingerprint with
  | none, none => .ok ()
  | some _, some fingerprint =>
    if isDigest fingerprint then .ok ()
    else .error "invalid persisted state: active plan and exact nftables fingerprint must be paired"
  | _, _ =>
    .error "invalid persisted state: active plan and exact nftables fingerprint must be paired"

/-- `build_pending_expectations_from`, with the fingerprints of the routing. -/
def journaledExpectations (active : Option KernelPlan) (lost : LostUnicast)
    (pending : KernelPlan) : JournaledExpectations where
  toPendingExpectations := buildPendingExpectationsFrom p.blake3 active lost pending
  committedRoutingFingerprint := p.routingFingerprint (planRoutingOwnership pending)
  routingModelFingerprint := p.routingModelFingerprint
    ((active.map (routingBasis lost)).map (KernelPlan.contentHash p.blake3))
    (pending.contentHash p.blake3)

/-- `validate_pending_expectations`. -/
def validatePendingExpectations (active pending : Option KernelPlan)
    (expectations : Option JournaledExpectations) : Except PrivilegedError Unit :=
  match pending, expectations with
  | none, none => .ok ()
  | some pending, some expectations =>
    if journaledExpectations p active expectations.lostUnicast pending = expectations then .ok ()
    else .error ("invalid persisted state: pending transition expectations do not match " ++
      "the journaled plans")
  | _, _ =>
    .error ("invalid persisted state: pending plan and exact transition expectations " ++
      "must be paired")

namespace RestoreReceipt

/-- `RestoreReceipt::new`. -/
def new (failedCandidate : KernelPlan) (previous : Option KernelPlan) : RestoreReceipt where
  failedGeneration := failedCandidate.generation
  failedPlanHash := failedCandidate.contentHash p.blake3
  previousGeneration := previous.map KernelPlan.generation
  previousPlanHash := previous.map (KernelPlan.contentHash p.blake3)

/-- `failed_matches`. -/
def failedMatches (receipt : RestoreReceipt) (plan : Option KernelPlan) : Bool :=
  plan.any fun plan => decide (plan.generation = receipt.failedGeneration) &&
    decide (plan.contentHash p.blake3 = receipt.failedPlanHash)

/-- `previous_matches`, which is also `matches_current`. -/
def previousMatches (receipt : RestoreReceipt) (plan : Option KernelPlan) : Bool :=
  match plan, receipt.previousGeneration, receipt.previousPlanHash with
  | some plan, some generation, some hash =>
    decide (plan.generation = generation) && decide (plan.contentHash p.blake3 = hash)
  | none, none, none => true
  | _, _, _ => false

end RestoreReceipt

/-- `validate_restore_receipt`. -/
def validateRestoreReceipt (record : StoredAppliedState) : Except PrivilegedError Unit :=
  match record.restoreReceipt with
  | none => .ok ()
  | some receipt => do
    failIf (receipt.previousGeneration.isSome ≠ receipt.previousPlanHash.isSome)
      "invalid persisted state: restore receipt previous generation and hash must be paired"
    if record.cleanupPending then
      failIf (record.pending.isSome ∨ !receipt.failedMatches p record.active ∨
          !receipt.previousMatches p none)
        ("invalid persisted state: cleanup restore receipt does not bind the failed candidate " ++
          "to an empty target")
    else match record.pending with
      | some pending =>
        failIf (!receipt.failedMatches p record.active ∨ !receipt.previousMatches p (some pending))
          ("invalid persisted state: pending restore receipt does not bind the failed " ++
            "candidate and previous plan")
      | none =>
        failIf (!receipt.previousMatches p record.active)
          ("invalid persisted state: committed restore receipt does not match the restored " ++
            "plan")

/-- `validate_setting_receipts`. -/
def validateSettingReceipts (record : StoredAppliedState) : Except PrivilegedError Unit := do
  failIf (record.interfaceSettings ≠ [] ∧ record.active.isNone)
    "invalid persisted state: interface setting receipts without an active plan"
  failIf (record.pendingInterfaceSettings ≠ [] ∧ record.pending.isNone)
    "invalid persisted state: pending interface settings without a pending plan"
  failIf ((record.runtime.isSome ∨ record.runtimeRestore.isSome) ∧ record.active.isNone ∨
      record.pendingRuntime.isSome ∧ record.pending.isNone)
    "invalid persisted state: runtime authority without its plan"
  let receipts := record.interfaceSettings ++ record.pendingInterfaceSettings
  failIf ((∃ receipt ∈ receipts, receipt.previous ≠ 0 ∨ receipt.applied ≠ 1) ∨
      2 * maxLanes < receipts.length)
    "invalid persisted state: interface setting receipts are out of bounds"

/-- `validate_orphan_journal`. -/
def validateOrphanJournal (record : StoredAppliedState) : Except PrivilegedError Unit :=
  failIf (record.orphanCleanup.isNone ∨ record.active.isSome ∨
      record.activeNftFingerprint.isSome ∨ record.pending.isSome ∨
      record.pendingExpectations.isSome ∨ record.cleanupPending ∨ record.restoreReceipt.isSome)
    "invalid persisted state: orphan cleanup must be an isolated journal"

/-- The checks `ensure_inspection_ready` and `ensure_reconciled` make on a journal of the
current schema. -/
def validateJournal (record : StoredAppliedState) : Except PrivilegedError Unit := do
  validateStoredPlan p record.active "active"
  validateStoredPlan p record.pending "pending"
  validateStoredFingerprintPair record.active record.activeNftFingerprint
  validatePendingExpectations p record.active record.pending record.pendingExpectations
  validateRestoreReceipt p record
  validateSettingReceipts record
  if record.orphanCleanup.isSome then validateOrphanJournal record else return ()

/-- `validate_legacy_envelope`. -/
def validateLegacyEnvelope (record : StoredAppliedState) : Except PrivilegedError Unit :=
  failIf (record ≠ { legacyV1 := record.legacyV1 })
    "invalid persisted state: a schema-1 journal cannot carry current-schema state"

/-- The check of `adopt_legacy_v2`. -/
def validateLegacyV2Envelope (record : StoredAppliedState) : Except PrivilegedError Unit :=
  failIf (record ≠ { legacyV2 := record.legacyV2 })
    "a schema-2 journal cannot carry current-schema state"

/-- All the checks a journal has to pass when a helper starts. -/
def loaderAccepts (record : StoredAppliedState) : Except PrivilegedError Unit :=
  if record.legacyV2.isSome then validateLegacyV2Envelope record
  else if record.legacyV1.isSome then validateLegacyEnvelope record
  else validateJournal p record

end Checks

end RouteLane
