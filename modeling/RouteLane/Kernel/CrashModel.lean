import RouteLane.Kernel.Transition
import RouteLane.Nft.Document

/-!
# The crash model

While a transition runs, a pending journal says which plan it came from and which it
goes to.  After a crash the helper accepts the kernel it finds only if the journal
explains it: the nft table tells the phase, and the live routes and rules have to be a
state the phase, or a rollback begun in it, passes through.
-/

namespace RouteLane

open Nft Steps

/-- The routes of one family and table whose unicast default the kernel dropped. -/
abbrev LostUnicast := Finset (IpFamily × ℕ)

/-- `routing_basis`: the routing an active plan has once the kernel dropped some of its
unicast defaults. -/
def routingBasis (lost : LostUnicast) (plan : KernelPlan) : KernelPlan :=
  { plan with
    lanes := plan.lanes.map fun lane =>
      { lane with
        routeV4 := if (.v4, lane.table) ∈ lost then none else lane.routeV4
        routeV6 := if (.v6, lane.table) ∈ lost then none else lane.routeV6 } }

/-- What RouteLane has in the kernel. -/
structure KernelState where
  nft : Option Document
  routing : RoutingOwnership
  deriving DecidableEq

/-- `nft_document_fingerprint`. -/
def nftDocumentFingerprint (blake3 : Blake3) (document : Document) : String :=
  blake3.documentDigest (normalizeNftDocument document)

structure PendingExpectations where
  guardNftFingerprint : String
  guardlessTransactionNftFingerprint : String
  activatedNftFingerprint : String
  committedNftFingerprint : String
  lostUnicast : LostUnicast
  deriving DecidableEq

/-- `build_pending_expectations_from`. -/
def buildPendingExpectationsFrom (blake3 : Blake3) (active : Option KernelPlan)
    (lost : LostUnicast) (pending : KernelPlan) : PendingExpectations where
  guardNftFingerprint :=
    nftDocumentFingerprint blake3 (renderNftDocument blake3 active (some pending) true)
  guardlessTransactionNftFingerprint :=
    nftDocumentFingerprint blake3 (renderNftDocument blake3 active (some pending) false)
  activatedNftFingerprint :=
    nftDocumentFingerprint blake3 (renderNftDocument blake3 (some pending) none true)
  committedNftFingerprint :=
    nftDocumentFingerprint blake3 (renderNftDocument blake3 (some pending) none false)
  lostUnicast := lost

inductive PendingNftPhase where
  | untouched
  | guard
  | guardlessTransaction
  | activated
  | committed
  | rollbackAbsent
  deriving DecidableEq, Repr

/-- The phase `verify_pending_table_ownership` reads off the nft table. -/
def pendingNftPhase (active : Option KernelPlan) (activeNftFingerprint : Option String)
    (liveFingerprint : Option String) (expectations : PendingExpectations) :
    Option PendingNftPhase :=
  match active, activeNftFingerprint, liveFingerprint with
  | none, none, none => some .untouched
  | some _, some expected, some live =>
    if live = expected then some .untouched else journaledPhase live
  | some _, some _, none => some .rollbackAbsent
  | _, _, some live => journaledPhase live
  | _, _, none => none
where
  journaledPhase (live : String) : Option PendingNftPhase :=
    if live = expectations.guardNftFingerprint then some .guard
    else if live = expectations.guardlessTransactionNftFingerprint then
      some .guardlessTransaction
    else if live = expectations.activatedNftFingerprint then some .activated
    else if live = expectations.committedNftFingerprint then some .committed
    else none

/-! ## Routing states of a phase -/

/-- The routing state a transition starts from. -/
def startingRouting (active : Option KernelPlan) : RoutingOwnership :=
  (active.map planRoutingOwnership).getD .empty

/-- The steps that retire the active plan, none if there is none. -/
def retireActive (active : Option KernelPlan) (pending : KernelPlan) : List RoutingStep :=
  (active.map fun plan => retireSteps plan pending).getD []

/-- `build_forward_routing_states`. -/
def buildForwardRoutingStates (active : Option KernelPlan) (pending : KernelPlan) :
    PendingNftPhase → Except String (List RoutingOwnership)
  | .untouched => .ok [startingRouting active]
  | .guard =>
    .ok (states applyRoutingStep (startingRouting active) (transitionSteps active pending))
  | phase =>
    let prepared := runSteps (startingRouting active) (transitionSteps active pending)
    let retire := retireActive active pending
    if runSteps prepared retire ≠ planRoutingOwnership pending then
      .error "cannot derive an exact reachable pending routing state"
    else match phase with
      | .activated => .ok (states applyRoutingStep prepared retire)
      | .committed => .ok [planRoutingOwnership pending]
      | _ => .error "rollback-without-nft routing states use the restore-prefix model"

/-- `rollback_rule_order`. -/
def rollbackRuleOrder (plans : List KernelPlan) : List RoutingStep :=
  FirstMatch.retainNew id [] (plans.flatMap fun plan =>
    (installSteps plan).filterMap RoutingStep.deleteOf)

/-- `rollback_table_order`. -/
def rollbackTableOrder (plans : List KernelPlan) : List RoutingStep :=
  FirstMatch.retainNew id [] (plans.flatMap fun plan =>
    plan.lanes.flatMap fun lane => families.map fun f => .flushTable f lane.table)

/-- Everything a rollback removes: rules first, then tables. -/
def rollbackSteps (plans : List KernelPlan) : List RoutingStep :=
  rollbackRuleOrder plans ++ rollbackTableOrder plans

/-- The plans a rollback takes its removals from. -/
def rollbackPlans (active : Option KernelPlan) (pending : KernelPlan) : List KernelPlan :=
  active.toList ++ [pending]

/-- `rollback_prefix_reaches`. -/
def rollbackPrefixReaches (starting : RoutingOwnership) (active : Option KernelPlan)
    (pending : KernelPlan) (expected : RoutingOwnership) : Bool :=
  changesTo applyRoutingStep expected starting (rollbackSteps (rollbackPlans active pending))

/-- `build_absent_rollback_states`. -/
def buildAbsentRollbackStates : Option KernelPlan → List RoutingOwnership
  | none => [.empty]
  | some active => states applyRoutingStep .empty (installSteps active)

/-- Whether a state is one of these, or a rollback begun in one of them reaches it. -/
def anyReaches (starting : List RoutingOwnership) (active : Option KernelPlan)
    (pending : KernelPlan) (live : RoutingOwnership) : Bool :=
  starting.any fun state => state == live || rollbackPrefixReaches state active pending live

/-- `routing_state_reachable_for_phase`. -/
def routingStateReachableForPhase (live : RoutingOwnership) (active : Option KernelPlan)
    (pending : KernelPlan) : PendingNftPhase → Except String Bool
  | .rollbackAbsent => .ok ((buildAbsentRollbackStates active).any fun state => state == live)
  | .committed => do
    let committed ← buildForwardRoutingStates active pending .committed
    if anyReaches committed active pending live then return true
    let activated ← buildForwardRoutingStates active pending .activated
    return anyReaches activated active pending live
  | .guardlessTransaction => do
    let starting ← buildForwardRoutingStates active pending .guard
    return anyReaches starting active pending live
  | phase => do
    let starting ← buildForwardRoutingStates active pending phase
    return anyReaches starting active pending live

/-! ## The pending journal -/

/-- The part of the stored state that a pending transition is checked against. -/
structure PendingJournal where
  active : Option KernelPlan
  activeNftFingerprint : Option String
  pending : KernelPlan
  expectations : PendingExpectations
  deriving DecidableEq

/-- `verify_pending_table_ownership`. -/
def verifyPendingTableOwnership (blake3 : Blake3) (journal : PendingJournal)
    (live : KernelState) : Except String Unit := do
  let liveFingerprint := live.nft.map (nftDocumentFingerprint blake3)
  match pendingNftPhase journal.active journal.activeNftFingerprint liveFingerprint
      journal.expectations with
  | none => throw "pending journal does not exactly match any persisted nftables crash state"
  | some phase =>
    let basis := journal.active.map (routingBasis journal.expectations.lostUnicast)
    let valid ← routingStateReachableForPhase live.routing basis journal.pending phase
    if valid then return ()
    else throw "pending journal live route or policy-rule state is outside the persisted crash expectations"

end RouteLane
