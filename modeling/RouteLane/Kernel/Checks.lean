import RouteLane.Backend.Journal
import RouteLane.Kernel.Runner

/-!
# Proofs of ownership

What the helper reads from the kernel before it changes anything, and after it rolled
something back: that what is there is exactly, or at most, what a plan owns.
-/

namespace RouteLane

open Nft Faults Program

section Checks

variable (p : Primitives)

/-- `nft_marker_present`. -/
def nftMarkerPresent (plan : KernelPlan) : Runner Bool := do
  let table ← inspect "inspect exact RouteLane nftables table" KernelState.nft
  return decide (stateChainName p.blake3 plan ∈ chainNames (table.getD []))

/-- The fingerprint of the table a snapshot shows. -/
def capturedFingerprint (captured : KernelState) : Runner (Option String) := do
  if captured.nft.isSome then
    let live ← liveNftFingerprint p.blake3
    return some live
  else return none

/-- The requested resource that is there without being owned, of
`unowned_requested_resource_present`. -/
def unownedRequestedResourcePresent (captured : KernelState) (current : Option KernelPlan)
    (next : KernelPlan) : Bool :=
  let requested := planRoutingOwnership next
  let owned := startingRouting current
  decide (∃ route ∈ captured.routing.routes, route ∈ requested.routes ∧ route ∉ owned.routes) ||
    decide (∃ rule ∈ captured.routing.rules, rule ∈ requested.rules ∧ rule ∉ owned.rules)

/-- `detect_resource_conflicts`, or its variant for an update. -/
def Primitives.conflictsFrom (current : Option KernelPlan) (next : KernelPlan)
    (captured : KernelState) : Option String :=
  match current with
  | some current => p.conflictsForUpdate next current captured
  | none => p.conflicts next captured

/-- `preflight_plan`. -/
def preflightPlan (current : Option KernelPlan) (next : KernelPlan) : Runner Unit := do
  let captured ← captureSnapshot
  if current.isNone && captured.nft.isSome then
    fail ("routing resource conflict before journaling: unowned inet/routelane table already " ++
      "exists")
  else if current.isNone && decide (captured.routing ≠ .empty) then
    fail ("routing resource conflict before journaling: route or policy-rule state exists " ++
      "without persisted RouteLane ownership in the reserved ranges")
  else match p.conflictsFrom current next captured with
    | some conflict => fail ("routing resource conflict before journaling: " ++ conflict)
    | none =>
      if unownedRequestedResourcePresent captured current next then
        fail ("routing resource conflict before journaling: requested route or policy-rule " ++
          "state exists without persisted RouteLane ownership")
      else return ()

/-- `verify_persisted_ownership_basis`. -/
def verifyPersistedOwnershipBasis (plan routing : KernelPlan) (expectedNftFingerprint : String) :
    Runner Bool := do
  let captured ← captureSnapshot
  match p.conflicts routing captured with
  | some conflict => fail ("persisted plan conflicts with live kernel resources: " ++ conflict)
  | none =>
    if captured.routing ≠ planRoutingOwnership routing then
      fail ("persisted plan does not exactly own all live RouteLane route and policy-rule " ++
        "resources")
    else if captured.nft.isSome then
      if ← nftMarkerPresent p plan then
        let live ← liveNftFingerprint p.blake3
        if live = expectedNftFingerprint then return capturedPlanPresent captured routing
        else fail ("persisted plan ownership marker is present but the live inet/routelane " ++
          "table differs from the exact committed state")
      else fail "persisted plan does not own the live inet/routelane table"
    else return capturedPlanPresent captured routing

/-- `verify_persisted_ownership`. -/
def verifyPersistedOwnership (plan : KernelPlan) (expectedNftFingerprint : String) :
    Runner Bool := verifyPersistedOwnershipBasis p plan plan expectedNftFingerprint

/-- Whether a plan has a unicast default in a table. -/
def KernelPlan.usesUnicast (plan : KernelPlan) (f : IpFamily) (table : ℕ) : Bool :=
  (laneForTable plan table).any fun lane => (laneUnicastRoute lane f).isSome

/-- `tolerated_lost_unicast`.  `linkdown` are the tables whose unicast default the snapshot
shows without carrier. -/
def toleratedLostUnicast (linkdown : List (IpFamily × ℕ)) (plan : KernelPlan)
    (expectedNftFingerprint : String) (next : KernelPlan) : Runner LostUnicast := do
  let captured ← captureSnapshot
  let expected := planRoutingOwnership plan
  let missing := expected.routes \ captured.routing.routes
  if linkdown.any fun entry => next.usesUnicast entry.1 entry.2 then
    fail "a lane without carrier is still used by the fresh plan; refusing apply"
  else if captured.routing.rules ≠ expected.rules ∨ ¬captured.routing.routes ⊆ expected.routes then
    fail "committed RouteLane kernel resources were modified; refusing apply"
  else if ∃ route ∈ missing, route.terminal = true ∨
      next.usesUnicast route.family route.table = true then
    fail "committed RouteLane kernel resources are incomplete; refusing apply"
  else
    let lost : LostUnicast := missing.image fun route => (route.family, route.table)
    if ← verifyPersistedOwnershipBasis p plan (routingBasis lost plan) expectedNftFingerprint then
      return lost
    else fail "committed RouteLane kernel resources are incomplete; refusing apply"

/-- `verify_cleanup_table_ownership`. -/
def verifyCleanupTableOwnership (active : Option KernelPlan)
    (activeNftFingerprint : Option String) : Runner Unit := do
  let captured ← captureSnapshot
  match active, activeNftFingerprint with
  | some active, some fingerprint =>
    match p.conflicts active captured with
    | some conflict => fail ("cleanup journal conflicts with live kernel resources: " ++ conflict)
    | none =>
      let expected := planRoutingOwnership active
      if ¬(captured.routing.routes ⊆ expected.routes ∧ captured.routing.rules ⊆ expected.rules) then
        fail "cleanup journal does not own the exact live RouteLane routing subset"
      else if captured.nft.isNone then
        if captured.routing = .empty then return ()
        else fail ("cleanup journal is missing its committed nftables table before routing " ++
          "cleanup completed")
      else if ← nftMarkerPresent p active then
        let live ← liveNftFingerprint p.blake3
        if live = fingerprint then return ()
        else fail "cleanup journal does not exactly own the live inet/routelane table"
      else fail "cleanup journal does not exactly own the live inet/routelane table"
  | _, _ => fail "cleanup journal cannot own a live inet/routelane table"

/-- The reads of `verify_pending_table_ownership`. -/
def checkPendingTableOwnership (journal : PendingJournal) : Runner Unit := do
  let captured ← captureSnapshot
  if captured.nft.isSome then
    let table ← inspect "inspect exact RouteLane nftables table" KernelState.nft
    match verifyPendingTableOwnership p.blake3 journal { captured with nft := table } with
    | .ok () => return ()
    | .error e => fail e
  else match verifyPendingTableOwnership p.blake3 journal captured with
    | .ok () => return ()
    | .error e => fail e

/-- `verify_exact_kernel_basis`. -/
def verifyExactKernelBasis (state : Option KernelPlan) (nftFingerprint : Option String)
    (lost : LostUnicast) : Runner Unit := do
  match state, nftFingerprint with
  | some plan, some fingerprint =>
    if ← verifyPersistedOwnershipBasis p plan (routingBasis lost plan) fingerprint then return ()
    else fail "exact rollback target is incomplete"
  | none, none =>
    let captured ← captureSnapshot
    if captured.nft.isSome ∨ captured.routing ≠ .empty then
      fail "exact empty rollback target still has live RouteLane resources"
    else return ()
  | _, _ => fail "exact rollback target has an invalid plan/fingerprint pair"

/-- `verify_exact_kernel_state`. -/
def verifyExactKernelState (state : Option KernelPlan) (nftFingerprint : Option String) :
    Runner Unit := verifyExactKernelBasis p state nftFingerprint ∅

end Checks

end RouteLane
