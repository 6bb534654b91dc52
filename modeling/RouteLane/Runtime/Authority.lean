import RouteLane.Nft.Document
import RouteLane.Policy.Planner

/-!
# Runtime authority

One interactive authorization arms a grant: the caller, the boot, the network namespace,
the policy and the devices observed at that moment.  Kernel events then only recompile
the stored policy against what the grant leaves of the topology.
-/

namespace RouteLane

structure RuntimeGrant where
  ownerUid : ℕ
  bootId : String
  networkNamespace : ℕ
  policyHash : PlanHash
  interfaces : OrderedMap LaneId InterfaceIdentity
  deriving DecidableEq

/-- Everything needed to recompile the authorized policy. -/
structure RuntimeRecord where
  grant : RuntimeGrant
  profile : Profile
  resolutions : ResolutionSnapshot
  decision : PrimaryDecision
  deriving DecidableEq

inductive RuntimePhase where
  | inactive
  | armed
  | switching
  | degraded
  | needsReauthorization
  deriving DecidableEq, Repr

/-- What the helper tells about its runtime; the wait is in milliseconds. -/
structure RuntimeStatus where
  grant : Option RuntimeGrant
  generation : ℕ
  decision : Option PrimaryDecision
  phase : RuntimePhase
  lastError : Option String
  failbackInMs : Option ℕ
  deriving DecidableEq

/-- `RuntimeStatus::inactive`. -/
def RuntimeStatus.inactive (generation : ℕ) : RuntimeStatus :=
  ⟨none, generation, none, .inactive, none, none⟩

/-- The prior state a single-use token may bring back, bound to its caller and to the
commit it was issued for. -/
structure RuntimeRestoreReceipt where
  tokenHash : String
  ownerUid : ℕ
  issuedForGeneration : ℕ
  issuedForPlanHash : PlanHash
  previousPlan : Option KernelPlan
  previousRecord : Option RuntimeRecord
  deriving DecidableEq

/-- `restrict_to_grant`: a device other than the one authorized is absent. -/
def restrictToGrant (topology : TopologySnapshot) (grant : RuntimeGrant) : TopologySnapshot :=
  topology.restrictedTo grant.interfaces.values

end RouteLane
