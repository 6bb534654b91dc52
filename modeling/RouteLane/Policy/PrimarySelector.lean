import RouteLane.Domain.Profile
import RouteLane.Net.Topology
import RouteLane.Policy.Plan

/-!
# The primary selector

Which lane carries the traffic no rule matches, for each family on its own.  The selector
remembers the exit it chose and when the preferred lane came back, and it only ever uses
devices that were bound to its lanes when it was started.
-/

namespace RouteLane

/-- `Duration::checked_sub`; durations are in nanoseconds. -/
def checkedSub (now since : ℕ) : Option ℕ := if since ≤ now then some (now - since) else none

/-- `Duration::MAX`. -/
@[irreducible] def maxDuration : ℕ := 2 ^ 64 * 1000000000 - 1

/-- `Duration::checked_add`. -/
def checkedAdd (since delay : ℕ) : Option ℕ :=
  if since + delay ≤ maxDuration then some (since + delay) else none

/-- `FAILBACK_DELAY`. -/
@[irreducible] def failbackDelay : ℕ := 5000000000

structure FamilyState where
  preferred : Option LaneId
  effective : FamilyExit
  readySince : Option ℕ
  deriving DecidableEq, Repr

/-- `FamilyState::default`. -/
def FamilyState.default : FamilyState := ⟨none, .blocked, none⟩

structure PrimarySelector where
  bindings : OrderedMap LaneId InterfaceIdentity
  states : FamilyPair FamilyState
  policy : Option RoutingPolicy
  deriving DecidableEq

/-- The devices the lanes of a profile are bound to when a selector is started. -/
def frozenBindings (profile : Profile) (topology : TopologySnapshot) :
    OrderedMap LaneId InterfaceIdentity :=
  .ofList (profile.lanes.filterMap fun lane => do
    let entry ← topology.interface lane.interface
    let identity ← entry.identity
    return (lane.id, identity))

namespace PrimarySelector

/-- `PrimarySelector::new`. -/
def new (profile : Profile) (topology : TopologySnapshot) : PrimarySelector where
  bindings := frozenBindings profile topology
  states := ⟨.default, .default⟩
  policy := none

/-- `PrimarySelector::resume`. -/
def resume (profile : Profile) (topology : TopologySnapshot) (previous : PrimaryDecision) :
    PrimarySelector :=
  { new profile topology with
    policy := some profile.routing
    states := ⟨⟨previous.preferred.v4, previous.effective.v4, none⟩,
      ⟨previous.preferred.v6, previous.effective.v6, none⟩⟩ }

end PrimarySelector

/-! ## One family -/

section Family

variable (bindings : OrderedMap LaneId InterfaceIdentity) (policy : RoutingPolicy)
  (topology : TopologySnapshot) (family : IpFamily)

/-- A lane can take traffic of a family now, on the device it was bound to. -/
def boundReady (id : LaneId) : Bool :=
  topology.observed && (bindings.find? id).any fun identity =>
    (topology.interface identity.name).any fun entry =>
      decide (entry.identity = some identity) && entry.ready family

/-- The lanes bound to an interface name. -/
def lanesBoundTo (name : String) : List LaneId :=
  (bindings.entries.filter fun entry => entry.2.name == name).map Prod.fst

/-- The preferred lane, and whether there is no telling. -/
def preferredLane : Option LaneId × Bool :=
  match policy.primary with
  | .lane id => (some id, false)
  | .followSystemDefault =>
    match topology.systemDefault family with
    | .ok (some name) =>
      match lanesBoundTo bindings name with
      | [] => (none, false)
      | [id] => (some id, false)
      | _ :: _ :: _ => (none, true)
    | .ok none => (none, false)
    | .error _ => (none, true)

/-- The first lane that can take the traffic: the preferred one, or a backup. -/
def chooseExit (preferred : Option LaneId) : Option LaneId :=
  (preferred.filter (boundReady bindings topology family)).or
    (if policy.automaticFailover then
      policy.backups.find? fun id =>
        decide (preferred ≠ some id) && boundReady bindings topology family id
    else none)

/-- Whether the exit in use can stay. -/
def exitStays (preferred : Option LaneId) : FamilyExit → Bool
  | .lane id => boundReady bindings topology family id &&
      (policy.automaticFailover || decide (preferred = some id))
  | .blocked => false

/-- The preferred lane, if it could take over from the exit in use. -/
def returningLane (preferred : Option LaneId) (effective : FamilyExit) : Option LaneId :=
  preferred.filter fun id =>
    boundReady bindings topology family id && decide (effective ≠ .lane id)

/-- The loop body of `PrimarySelector::update`. -/
def updateFamily (now : ℕ) (state : FamilyState) : FamilyState :=
  let (preferred, ambiguous) := preferredLane bindings policy topology family
  let readySince := if state.preferred ≠ preferred then none else state.readySince
  if ambiguous then ⟨preferred, .blocked, none⟩
  else if !exitStays bindings policy topology family preferred state.effective then
    ⟨preferred, ((chooseExit bindings policy topology family preferred).map
      FamilyExit.lane).getD .blocked, none⟩
  else
    match returningLane bindings topology family preferred state.effective with
    | none => ⟨preferred, state.effective, none⟩
    | some primary =>
      let started := readySince.getD now
      match checkedSub now started with
      | none => ⟨preferred, state.effective, some now⟩
      | some elapsed =>
        if failbackDelay ≤ elapsed then ⟨preferred, .lane primary, none⟩
        else ⟨preferred, state.effective, some started⟩

end Family

namespace PrimarySelector

/-- A new policy starts from nothing. -/
def forPolicy (selector : PrimarySelector) (policy : RoutingPolicy) : PrimarySelector :=
  if selector.policy ≠ some policy then
    { selector with states := ⟨.default, .default⟩, policy := some policy }
  else selector

def decision (selector : PrimarySelector) : PrimaryDecision where
  preferred := ⟨selector.states.v4.preferred, selector.states.v6.preferred⟩
  effective := ⟨selector.states.v4.effective, selector.states.v6.effective⟩

/-- `PrimarySelector::update`. -/
def update (selector : PrimarySelector) (policy : RoutingPolicy) (topology : TopologySnapshot)
    (now : ℕ) : PrimarySelector × PrimaryDecision :=
  let started := selector.forPolicy policy
  let updated := { started with
    states := ⟨updateFamily selector.bindings policy topology .v4 now started.states.v4,
      updateFamily selector.bindings policy topology .v6 now started.states.v6⟩ }
  (updated, updated.decision)

/-- `PrimarySelector::next_deadline`. -/
def nextDeadline (selector : PrimarySelector) : Option ℕ :=
  ([selector.states.v4, selector.states.v6].filterMap fun state =>
    state.readySince.bind (checkedAdd · failbackDelay)).min?

end PrimarySelector

end RouteLane
