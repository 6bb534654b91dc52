import RouteLane.Lib.FirstMatch
import RouteLane.Lib.OrderedMap
import RouteLane.Net.Address

/-!
# Topology

What the helper knows about the interfaces of the machine when it compiles a
profile: identities, routes, source addresses and connected networks, by
interface name.
-/

namespace RouteLane

/-- A device, not just its name: a name that is reused belongs to another identity. -/
structure InterfaceIdentity where
  ifindex : ℕ
  name : String
  kind : String
  hardwareAddress : Option String
  deriving DecidableEq, Repr

/-- How a lane reaches the internet: through a gateway or straight through the device. -/
inductive RouteMode (α : Type) where
  | via (gateway : α)
  | device
  deriving DecidableEq, Repr

/-- `RouteMode::gateway`. -/
def RouteMode.gateway {α : Type} : RouteMode α → Option α
  | .via gateway => some gateway
  | .device => none

structure InterfaceTopology where
  identity : Option InterfaceIdentity
  linkReady : Bool
  routeV4 : Option (RouteMode Ipv4Addr)
  routeV6 : Option (RouteMode Ipv6Addr)
  sourceV4 : List Ipv4Addr
  sourceV6 : List Ipv6Addr
  connectedNetworks : List IpNet
  deriving DecidableEq, Repr

/-- `InterfaceTopology::ready`. -/
def InterfaceTopology.ready (entry : InterfaceTopology) (family : IpFamily) : Bool :=
  entry.identity.isSome && entry.linkReady &&
    match family with
    | .v4 => entry.routeV4.isSome && !entry.sourceV4.isEmpty
    | .v6 => entry.routeV6.isSome && !entry.sourceV6.isEmpty

/-- The default route the system itself would take. -/
inductive DefaultSelection where
  | none
  | interface (name : String)
  | ambiguous (reason : String)
  deriving DecidableEq, Repr

structure TopologySnapshot where
  interfaces : OrderedMap String InterfaceTopology
  defaults : FamilyPair DefaultSelection := ⟨.none, .none⟩
  observed : Bool
  assignedAddresses : List IpAddr
  deriving DecidableEq

namespace TopologySnapshot

/-- `TopologySnapshot::interface`. -/
def interface (topology : TopologySnapshot) (name : String) : Option InterfaceTopology :=
  topology.interfaces.find? name

/-- `TopologySnapshot::system_default`. -/
def systemDefault (topology : TopologySnapshot) (family : IpFamily) :
    Except String (Option String) :=
  match topology.defaults.get family with
  | .none => .ok none
  | .interface name => .ok (some name)
  | .ambiguous reason => .error reason

/-- `TopologySnapshot::restricted_to`: only interfaces whose identity is one of those allowed. -/
def restrictedTo (topology : TopologySnapshot) (allowed : List InterfaceIdentity) :
    TopologySnapshot :=
  { topology with
    interfaces := topology.interfaces.retain fun _ entry =>
      entry.identity.any fun identity => decide (identity ∈ allowed) }

/-- `TopologySnapshot::connected_networks`: those of the ready links, sorted, each once. -/
def connectedNetworks (topology : TopologySnapshot) : List IpNet :=
  FirstMatch.dedupAdjacent
    (((topology.interfaces.values.filter InterfaceTopology.linkReady).flatMap
      InterfaceTopology.connectedNetworks).insertionSort IpNet.le)

theorem mem_connectedNetworks {topology : TopologySnapshot} {n : IpNet} :
    n ∈ topology.connectedNetworks ↔
      ∃ entry ∈ topology.interfaces.values, entry.linkReady = true ∧
        n ∈ entry.connectedNetworks := by
  rw [connectedNetworks, FirstMatch.mem_sorted_dedup, List.mem_flatMap]
  simp only [List.mem_filter, and_assoc]

end TopologySnapshot

end RouteLane
