import RouteLane.Net.Json
import RouteLane.Nft.Document

/-!
# Snapshots of the kernel

What `Inspect` reads back: the routes and rules of the machine, the nft tables, the
topology and the plan the table is sealed for.  A resource RouteLane owns is there, is
missing, or its place is taken by something else; the terminal route of a lane's table is
a resource of its own and never taken for the lane's default route.
-/

namespace RouteLane

/-- `TERMINAL_ROUTE_METRIC`. -/
def terminalRouteMetric : ℕ := 4294967294

/-- `route_enum_matches`: iproute2 prints enums symbolically, or numerically with `-N`. -/
def routeEnumMatches (value name : String) (number : ℕ) : Bool :=
  value == name || u32FromStrRadix 10 value == some number

namespace Inspect

structure RouteEntry where
  family : IpFamily
  table : ℕ
  routeType : Option String
  destination : Option String
  gateway : Option IpAddr
  interface : Option String
  metric : Option ℕ
  protocol : Option String
  scope : Option String
  preferredSource : Option IpAddr
  flags : List String
  preference : Option String
  extra : OrderedMap String JsonValue

namespace RouteEntry

/-- `matches_terminal`: the fail-closed default route, of the lowest preference there is. -/
def matchesTerminal (route : RouteEntry) (family : IpFamily) (table : ℕ) : Bool :=
  route.family == family && route.table == table && route.destination == some "default" &&
    (route.routeType == some "unreachable" || route.routeType == some "7") &&
    route.gateway.isNone &&
    (match family with
      | .v4 => route.interface.isNone && route.preference.isNone
      | .v6 => route.interface.all (· == "lo") && route.preference.all (· == "medium")) &&
    route.metric == some terminalRouteMetric &&
    route.protocol.all (fun protocol => protocol == "boot" || protocol == "3") &&
    route.scope.all (fun scope => scope == "global" || scope == "0") &&
    route.preferredSource.isNone && route.flags.isEmpty && route.extra.entries.isEmpty

/-- `matches_default`: the unicast default route of a lane.  Carrier loss keeps the route
and flags it `linkdown`. -/
def matchesDefault (route : RouteEntry) (family : IpFamily) (table : ℕ)
    (gateway : Option IpAddr) (interface : String) : Bool :=
  route.family == family && route.table == table && route.destination == some "default" &&
    route.gateway == gateway && route.interface == some interface &&
    route.routeType.all (fun routeType => routeEnumMatches routeType "unicast" 1) &&
    route.metric.getD 0 == (match family with | .v4 => 0 | .v6 => 1024) &&
    route.protocol.all (fun protocol => routeEnumMatches protocol "boot" 3) &&
    route.scope.all (fun scope => routeEnumMatches scope "global" 0 ||
      (route.gateway.isNone && routeEnumMatches scope "link" 253)) &&
    route.preferredSource.isNone && (route.flags.isEmpty || route.flags == ["linkdown"]) &&
    (match family with
      | .v4 => route.preference.isNone
      | .v6 => route.preference.all (· == "medium")) &&
    route.extra.entries.isEmpty

theorem matchesDefault_place {route : RouteEntry} {family : IpFamily} {table : ℕ}
    {gateway : Option IpAddr} {interface : String}
    (h : route.matchesDefault family table gateway interface = true) :
    route.family = family ∧ route.table = table := by
  unfold matchesDefault at h
  simp only [Bool.and_eq_true, beq_iff_eq] at h
  tauto

/-- No route is both: the metrics differ. -/
theorem matchesDefault_eq_false {route : RouteEntry} {family : IpFamily} {table : ℕ}
    (h : route.matchesTerminal family table = true) (family' : IpFamily) (table' : ℕ)
    (gateway : Option IpAddr) (interface : String) :
    route.matchesDefault family' table' gateway interface = false := by
  have hmetric : route.metric = some terminalRouteMetric := by
    unfold matchesTerminal at h
    simp only [Bool.and_eq_true, beq_iff_eq] at h
    tauto
  have hother : (route.metric.getD 0 ==
      (match family' with | .v4 => 0 | .v6 => 1024)) = false := by
    rw [hmetric, Option.getD_some, beq_eq_false_iff_ne]
    cases family' <;> decide
  simp [matchesDefault, hother]

end RouteEntry

structure Mark where
  value : ℕ
  mask : Option ℕ
  deriving DecidableEq, Repr

/-- `is_full_width`. -/
def Mark.isFullWidth (mark : Mark) : Bool := mark.mask.isNone || mark.mask == some (2 ^ 32 - 1)

structure RuleEntry where
  family : IpFamily
  priority : ℕ
  table : Option ℕ
  mark : Option Mark
  source : Option String
  destination : Option String
  extra : OrderedMap String JsonValue

/-- `matches_policy`: the rule of a lane, from its whole mark to its table. -/
def RuleEntry.matchesPolicy (rule : RuleEntry) (family : IpFamily) (priority table mark : ℕ) :
    Bool :=
  rule.family == family && rule.priority == priority && rule.table == some table &&
    rule.mark.any (fun existing => existing.value == mark && existing.isFullWidth) &&
    rule.source.all (· == "all") && rule.destination.all (· == "all") &&
    rule.extra.entries.isEmpty

end Inspect

inductive ResourceState where
  | missing
  | exact
  | foreign
  deriving DecidableEq, Repr

/-- What is in the place of a resource: nothing, exactly it, or something else. -/
def ResourceState.of {α : Type} (wanted : α → Bool) : List α → ResourceState
  | [] => .missing
  | [entry] => if wanted entry then .exact else .foreign
  | _ => .foreign

/-- A resource is there exactly when it alone is in its place. -/
theorem ResourceState.of_eq_exact {α : Type} {wanted : α → Bool} {entries : List α} :
    ResourceState.of wanted entries = .exact ↔
      ∃ entry, entries = [entry] ∧ wanted entry = true := by
  match entries with
  | [] => simp [ResourceState.of]
  | [entry] => by_cases h : wanted entry <;> simp [ResourceState.of, h]
  | _ :: _ :: _ => simp [ResourceState.of]

structure KernelSnapshot where
  routes : List Inspect.RouteEntry
  rules : List Inspect.RuleEntry
  nftTables : Finset (String × String)
  topology : TopologySnapshot
  nftGeneration : Option ℕ
  nftPlanHash : Option PlanHash

/-- Whether the route of this family an interface was observed with leads through a
gateway, or straight through the device. -/
def InterfaceTopology.routesVia (entry : InterfaceTopology) (family : IpFamily) :
    Option IpAddr → Bool
  | some (.v4 address) => family == .v4 && entry.routeV4 == some (.via address)
  | some (.v6 address) => family == .v6 && entry.routeV6 == some (.via address)
  | none =>
    match family with
    | .v4 => entry.routeV4 == some .device
    | .v6 => entry.routeV6 == some .device

namespace KernelSnapshot

def empty : KernelSnapshot where
  routes := []
  rules := []
  nftTables := ∅
  topology := { interfaces := .empty, observed := false, assignedAddresses := [] }
  nftGeneration := none
  nftPlanHash := none

def withTopology (snapshot : KernelSnapshot) (topology : TopologySnapshot) : KernelSnapshot :=
  { snapshot with topology := topology }

def hasNftTable (snapshot : KernelSnapshot) (family name : String) : Bool :=
  (family, name) ∈ snapshot.nftTables

def hasInterface (snapshot : KernelSnapshot) (interface : String) : Bool :=
  (snapshot.topology.interface interface).isSome

/-- `route_reachable`: a topology that was observed has the last word, and the routes
alone do where there is none. -/
def routeReachable (snapshot : KernelSnapshot) (interface : String) (family : IpFamily)
    (gateway : Option IpAddr) : Bool :=
  (!snapshot.topology.observed ||
    (snapshot.topology.interface interface).any fun entry =>
      entry.ready family && entry.routesVia family gateway) &&
  ((snapshot.routes.any fun route =>
      route.family == family && route.destination == some "default" &&
        route.interface == some interface && route.gateway == gateway) ||
    (snapshot.topology.interface interface).any fun entry => entry.routesVia family gateway)

/-- `nft_is_owned_by`: the table is there, for this generation of this plan. -/
def nftIsOwnedBy (blake3 : Blake3) (snapshot : KernelSnapshot) (plan : KernelPlan) : Bool :=
  snapshot.hasNftTable "inet" "routelane" && snapshot.nftGeneration == some plan.generation &&
    snapshot.nftPlanHash == some (plan.contentHash blake3)

/-- `route_state`.  The terminal route is no rival of the default route. -/
def routeState (snapshot : KernelSnapshot) (family : IpFamily) (table : ℕ)
    (gateway : Option IpAddr) (interface : String) : ResourceState :=
  .of (fun route => route.matchesDefault family table gateway interface)
    (snapshot.routes.filter fun route =>
      route.family == family && route.table == table && !route.matchesTerminal family table)

/-- `rule_state`. -/
def ruleState (snapshot : KernelSnapshot) (family : IpFamily) (priority table mark : ℕ) :
    ResourceState :=
  .of (fun rule => rule.matchesPolicy family priority table mark)
    (snapshot.rules.filter fun rule => rule.family == family && rule.priority == priority)

/-- Installing the terminal route changes nothing about the default route of its table. -/
theorem routeState_cons_terminal (snapshot : KernelSnapshot) {route : Inspect.RouteEntry}
    {family : IpFamily} {table : ℕ} (h : route.matchesTerminal family table = true)
    (gateway : Option IpAddr) (interface : String) :
    { snapshot with routes := route :: snapshot.routes }.routeState family table gateway
      interface = snapshot.routeState family table gateway interface := by
  simp [routeState, h]

end KernelSnapshot

end RouteLane
