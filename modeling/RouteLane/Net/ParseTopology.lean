import RouteLane.Net.Json
import RouteLane.Policy.Plan
import RouteLane.Lib.Steps

/-!
# Reading the topology

`parse_topology` on the six documents `ip` prints: links, addresses, and the routes and
policy rules of each family.  An interface gets a route only with a ready link, a source
address of the family and one best default route; the default of the system is the
interface of the best of these routes, unless something makes it ambiguous.
-/

namespace RouteLane

open Fallible

/-! ## The documents -/

structure LinkInfo where
  infoKind : Option String
  deriving DecidableEq, Repr

structure Link where
  ifindex : ℕ
  ifname : String
  flags : List String
  operstate : String
  linkType : String
  address : Option String
  linkinfo : Option LinkInfo
  deriving DecidableEq, Repr

structure AddressEntry where
  family : String
  addr : IpAddr
  scope : JsonValue
  flags : List String
  tentative : Bool
  dadfailed : Bool
  deprecated : Bool
  preferredLifeTime : Option JsonValue
  validLifeTime : Option JsonValue

structure AddressList where
  ifindex : ℕ
  ifname : String
  addrInfo : List AddressEntry

structure RouteEntry where
  dst : Option String
  dev : Option String
  gateway : Option IpAddr
  table : Option JsonValue
  metric : ℕ
  flags : List String
  nexthops : List JsonValue
  scope : Option JsonValue
  kind : Option JsonValue

/-- The documents as they are decoded, each with the error of a failed decoding. -/
structure TopologyInput where
  links : Except String (List Link)
  addresses : Except String (List AddressList)
  routes : FamilyPair (Except String (List RouteEntry))
  rules : FamilyPair (Except String (List JsonValue))

/-! ## Links -/

/-- `InterfaceTopology::default`. -/
def InterfaceTopology.default : InterfaceTopology := ⟨none, false, none, none, [], [], []⟩

def Link.has (link : Link) (flag : String) : Bool := link.flags.contains flag

/-- `link_ready`. -/
def Link.ready (link : Link) : Bool :=
  link.has "UP" && !link.has "NO-CARRIER" && !link.has "NO_CARRIER" && link.operstate != "DOWN" &&
    (link.has "LOWER_UP" || (link.has "POINTOPOINT" && link.operstate == "UNKNOWN"))

def Link.identity (link : Link) : InterfaceIdentity where
  ifindex := link.ifindex
  name := link.ifname
  kind := (link.linkinfo.bind LinkInfo.infoKind).getD link.linkType
  hardwareAddress := link.address

/-- One round of the loop over the links. -/
def addLink (interfaces : OrderedMap String InterfaceTopology) (link : Link) :
    Except String (OrderedMap String InterfaceTopology) :=
  if link.ifindex = 0 ∨ link.ifname.isEmpty ∨ (interfaces.find? link.ifname).isSome then
    .error "invalid or duplicate kernel interface identity"
  else
    .ok (interfaces.insert link.ifname
      { InterfaceTopology.default with identity := some link.identity, linkReady := link.ready })

/-! ## Addresses -/

/-- `is_unspecified`, `is_loopback`, `is_multicast` or `is_link_local`. -/
def isSpecialV4 (a : Ipv4Addr) : Bool :=
  a == 0 || a.toNat / 2 ^ 24 == 127 || a.toNat / 2 ^ 28 == 14 || a.toNat / 2 ^ 16 == 0xa9fe

/-- `is_unspecified`, `is_loopback`, `is_multicast` or `is_unicast_link_local`. -/
def isSpecialV6 (a : Ipv6Addr) : Bool :=
  a == 0 || a == 1 || a.toNat / 2 ^ 120 == 0xff || a.toNat / 2 ^ 118 == 0x3fa

namespace AddressEntry

/-- The address is not, or no longer, one of this machine. -/
def invalid (address : AddressEntry) : Bool :=
  address.tentative || address.dadfailed ||
    (address.flags.any fun flag => flag == "tentative" || flag == "dadfailed") ||
    address.validLifeTime.bind jsonNumber == some 0

/-- The address is of global scope. -/
def isGlobal (address : AddressEntry) : Bool :=
  address.scope.asStr == some "global" || address.scope.asStr == some "0" ||
    jsonNumber address.scope == some 0

/-- `usable_kind`. -/
def usableKind (address : AddressEntry) : Bool :=
  match address.addr with
  | .v4 ip => address.family == "inet" && !isSpecialV4 ip
  | .v6 ip => address.family == "inet6" && !isSpecialV6 ip

/-- The address still belongs to flows, but is no source for new ones. -/
def isDeprecated (address : AddressEntry) : Bool :=
  address.deprecated || address.flags.contains "deprecated" ||
    address.preferredLifeTime.bind jsonNumber == some 0

end AddressEntry

/-- One round of the loop over the addresses of an interface. -/
def addAddress (found : List IpAddr × InterfaceTopology) (address : AddressEntry) :
    List IpAddr × InterfaceTopology :=
  let (assigned, interface) := found
  if address.invalid || !address.isGlobal || !address.usableKind then (assigned, interface)
  else if address.isDeprecated then (assigned ++ [address.addr], interface)
  else
    match address.addr with
    | .v4 ip => (assigned ++ [address.addr], { interface with sourceV4 := interface.sourceV4 ++ [ip] })
    | .v6 ip => (assigned ++ [address.addr], { interface with sourceV6 := interface.sourceV6 ++ [ip] })

/-- `sort` and `dedup` of the sources. -/
def sortSources (interface : InterfaceTopology) : InterfaceTopology :=
  { interface with
    sourceV4 := FirstMatch.dedupAdjacent (interface.sourceV4.insertionSort (· ≤ ·))
    sourceV6 := FirstMatch.dedupAdjacent (interface.sourceV6.insertionSort (· ≤ ·)) }

/-- One round of the loop over the address lists. -/
def addAddresses (found : List IpAddr × OrderedMap String InterfaceTopology) (list : AddressList) :
    List IpAddr × OrderedMap String InterfaceTopology :=
  match found.2.find? list.ifname with
  | none => found
  | some interface =>
    if interface.identity.map InterfaceIdentity.ifindex ≠ some list.ifindex then found
    else
      let added := list.addrInfo.foldl addAddress (found.1, interface)
      (added.1, found.2.insert list.ifname (sortSources added.2))

/-! ## Policy rules -/

/-- `table`. -/
def routeTable : Option JsonValue → Except String ℕ
  | none => .ok 254
  | some v =>
    match (jsonNumber v).or (v.asStr.bind fun text =>
        if text = "main" then some 254
        else if text = "local" then some 255
        else if text = "default" then some 253
        else none) with
    | some n => .ok n
    | none => .error "unknown route table representation"

/-- The selectors a rule may have and still be told what it is. -/
def knownSelectors : List String :=
  ["priority", "table", "src", "dst", "from", "to", "protocol", "flags", "fwmark", "fwmask"]

/-- `ordinary_rule`: a rule of the system's own, or one of RouteLane's. -/
def ordinaryRule (rule : JsonValue) : Except String Bool :=
  match rule.asObject with
  | none => .error "policy rule is not an object"
  | some object =>
    if object.any fun field => !knownSelectors.contains field.1 then .ok false
    else if ["src", "dst", "from", "to"].any fun key =>
        (object.lookup key).any fun v => v.asStr != some "all" then .ok false
    else if (object.lookup "flags").any fun v => !(v.asArray.any List.isEmpty) then .ok false
    else do
      let priority := (object.lookup "priority").bind jsonNumber
      let table ← routeTable (object.lookup "table")
      if (object.lookup "fwmark").isNone && (object.lookup "fwmask").isNone &&
          ((priority == some 0 && table == 255) || (priority == some 32766 && table == 254) ||
            (priority == some 32767 && table == 253)) then
        return true
      let mark := (object.lookup "fwmark").bind jsonHexNumber
      let mask :=
        match object.lookup "fwmask" with
        | some v => jsonHexNumber v
        | none => some (2 ^ 32 - 1)
      if tableBase ≤ table ∧ table ≤ tableMax ∧ mask = some (2 ^ 32 - 1) then
        let slot := table - tableBase
        return mark == some (markBase + slot) && priority == some (rulePriorityBase + slot)
      return false

/-! ## Routes -/

/-- How the code writes a family. -/
def familyText : IpFamily → String
  | .v4 => "V4"
  | .v6 => "V6"

/-- The sources of an interface exist in this family. -/
def InterfaceTopology.hasSource (entry : InterfaceTopology) : IpFamily → Bool
  | .v4 => !entry.sourceV4.isEmpty
  | .v6 => !entry.sourceV6.isEmpty

/-- What the loop over the routes has found. -/
structure RouteScan where
  interfaces : OrderedMap String InterfaceTopology
  candidates : OrderedMap String (List RouteEntry)
  ambiguity : Option String

namespace RouteEntry

/-- The route is a default. -/
def isDefault (route : RouteEntry) : Bool :=
  route.dst == some "default" || route.dst == some "0.0.0.0/0" || route.dst == some "::/0"

/-- The route is not a unicast one. -/
def terminal (route : RouteEntry) : Bool :=
  route.kind.any fun kind =>
    kind.asStr != some "unicast" && kind.asStr != some "1" && jsonNumber kind != some 1

/-- The route is of link scope. -/
def linkScope (route : RouteEntry) : Bool :=
  route.scope.any fun scope =>
    scope.asStr == some "link" || scope.asStr == some "253" || jsonNumber scope == some 253

end RouteEntry

/-- The network a route connects an interface to. -/
def connectedNetwork (parseNet : String → Option IpNet) (family : IpFamily) (route : RouteEntry) :
    Option IpNet :=
  if route.gateway.isNone && route.linkScope then
    ((route.dst.bind parseNet).filter fun net =>
      net.prefixLen != 0 && net.family == family).map IpNet.trunc
  else none

/-- One round of the loop over the routes. -/
def scanRoute (parseNet : String → Option IpNet) (family : IpFamily) (scan : RouteScan)
    (route : RouteEntry) : Except String RouteScan := do
  let table ← routeTable route.table
  if table ≠ 254 then return scan
  if route.flags.any fun flag => flag == "linkdown" || flag == "dead" then return scan
  if route.terminal then
    return { scan with
      ambiguity := if route.isDefault then
          some (familyText family ++ ": terminal or unsupported system default route")
        else scan.ambiguity }
  if route.isDefault && !route.nexthops.isEmpty then
    return { scan with
      ambiguity := some "system default is multipath; choose a primary connection explicitly" }
  match route.dev with
  | none => return scan
  | some name =>
    match scan.interfaces.find? name with
    | none => return scan
    | some interface =>
      if !route.isDefault then
        return { scan with
          interfaces := scan.interfaces.insert name
            { interface with
              connectedNetworks := interface.connectedNetworks ++
                (connectedNetwork parseNet family route).toList } }
      if !interface.linkReady then return scan
      failIf (route.gateway.any fun gateway => gateway.family != family)
        "gateway address family mismatch"
      return { scan with
        candidates := scan.candidates.insert name
          ((scan.candidates.find? name).getD [] ++ [route]) }

/-- The route through an IPv4 gateway; one of the other family never comes here. -/
def routeModeV4 : Option IpAddr → RouteMode Ipv4Addr
  | some (.v4 ip) => .via ip
  | _ => .device

/-- The route through an IPv6 gateway. -/
def routeModeV6 : Option IpAddr → RouteMode Ipv6Addr
  | some (.v6 ip) => .via ip
  | _ => .device

/-- The interface with its route of the family set. -/
def setRoute (interface : InterfaceTopology) (gateway : Option IpAddr) :
    IpFamily → InterfaceTopology
  | .v4 => { interface with routeV4 := some (routeModeV4 gateway) }
  | .v6 => { interface with routeV6 := some (routeModeV6 gateway) }

/-- What the loop over the candidates has found. -/
structure CandidateScan where
  interfaces : OrderedMap String InterfaceTopology
  available : List (ℕ × String)
  ambiguity : Option String

/-- One round of the loop over the candidates of an interface. -/
def chooseRoute (family : IpFamily) (scan : CandidateScan) (entry : String × List RouteEntry) :
    CandidateScan :=
  match entry.2.insertionSort (fun a b => a.metric ≤ b.metric) with
  | [] => scan
  | best :: rest =>
    if (best :: rest).any fun route =>
        route.metric == best.metric && route.gateway != best.gateway then
      { scan with ambiguity := some ("multiple equal default routes for " ++ entry.1) }
    else
      match scan.interfaces.find? entry.1 with
      | none => scan
      | some interface =>
        if interface.hasSource family then
          { scan with
            interfaces := scan.interfaces.insert entry.1 (setRoute interface best.gateway family)
            available := scan.available ++ [(best.metric, entry.1)] }
        else scan

/-- One round of the loop over the policy rules. -/
def scanRule (family : IpFamily) (ambiguity : Option String) (rule : JsonValue) :
    Except String (Option String) := do
  let ordinary ← ordinaryRule rule
  return if ordinary then ambiguity
    else some (familyText family ++ ": foreign policy routing prevents a unique system default")

/-- The default of the system, from the routes of the interfaces in the order of their
metrics. -/
def selectDefault (ambiguity : Option String) (available : List (ℕ × String)) : DefaultSelection :=
  match ambiguity with
  | some reason => .ambiguous reason
  | none =>
    match available.insertionSort (fun a b => a.1 < b.1 ∨ a.1 = b.1 ∧ a.2 ≤ b.2) with
    | [] => .none
    | [(_, name)] => .interface name
    | (metric, name) :: (metric', _) :: _ =>
      if metric = metric' then
        .ambiguous "equal-metric default exits; choose a primary connection explicitly"
      else .interface name

/-- The networks of an interface, sorted, each once. -/
def sortNetworks (interface : InterfaceTopology) : InterfaceTopology :=
  { interface with
    connectedNetworks :=
      FirstMatch.dedupAdjacent (interface.connectedNetworks.insertionSort IpNet.le) }

/-- `fill_family`. -/
def fillFamily (parseNet : String → Option IpNet) (snapshot : TopologySnapshot)
    (family : IpFamily) (routes : List RouteEntry) (rules : List JsonValue) :
    Except String TopologySnapshot := do
  let scan ← routes.foldlM (scanRoute parseNet family) ⟨snapshot.interfaces, .empty, none⟩
  let chosen := scan.candidates.entries.foldl (chooseRoute family)
    ⟨scan.interfaces, [], scan.ambiguity⟩
  let ambiguity ← rules.foldlM (scanRule family) chosen.ambiguity
  let selected := selectDefault ambiguity chosen.available
  return { snapshot with
    interfaces := chosen.interfaces.mapValues sortNetworks
    defaults :=
      match family with
      | .v4 => { snapshot.defaults with v4 := selected }
      | .v6 => { snapshot.defaults with v6 := selected } }

/-- `parse_topology`; `parseNet` reads a network from its text. -/
def parseTopology (parseNet : String → Option IpNet) (input : TopologyInput) :
    Except String TopologySnapshot := do
  let links ← input.links
  let addresses ← input.addresses
  let interfaces ← links.foldlM addLink .empty
  let (assigned, interfaces) := addresses.foldl addAddresses ([], interfaces)
  let snapshot : TopologySnapshot :=
    { interfaces := interfaces
      observed := true
      assignedAddresses := FirstMatch.dedupAdjacent (assigned.insertionSort IpAddr.le) }
  let routesV4 ← input.routes.v4
  let rulesV4 ← input.rules.v4
  let snapshot ← fillFamily parseNet snapshot .v4 routesV4 rulesV4
  let routesV6 ← input.routes.v6
  let rulesV6 ← input.rules.v6
  fillFamily parseNet snapshot .v6 routesV6 rulesV6

/-! ## Identities -/

/-- Every interface has an identity, under its own name and with an index in range. -/
def KeyedBy (bound : ℕ) (interfaces : OrderedMap String InterfaceTopology) : Prop :=
  ∀ name entry, interfaces.find? name = some entry →
    ∃ identity, entry.identity = some identity ∧ identity.name = name ∧
      0 < identity.ifindex ∧ identity.ifindex ≤ bound

section Keyed

variable {bound : ℕ} {interfaces : OrderedMap String InterfaceTopology}

theorem keyedBy_empty : KeyedBy bound .empty := by
  intro name entry h
  cases h

/-- An entry may be replaced by one with the same identity. -/
theorem KeyedBy.insert_same (h : KeyedBy bound interfaces) {name : String}
    {entry entry' : InterfaceTopology} (hfind : interfaces.find? name = some entry)
    (hsame : entry'.identity = entry.identity) : KeyedBy bound (interfaces.insert name entry') := by
  intro other found hother
  rw [OrderedMap.find?_insert] at hother
  split at hother
  · rename_i heq
    obtain rfl := Option.some.inj hother
    rw [hsame, heq]
    exact h name entry hfind
  · exact h other found hother

theorem KeyedBy.mapValues (h : KeyedBy bound interfaces)
    {f : InterfaceTopology → InterfaceTopology} (hsame : ∀ entry, (f entry).identity = entry.identity) :
    KeyedBy bound (interfaces.mapValues f) := by
  intro name found hfound
  rw [OrderedMap.find?_mapValues, Option.map_eq_some_iff] at hfound
  obtain ⟨entry, hentry, rfl⟩ := hfound
  rw [hsame]
  exact h name entry hentry

theorem keyedBy_addLink {link : Link} (hbound : link.ifindex ≤ bound)
    {interfaces' : OrderedMap String InterfaceTopology} (h : KeyedBy bound interfaces)
    (hadd : addLink interfaces link = .ok interfaces') : KeyedBy bound interfaces' := by
  unfold addLink at hadd
  split at hadd
  · cases hadd
  · rename_i hlink
    obtain rfl := Except.ok.inj hadd
    intro name entry hentry
    rw [OrderedMap.find?_insert] at hentry
    split at hentry
    · rename_i heq
      obtain rfl := Option.some.inj hentry
      refine ⟨link.identity, rfl, heq.symm, ?_, hbound⟩
      show 0 < link.ifindex
      omega
    · exact h name entry hentry

theorem identity_addAddress (found : List IpAddr × InterfaceTopology) (address : AddressEntry) :
    (addAddress found address).2.identity = found.2.identity := by
  simp only [addAddress]
  split
  · rfl
  · split
    · rfl
    · split <;> rfl

theorem identity_addAddresses (addresses : List AddressEntry) :
    ∀ found : List IpAddr × InterfaceTopology,
      (addresses.foldl addAddress found).2.identity = found.2.identity := by
  induction addresses with
  | nil => intro found; rfl
  | cons address rest ih =>
    intro found
    rw [List.foldl_cons, ih, identity_addAddress]

theorem keyedBy_addAddresses (lists : List AddressList) :
    ∀ found : List IpAddr × OrderedMap String InterfaceTopology, KeyedBy bound found.2 →
      KeyedBy bound (lists.foldl addAddresses found).2 := by
  induction lists with
  | nil => intro found h; exact h
  | cons list rest ih =>
    intro found h
    refine ih _ ?_
    unfold addAddresses
    split
    · exact h
    · rename_i interface hinterface
      split
      · exact h
      · refine h.insert_same hinterface ?_
        show (list.addrInfo.foldl addAddress (found.1, interface)).2.identity = _
        rw [identity_addAddresses]

theorem keyedBy_scanRoute {parseNet : String → Option IpNet} {family : IpFamily}
    {route : RouteEntry} {scan scan' : RouteScan} (h : KeyedBy bound scan.interfaces)
    (hscan : scanRoute parseNet family scan route = .ok scan') :
    KeyedBy bound scan'.interfaces := by
  -- all but one of the returns leave the interfaces alone
  have hkeep {t : RouteScan} (hreturn : (pure t : Except String RouteScan) = .ok scan')
      (ht : t.interfaces = scan.interfaces) : KeyedBy bound scan'.interfaces := by
    obtain rfl := Except.ok.inj hreturn
    rw [ht]
    exact h
  unfold scanRoute at hscan
  obtain ⟨table, -, hscan⟩ := bind_eq_ok.1 hscan
  split at hscan
  · exact hkeep hscan rfl
  split at hscan
  · exact hkeep hscan rfl
  split at hscan
  · exact hkeep hscan rfl
  split at hscan
  · exact hkeep hscan rfl
  split at hscan
  · exact hkeep hscan rfl
  split at hscan
  · exact hkeep hscan rfl
  rename_i interface hinterface
  split at hscan
  · obtain rfl := Except.ok.inj hscan
    exact h.insert_same hinterface rfl
  split at hscan
  · exact hkeep hscan rfl
  · obtain ⟨-, -, hscan⟩ := bind_eq_ok.1 hscan
    exact hkeep hscan rfl

theorem keyedBy_chooseRoute {family : IpFamily} (entry : String × List RouteEntry)
    {scan : CandidateScan} (h : KeyedBy bound scan.interfaces) :
    KeyedBy bound (chooseRoute family scan entry).interfaces := by
  unfold chooseRoute
  split
  · exact h
  · split
    · exact h
    · split
      · exact h
      · rename_i interface hinterface
        split
        · refine h.insert_same hinterface ?_
          cases family <;> rfl
        · exact h

theorem keyedBy_fillFamily {parseNet : String → Option IpNet} {family : IpFamily}
    {routes : List RouteEntry} {rules : List JsonValue} {snapshot snapshot' : TopologySnapshot}
    (h : KeyedBy bound snapshot.interfaces)
    (hfill : fillFamily parseNet snapshot family routes rules = .ok snapshot') :
    KeyedBy bound snapshot'.interfaces ∧ snapshot'.observed = snapshot.observed := by
  unfold fillFamily at hfill
  obtain ⟨scan, hscan, hfill⟩ := bind_eq_ok.1 hfill
  obtain ⟨ambiguity, -, hfill⟩ := bind_eq_ok.1 hfill
  obtain rfl := Except.ok.inj hfill
  have hscanned : KeyedBy bound scan.interfaces :=
    foldlM_invariant (I := fun scan => KeyedBy bound scan.interfaces)
      (fun route _ s s' hs hstep => keyedBy_scanRoute hs hstep) h hscan
  have hchoose : ∀ entry ∈ scan.candidates.entries, ∀ found : CandidateScan,
      KeyedBy bound found.interfaces → KeyedBy bound (chooseRoute family found entry).interfaces :=
    fun entry _ found hfound => keyedBy_chooseRoute entry hfound
  have hchosen : KeyedBy bound (scan.candidates.entries.foldl (chooseRoute family)
      ⟨scan.interfaces, [], scan.ambiguity⟩).interfaces :=
    Steps.run_invariant (chooseRoute family) hchoose hscanned
  exact ⟨hchosen.mapValues fun _ => rfl, rfl⟩

/-- Whatever the documents say, an interface of a snapshot has the identity of a link under
its own name. -/
theorem keyedBy_parseTopology {parseNet : String → Option IpNet} {input : TopologyInput}
    {snapshot : TopologySnapshot} (h : parseTopology parseNet input = .ok snapshot)
    (hbound : ∀ links, input.links = .ok links → ∀ link ∈ links, link.ifindex ≤ bound) :
    KeyedBy bound snapshot.interfaces ∧ snapshot.observed = true := by
  unfold parseTopology at h
  obtain ⟨links, hlinks, h⟩ := bind_eq_ok.1 h
  obtain ⟨addresses, -, h⟩ := bind_eq_ok.1 h
  obtain ⟨named, hnamed, h⟩ := bind_eq_ok.1 h
  obtain ⟨routesV4, -, h⟩ := bind_eq_ok.1 h
  obtain ⟨rulesV4, -, h⟩ := bind_eq_ok.1 h
  obtain ⟨filled, hfilled, h⟩ := bind_eq_ok.1 h
  obtain ⟨routesV6, -, h⟩ := bind_eq_ok.1 h
  obtain ⟨rulesV6, -, h⟩ := bind_eq_ok.1 h
  have hkeyed : KeyedBy bound named :=
    foldlM_invariant (fun link hlink s s' hs hadd =>
      keyedBy_addLink (hbound links hlinks link hlink) hs hadd) keyedBy_empty hnamed
  obtain ⟨hv4, hobserved⟩ := keyedBy_fillFamily (keyedBy_addAddresses addresses ([], named) hkeyed)
    hfilled
  obtain ⟨hv6, hobserved'⟩ := keyedBy_fillFamily hv4 h
  exact ⟨hv6, hobserved'.trans hobserved⟩

end Keyed

end RouteLane
