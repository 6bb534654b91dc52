import RouteLane.Net.FillFamily
import RouteLane.Net.Interfaces

/-!
# The system's default

The default of a parsed topology, told from its documents alone: the one interface with a
ready link, a source address and the strictly best default route, as long as nothing in
the routes and rules stands against it.
-/

namespace RouteLane

open Fallible

/-- The documents of a topology, decoded. -/
structure Documents where
  links : List Link
  addresses : List AddressList
  routes : FamilyPair (List RouteEntry)
  rules : FamilyPair (List JsonValue)

/-- The input decodes to the documents. -/
structure TopologyInput.Holds (input : TopologyInput) (documents : Documents) : Prop where
  links : input.links = .ok documents.links
  addresses : input.addresses = .ok documents.addresses
  routes : ∀ family, input.routes.get family = .ok (documents.routes.get family)
  rules : ∀ family, input.rules.get family = .ok (documents.rules.get family)

/-- An input decodes to one set of documents. -/
theorem TopologyInput.Holds.unique {input : TopologyInput} {documents documents' : Documents}
    (h : input.Holds documents) (h' : input.Holds documents') : documents = documents' := by
  obtain ⟨links, addresses, ⟨routesV4, routesV6⟩, ⟨rulesV4, rulesV6⟩⟩ := documents
  obtain ⟨links', addresses', ⟨routesV4', routesV6'⟩, ⟨rulesV4', rulesV6'⟩⟩ := documents'
  obtain rfl : links = links' := Except.ok.inj (h.links.symm.trans h'.links)
  obtain rfl : addresses = addresses' := Except.ok.inj (h.addresses.symm.trans h'.addresses)
  obtain rfl : routesV4 = routesV4' := Except.ok.inj ((h.routes .v4).symm.trans (h'.routes .v4))
  obtain rfl : routesV6 = routesV6' := Except.ok.inj ((h.routes .v6).symm.trans (h'.routes .v6))
  obtain rfl : rulesV4 = rulesV4' := Except.ok.inj ((h.rules .v4).symm.trans (h'.rules .v4))
  obtain rfl : rulesV6 = rulesV6' := Except.ok.inj ((h.rules .v6).symm.trans (h'.rules .v6))
  rfl

namespace Documents

/-- The interface has a link that is ready. -/
def LinkReady (documents : Documents) (name : String) : Prop :=
  ∃ link ∈ documents.links, link.ifname = name ∧ link.ready = true

/-- A list of the interface's own name and index has a usable source address of the family. -/
def HasSource (documents : Documents) (family : IpFamily) (name : String) : Prop :=
  ∃ link ∈ documents.links, link.ifname = name ∧
    ∃ list ∈ documents.addresses, list.ifname = name ∧ list.ifindex = link.ifindex ∧
      ∃ address ∈ list.addrInfo, address.isSource = true ∧ address.addr.family = family

/-- The live unicast defaults of the main table with one next hop, through an interface. -/
def defaultsVia (documents : Documents) (family : IpFamily) (name : String) : List RouteEntry :=
  (documents.routes.get family).filter (RouteEntry.defaultVia name)

/-- The interface could be the system's default, with a best metric. -/
def Exit (documents : Documents) (family : IpFamily) (name : String) (metric : ℕ) : Prop :=
  documents.LinkReady name ∧ documents.HasSource family name ∧
    ∃ best, IsBest (documents.defaultsVia family name) best ∧ best.metric = metric

/-- A live default of the main table is multipath or not unicast, a ready interface has two
best defaults with different gateways, or a policy rule is neither a builtin one nor an
exact RouteLane tuple. -/
def Conflict (documents : Documents) (family : IpFamily) : Prop :=
  (∃ route ∈ documents.routes.get family, route.obstructs = true) ∨
    (∃ name, documents.LinkReady name ∧ Equivocal (documents.defaultsVia family name)) ∨
    ∃ rule ∈ documents.rules.get family, ¬OrdinaryRule rule

/-- The interface is the system's default: none other is as good, and nothing is in conflict. -/
def Default (documents : Documents) (family : IpFamily) (name : String) : Prop :=
  ¬documents.Conflict family ∧ ∃ metric, documents.Exit family name metric ∧
    ∀ other metric', documents.Exit family other metric' → other ≠ name → metric < metric'

/-- The system has no default, and nothing is in conflict. -/
def NoDefault (documents : Documents) (family : IpFamily) : Prop :=
  ¬documents.Conflict family ∧ ∀ name metric, ¬documents.Exit family name metric

end Documents

/-! ## What the interfaces show of the documents -/

/-- The interfaces are ready, and have sources, as the documents say. -/
structure Describes (documents : Documents) (interfaces : OrderedMap String InterfaceTopology) :
    Prop where
  ready : ∀ name, documents.LinkReady name ↔
    ∃ entry, interfaces.find? name = some entry ∧ entry.linkReady = true
  source : ∀ family name, documents.HasSource family name ↔
    ∃ entry, interfaces.find? name = some entry ∧ entry.hasSource family = true

section Describes

variable {documents : Documents} {interfaces : OrderedMap String InterfaceTopology}
  {family : IpFamily}

theorem exists_sourceV4?_iff {address : AddressEntry} :
    (∃ ip, address.sourceV4? = some ip) ↔ address.isSource = true ∧ address.addr.family = .v4 := by
  unfold AddressEntry.sourceV4?
  cases haddr : address.addr <;> simp [IpAddr.family]

theorem exists_sourceV6?_iff {address : AddressEntry} :
    (∃ ip, address.sourceV6? = some ip) ↔ address.isSource = true ∧ address.addr.family = .v6 := by
  unfold AddressEntry.sourceV6?
  cases haddr : address.addr <;> simp [IpAddr.family]

/-- An interface that had no sources has those of its lists. -/
theorem hasSource_withSources {lists : List AddressList} {name : String}
    {entry : InterfaceTopology} (hv4 : entry.sourceV4 = []) (hv6 : entry.sourceV6 = []) :
    (withSources lists name entry).hasSource family = true ↔
      ∃ address ∈ addressesOf lists name entry, address.isSource = true ∧
        address.addr.family = family := by
  have hnonempty {α : Type} (l : List α) : (!l.isEmpty) = true ↔ ∃ a, a ∈ l := by
    cases l <;> simp
  cases family with
  | v4 =>
    show (!(withSources lists name entry).sourceV4.isEmpty) = true ↔ _
    rw [hnonempty]
    simp only [withSources, mem_sources_sortSources.1, addSources, hv4, List.nil_append,
      List.mem_filterMap, ← exists_sourceV4?_iff]
    constructor
    · rintro ⟨ip, address, hmem, hip⟩
      exact ⟨address, hmem, ip, hip⟩
    · rintro ⟨address, hmem, ip, hip⟩
      exact ⟨ip, address, hmem, hip⟩
  | v6 =>
    show (!(withSources lists name entry).sourceV6.isEmpty) = true ↔ _
    rw [hnonempty]
    simp only [withSources, mem_sources_sortSources.2, addSources, hv6, List.nil_append,
      List.mem_filterMap, ← exists_sourceV6?_iff]
    constructor
    · rintro ⟨ip, address, hmem, hip⟩
      exact ⟨address, hmem, ip, hip⟩
    · rintro ⟨address, hmem, ip, hip⟩
      exact ⟨ip, address, hmem, hip⟩

/-- The lists of an interface are those of its link's name and index. -/
theorem mem_addressesOf_link {lists : List AddressList} {link : Link} {address : AddressEntry} :
    address ∈ addressesOf lists link.ifname (linkEntry link) ↔
      ∃ list ∈ lists, list.ifname = link.ifname ∧ list.ifindex = link.ifindex ∧
        address ∈ list.addrInfo := by
  have hindex : (linkEntry link).identity.map InterfaceIdentity.ifindex = some link.ifindex := rfl
  simp only [addressesOf, List.mem_flatMap, List.mem_filter, AddressList.belongsTo, hindex,
    Bool.and_eq_true, beq_iff_eq, Option.some.injEq, and_assoc,
    eq_comm (a := link.ifindex)]

/-- The interfaces the routes are read over. -/
theorem find?_start (hlinked : Linked documents.links interfaces)
    {found : List IpAddr × OrderedMap String InterfaceTopology}
    (haddressed : Addressed interfaces documents.addresses found) {name : String}
    {entry : InterfaceTopology} :
    found.2.find? name = some entry ↔ ∃ link ∈ documents.links, link.ifname = name ∧
      withSources documents.addresses name (linkEntry link) = entry := by
  rw [haddressed.interface name, Option.map_eq_some_iff]
  constructor
  · rintro ⟨bare, hbare, hentry⟩
    obtain ⟨link, hlink, hname, rfl⟩ := (hlinked name bare).1 hbare
    exact ⟨link, hlink, hname, hentry⟩
  · rintro ⟨link, hlink, hname, hentry⟩
    exact ⟨linkEntry link, (hlinked name _).2 ⟨link, hlink, hname, rfl⟩, hentry⟩

theorem describes_start (hlinked : Linked documents.links interfaces)
    {found : List IpAddr × OrderedMap String InterfaceTopology}
    (haddressed : Addressed interfaces documents.addresses found) :
    Describes documents found.2 where
  ready name := by
    simp only [find?_start hlinked haddressed]
    constructor
    · rintro ⟨link, hlink, hname, hready⟩
      exact ⟨_, ⟨link, hlink, hname, rfl⟩, hready⟩
    · rintro ⟨entry, ⟨link, hlink, hname, hentry⟩, hready⟩
      refine ⟨link, hlink, hname, ?_⟩
      rw [← hentry] at hready
      exact hready
  source family name := by
    simp only [find?_start hlinked haddressed]
    constructor
    · rintro ⟨link, hlink, hname, list, hlist, hlistname, hindex, address, hmem, hsource⟩
      refine ⟨_, ⟨link, hlink, hname, rfl⟩, (hasSource_withSources rfl rfl).2 ⟨address, ?_, hsource⟩⟩
      rw [← hname]
      exact mem_addressesOf_link.2 ⟨list, hlist, hlistname.trans hname.symm, hindex, hmem⟩
    · rintro ⟨entry, ⟨link, hlink, hname, hentry⟩, hsource⟩
      rw [← hentry, hasSource_withSources rfl rfl, ← hname] at hsource
      obtain ⟨address, haddress, hsource⟩ := hsource
      obtain ⟨list, hlist, hlistname, hindex, hmem⟩ := mem_addressesOf_link.1 haddress
      exact ⟨link, hlink, hname, list, hlist, hlistname.trans hname, hindex, address, hmem, hsource⟩

theorem takeExit_keeps {candidates : List RouteEntry} {entry : InterfaceTopology} :
    (takeExit family candidates entry).linkReady = entry.linkReady ∧
      ∀ other, (takeExit family candidates entry).hasSource other = entry.hasSource other := by
  unfold takeExit
  split
  · exact ⟨rfl, fun _ => rfl⟩
  · refine ⟨?_, ?_⟩
    · cases family <;> rfl
    · intro other
      cases family <;> cases other <;> rfl

theorem fillEntry_keeps {parseNet : String → Option IpNet} {routes : List RouteEntry}
    {name : String} {entry : InterfaceTopology} :
    (fillEntry parseNet family routes name entry).linkReady = entry.linkReady ∧
      ∀ other, (fillEntry parseNet family routes name entry).hasSource other =
        entry.hasSource other := by
  refine ⟨takeExit_keeps.1, ?_⟩
  intro other
  have hsorted (filled : InterfaceTopology) :
      (sortNetworks filled).hasSource other = filled.hasSource other := by cases other <;> rfl
  rw [fillEntry, hsorted, takeExit_keeps.2, hasSource_connect]

/-- The routes of a family change neither readiness nor sources. -/
theorem Describes.filled {parseNet : String → Option IpNet} {snapshot filled : TopologySnapshot}
    {routes : List RouteEntry} {rules : List JsonValue}
    (h : Describes documents snapshot.interfaces)
    (hfilled : Filled parseNet family snapshot routes rules filled) :
    Describes documents filled.interfaces where
  ready name := by
    rw [h.ready, hfilled.interface name]
    simp [Option.map_eq_some_iff, fillEntry_keeps.1]
  source other name := by
    rw [h.source, hfilled.interface name]
    simp [Option.map_eq_some_iff, fillEntry_keeps.2]

/-- Over interfaces that show the documents, the loops look for what the documents say. -/
theorem Describes.exitOf_iff (h : Describes documents interfaces) {name : String} {metric : ℕ} :
    ExitOf family interfaces (documents.routes.get family) name metric ↔
      documents.Exit family name metric := by
  rw [Documents.Exit, h.ready, h.source]
  constructor
  · rintro ⟨entry, best, hentry, hsource, hbest, hmetric⟩
    cases hready : entry.linkReady with
    | false =>
      rw [candidatesOf, hready] at hbest
      exact absurd hbest.1 List.not_mem_nil
    | true =>
      rw [candidatesOf, hready] at hbest
      exact ⟨⟨entry, hentry, hready⟩, ⟨entry, hentry, hsource⟩, best, hbest, hmetric⟩
  · rintro ⟨⟨entry, hentry, hready⟩, ⟨other, hother, hsource⟩, best, hbest, hmetric⟩
    obtain rfl := Option.some.inj (hentry.symm.trans hother)
    refine ⟨entry, best, hentry, hsource, ?_, hmetric⟩
    rw [candidatesOf, hready]
    exact hbest

theorem Describes.conflicting_iff (h : Describes documents interfaces) :
    Conflicting interfaces (documents.routes.get family) (documents.rules.get family) ↔
      documents.Conflict family := by
  have hequivocal : (∃ name entry, interfaces.find? name = some entry ∧
        Equivocal (candidatesOf (documents.routes.get family) name entry)) ↔
      ∃ name, documents.LinkReady name ∧ Equivocal (documents.defaultsVia family name) := by
    simp only [h.ready]
    constructor
    · rintro ⟨name, entry, hentry, hequivocal⟩
      cases hready : entry.linkReady with
      | false =>
        rw [candidatesOf, hready] at hequivocal
        exact absurd hequivocal not_equivocal_nil
      | true =>
        rw [candidatesOf, hready] at hequivocal
        exact ⟨name, ⟨entry, hentry, hready⟩, hequivocal⟩
    · rintro ⟨name, ⟨entry, hentry, hready⟩, hequivocal⟩
      refine ⟨name, entry, hentry, ?_⟩
      rw [candidatesOf, hready]
      exact hequivocal
  rw [Conflicting, Documents.Conflict, hequivocal]

end Describes

/-! ## Routes given -/

/-- The interface has a route of the family. -/
def InterfaceTopology.hasRoute (entry : InterfaceTopology) : IpFamily → Bool
  | .v4 => entry.routeV4.isSome
  | .v6 => entry.routeV6.isSome

/-- Every route an interface has is one it could be given. -/
def RoutesEarned (interfaces : OrderedMap String InterfaceTopology) : Prop :=
  ∀ name entry family, interfaces.find? name = some entry → entry.hasRoute family = true →
    entry.linkReady = true ∧ entry.hasSource family = true

theorem hasRoute_takeExit {family : IpFamily} {candidates : List RouteEntry}
    {entry : InterfaceTopology} {other : IpFamily}
    (h : (takeExit family candidates entry).hasRoute other = true) :
    entry.hasRoute other = true ∨
      other = family ∧ candidates ≠ [] ∧ entry.hasSource family = true := by
  unfold takeExit at h
  split at h
  · exact Or.inl h
  · rename_i best hexit
    obtain ⟨hbest, -, hsource⟩ := exit?_eq_some hexit
    have hne : candidates ≠ [] := List.ne_nil_of_mem hbest.1
    cases family <;> cases other <;> first | exact Or.inr ⟨rfl, hne, hsource⟩ | exact Or.inl h

theorem RoutesEarned.filled {parseNet : String → Option IpNet} {family : IpFamily}
    {snapshot filled : TopologySnapshot} {routes : List RouteEntry} {rules : List JsonValue}
    (h : RoutesEarned snapshot.interfaces)
    (hfilled : Filled parseNet family snapshot routes rules filled) :
    RoutesEarned filled.interfaces := by
  intro name entry other hentry hroute
  rw [hfilled.interface name, Option.map_eq_some_iff] at hentry
  obtain ⟨before, hbefore, rfl⟩ := hentry
  rw [fillEntry_keeps.1, fillEntry_keeps.2]
  have htaken : (takeExit family (candidatesOf routes name before)
      (connect (networksOf parseNet family routes name) before)).hasRoute other = true := by
    cases other <;> exact hroute
  rcases hasRoute_takeExit htaken with hkept | ⟨rfl, hne, hsource⟩
  · exact h name before other hbefore (by cases other <;> exact hkept)
  · rw [hasSource_connect] at hsource
    refine ⟨?_, hsource⟩
    by_contra hready
    rw [candidatesOf, if_neg hready] at hne
    exact hne rfl

/-! ## The parser -/

/-- What `parse_topology` reads, document after document. -/
structure Reading (parseNet : String → Option IpNet) (documents : Documents)
    (interfaces : OrderedMap String InterfaceTopology) (start filled snapshot : TopologySnapshot) :
    Prop where
  readable : LinksReadable documents.links
  linked : Linked documents.links interfaces
  begins : start =
    { interfaces := (documents.addresses.foldl addAddresses ([], interfaces)).2
      observed := true
      assignedAddresses := FirstMatch.dedupAdjacent
        ((documents.addresses.foldl addAddresses ([], interfaces)).1.insertionSort IpAddr.le) }
  readableV4 : FamilyReadable .v4 start.interfaces documents.routes.v4 documents.rules.v4
  filledV4 : Filled parseNet .v4 start documents.routes.v4 documents.rules.v4 filled
  readableV6 : FamilyReadable .v6 filled.interfaces documents.routes.v6 documents.rules.v6
  filledV6 : Filled parseNet .v6 filled documents.routes.v6 documents.rules.v6 snapshot

section Parse

variable {parseNet : String → Option IpNet} {input : TopologyInput} {documents : Documents}
  {snapshot : TopologySnapshot}

theorem reading_of_parse (h : parseTopology parseNet input = .ok snapshot) :
    ∃ documents interfaces start filled, input.Holds documents ∧
      Reading parseNet documents interfaces start filled snapshot := by
  unfold parseTopology at h
  obtain ⟨links, hlinks, h⟩ := bind_eq_ok.1 h
  obtain ⟨addresses, haddresses, h⟩ := bind_eq_ok.1 h
  obtain ⟨interfaces, hinterfaces, h⟩ := bind_eq_ok.1 h
  obtain ⟨routesV4, hroutesV4, h⟩ := bind_eq_ok.1 h
  obtain ⟨rulesV4, hrulesV4, h⟩ := bind_eq_ok.1 h
  obtain ⟨filled, hfilled, h⟩ := bind_eq_ok.1 h
  obtain ⟨routesV6, hroutesV6, h⟩ := bind_eq_ok.1 h
  obtain ⟨rulesV6, hrulesV6, h⟩ := bind_eq_ok.1 h
  obtain ⟨hreadable, hlinked⟩ := (scanned_links links).2 interfaces hinterfaces
  obtain ⟨hreadableV4, hfilledV4⟩ := (fillFamily_spec _).2 filled hfilled
  obtain ⟨hreadableV6, hfilledV6⟩ := (fillFamily_spec _).2 snapshot h
  refine ⟨⟨links, addresses, ⟨routesV4, routesV6⟩, ⟨rulesV4, rulesV6⟩⟩, interfaces, _, filled, ?_,
    ⟨hreadable, hlinked, rfl, hreadableV4, hfilledV4, hreadableV6, hfilledV6⟩⟩
  refine ⟨hlinks, haddresses, ?_, ?_⟩
  · intro family
    cases family
    · exact hroutesV4
    · exact hroutesV6
  · intro family
    cases family
    · exact hrulesV4
    · exact hrulesV6

theorem sortSources_linkEntry (link : Link) : sortSources (linkEntry link) = linkEntry link := rfl

theorem Reading.addressed {interfaces : OrderedMap String InterfaceTopology}
    {start filled : TopologySnapshot}
    (h : Reading parseNet documents interfaces start filled snapshot) :
    Addressed interfaces documents.addresses
      (documents.addresses.foldl addAddresses ([], interfaces)) := by
  refine addressed_foldl ?_ documents.addresses
  intro name entry hentry
  obtain ⟨link, -, -, rfl⟩ := (h.linked name entry).1 hentry
  exact sortSources_linkEntry link

theorem Reading.describes {interfaces : OrderedMap String InterfaceTopology}
    {start filled : TopologySnapshot}
    (h : Reading parseNet documents interfaces start filled snapshot) :
    Describes documents start.interfaces ∧ Describes documents filled.interfaces ∧
      Describes documents snapshot.interfaces := by
  have hstart : Describes documents start.interfaces := by
    rw [h.begins]
    exact describes_start h.linked h.addressed
  have hfilled := hstart.filled h.filledV4
  exact ⟨hstart, hfilled, hfilled.filled h.filledV6⟩

/-- The selection a family is filled with is the one the documents call for. -/
theorem Describes.defaults {family : IpFamily} {filled : TopologySnapshot}
    (h : Describes documents snapshot.interfaces)
    (hfilled : Filled parseNet family snapshot (documents.routes.get family)
      (documents.rules.get family) filled) :
    (∀ name, filled.defaults.get family = .interface name ↔ documents.Default family name) ∧
      (filled.defaults.get family = .none ↔ documents.NoDefault family) := by
  refine ⟨?_, ?_⟩
  · intro name
    rw [hfilled.only name, h.conflicting_iff]
    simp only [h.exitOf_iff]
    rfl
  · rw [hfilled.absent, h.conflicting_iff]
    simp only [h.exitOf_iff]
    rfl

theorem Reading.defaults {interfaces : OrderedMap String InterfaceTopology}
    {start filled : TopologySnapshot}
    (h : Reading parseNet documents interfaces start filled snapshot) (family : IpFamily) :
    (∀ name, snapshot.defaults.get family = .interface name ↔ documents.Default family name) ∧
      (snapshot.defaults.get family = .none ↔ documents.NoDefault family) := by
  obtain ⟨hstart, hfilled, -⟩ := h.describes
  cases family with
  | v4 =>
    rw [h.filledV6.others .v4 (by decide)]
    exact hstart.defaults h.filledV4
  | v6 => exact hfilled.defaults h.filledV6

theorem Reading.routesEarned {interfaces : OrderedMap String InterfaceTopology}
    {start filled : TopologySnapshot}
    (h : Reading parseNet documents interfaces start filled snapshot) :
    RoutesEarned snapshot.interfaces := by
  have hstart : RoutesEarned start.interfaces := by
    rw [h.begins]
    intro name entry family hentry hroute
    obtain ⟨link, -, -, rfl⟩ := (find?_start h.linked h.addressed).1 hentry
    cases family <;> cases hroute
  exact (hstart.filled h.filledV4).filled h.filledV6

theorem systemDefault_eq_ok {family : IpFamily} {name : String} :
    snapshot.systemDefault family = .ok (some name) ↔
      snapshot.defaults.get family = .interface name := by
  unfold TopologySnapshot.systemDefault
  cases snapshot.defaults.get family <;> simp

theorem systemDefault_eq_none {family : IpFamily} :
    snapshot.systemDefault family = .ok none ↔ snapshot.defaults.get family = .none := by
  unfold TopologySnapshot.systemDefault
  cases snapshot.defaults.get family <;> simp

/-- The system's default is the interface the documents single out, none if there is no
candidate and no conflict, and ambiguous otherwise; and a route is given only to a ready
interface with a source of the family. -/
theorem systemDefault_exact (h : parseTopology parseNet input = .ok snapshot) :
    ∃ documents, input.Holds documents ∧
      (∀ family,
        (∀ name, snapshot.systemDefault family = .ok (some name) ↔ documents.Default family name) ∧
        (snapshot.systemDefault family = .ok none ↔ documents.NoDefault family) ∧
        ((∃ reason, snapshot.systemDefault family = .error reason) ↔
          (∀ name, ¬documents.Default family name) ∧ ¬documents.NoDefault family)) ∧
      ∀ name entry family, snapshot.interface name = some entry → entry.hasRoute family = true →
        documents.LinkReady name ∧ documents.HasSource family name := by
  obtain ⟨documents, interfaces, start, filled, hholds, hreading⟩ := reading_of_parse h
  refine ⟨documents, hholds, ?_, ?_⟩
  · intro family
    obtain ⟨honly, hnone⟩ := hreading.defaults family
    refine ⟨?_, ?_, ?_⟩
    · intro name
      rw [systemDefault_eq_ok, honly]
    · rw [systemDefault_eq_none, hnone]
    · simp only [← honly, ← hnone]
      unfold TopologySnapshot.systemDefault
      cases snapshot.defaults.get family <;> simp
  · intro name entry family hentry hroute
    obtain ⟨-, -, hdescribes⟩ := hreading.describes
    obtain ⟨hready, hsource⟩ := hreading.routesEarned name entry family hentry hroute
    exact ⟨(hdescribes.ready name).2 ⟨entry, hentry, hready⟩,
      (hdescribes.source family name).2 ⟨entry, hentry, hsource⟩⟩

end Parse

/-- A machine with a wire and a radio, each with a default of its own. -/
def wiredInput : TopologyInput where
  links := .ok [⟨2, "eth0", ["UP", "LOWER_UP"], "UP", "ether", none, none⟩,
    ⟨3, "wlan0", ["UP", "LOWER_UP"], "UP", "ether", none, none⟩]
  addresses := .ok [
    ⟨2, "eth0", [⟨"inet", .v4 0x0a010002#32, .string "global", [], false, false, false, none, none⟩]⟩,
    ⟨3, "wlan0", [⟨"inet", .v4 0x0a020002#32, .string "0", [], false, false, false, none, none⟩]⟩]
  routes := ⟨.ok [⟨some "default", some "wlan0", some (.v4 0x0a020001#32), none, 600, [], [], none, none⟩,
    ⟨some "default", some "eth0", some (.v4 0x0a010001#32), none, 100, [], [], none, none⟩], .ok []⟩
  rules := ⟨.ok [.object [("priority", .number 32766), ("src", .string "all"),
    ("table", .string "main")]], .ok []⟩

theorem systemDefault_exact_wired :
    ∃ documents, wiredInput.Holds documents ∧ documents.Default .v4 "eth0" ∧
      documents.NoDefault .v6 := by
  have hdefaults : (parseTopology (fun _ => none) wiredInput).map
      (fun snapshot => (snapshot.systemDefault .v4, snapshot.systemDefault .v6)) =
      .ok (.ok (some "eth0"), .ok none) := by decide +kernel
  cases hparse : parseTopology (fun _ => none) wiredInput with
  | error e =>
    rw [hparse] at hdefaults
    cases hdefaults
  | ok snapshot =>
    rw [hparse] at hdefaults
    obtain ⟨hv4, hv6⟩ := Prod.mk.inj (Except.ok.inj hdefaults)
    obtain ⟨documents, hholds, hexact, -⟩ := systemDefault_exact hparse
    exact ⟨documents, hholds, ((hexact .v4).1 "eth0").1 hv4, (hexact .v6).2.1.1 hv6⟩

end RouteLane
