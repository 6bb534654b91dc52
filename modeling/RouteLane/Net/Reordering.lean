import RouteLane.Net.SystemDefault

/-!
# The order of the documents

What the kernel lists first makes no difference: links, address lists and their entries,
routes and policy rules in another order give the same snapshot, or no snapshot again.
-/

namespace RouteLane

open Fallible

/-! ## Documents in another order -/

/-- The list of one interface, its entries in another order. -/
def AddressList.Reordered (list list' : AddressList) : Prop :=
  list.ifindex = list'.ifindex ∧ list.ifname = list'.ifname ∧ list.addrInfo.Perm list'.addrInfo

/-- The lists in another order, and the entries of each. -/
def ReorderedLists (lists lists' : List AddressList) : Prop :=
  ∃ between, lists.Perm between ∧ List.Forall₂ AddressList.Reordered between lists'

/-- Two decodings fail alike, or what they give is related. -/
def SameDecoding {α : Type} (r : α → α → Prop) : Except String α → Except String α → Prop
  | .ok a, .ok b => r a b
  | .error e, .error e' => e = e'
  | _, _ => False

/-- The same documents, what each of them lists in another order. -/
structure TopologyInput.Reordered (input input' : TopologyInput) : Prop where
  links : SameDecoding List.Perm input.links input'.links
  addresses : SameDecoding ReorderedLists input.addresses input'.addresses
  routes : ∀ family, SameDecoding List.Perm (input.routes.get family) (input'.routes.get family)
  rules : ∀ family, SameDecoding List.Perm (input.rules.get family) (input'.rules.get family)

/-- Two selections are the same up to the text of a reason. -/
def DefaultSelection.Alike : DefaultSelection → DefaultSelection → Prop
  | .none, .none => True
  | .interface name, .interface name' => name = name'
  | .ambiguous _, .ambiguous _ => True
  | _, _ => False

/-- Two snapshots are the same up to the text of a reason. -/
structure SameSnapshot (snapshot snapshot' : TopologySnapshot) : Prop where
  interfaces : snapshot.interfaces = snapshot'.interfaces
  assigned : snapshot.assignedAddresses = snapshot'.assignedAddresses
  defaults : ∀ family, (snapshot.defaults.get family).Alike (snapshot'.defaults.get family)

theorem alike_of_iff {selection selection' : DefaultSelection}
    (hinterface : ∀ name, selection = .interface name ↔ selection' = .interface name)
    (hnone : selection = .none ↔ selection' = .none) : selection.Alike selection' := by
  cases selection with
  | none => rw [hnone.1 rfl]; trivial
  | interface name => rw [(hinterface name).1 rfl]; rfl
  | ambiguous reason =>
    cases selection' with
    | none => exact absurd (hnone.2 rfl) (by simp)
    | interface name => exact absurd ((hinterface name).2 rfl) (by simp)
    | ambiguous reason' => trivial

theorem alike_refl (selection : DefaultSelection) : selection.Alike selection := by
  cases selection <;> trivial

theorem SameDecoding.of_ok {α : Type} {r : α → α → Prop} {d : Except String α} {a : α}
    (h : SameDecoding r (.ok a) d) : ∃ b, d = .ok b ∧ r a b := by
  cases d with
  | error e => exact h.elim
  | ok b => exact ⟨b, rfl, h⟩

theorem SameDecoding.symm {α : Type} {r : α → α → Prop} (hr : ∀ a b, r a b → r b a)
    {d d' : Except String α} (h : SameDecoding r d d') : SameDecoding r d' d := by
  cases d with
  | error e =>
    cases d' with
    | error e' => exact Eq.symm h
    | ok b => exact h.elim
  | ok a =>
    cases d' with
    | error e' => exact h.elim
    | ok b => exact hr a b h

theorem AddressList.Reordered.symm {list list' : AddressList} (h : list.Reordered list') :
    list'.Reordered list :=
  ⟨h.1.symm, h.2.1.symm, h.2.2.symm⟩

theorem ReorderedLists.symm {lists lists' : List AddressList} (h : ReorderedLists lists lists') :
    ReorderedLists lists' lists := by
  have hcomp : Relation.Comp (List.Forall₂ AddressList.Reordered) List.Perm lists lists' := by
    rw [List.forall₂_comp_perm_eq_perm_comp_forall₂]
    exact h
  obtain ⟨between, hentries, hperm⟩ := hcomp
  exact ⟨between, hperm.symm, hentries.flip.imp fun _ _ hlist => AddressList.Reordered.symm hlist⟩

theorem TopologyInput.Reordered.symm {input input' : TopologyInput} (h : input.Reordered input') :
    input'.Reordered input where
  links := h.links.symm fun _ _ => List.Perm.symm
  addresses := h.addresses.symm fun _ _ => ReorderedLists.symm
  routes family := (h.routes family).symm fun _ _ => List.Perm.symm
  rules family := (h.rules family).symm fun _ _ => List.Perm.symm

/-! ## What a reordering keeps -/

/-- Two sets of documents say the same. -/
structure SameContents (documents documents' : Documents) : Prop where
  links : documents.links.Perm documents'.links
  addresses : ∀ name entry address, address ∈ addressesOf documents.addresses name entry ↔
    address ∈ addressesOf documents'.addresses name entry
  routes : ∀ family, (documents.routes.get family).Perm (documents'.routes.get family)
  rules : ∀ family, (documents.rules.get family).Perm (documents'.rules.get family)

theorem mem_addressesOf {lists : List AddressList} {name : String} {entry : InterfaceTopology}
    {address : AddressEntry} :
    address ∈ addressesOf lists name entry ↔
      ∃ list ∈ lists, list.belongsTo name entry = true ∧ address ∈ list.addrInfo := by
  simp [addressesOf, and_assoc]

theorem AddressList.Reordered.mem_iff {list list' : AddressList} (h : list.Reordered list')
    {name : String} {entry : InterfaceTopology} {address : AddressEntry} :
    (list.belongsTo name entry = true ∧ address ∈ list.addrInfo) ↔
      (list'.belongsTo name entry = true ∧ address ∈ list'.addrInfo) := by
  obtain ⟨hindex, hname, hentries⟩ := h
  rw [AddressList.belongsTo, AddressList.belongsTo, hindex, hname, hentries.mem_iff]

theorem ReorderedLists.mem_addressesOf {lists lists' : List AddressList}
    (h : ReorderedLists lists lists') (name : String) (entry : InterfaceTopology)
    (address : AddressEntry) :
    address ∈ addressesOf lists name entry ↔ address ∈ addressesOf lists' name entry := by
  obtain ⟨between, hperm, hentries⟩ := h
  rw [RouteLane.mem_addressesOf, RouteLane.mem_addressesOf]
  simp only [hperm.mem_iff]
  clear hperm
  induction hentries with
  | nil => simp
  | cons hlist _ ih =>
    simp only [List.mem_cons, or_and_right, exists_or, exists_eq_left]
    rw [hlist.mem_iff, ih]

/-- Documents in another order say the same. -/
theorem TopologyInput.Reordered.holds {input input' : TopologyInput} {documents : Documents}
    (h : input.Reordered input') (hholds : input.Holds documents) :
    ∃ documents', input'.Holds documents' ∧ SameContents documents documents' := by
  obtain ⟨links, hlinks, hlinksPerm⟩ := (hholds.links ▸ h.links).of_ok
  obtain ⟨addresses, haddresses, haddressesPerm⟩ := (hholds.addresses ▸ h.addresses).of_ok
  have hroutes (family : IpFamily) : ∃ routes, input'.routes.get family = .ok routes ∧
      (documents.routes.get family).Perm routes := (hholds.routes family ▸ h.routes family).of_ok
  have hrules (family : IpFamily) : ∃ rules, input'.rules.get family = .ok rules ∧
      (documents.rules.get family).Perm rules := (hholds.rules family ▸ h.rules family).of_ok
  obtain ⟨routesV4, hroutesV4, hroutesV4Perm⟩ := hroutes .v4
  obtain ⟨routesV6, hroutesV6, hroutesV6Perm⟩ := hroutes .v6
  obtain ⟨rulesV4, hrulesV4, hrulesV4Perm⟩ := hrules .v4
  obtain ⟨rulesV6, hrulesV6, hrulesV6Perm⟩ := hrules .v6
  refine ⟨⟨links, addresses, ⟨routesV4, routesV6⟩, ⟨rulesV4, rulesV6⟩⟩,
    ⟨hlinks, haddresses, ?_, ?_⟩, ⟨hlinksPerm, haddressesPerm.mem_addressesOf, ?_, ?_⟩⟩ <;>
  · intro family
    cases family <;> assumption

/-! ## Each part of the parser -/

section Parts

variable {documents documents' : Documents} {family : IpFamily}

theorem SameContents.linksReadable (h : SameContents documents documents')
    (hreadable : LinksReadable documents.links) : LinksReadable documents'.links where
  named link hlink := hreadable.named link (h.links.mem_iff.2 hlink)
  nodup := (h.links.map Link.ifname).nodup_iff.1 hreadable.nodup

theorem SameContents.linked (h : SameContents documents documents')
    {interfaces interfaces' : OrderedMap String InterfaceTopology}
    (hlinked : Linked documents.links interfaces) (hlinked' : Linked documents'.links interfaces') :
    interfaces = interfaces' := by
  refine OrderedMap.ext_find? fun name => ?_
  ext entry
  rw [hlinked name entry, hlinked' name entry]
  simp only [h.links.mem_iff]

theorem SameContents.withSources (h : SameContents documents documents') (name : String)
    (entry : InterfaceTopology) :
    withSources documents.addresses name entry = withSources documents'.addresses name entry := by
  refine sortSources_congr rfl rfl rfl rfl rfl ?_ ?_ <;>
  · intro a
    simp only [addSources, List.mem_append, List.mem_filterMap, h.addresses name entry]

/-- The address lists leave the same interfaces and the same addresses. -/
theorem SameContents.addressed (h : SameContents documents documents')
    {interfaces : OrderedMap String InterfaceTopology}
    {found found' : List IpAddr × OrderedMap String InterfaceTopology}
    (hfound : Addressed interfaces documents.addresses found)
    (hfound' : Addressed interfaces documents'.addresses found') :
    found.2 = found'.2 ∧ ∀ a, a ∈ found.1 ↔ a ∈ found'.1 := by
  refine ⟨OrderedMap.ext_find? fun name => ?_, fun a => ?_⟩
  · rw [hfound.interface name, hfound'.interface name]
    cases interfaces.find? name with
    | none => rfl
    | some entry => exact congrArg some (h.withSources name entry)
  · rw [hfound.assigned, hfound'.assigned]
    simp only [h.addresses]

section Routes

variable {routes routes' candidates candidates' : List RouteEntry} {rules rules' : List JsonValue}
  {parseNet : String → Option IpNet} {name : String} {entry : InterfaceTopology}

theorem isBest_perm (h : candidates.Perm candidates') {route : RouteEntry} :
    IsBest candidates route ↔ IsBest candidates' route := by
  simp only [IsBest, h.mem_iff]

theorem equivocal_perm (h : candidates.Perm candidates') :
    Equivocal candidates ↔ Equivocal candidates' := by
  simp only [Equivocal, isBest_perm h]

theorem candidatesOf_perm (h : routes.Perm routes') :
    (candidatesOf routes name entry).Perm (candidatesOf routes' name entry) := by
  unfold candidatesOf
  split
  · exact h.filter _
  · exact List.Perm.refl _

/-- The gateway is that of any best candidate: where they agree their order does not matter. -/
theorem exit?_gateway_perm (h : candidates.Perm candidates') :
    (exit? family candidates entry).map RouteEntry.gateway =
      (exit? family candidates' entry).map RouteEntry.gateway := by
  have hnil : candidates = [] ↔ candidates' = [] :=
    ⟨fun heq => List.nil_perm.1 (heq ▸ h), fun heq => List.perm_nil.1 (heq ▸ h)⟩
  have hnone : exit? family candidates entry = none ↔ exit? family candidates' entry = none := by
    rw [exit?_eq_none, exit?_eq_none, hnil, equivocal_perm h]
  cases hexit : exit? family candidates entry with
  | none => rw [hnone.1 hexit]
  | some best =>
    cases hexit' : exit? family candidates' entry with
    | none =>
      rw [hnone.2 hexit'] at hexit
      cases hexit
    | some best' =>
      obtain ⟨hbest, hagree, -⟩ := exit?_eq_some hexit
      have hbest' := (isBest_perm h).2 (exit?_eq_some hexit').1
      have hgateway : best.gateway = best'.gateway := by
        by_contra hne
        exact hagree ⟨best, best', hbest, hbest', hne⟩
      exact congrArg some hgateway

theorem takeExit_perm (h : candidates.Perm candidates') :
    takeExit family candidates entry = takeExit family candidates' entry := by
  have htake (candidates : List RouteEntry) : takeExit family candidates entry =
      match (exit? family candidates entry).map RouteEntry.gateway with
      | none => entry
      | some gateway => setRoute entry gateway family := by
    unfold takeExit
    cases exit? family candidates entry <;> rfl
  rw [htake, htake, exit?_gateway_perm h]

theorem takeExit_connect (networks : List IpNet) :
    takeExit family candidates (connect networks entry) =
      connect networks (takeExit family candidates entry) := by
  unfold takeExit
  rw [exit?_connect]
  cases exit? family candidates entry with
  | none => rfl
  | some best => cases family <;> rfl

/-- The networks are sorted in the end. -/
theorem sortNetworks_connect {networks networks' : List IpNet}
    (h : ∀ net, net ∈ networks ↔ net ∈ networks') :
    sortNetworks (connect networks entry) = sortNetworks (connect networks' entry) := by
  have hmem (net : IpNet) : net ∈ entry.connectedNetworks ++ networks ↔
      net ∈ entry.connectedNetworks ++ networks' := by
    rw [List.mem_append, List.mem_append, h]
  simp only [sortNetworks, connect]
  rw [FirstMatch.sorted_dedup_congr IpNet.key_injective IpNet.le_iff_key hmem]

theorem fillEntry_perm (h : routes.Perm routes') :
    fillEntry parseNet family routes name entry = fillEntry parseNet family routes' name entry := by
  have hnetworks (net : IpNet) : net ∈ networksOf parseNet family routes name ↔
      net ∈ networksOf parseNet family routes' name := by
    simp only [networksOf, List.mem_flatMap, List.mem_filter, h.mem_iff]
  rw [fillEntry, fillEntry, takeExit_connect, takeExit_connect, takeExit_perm (candidatesOf_perm h),
    sortNetworks_connect hnetworks]

theorem familyReadable_perm {interfaces : OrderedMap String InterfaceTopology}
    (hroutes : routes.Perm routes') (hrules : rules.Perm rules')
    (h : FamilyReadable family interfaces routes rules) :
    FamilyReadable family interfaces routes' rules' where
  routes route hroute := h.routes route (hroutes.mem_iff.2 hroute)
  rules rule hrule := h.rules rule (hrules.mem_iff.2 hrule)

theorem conflicting_perm {interfaces : OrderedMap String InterfaceTopology}
    (hroutes : routes.Perm routes') (hrules : rules.Perm rules') :
    Conflicting interfaces routes rules ↔ Conflicting interfaces routes' rules' := by
  simp only [Conflicting, hroutes.mem_iff, hrules.mem_iff, equivocal_perm (candidatesOf_perm hroutes)]

theorem exitOf_perm {interfaces : OrderedMap String InterfaceTopology} {metric : ℕ}
    (h : routes.Perm routes') :
    ExitOf family interfaces routes name metric ↔ ExitOf family interfaces routes' name metric := by
  simp only [ExitOf, isBest_perm (candidatesOf_perm h)]

/-- The routes and rules of a family in another order fill a snapshot alike. -/
theorem SameSnapshot.filled {snapshot snapshot' filled filled' : TopologySnapshot}
    (h : SameSnapshot snapshot snapshot') (hroutes : routes.Perm routes')
    (hrules : rules.Perm rules') (hfilled : Filled parseNet family snapshot routes rules filled)
    (hfilled' : Filled parseNet family snapshot' routes' rules' filled') :
    SameSnapshot filled filled' where
  interfaces := by
    refine OrderedMap.ext_find? fun name => ?_
    rw [hfilled.interface name, hfilled'.interface name, h.interfaces]
    cases snapshot'.interfaces.find? name with
    | none => rfl
    | some entry => exact congrArg some (fillEntry_perm hroutes)
  assigned := by rw [hfilled.assigned, hfilled'.assigned, h.assigned]
  defaults other := by
    by_cases heq : other = family
    · subst heq
      refine alike_of_iff ?_ ?_
      · intro name
        rw [hfilled.only, hfilled'.only, h.interfaces, conflicting_perm hroutes hrules]
        simp only [exitOf_perm hroutes]
      · rw [hfilled.absent, hfilled'.absent, h.interfaces, conflicting_perm hroutes hrules]
        simp only [exitOf_perm hroutes]
    · rw [hfilled.others other heq, hfilled'.others other heq]
      exact h.defaults other

/-- `fill_family` fills two snapshots alike. -/
theorem SameSnapshot.fill {snapshot snapshot' filled : TopologySnapshot}
    (h : SameSnapshot snapshot snapshot') (hroutes : routes.Perm routes')
    (hrules : rules.Perm rules') (hreadable : FamilyReadable family snapshot.interfaces routes rules)
    (hfilled : Filled parseNet family snapshot routes rules filled) :
    ∃ filled', fillFamily parseNet snapshot' family routes' rules' = .ok filled' ∧
      SameSnapshot filled filled' := by
  have hreadable' : FamilyReadable family snapshot'.interfaces routes' rules' := by
    rw [← h.interfaces]
    exact familyReadable_perm hroutes hrules hreadable
  obtain ⟨filled', hfill'⟩ := (fillFamily_spec snapshot').1 hreadable'
  have hfilled' := ((fillFamily_spec snapshot').2 filled' hfill').2
  exact ⟨filled', hfill', h.filled hroutes hrules hfilled hfilled'⟩

end Routes

end Parts

/-! ## The parser -/

section Parse

variable {parseNet : String → Option IpNet} {input input' : TopologyInput}
  {documents documents' : Documents} {snapshot : TopologySnapshot}

/-- The parser is through once each of its parts is. -/
theorem parse_of_parts (hholds : input.Holds documents)
    {interfaces : OrderedMap String InterfaceTopology} {filled : TopologySnapshot}
    (hlinks : documents.links.foldlM addLink .empty = .ok interfaces)
    (hv4 : fillFamily parseNet
      { interfaces := (documents.addresses.foldl addAddresses ([], interfaces)).2
        observed := true
        assignedAddresses := FirstMatch.dedupAdjacent
          ((documents.addresses.foldl addAddresses ([], interfaces)).1.insertionSort IpAddr.le) }
      .v4 documents.routes.v4 documents.rules.v4 = .ok filled)
    (hv6 : fillFamily parseNet filled .v6 documents.routes.v6 documents.rules.v6 = .ok snapshot) :
    parseTopology parseNet input = .ok snapshot := by
  unfold parseTopology
  refine bind_eq_ok.2 ⟨_, hholds.links, bind_eq_ok.2 ⟨_, hholds.addresses, ?_⟩⟩
  refine bind_eq_ok.2 ⟨_, hlinks, ?_⟩
  refine bind_eq_ok.2 ⟨_, hholds.routes .v4, bind_eq_ok.2 ⟨_, hholds.rules .v4, ?_⟩⟩
  refine bind_eq_ok.2 ⟨_, hv4, ?_⟩
  exact bind_eq_ok.2 ⟨_, hholds.routes .v6, bind_eq_ok.2 ⟨_, hholds.rules .v6, hv6⟩⟩

/-- Documents that say the same are read alike. -/
theorem parse_sameContents (h : SameContents documents documents') (hholds : input.Holds documents)
    (hholds' : input'.Holds documents') (hparse : parseTopology parseNet input = .ok snapshot) :
    ∃ snapshot', parseTopology parseNet input' = .ok snapshot' ∧ SameSnapshot snapshot snapshot' := by
  obtain ⟨read, interfaces, start, filled, hread, hreading⟩ := reading_of_parse hparse
  obtain rfl := hread.unique hholds
  -- the links
  obtain ⟨interfaces', hlinks'⟩ := (scanned_links documents'.links).1
    (h.linksReadable hreading.readable)
  have hlinked' := ((scanned_links documents'.links).2 interfaces' hlinks').2
  obtain rfl := h.linked hreading.linked hlinked'
  -- the addresses
  have haddressed' : Addressed interfaces documents'.addresses
      (documents'.addresses.foldl addAddresses ([], interfaces)) := by
    refine addressed_foldl ?_ documents'.addresses
    intro name entry hentry
    obtain ⟨link, -, -, rfl⟩ := (hlinked' name entry).1 hentry
    exact sortSources_linkEntry link
  obtain ⟨hinterfaces, hassigned⟩ := h.addressed hreading.addressed haddressed'
  have hstart : SameSnapshot start
      { interfaces := (documents'.addresses.foldl addAddresses ([], interfaces)).2
        observed := true
        assignedAddresses := FirstMatch.dedupAdjacent
          ((documents'.addresses.foldl addAddresses ([], interfaces)).1.insertionSort
            IpAddr.le) } := by
    rw [hreading.begins]
    refine ⟨hinterfaces, ?_, fun family => alike_refl _⟩
    exact FirstMatch.sorted_dedup_congr IpAddr.key_injective IpAddr.le_iff_key hassigned
  -- the families
  obtain ⟨filled', hv4, hsame⟩ :=
    hstart.fill (h.routes .v4) (h.rules .v4) hreading.readableV4 hreading.filledV4
  obtain ⟨snapshot', hv6, hsame'⟩ :=
    hsame.fill (h.routes .v6) (h.rules .v6) hreading.readableV6 hreading.filledV6
  exact ⟨snapshot', parse_of_parts hholds' hlinks' hv4 hv6, hsame'⟩

/-- The order of the documents decides neither whether the parser fails nor what it reads. -/
theorem parseTopology_reordered (h : input.Reordered input') :
    ((∃ e, parseTopology parseNet input = .error e) ↔
      ∃ e, parseTopology parseNet input' = .error e) ∧
    ∀ snapshot snapshot', parseTopology parseNet input = .ok snapshot →
      parseTopology parseNet input' = .ok snapshot' →
        (∀ name, snapshot.interface name = snapshot'.interface name) ∧
        snapshot.assignedAddresses = snapshot'.assignedAddresses ∧
        ∀ family, (snapshot.defaults.get family).Alike (snapshot'.defaults.get family) := by
  have htransfer {input input' : TopologyInput} (h : input.Reordered input')
      {snapshot : TopologySnapshot} (hparse : parseTopology parseNet input = .ok snapshot) :
      ∃ snapshot', parseTopology parseNet input' = .ok snapshot' ∧
        SameSnapshot snapshot snapshot' := by
    obtain ⟨documents, -, -, -, hholds, -⟩ := reading_of_parse hparse
    obtain ⟨documents', hholds', hsame⟩ := h.holds hholds
    exact parse_sameContents hsame hholds hholds' hparse
  have hfails {input input' : TopologyInput} (h : input.Reordered input')
      (hfailed : ∃ e, parseTopology parseNet input = .error e) :
      ∃ e, parseTopology parseNet input' = .error e := by
    obtain ⟨e, he⟩ := hfailed
    cases hparse : parseTopology parseNet input' with
    | error e' => exact ⟨e', rfl⟩
    | ok snapshot =>
      obtain ⟨snapshot', hsnapshot', -⟩ := htransfer h.symm hparse
      rw [he] at hsnapshot'
      cases hsnapshot'
  refine ⟨⟨hfails h, hfails h.symm⟩, ?_⟩
  intro snapshot snapshot' hparse hparse'
  obtain ⟨read, hread, hsame⟩ := htransfer h hparse
  obtain rfl := Except.ok.inj (hparse'.symm.trans hread)
  refine ⟨?_, hsame.assigned, hsame.defaults⟩
  intro name
  rw [TopologySnapshot.interface, TopologySnapshot.interface, hsame.interfaces]

end Parse

/-- The machine with a wire and a radio, the radio first. -/
def radioFirst : TopologyInput where
  links := wiredInput.links.map List.reverse
  addresses := wiredInput.addresses.map List.reverse
  routes := ⟨wiredInput.routes.v4.map List.reverse, .ok []⟩
  rules := wiredInput.rules

theorem wired_reordered : wiredInput.Reordered radioFirst where
  links := (List.reverse_perm _).symm
  addresses := ⟨_, (List.reverse_perm _).symm,
    List.forall₂_same.2 fun _ _ => ⟨rfl, rfl, List.Perm.refl _⟩⟩
  routes family := by
    cases family
    · exact (List.reverse_perm _).symm
    · exact List.Perm.refl _
  rules family := by
    cases family <;> exact List.Perm.refl _

theorem parseTopology_reordered_radio :
    (∃ e, parseTopology (fun _ => none) wiredInput = .error e) ↔
      ∃ e, parseTopology (fun _ => none) radioFirst = .error e :=
  (parseTopology_reordered wired_reordered).1

end RouteLane
