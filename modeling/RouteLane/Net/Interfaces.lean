import RouteLane.Net.ParseTopology

/-!
# Links and addresses

The interfaces of a snapshot before any route is read: one for each link, with the source
addresses that some address list gives to its name and index, and the addresses assigned
to the machine.
-/

namespace RouteLane

open Fallible

/-! ## Links -/

/-- The interface of a link. -/
def linkEntry (link : Link) : InterfaceTopology :=
  { InterfaceTopology.default with identity := some link.identity, linkReady := link.ready }

/-- Every link has an index and a name of its own. -/
structure LinksReadable (links : List Link) : Prop where
  named : ∀ link ∈ links, link.ifindex ≠ 0 ∧ link.ifname.isEmpty = false
  nodup : (links.map Link.ifname).Nodup

/-- The interfaces are those of the links. -/
def Linked (links : List Link) (interfaces : OrderedMap String InterfaceTopology) : Prop :=
  ∀ name entry, interfaces.find? name = some entry ↔
    ∃ link ∈ links, link.ifname = name ∧ linkEntry link = entry

section Links

variable {links : List Link} {link : Link} {interfaces interfaces' : OrderedMap String InterfaceTopology}

theorem addLink_eq_ok :
    addLink interfaces link = .ok interfaces' ↔
      (link.ifindex ≠ 0 ∧ link.ifname.isEmpty = false ∧ interfaces.find? link.ifname = none) ∧
        interfaces' = interfaces.insert link.ifname (linkEntry link) := by
  rw [addLink, guard_eq_ok]
  simp only [not_or, Bool.not_eq_true, Option.isSome_eq_false_iff, Option.isNone_iff_eq_none]
  refine and_congr Iff.rfl ?_
  exact ⟨fun h => (Except.ok.inj h).symm, fun h => congrArg Except.ok h.symm⟩

theorem Linked.find?_eq_none (h : Linked links interfaces) {name : String} :
    interfaces.find? name = none ↔ name ∉ links.map Link.ifname := by
  rw [Option.eq_none_iff_forall_ne_some]
  constructor
  · intro hnone hmem
    obtain ⟨link, hlink, hname⟩ := List.mem_map.1 hmem
    exact hnone (linkEntry link) ((h name _).2 ⟨link, hlink, hname, rfl⟩)
  · intro hfresh entry hentry
    obtain ⟨link, hlink, hname, -⟩ := (h name entry).1 hentry
    exact hfresh (List.mem_map.2 ⟨link, hlink, hname⟩)

theorem linksReadable_snoc :
    LinksReadable (links ++ [link]) ↔
      LinksReadable links ∧ (link.ifindex ≠ 0 ∧ link.ifname.isEmpty = false) ∧
        link.ifname ∉ links.map Link.ifname := by
  constructor
  · intro ⟨hnamed, hnodup⟩
    rw [List.map_append, List.nodup_append] at hnodup
    refine ⟨⟨fun l hl => hnamed l (List.mem_append_left _ hl), hnodup.1⟩, hnamed link (by simp), ?_⟩
    intro hmem
    exact hnodup.2.2 _ hmem link.ifname (by simp) rfl
  · intro ⟨⟨hnamed, hnodup⟩, hlink, hfresh⟩
    refine ⟨?_, ?_⟩
    · intro l hl
      rcases List.mem_append.1 hl with hl | hl
      · exact hnamed l hl
      · obtain rfl := List.mem_singleton.1 hl
        exact hlink
    · rw [List.map_append, List.nodup_append]
      refine ⟨hnodup, by simp, ?_⟩
      intro name hname other hother heq
      obtain rfl := List.mem_singleton.1 hother
      exact hfresh (heq ▸ hname)

theorem Linked.insert (h : Linked links interfaces) (hfresh : interfaces.find? link.ifname = none) :
    Linked (links ++ [link]) (interfaces.insert link.ifname (linkEntry link)) := by
  intro name entry
  rw [OrderedMap.find?_insert]
  by_cases heq : name = link.ifname
  · subst heq
    rw [if_pos rfl]
    have hnone (l : Link) (hl : l ∈ links) : l.ifname ≠ link.ifname := fun hname =>
      h.find?_eq_none.1 hfresh (List.mem_map.2 ⟨l, hl, hname⟩)
    constructor
    · intro hentry
      exact ⟨link, by simp, rfl, Option.some.inj hentry⟩
    · intro ⟨l, hl, hname, hentry⟩
      rcases List.mem_append.1 hl with hl | hl
      · exact absurd hname (hnone l hl)
      · obtain rfl := List.mem_singleton.1 hl
        rw [hentry]
  · rw [if_neg heq, h name entry]
    simp [or_and_right, exists_or, Ne.symm heq]

/-- The loop over the links. -/
theorem scanned_links (links : List Link) :
    (LinksReadable links → ∃ interfaces, links.foldlM addLink .empty = .ok interfaces) ∧
      ∀ interfaces, links.foldlM addLink .empty = .ok interfaces →
        LinksReadable links ∧ Linked links interfaces := by
  refine foldlM_history (A := LinksReadable) (I := Linked) ?_ ?_ ?_ ⟨by simp, by simp⟩ ?_ links
  · intro pre link h
    exact (linksReadable_snoc.1 h).1
  · intro pre link interfaces hlinked h
    obtain ⟨-, hnamed, hfresh⟩ := linksReadable_snoc.1 h
    have hnone := hlinked.find?_eq_none.2 hfresh
    exact ⟨_, addLink_eq_ok.2 ⟨⟨hnamed.1, hnamed.2, hnone⟩, rfl⟩, hlinked.insert hnone⟩
  · intro pre link interfaces interfaces' hreadable hlinked hadd
    obtain ⟨⟨hindex, hname, hnone⟩, -⟩ := addLink_eq_ok.1 hadd
    exact linksReadable_snoc.2 ⟨hreadable, ⟨hindex, hname⟩, hlinked.find?_eq_none.1 hnone⟩
  · intro name entry
    simp

end Links

/-! ## Addresses -/

namespace AddressEntry

/-- The address is one of the machine's. -/
def counts (address : AddressEntry) : Bool :=
  !(address.invalid || !address.isGlobal || !address.usableKind)

/-- The address can be the source of a new flow. -/
def isSource (address : AddressEntry) : Bool := address.counts && !address.isDeprecated

def sourceV4? (address : AddressEntry) : Option Ipv4Addr :=
  match address.addr with
  | .v4 ip => if address.isSource then some ip else none
  | .v6 _ => none

def sourceV6? (address : AddressEntry) : Option Ipv6Addr :=
  match address.addr with
  | .v4 _ => none
  | .v6 ip => if address.isSource then some ip else none

end AddressEntry

/-- The addresses of the machine in a list. -/
def countedAddresses (addresses : List AddressEntry) : List IpAddr :=
  (addresses.filter AddressEntry.counts).map AddressEntry.addr

/-- More source addresses of an interface. -/
def addSources (v4 : List Ipv4Addr) (v6 : List Ipv6Addr) (entry : InterfaceTopology) :
    InterfaceTopology :=
  { entry with sourceV4 := entry.sourceV4 ++ v4, sourceV6 := entry.sourceV6 ++ v6 }

@[simp] theorem addSources_addSources (v4 v4' : List Ipv4Addr) (v6 v6' : List Ipv6Addr)
    (entry : InterfaceTopology) :
    addSources v4' v6' (addSources v4 v6 entry) = addSources (v4 ++ v4') (v6 ++ v6') entry := by
  simp [addSources]

theorem countedAddresses_append (addresses addresses' : List AddressEntry) :
    countedAddresses (addresses ++ addresses') =
      countedAddresses addresses ++ countedAddresses addresses' := by
  simp [countedAddresses]

theorem filterMap_singleton_toList {α β : Type} (f : α → Option β) (a : α) :
    [a].filterMap f = (f a).toList := by
  cases h : f a <;> simp [h]

theorem addAddress_eq (assigned : List IpAddr) (entry : InterfaceTopology)
    (address : AddressEntry) :
    addAddress (assigned, entry) address =
      (assigned ++ countedAddresses [address],
        addSources address.sourceV4?.toList address.sourceV6?.toList entry) := by
  cases hskip : address.invalid || !address.isGlobal || !address.usableKind with
  | true =>
    have hcounts : address.counts = false := by rw [AddressEntry.counts, hskip]; rfl
    cases haddr : address.addr <;>
      simp [addAddress, hskip, addSources, AddressEntry.sourceV4?, AddressEntry.sourceV6?,
        AddressEntry.isSource, hcounts, countedAddresses, haddr]
  | false =>
    have hcounts : address.counts = true := by rw [AddressEntry.counts, hskip]; rfl
    cases haddr : address.addr <;> cases hdeprecated : address.isDeprecated <;>
      simp [addAddress, hskip, addSources, AddressEntry.sourceV4?, AddressEntry.sourceV6?,
        AddressEntry.isSource, hcounts, countedAddresses, haddr, hdeprecated]

theorem foldl_addAddress (addresses : List AddressEntry) :
    ∀ (assigned : List IpAddr) (entry : InterfaceTopology),
      addresses.foldl addAddress (assigned, entry) =
        (assigned ++ countedAddresses addresses,
          addSources (addresses.filterMap AddressEntry.sourceV4?)
            (addresses.filterMap AddressEntry.sourceV6?) entry) := by
  induction addresses with
  | nil =>
    intro assigned entry
    simp [countedAddresses, addSources]
  | cons address rest ih =>
    intro assigned entry
    have hcons : address :: rest = [address] ++ rest := rfl
    rw [List.foldl_cons, addAddress_eq, ih, addSources_addSources, hcons, countedAddresses_append,
      List.filterMap_append, List.filterMap_append, filterMap_singleton_toList,
      filterMap_singleton_toList, List.append_assoc]

/-- The list is one of the interface: its name and its index agree. -/
def AddressList.belongsTo (list : AddressList) (name : String) (entry : InterfaceTopology) : Bool :=
  list.ifname == name && entry.identity.map InterfaceIdentity.ifindex == some list.ifindex

/-- The addresses the lists give to an interface. -/
def addressesOf (lists : List AddressList) (name : String) (entry : InterfaceTopology) :
    List AddressEntry :=
  (lists.filter fun list => list.belongsTo name entry).flatMap AddressList.addrInfo

/-- An interface with its source addresses. -/
def withSources (lists : List AddressList) (name : String) (entry : InterfaceTopology) :
    InterfaceTopology :=
  sortSources (addSources ((addressesOf lists name entry).filterMap AddressEntry.sourceV4?)
    ((addressesOf lists name entry).filterMap AddressEntry.sourceV6?) entry)

/-- The address lists have been read. -/
structure Addressed (interfaces : OrderedMap String InterfaceTopology) (lists : List AddressList)
    (found : List IpAddr × OrderedMap String InterfaceTopology) : Prop where
  assigned : ∀ a, a ∈ found.1 ↔ ∃ name entry, interfaces.find? name = some entry ∧
    ∃ address ∈ addressesOf lists name entry, address.counts = true ∧ address.addr = a
  interface : ∀ name, found.2.find? name = (interfaces.find? name).map (withSources lists name)

section Addresses

variable {interfaces : OrderedMap String InterfaceTopology} {lists : List AddressList}
  {list : AddressList} {found : List IpAddr × OrderedMap String InterfaceTopology}

/-- Sorting the sources leaves of them only which there are. -/
theorem sortSources_congr {entry entry' : InterfaceTopology}
    (hidentity : entry.identity = entry'.identity) (hready : entry.linkReady = entry'.linkReady)
    (hrouteV4 : entry.routeV4 = entry'.routeV4) (hrouteV6 : entry.routeV6 = entry'.routeV6)
    (hnetworks : entry.connectedNetworks = entry'.connectedNetworks)
    (hv4 : ∀ a, a ∈ entry.sourceV4 ↔ a ∈ entry'.sourceV4)
    (hv6 : ∀ a, a ∈ entry.sourceV6 ↔ a ∈ entry'.sourceV6) :
    sortSources entry = sortSources entry' := by
  have hinjective {w : ℕ} : Function.Injective (BitVec.toNat (w := w)) :=
    fun a b h => BitVec.eq_of_toNat_eq h
  obtain ⟨identity, ready, routeV4, routeV6, sourceV4, sourceV6, networks⟩ := entry
  obtain ⟨identity', ready', routeV4', routeV6', sourceV4', sourceV6', networks'⟩ := entry'
  obtain rfl : identity = identity' := hidentity
  obtain rfl : ready = ready' := hready
  obtain rfl : routeV4 = routeV4' := hrouteV4
  obtain rfl : routeV6 = routeV6' := hrouteV6
  obtain rfl : networks = networks' := hnetworks
  simp only [sortSources]
  rw [FirstMatch.sorted_dedup_congr hinjective BitVec.le_def hv4,
    FirstMatch.sorted_dedup_congr hinjective BitVec.le_def hv6]

theorem mem_sources_sortSources {entry : InterfaceTopology} :
    (∀ a, a ∈ (sortSources entry).sourceV4 ↔ a ∈ entry.sourceV4) ∧
      ∀ a, a ∈ (sortSources entry).sourceV6 ↔ a ∈ entry.sourceV6 :=
  ⟨fun _ => FirstMatch.mem_sorted_dedup, fun _ => FirstMatch.mem_sorted_dedup⟩

/-- The sources may be sorted on the way, as long as they are sorted in the end. -/
theorem sortSources_addSources (v4 : List Ipv4Addr) (v6 : List Ipv6Addr)
    (entry : InterfaceTopology) :
    sortSources (addSources v4 v6 (sortSources entry)) = sortSources (addSources v4 v6 entry) := by
  refine sortSources_congr rfl rfl rfl rfl rfl ?_ ?_
  · intro a
    show a ∈ (sortSources entry).sourceV4 ++ v4 ↔ a ∈ entry.sourceV4 ++ v4
    rw [List.mem_append, List.mem_append, mem_sources_sortSources.1]
  · intro a
    show a ∈ (sortSources entry).sourceV6 ++ v6 ↔ a ∈ entry.sourceV6 ++ v6
    rw [List.mem_append, List.mem_append, mem_sources_sortSources.2]

theorem addressesOf_snoc (name : String) (entry : InterfaceTopology) :
    addressesOf (lists ++ [list]) name entry =
      addressesOf lists name entry ++
        if list.belongsTo name entry then list.addrInfo else [] := by
  cases h : list.belongsTo name entry <;> simp [addressesOf, List.filter_append, h]

theorem addressesOf_snoc_of_not {name : String} {entry : InterfaceTopology}
    (h : list.belongsTo name entry = false) :
    addressesOf (lists ++ [list]) name entry = addressesOf lists name entry := by
  simp [addressesOf_snoc, h]

theorem withSources_snoc {name : String} {entry : InterfaceTopology}
    (h : list.belongsTo name entry = true) :
    withSources (lists ++ [list]) name entry =
      sortSources (addSources (list.addrInfo.filterMap AddressEntry.sourceV4?)
        (list.addrInfo.filterMap AddressEntry.sourceV6?) (withSources lists name entry)) := by
  rw [withSources, withSources, sortSources_addSources, addSources_addSources, addressesOf_snoc,
    if_pos h, List.filterMap_append, List.filterMap_append]

/-- A list that is none of the interface's changes nothing. -/
theorem Addressed.skip (h : Addressed interfaces lists found)
    (hforeign : ∀ name entry, interfaces.find? name = some entry →
      list.belongsTo name entry = false) :
    Addressed interfaces (lists ++ [list]) found where
  assigned a := by
    rw [h.assigned]
    refine exists_congr fun name => exists_congr fun entry => and_congr_right fun hentry => ?_
    rw [addressesOf_snoc_of_not (hforeign name entry hentry)]
  interface name := by
    rw [h.interface name]
    cases hentry : interfaces.find? name with
    | none => rfl
    | some entry =>
      rw [Option.map_some, Option.map_some, withSources, withSources,
        addressesOf_snoc_of_not (hforeign name entry hentry)]

/-- A list adds its addresses to the interface it belongs to. -/
theorem Addressed.take (h : Addressed interfaces lists found) {entry : InterfaceTopology}
    (hentry : interfaces.find? list.ifname = some entry)
    (hbelongs : list.belongsTo list.ifname entry = true) :
    Addressed interfaces (lists ++ [list])
      (found.1 ++ countedAddresses list.addrInfo,
        found.2.insert list.ifname (withSources (lists ++ [list]) list.ifname entry)) where
  assigned a := by
    have hcounted : a ∈ countedAddresses list.addrInfo ↔
        ∃ address ∈ list.addrInfo, address.counts = true ∧ address.addr = a := by
      simp [countedAddresses, and_assoc]
    show a ∈ found.1 ++ countedAddresses list.addrInfo ↔ _
    rw [List.mem_append, h.assigned, hcounted]
    constructor
    · rintro (⟨name, other, hother, address, haddress, hrest⟩ | ⟨address, haddress, hrest⟩)
      · refine ⟨name, other, hother, address, ?_, hrest⟩
        rw [addressesOf_snoc]
        exact List.mem_append_left _ haddress
      · refine ⟨list.ifname, entry, hentry, address, ?_, hrest⟩
        rw [addressesOf_snoc, if_pos hbelongs]
        exact List.mem_append_right _ haddress
    · rintro ⟨name, other, hother, address, haddress, hrest⟩
      rw [addressesOf_snoc] at haddress
      rcases List.mem_append.1 haddress with haddress | haddress
      · exact Or.inl ⟨name, other, hother, address, haddress, hrest⟩
      · split at haddress
        · exact Or.inr ⟨address, haddress, hrest⟩
        · exact absurd haddress List.not_mem_nil
  interface name := by
    show (found.2.insert list.ifname _).find? name = _
    rw [OrderedMap.find?_insert]
    by_cases heq : name = list.ifname
    · rw [if_pos heq, heq, hentry]
      rfl
    · rw [if_neg heq, h.interface name]
      cases hother : interfaces.find? name with
      | none => rfl
      | some other =>
        have hforeign : list.belongsTo name other = false := by
          simp [AddressList.belongsTo, Ne.symm heq]
        rw [Option.map_some, Option.map_some, withSources, withSources,
          addressesOf_snoc_of_not hforeign]

/-- One round of the loop. -/
theorem Addressed.step (h : Addressed interfaces lists found) :
    Addressed interfaces (lists ++ [list]) (addAddresses found list) := by
  have hname {name : String} {entry : InterfaceTopology}
      (hbelongs : list.belongsTo name entry = true) :
      list.ifname = name ∧ entry.identity.map InterfaceIdentity.ifindex = some list.ifindex := by
    simpa [AddressList.belongsTo] using hbelongs
  unfold addAddresses
  rw [h.interface list.ifname]
  cases hentry : interfaces.find? list.ifname with
  | none =>
    refine h.skip ?_
    intro name entry hother
    by_contra hbelongs
    obtain ⟨rfl, -⟩ := hname (Bool.of_not_eq_false hbelongs)
    rw [hentry] at hother
    cases hother
  | some entry =>
    show Addressed _ _ (if entry.identity.map InterfaceIdentity.ifindex ≠ some list.ifindex then found
      else _)
    by_cases hindex : entry.identity.map InterfaceIdentity.ifindex = some list.ifindex
    · have hbelongs : list.belongsTo list.ifname entry = true := by
        simp [AddressList.belongsTo, hindex]
      rw [if_neg (not_not.2 hindex), foldl_addAddress]
      have htake := h.take hentry hbelongs
      rw [withSources_snoc hbelongs] at htake
      exact htake
    · rw [if_pos hindex]
      refine h.skip ?_
      intro name other hother
      by_contra hbelongs
      obtain ⟨rfl, hsame⟩ := hname (Bool.of_not_eq_false hbelongs)
      obtain rfl := Option.some.inj (hentry.symm.trans hother)
      exact hindex hsame

/-- The loop over the address lists, from interfaces without sources. -/
theorem addressed_foldl
    (hbare : ∀ name entry, interfaces.find? name = some entry → sortSources entry = entry)
    (lists : List AddressList) :
    Addressed interfaces lists (lists.foldl addAddresses ([], interfaces)) := by
  have hnil : Addressed interfaces [] ([], interfaces) := by
    refine ⟨by simp [addressesOf], ?_⟩
    intro name
    cases hentry : interfaces.find? name with
    | none => rfl
    | some entry => simp [withSources, addressesOf, addSources, hbare name entry hentry]
  exact Steps.run_history addAddresses (I := Addressed interfaces) hnil
    (fun _ _ _ h => h.step) lists

end Addresses

end RouteLane
