import RouteLane.Net.ParseTopology
import RouteLane.Policy.SelectorSafety
import RouteLane.Runtime.Authority

/-!
# Resuming a selector

A grant freezes the devices of the lanes.  A selector that is resumed freezes them again,
from the part of the current topology that the grant leaves: a granted lane whose device is
away at that moment is bound to nothing from then on.  So the resumed selector is the one
that was never interrupted exactly when every granted device is there.
-/

namespace RouteLane

open Steps

/-- A snapshot the topology reader returned. -/
def Captured (topology : TopologySnapshot) : Prop :=
  ∃ parseNet input, parseTopology parseNet input = .ok topology

theorem Captured.identity {topology : TopologySnapshot} (h : Captured topology) {name : String}
    {entry : InterfaceTopology} (hentry : topology.interface name = some entry) :
    ∃ identity, entry.identity = some identity ∧ identity.name = name := by
  obtain ⟨parseNet, input, hparse⟩ := h
  obtain ⟨bound, hbound⟩ : ∃ bound, ∀ links, input.links = .ok links →
      ∀ link ∈ links, link.ifindex ≤ bound := by
    cases hlinks : input.links with
    | error e => exact ⟨0, fun links h => by cases h⟩
    | ok links =>
      refine ⟨(links.map Link.ifindex).sum, ?_⟩
      rintro links' h link hlink
      obtain rfl := Except.ok.inj h
      exact List.single_le_sum (by simp) _ (List.mem_map_of_mem hlink)
  obtain ⟨identity, hidentity, hname, -⟩ := (keyedBy_parseTopology hparse hbound).1 name entry hentry
  exact ⟨identity, hidentity, hname⟩

/-! ## What lanes are bound to -/

/-- The device under the name of a lane's interface. -/
def deviceOf (topology : TopologySnapshot) (lane : Lane) : Option InterfaceIdentity :=
  (topology.interface lane.interface).bind InterfaceTopology.identity

/-- The binding of a lane, if its device is there. -/
def bindingOf (topology : TopologySnapshot) (lane : Lane) : Option (LaneId × InterfaceIdentity) :=
  (deviceOf topology lane).map fun identity => (lane.id, identity)

theorem frozenBindings_eq (profile : Profile) (topology : TopologySnapshot) :
    frozenBindings profile topology = .ofList (profile.lanes.filterMap (bindingOf topology)) := by
  unfold frozenBindings
  congr 2
  funext lane
  unfold bindingOf deviceOf
  cases topology.interface lane.interface with
  | none => rfl
  | some entry =>
    cases hidentity : entry.identity with
    | none => simp [hidentity]
    | some identity => simp [hidentity]

theorem keys_bindingOf (topology : TopologySnapshot) (lanes : List Lane) :
    ((lanes.filterMap (bindingOf topology)).map Prod.fst).Sublist (lanes.map Lane.id) := by
  induction lanes with
  | nil => exact List.Sublist.slnil
  | cons lane rest ih =>
    rw [List.filterMap_cons, bindingOf]
    cases deviceOf topology lane with
    | none => exact ih.cons lane.id
    | some identity => exact ih.cons_cons lane.id

theorem lookup_bindingOf (topology : TopologySnapshot) (id : LaneId) {lanes : List Lane}
    (hnd : (lanes.map Lane.id).Nodup) :
    (lanes.filterMap (bindingOf topology)).lookup id =
      (lanes.find? fun lane => lane.id == id).bind (deviceOf topology) := by
  induction lanes with
  | nil => rfl
  | cons lane rest ih =>
    obtain ⟨hfresh, hrest⟩ := List.nodup_cons.1 hnd
    by_cases hid : lane.id = id
    · subst hid
      -- no later lane has this id
      have hnone : rest.find? (fun other => other.id == lane.id) = none := by
        rw [List.find?_eq_none]
        intro other hother hsame
        exact hfresh (List.mem_map.2 ⟨other, hother, by simpa using hsame⟩)
      cases hdevice : deviceOf topology lane with
      | none => simp [bindingOf, hdevice, ih hrest, hnone]
      | some identity => simp [bindingOf, hdevice, OrderedMap.lookup_cons_entry]
    · cases hdevice : deviceOf topology lane with
      | none => simp [bindingOf, hdevice, ih hrest, hid]
      | some identity =>
        simp [bindingOf, hdevice, OrderedMap.lookup_cons_entry, ih hrest, hid, Ne.symm hid]

/-- A lane is bound to the device of its interface. -/
theorem find?_frozenBindings {profile : Profile} (hnd : (profile.lanes.map Lane.id).Nodup)
    (topology : TopologySnapshot) (id : LaneId) :
    (frozenBindings profile topology).find? id =
      (profile.lanes.find? fun lane => lane.id == id).bind (deviceOf topology) := by
  rw [frozenBindings_eq, OrderedMap.find?_ofList (hnd.sublist (keys_bindingOf topology _)),
    lookup_bindingOf topology id hnd]

theorem name_of_deviceOf {topology : TopologySnapshot} (h : Captured topology) {lane : Lane}
    {identity : InterfaceIdentity} (hdevice : deviceOf topology lane = some identity) :
    identity.name = lane.interface := by
  obtain ⟨entry, hentry, hidentity⟩ := Option.bind_eq_some_iff.1 hdevice
  obtain ⟨identity', hidentity', hname⟩ := h.identity hentry
  rw [hidentity'] at hidentity
  rw [← Option.some.inj hidentity]
  exact hname

/-! ## Grants -/

/-- The record of an activation: the lanes have ids of their own, and the grant has the
devices they had at some time. -/
structure RuntimeRecord.Granted (record : RuntimeRecord) : Prop where
  lanes_nodup : (record.profile.lanes.map Lane.id).Nodup
  interfaces : ∃ topology, Captured topology ∧
    record.grant.interfaces = frozenBindings record.profile topology

/-- Every device of the grant is there. -/
def RuntimeRecord.Present (record : RuntimeRecord) (topology : TopologySnapshot) : Prop :=
  ∀ id identity, record.grant.interfaces.find? id = some identity →
    ∃ entry, topology.interface identity.name = some entry ∧ entry.identity = some identity

/-- The selector that was never interrupted: bound to the devices of the grant, and where
the decision in force left it, except that a failback under way starts again. -/
def RuntimeRecord.uninterrupted (record : RuntimeRecord) : PrimarySelector where
  bindings := record.grant.interfaces
  states := ⟨⟨record.decision.preferred.v4, record.decision.effective.v4, none⟩,
    ⟨record.decision.preferred.v6, record.decision.effective.v6, none⟩⟩
  policy := some record.profile.routing

/-- The selector as it is resumed. -/
def RuntimeRecord.resumed (record : RuntimeRecord) (topology : TopologySnapshot) :
    PrimarySelector :=
  .resume record.profile (restrictToGrant topology record.grant) record.decision

/-- What a selector that decided this would be, had its failbacks just started. -/
theorem uninterrupted_of_decision {record : RuntimeRecord} {selector : PrimarySelector}
    (hbindings : selector.bindings = record.grant.interfaces)
    (hpolicy : selector.policy = some record.profile.routing)
    (hdecision : selector.decision = record.decision) :
    record.uninterrupted =
      { selector with
        states := ⟨{ selector.states.v4 with readySince := none },
          { selector.states.v6 with readySince := none }⟩ } := by
  rw [RuntimeRecord.uninterrupted, ← hdecision, ← hbindings, ← hpolicy]
  rfl

section Granted

variable {record : RuntimeRecord} {topology : TopologySnapshot}

theorem deviceOf_restrictToGrant (grant : RuntimeGrant) (lane : Lane) :
    deviceOf (restrictToGrant topology grant) lane =
      (deviceOf topology lane).filter fun identity => identity ∈ grant.interfaces.values := by
  unfold deviceOf restrictToGrant TopologySnapshot.restrictedTo TopologySnapshot.interface
  rw [OrderedMap.find?_retain]
  cases topology.interfaces.find? lane.interface with
  | none => rfl
  | some entry =>
    cases hidentity : entry.identity with
    | none => simp [hidentity, Option.filter]
    | some identity =>
      by_cases hgranted : identity ∈ grant.interfaces.values <;>
        simp [hidentity, Option.filter, hgranted]

/-- A lane is bound again to the device it was granted, if that is there, and to no other. -/
theorem find?_bindings_resumed (hgranted : record.Granted) (hcaptured : Captured topology)
    (id : LaneId) :
    (record.resumed topology).bindings.find? id =
      (record.grant.interfaces.find? id).filter fun identity =>
        (topology.interface identity.name).any fun entry =>
          decide (entry.identity = some identity) := by
  obtain ⟨frozen, hfrozen, hgrant⟩ := hgranted.interfaces
  have hnd := hgranted.lanes_nodup
  -- a device of the grant is the one granted to every lane of its interface
  have hshared {identity : InterfaceIdentity} {lane : Lane}
      (hname : identity.name = lane.interface)
      (hmem : identity ∈ record.grant.interfaces.values) : deviceOf frozen lane = some identity := by
    obtain ⟨other, hother⟩ := OrderedMap.mem_values_iff.1 hmem
    rw [hgrant, find?_frozenBindings hnd] at hother
    obtain ⟨otherLane, -, hdevice⟩ := Option.bind_eq_some_iff.1 hother
    have hinterface : otherLane.interface = lane.interface :=
      (name_of_deviceOf hfrozen hdevice).symm.trans hname
    rwa [deviceOf, hinterface] at hdevice
  have hfind : record.grant.interfaces.find? id =
      (record.profile.lanes.find? fun lane => lane.id == id).bind (deviceOf frozen) := by
    rw [hgrant, find?_frozenBindings hnd]
  show (frozenBindings record.profile (restrictToGrant topology record.grant)).find? id = _
  rw [find?_frozenBindings hnd]
  cases hlane : record.profile.lanes.find? fun lane => lane.id == id with
  | none => rw [hfind, hlane]; rfl
  | some lane =>
    rw [hlane, Option.bind_some] at hfind
    rw [Option.bind_some, deviceOf_restrictToGrant, hfind]
    ext identity
    simp only [Option.filter_eq_some_iff, decide_eq_true_eq, Option.any_eq_true]
    constructor
    · intro ⟨hdevice, hmem⟩
      have hname := name_of_deviceOf hcaptured hdevice
      obtain ⟨entry, hentry, hidentity⟩ := Option.bind_eq_some_iff.1 hdevice
      exact ⟨hshared hname hmem, entry, hname ▸ hentry, hidentity⟩
    · intro ⟨hdevice, entry, hentry, hidentity⟩
      rw [name_of_deviceOf hfrozen hdevice] at hentry
      refine ⟨Option.bind_eq_some_iff.2 ⟨entry, hentry, hidentity⟩, ?_⟩
      exact OrderedMap.mem_values_iff.2 ⟨id, hfind.trans hdevice⟩

/-- A resumed selector is bound to nothing that was not granted. -/
theorem granted_of_resumed (hgranted : record.Granted) (hcaptured : Captured topology)
    {id : LaneId} {identity : InterfaceIdentity}
    (h : (record.resumed topology).bindings.find? id = some identity) :
    record.grant.interfaces.find? id = some identity := by
  rw [find?_bindings_resumed hgranted hcaptured] at h
  exact (Option.filter_eq_some_iff.1 h).1

theorem bindings_resumed_iff (hgranted : record.Granted) (hcaptured : Captured topology) :
    (record.resumed topology).bindings = record.grant.interfaces ↔ record.Present topology := by
  constructor
  · intro hsame id identity hfind
    have hbound := hfind
    rw [← hsame, find?_bindings_resumed hgranted hcaptured, hfind, Option.filter_eq_some_iff] at hbound
    obtain ⟨entry, hentry, hidentity⟩ := (Option.any_eq_true _ _).1 hbound.2
    exact ⟨entry, hentry, of_decide_eq_true hidentity⟩
  · intro hpresent
    refine OrderedMap.ext_find? fun id => ?_
    rw [find?_bindings_resumed hgranted hcaptured]
    cases hfind : record.grant.interfaces.find? id with
    | none => rfl
    | some identity =>
      obtain ⟨entry, hentry, hidentity⟩ := hpresent id identity hfind
      rw [Option.filter_eq_some_iff]
      exact ⟨rfl, (Option.any_eq_true _ _).2 ⟨entry, hentry, decide_eq_true hidentity⟩⟩

/-- A selector is resumed as if it had not been interrupted exactly when every device of the
grant is there. -/
theorem resumed_eq_uninterrupted_iff (hgranted : record.Granted) (hcaptured : Captured topology) :
    record.resumed topology = record.uninterrupted ↔ record.Present topology := by
  rw [← bindings_resumed_iff hgranted hcaptured]
  constructor
  · intro hsame
    rw [hsame]
    rfl
  · intro hbindings
    rw [RuntimeRecord.uninterrupted, ← hbindings]
    rfl


/-- An activation binds its selector to what it grants. -/
theorem bindings_new_granted {profile : Profile} {grant : RuntimeGrant}
    (hnd : (profile.lanes.map Lane.id).Nodup) (hcaptured : Captured topology)
    (hgrant : grant.interfaces = frozenBindings profile topology) :
    (PrimarySelector.new profile (restrictToGrant topology grant)).bindings = grant.interfaces := by
  have hgranted : RuntimeRecord.Granted ⟨grant, profile, ⟨.empty⟩, PrimaryDecision.mk ⟨none, none⟩
      ⟨.blocked, .blocked⟩⟩ := ⟨hnd, topology, hcaptured, hgrant⟩
  refine (bindings_resumed_iff hgranted hcaptured).2 fun id identity hfind => ?_
  rw [hgrant, find?_frozenBindings hnd] at hfind
  obtain ⟨lane, -, hdevice⟩ := Option.bind_eq_some_iff.1 hfind
  rw [name_of_deviceOf hcaptured hdevice]
  exact Option.bind_eq_some_iff.1 hdevice

end Granted

end RouteLane
