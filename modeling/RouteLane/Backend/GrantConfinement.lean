import RouteLane.Backend.FailedRefresh
import RouteLane.Backend.RuntimeRecords

/-!
# Plans within the grant

A refresh runs without any new authorization, on a topology nobody vouches for.  What it
commits is compiled from the stored policy and from the granted devices alone, over every
sequence of refreshes, crashes and restarts.
-/

namespace RouteLane

open Fallible Nft Faults Program

/-! ## What a grant confines a plan to -/

/-- A record with the policy of another, and any decision. -/
def RuntimeRecord.SamePolicy (base record : RuntimeRecord) : Prop :=
  record.grant = base.grant ∧ record.profile = base.profile ∧ record.resolutions = base.resolutions

theorem RuntimeRecord.SamePolicy.undecided (base : RuntimeRecord) : Undecided base.SamePolicy :=
  fun _ _ h => h

/-- The interface is one of the granted devices. -/
def RuntimeGrant.Admits (grant : RuntimeGrant) (entry : InterfaceTopology) : Prop :=
  ∃ identity ∈ grant.interfaces.values, entry.identity = some identity

/-- A rule of a plan that an enabled rule of the stored profile expands to. -/
def CompiledFrom (record : RuntimeRecord) (plan : KernelPlan) (compiled : CompiledRule) : Prop :=
  ∃ rule ∈ record.profile.rules, rule.enabled = true ∧
    ∃ targets, compileTargets record.resolutions rule = .ok targets ∧
    ∃ target ∈ targets, ∃ family ∈ targetFamilies target, ∃ action,
      compileAction (profileLanesById record.profile.lanes) (lanesById plan.lanes) plan.primary
          family rule.action = .ok (some action) ∧
      compiled = compiledRule rule target family action

/-- A plan that stays within what was granted. -/
structure Confined (record : RuntimeRecord) (topology : TopologySnapshot) (plan : KernelPlan) :
    Prop where
  lanes : (plan.lanes.map fun lane => (lane.id, lane.interface)).Perm
    (record.profile.lanes.map fun lane => (lane.id, lane.interface))
  rules : ∀ compiled ∈ plan.rules, CompiledFrom record plan compiled
  devices : ∀ lane ∈ plan.lanes,
    lane.identity.isSome = true ∨ lane.routeV4.isSome = true ∨ lane.routeV6.isSome = true →
      ∃ entry, topology.interface lane.interface = some entry ∧ record.grant.Admits entry ∧
        lane.identity = entry.identity
  exits : ∀ family id, plan.primary.effective.get family = .lane id →
    id ∈ record.profile.lanes.map Lane.id

/-- Two topologies with the same granted devices, default routes and addresses. -/
structure AgreeOnGrant (grant : RuntimeGrant) (topology topology' : TopologySnapshot) : Prop where
  granted : ∀ name entry, grant.Admits entry →
    (topology.interface name = some entry ↔ topology'.interface name = some entry)
  defaults : topology.defaults = topology'.defaults
  addresses : topology.assignedAddresses = topology'.assignedAddresses
  observed : topology.observed = topology'.observed

section Plans

variable {p : Primitives} {record : RuntimeRecord} {grant : RuntimeGrant}
  {topology topology' : TopologySnapshot} {plan : KernelPlan}

/-- Of an interface that was not granted nothing is left. -/
theorem interface_restrictToGrant {name : String} {entry : InterfaceTopology} :
    (restrictToGrant topology grant).interface name = some entry ↔
      topology.interface name = some entry ∧ grant.Admits entry := by
  rw [TopologySnapshot.interface, restrictToGrant, TopologySnapshot.restrictedTo,
    OrderedMap.find?_retain, Option.filter_eq_some_iff, TopologySnapshot.interface]
  simp only [Option.any_eq_true, decide_eq_true_eq, RuntimeGrant.Admits]
  constructor
  · rintro ⟨hfind, identity, hidentity, hmem⟩
    exact ⟨hfind, identity, hmem, hidentity⟩
  · rintro ⟨hfind, identity, hmem, hidentity⟩
    exact ⟨hfind, identity, hidentity, hmem⟩

/-- Topologies that agree on the grant are the same once restricted to it. -/
theorem restrictToGrant_congr (h : AgreeOnGrant grant topology topology') :
    restrictToGrant topology grant = restrictToGrant topology' grant := by
  have hinterfaces : (restrictToGrant topology grant).interfaces =
      (restrictToGrant topology' grant).interfaces := by
    refine OrderedMap.ext_find? fun name => Option.ext fun entry => ?_
    rw [← TopologySnapshot.interface, ← TopologySnapshot.interface, interface_restrictToGrant,
      interface_restrictToGrant]
    exact and_congr_left (h.granted name entry)
  show TopologySnapshot.mk _ _ _ _ = TopologySnapshot.mk _ _ _ _
  rw [TopologySnapshot.mk.injEq]
  exact ⟨hinterfaces, h.defaults, h.observed, h.addresses⟩

theorem devices_compileLane {lane : Lane} {slot : ℕ}
    (h : (compileLane topology lane slot).identity.isSome = true ∨
      (compileLane topology lane slot).routeV4.isSome = true ∨
      (compileLane topology lane slot).routeV6.isSome = true) :
    ∃ entry, topology.interface lane.interface = some entry ∧
      (compileLane topology lane slot).identity = entry.identity := by
  unfold compileLane at h ⊢
  dsimp only at h ⊢
  cases hentry : topology.interface lane.interface with
  | none => simp [hentry] at h
  | some entry => exact ⟨entry, rfl, rfl⟩

/-- What is compiled from a topology that was restricted to the grant is confined to it. -/
theorem Compiles.confined {toLowercase : String → String} {decision : PrimaryDecision}
    {generation : ℕ} {compiled : List CompiledRule}
    (h : Compiles toLowercase record.profile (restrictToGrant topology record.grant)
      record.resolutions decision generation plan compiled) : Confined record topology plan := by
  have hlanes : plan.lanes =
      compileLanes (restrictToGrant topology record.grant) record.profile.lanes := h.lanes_eq
  refine ⟨?_, ?_, ?_, ?_⟩
  · have hpairs : (plan.lanes.map fun lane => (lane.id, lane.interface)) =
        (sortedLanes record.profile.lanes).map fun lane => (lane.id, lane.interface) := by
      rw [hlanes, compileLanes, List.map_map]
      have hfun : ((fun lane : LanePlan => (lane.id, lane.interface)) ∘ fun slotted : Lane × ℕ =>
          compileLane (restrictToGrant topology record.grant) slotted.1 slotted.2) =
          (fun lane : Lane => (lane.id, lane.interface)) ∘ Prod.fst := rfl
      rw [hfun, ← List.map_map, List.zipIdx_map_fst]
    rw [hpairs]
    exact (perm_sortedLanes _).map _
  · intro rule hrule
    rw [CompiledFrom, hlanes, h.primary_eq]
    exact h.exists_rule_of_mem hrule
  · intro lanePlan hmem hgiven
    rw [hlanes] at hmem
    obtain ⟨lane, slot, -, rfl⟩ := mem_compileLanes.1 hmem
    obtain ⟨entry, hentry, hidentity⟩ := devices_compileLane hgiven
    obtain ⟨hfind, hadmits⟩ := interface_restrictToGrant.1 hentry
    exact ⟨entry, hfind, hadmits, hidentity⟩
  · intro family id hexit
    have hcheck := h.exit family
    rw [h.primary_eq] at hexit
    rw [checkPrimaryExit, hexit, Fallible.failIf_eq_ok, find?_lanesById h.ids_nodup] at hcheck
    by_contra hforeign
    refine hcheck ?_
    rw [List.find?_eq_none.2, Option.any_none]
    intro lane hlane hsame
    obtain rfl : lane.id = id := beq_iff_eq.1 hsame
    have hmem := List.mem_map_of_mem (f := LanePlan.id) hlane
    rw [map_id_compileLanes] at hmem
    exact hforeign (((perm_sortedLanes _).map Lane.id).mem_iff.1 hmem)

theorem confined_refreshCandidate {runtime : ArmedRuntime} {current : KernelPlan} {now : ℕ}
    (hpolicy : record.SamePolicy runtime.record)
    (hplan : (refreshCandidate p runtime current topology now).plan = .ok plan) :
    Confined record topology plan := by
  obtain ⟨hgrant, hprofile, hresolutions⟩ := hpolicy
  have hcompiled := (compileRuntimePlan_eq_ok.1 hplan).1
  rw [hgrant, hprofile, hresolutions] at hcompiled
  obtain ⟨compiled, hcompiles⟩ := compileProfileWithPrimary_eq_ok hcompiled
  exact hcompiles.confined

/-- What a refresh computes depends on nothing that was not granted. -/
theorem refreshCandidate_congr {runtime : ArmedRuntime} (current : KernelPlan) (now : ℕ)
    (h : AgreeOnGrant runtime.record.grant topology topology') :
    refreshCandidate p runtime current topology now =
      refreshCandidate p runtime current topology' now := by
  rw [refreshCandidate, refreshCandidate, restrictToGrant_congr h]

end Plans

/-! ## The plans in the journal -/

/-- The journal tells of this plan as the committed one. -/
def InForce (store : Option StoredAppliedState) (plan : KernelPlan) : Prop :=
  ∃ record, store = some record ∧ record.active = some plan

/-- Every plan the journal tells of as committed satisfies `P`. -/
def ActiveWithin (P : KernelPlan → Prop) (store : Option StoredAppliedState) : Prop :=
  ∀ plan, InForce store plan → P plan

section Active

variable {P : KernelPlan → Prop} {p : Primitives} {v v' : JournalView} {m m' : Backend}
  {topology : TopologySnapshot} {now : ℕ}

theorem ActiveWithin.none : ActiveWithin P none := by
  rintro plan ⟨record, ⟨⟩, -⟩

theorem ActiveWithin.of_active {record : StoredAppliedState}
    (h : ∀ plan, record.active = some plan → P plan) : ActiveWithin P (some record) := by
  rintro plan ⟨_, ⟨⟩, hactive⟩
  exact h plan hactive

theorem ActiveWithin.committedStore {state : Option KernelPlan} {nftFingerprint : Option String}
    {restoreReceipt : Option RestoreReceipt} {extras : CommittedExtras}
    (hstate : ∀ plan, state = some plan → P plan) (written : Option StoredAppliedState)
    (h : RouteLane.committedStore state nftFingerprint restoreReceipt extras = some written) :
    ActiveWithin P written := by
  unfold RouteLane.committedStore at h
  split at h
  · obtain rfl := Option.some.inj h
    exact .of_active hstate
  · split at h
    · obtain rfl := Option.some.inj h
      cases restoreReceipt with
      | none => exact .none
      | some receipt =>
        refine .of_active ?_
        rintro plan ⟨⟩
    · exact absurd h (by simp)
  · exact absurd h (by simp)

/-- A recovery puts no other plan in force. -/
theorem ActiveWithin.recoveryWrites {record : StoredAppliedState}
    {written : Option StoredAppliedState} (h : ActiveWithin P (some record))
    (hwrites : RecoveryWrites record written) : ActiveWithin P written := by
  cases hwrites with
  | orphan ownership _ =>
    refine .of_active ?_
    rintro plan ⟨⟩
  | orphanDone _ => exact .none
  | cleaned _ =>
    unfold emptiedStore
    cases record.restoreReceipt with
    | none => exact .none
    | some receipt =>
      refine .of_active ?_
      rintro plan ⟨⟩
  | repaired _ hwritten =>
    exact .committedStore (fun plan hactive => h plan ⟨record, rfl, hactive⟩) _ hwritten
  | empty _ _ => exact .none

/-- The plan in the memory after a preparation was in force before. -/
theorem Prepared.inForce {unverified : Bool} (h : Prepared p v m unverified v' m')
    (hv : ActiveWithin P v.store) (hm : ∀ plan, m.current = some plan → P plan) :
    ∀ plan, m'.current = some plan → P plan := by
  have hrecord {record : StoredAppliedState} (hstore : v.store = some record) {plan : KernelPlan}
      (hactive : record.active = some plan) : P plan := hv plan ⟨record, hstore, hactive⟩
  intro plan hcurrent
  cases h with
  | replayed _ _ hreconciled hloaded =>
    rw [hloaded.current] at hcurrent
    cases hreconciled with
    | absent _ => exact hm plan hcurrent
    | already _ _ _ => exact hm plan hcurrent
    | reconciled hstore _ hreconciled =>
      generalize v'.store = store at hreconciled
      cases hreconciled with
      | legacyV2 _ _ => cases hcurrent
      | legacyV1 _ _ _ => cases hcurrent
      | orphan _ _ => cases hcurrent
      | cleaned _ _ => cases hcurrent
      | repaired _ _ _ => exact hrecord hstore hcurrent
      | committed _ _ _ => exact hrecord hstore hcurrent
      | empty _ _ _ => cases hcurrent
  | read _ hinspected hloaded =>
    rw [hloaded.current] at hcurrent
    generalize hstore : v.store = store at hinspected
    cases hinspected with
    | none => exact hm plan hcurrent
    | legacyV2 _ _ => cases hcurrent
    | legacyV1 _ _ _ => cases hcurrent
    | current _ _ _ => exact hrecord hstore hcurrent

theorem refreshWithin_active {runtime : ArmedRuntime}
    (hm : ∀ plan, m.current = some plan → P plan)
    (hcandidate : ∀ current candidate, (refreshCandidate p runtime current topology now).plan =
      .ok candidate → P candidate) :
    RefreshWithin (ActiveWithin P) p m.taken runtime topology now := by
  intro current candidate lost _ hplan
  refine ⟨fun _ _ => .of_active hm, ActiveWithin.committedStore hm, fun _ _ => .of_active ?_⟩
  rintro _ ⟨⟩
  exact hcandidate current candidate hplan

end Active

/-! ## Runs of refreshes -/

/-- A refresh of a run: what is observed of the interfaces, when, and where it starts. -/
structure RefreshStep where
  topology : TopologySnapshot
  now : ℕ
  world : World System Backend

namespace RefreshStep

variable (p : Primitives) (record : RuntimeRecord) (s : RefreshStep)

def outcome : Outcome System Backend PrivilegedError RuntimeStatus :=
  refreshRuntime p s.topology s.now s.world

/-- The next refresh goes on from what this one leaves, or from its journal alone, after a
restart that may have killed it anywhere; the kernel and what fails are as they may be. -/
inductive Precedes (next : RefreshStep) : Prop
  | answered : next.world.machine.store = (s.outcome p).world.machine.store →
      next.world.memory = (s.outcome p).world.memory → Precedes next
  | restarted : next.world.machine.store = (s.outcome p).world.machine.store →
      next.world.memory = .fresh → Precedes next
  | killed {e : Event System} : e ∈ (s.outcome p).events →
      next.world.machine.store = e.state.store → next.world.memory = .fresh → Precedes next

/-- What is armed, in the journal and in the memory, has the policy of the record. -/
def Armed : Prop :=
  StoreRecord record.SamePolicy s.world.machine.store ∧
    MemoryRecord record.SamePolicy s.world.memory

/-- The refresh puts a plan in force that was not in force for the journal or the memory. -/
def Commits (plan : KernelPlan) : Prop :=
  (¬InForce s.world.machine.store plan ∧ s.world.memory.current ≠ some plan) ∧
    (InForce (s.outcome p).world.machine.store plan ∨
      ∃ e ∈ (s.outcome p).events, InForce e.state.store plan)

end RefreshStep

section Runs

variable {p : Primitives} {record : RuntimeRecord} {s next : RefreshStep}

/-- What is armed keeps its policy, however a refresh ends or is killed. -/
theorem RefreshStep.Armed.later (h : s.Armed record) (hnext : s.Precedes p next) :
    next.Armed record := by
  obtain ⟨hevents, hend⟩ := refreshRuntime_record (v := s.world.machine.view)
    (RuntimeRecord.SamePolicy.undecided record) (fun _ => true) p s.topology s.now h.1 h.2
    s.world.machine s.world.faults rfl
  have hpost : StoreRecord record.SamePolicy (s.outcome p).world.machine.store ∧
      MemoryRecord record.SamePolicy (s.outcome p).world.memory := by
    split at hend
    · exact hend
    · exact hend
  cases hnext with
  | answered hstore hmemory =>
    rw [Armed, hstore, hmemory]
    exact hpost
  | restarted hstore hmemory =>
    rw [Armed, hstore, hmemory]
    exact ⟨hpost.1, .of_none rfl⟩
  | killed he hstore hmemory =>
    rw [Armed, hstore, hmemory]
    exact ⟨hevents _ he, .of_none rfl⟩

/-- A refresh only puts plans in force that the policy and the grant of the record allow. -/
theorem RefreshStep.Armed.confined (h : s.Armed record) {plan : KernelPlan}
    (hcommits : s.Commits p plan) : Confined record s.topology plan := by
  let P : KernelPlan → Prop := fun plan =>
    (InForce s.world.machine.store plan ∨ s.world.memory.current = some plan) ∨
      Confined record s.topology plan
  have hv : ActiveWithin P s.world.machine.view.store := fun plan hplan => Or.inl (Or.inl hplan)
  have hspec (flag : Option StoredAppliedState → Bool) : Journals (ActiveWithin P) flag
      s.world.machine.view s.world.memory (refreshRuntime p s.topology s.now)
      (fun _ _ v' _ => ActiveWithin P v'.store) (fun _ v' _ => ActiveWithin P v'.store) := by
    refine refreshRuntime_within hv ?_ ?_
    · intro stored written hstore _ hwrites
      rw [hstore] at hv
      exact hv.recoveryWrites hwrites
    · intro unverified v₁ m₁ runtime hprepared hruntime
      refine refreshWithin_active
        (hprepared.inForce hv fun plan hcurrent => Or.inl (Or.inr hcurrent)) ?_
      intro current candidate hplan
      exact Or.inr (confined_refreshCandidate ((hprepared.record h.1 h.2).1 runtime hruntime) hplan)
  obtain ⟨hevents, hend⟩ := hspec (fun _ => true) s.world.machine s.world.faults rfl
  have hpost : ActiveWithin P (s.outcome p).world.machine.store := by
    split at hend
    · exact hend
    · exact hend
  obtain ⟨⟨hjournal, hmemory⟩, hput⟩ := hcommits
  have hplan : P plan := by
    rcases hput with hleft | ⟨e, he, hleft⟩
    · exact hpost plan hleft
    · exact hevents e he plan hleft
  rcases hplan with (hbefore | hbefore) | hconfined
  · exact absurd hbefore hjournal
  · exact absurd hbefore hmemory
  · exact hconfined

end Runs

/-- **Refreshes stay within the grant.**  Every plan a run of refreshes puts in force is
compiled from the stored policy for the granted devices, whatever was observed and however
the refreshes end; and what was not granted makes no difference to it. -/
theorem refreshes_stay_within_grant (p : Primitives) (record : RuntimeRecord) :
    (∀ run : List RefreshStep, run.IsChain (RefreshStep.Precedes p) →
      (∀ s ∈ run.head?, s.Armed record) →
        ∀ s ∈ run, ∀ plan, s.Commits p plan → Confined record s.topology plan) ∧
    ∀ (runtime : ArmedRuntime) (current : KernelPlan) (topology topology' : TopologySnapshot)
      (now : ℕ), runtime.record = record → AgreeOnGrant record.grant topology topology' →
        refreshCandidate p runtime current topology now =
          refreshCandidate p runtime current topology' now := by
  constructor
  · intro run hchain hstart s hs plan hcommits
    have harmed : ∀ s ∈ run, s.Armed record := by
      refine List.IsChain.induction (RefreshStep.Armed record) run hchain ?_ ?_
      · exact fun s next hnext h => h.later hnext
      · exact fun hne => hstart _ (List.head?_eq_some_head hne)
    exact (harmed s hs).confined hcommits
  · rintro runtime current topology topology' now rfl hagree
    exact refreshCandidate_congr current now hagree

/-! ## A device that was not granted -/

/-- A third device, with an address of its own. -/
def plugged : TopologySnapshot :=
  { uplinks "eth0" with
    interfaces := (uplinks "eth0").interfaces.insert "usb0" (uplink 4 "usb0" 0x0a030002#32)
    assignedAddresses := (uplinks "eth0").assignedAddresses ++ [.v4 0x0a030002#32] }

/-- The device is plugged in and the helper, just started, refreshes. -/
def pluggedRefresh : RefreshStep :=
  ⟨plugged, 0, ⟨routedSystem, .fresh, fun _ => false⟩⟩

def pluggedPlan : KernelPlan :=
  { routedPlan with generation := 2, localAddresses := plugged.assignedAddresses }

/-- The device is gone again, the helper was restarted, and the system's default has moved. -/
def movedRefresh : RefreshStep :=
  ⟨uplinks "wg0", 1,
    ⟨(pluggedRefresh.outcome countPrimitives).world.machine, .fresh, fun _ => false⟩⟩

/-- The traffic of the first lane waits for its failback. -/
def movedPlan : KernelPlan :=
  { routedPlan with generation := 3, primary := ⟨⟨some "b", none⟩, ⟨.lane "a", .blocked⟩⟩ }

theorem inForce_iff {store : Option StoredAppliedState} {plan : KernelPlan} :
    InForce store plan ↔ store.bind StoredAppliedState.active = some plan :=
  Option.bind_eq_some_iff.symm

theorem commits_pluggedPlan : pluggedRefresh.Commits countPrimitives pluggedPlan := by
  refine ⟨⟨?_, by decide⟩, Or.inl (inForce_iff.2 (by decide +kernel))⟩
  rw [inForce_iff]
  decide +kernel

theorem commits_movedPlan : movedRefresh.Commits countPrimitives movedPlan := by
  refine ⟨⟨?_, by decide⟩, Or.inl (inForce_iff.2 (by decide +kernel))⟩
  rw [inForce_iff]
  decide +kernel

theorem armed_pluggedRefresh : pluggedRefresh.Armed routedRuntime := by
  refine ⟨.of_runtime ?_, .of_none rfl⟩
  rintro _ ⟨⟩
  exact ⟨rfl, rfl, rfl⟩

/-- Beside the granted devices the third makes no difference. -/
theorem agreeOnGrant_plugged : AgreeOnGrant routedRuntime.grant plugged
    { uplinks "eth0" with assignedAddresses := plugged.assignedAddresses } := by
  refine ⟨fun name entry hadmits => ?_, rfl, rfl, rfl⟩
  obtain ⟨identity, hgranted, hidentity⟩ := hadmits
  show ((uplinks "eth0").interfaces.insert "usb0" _).find? name = some entry ↔
    (uplinks "eth0").interfaces.find? name = some entry
  rw [OrderedMap.find?_insert]
  split
  · rename_i hname
    subst hname
    have hforeign : entry ≠ uplink 4 "usb0" 0x0a030002#32 := by
      rintro rfl
      obtain rfl := Option.some.inj hidentity
      have hifindexes : ∀ identity ∈ routedRuntime.grant.interfaces.values,
          identity.ifindex ≠ 4 := by decide +kernel
      exact hifindexes _ hgranted rfl
    have hnone : (uplinks "eth0").interfaces.find? "usb0" = none := by decide +kernel
    rw [hnone]
    simp [hforeign.symm]
  · exact Iff.rfl

theorem refreshes_stay_within_grant_plugged :
    (pluggedRefresh.Commits countPrimitives pluggedPlan ∧
      Confined routedRuntime plugged pluggedPlan) ∧
    (movedRefresh.Commits countPrimitives movedPlan ∧
      Confined routedRuntime (uplinks "wg0") movedPlan) ∧
    refreshCandidate countPrimitives (.loaded routedRuntime none) routedPlan plugged 0 =
      refreshCandidate countPrimitives (.loaded routedRuntime none) routedPlan
        { uplinks "eth0" with assignedAddresses := plugged.assignedAddresses } 0 := by
  have hwithin := refreshes_stay_within_grant countPrimitives routedRuntime
  have hnext : pluggedRefresh.Precedes countPrimitives movedRefresh :=
    .restarted (by rw [movedRefresh]) rfl
  have hchain : [pluggedRefresh, movedRefresh].IsChain (RefreshStep.Precedes countPrimitives) :=
    .cons_cons hnext (.singleton _)
  have hconfined := hwithin.1 [pluggedRefresh, movedRefresh] hchain (by
    rintro _ ⟨⟩
    exact armed_pluggedRefresh)
  refine ⟨⟨commits_pluggedPlan, ?_⟩, ⟨commits_movedPlan, ?_⟩, ?_⟩
  · exact hconfined _ List.mem_cons_self _ commits_pluggedPlan
  · exact hconfined _ (List.mem_cons_of_mem _ List.mem_cons_self) _ commits_movedPlan
  · exact hwithin.2 _ _ _ _ _ rfl agreeOnGrant_plugged

end RouteLane
