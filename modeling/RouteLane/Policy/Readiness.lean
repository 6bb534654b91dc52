import RouteLane.Net.ParseTopology
import RouteLane.Nft.Document
import RouteLane.Policy.PlannerSemantics
import RouteLane.Policy.SelectorSafety

/-!
# One notion of readiness

Whether a lane can take the traffic of a family is decided by the entry of its interface,
by the selector on the device bound to it, by the planner when it compiles the lane, and by
the renderer of the nft document.  On the snapshots the topology reader makes, restricted to
a grant or not, the four agree: what the selector picks the planner accepts, and every mark
the planner gives out is rendered.
-/

namespace RouteLane

open Fallible Steps

/-- A snapshot the topology reader returned for links whose indexes fit in 31 bits, or the
part of one that a grant leaves. -/
def Parsed (topology : TopologySnapshot) : Prop :=
  ∃ parseNet input snapshot, parseTopology parseNet input = .ok snapshot ∧
    (∀ links, input.links = .ok links → ∀ link ∈ links, link.ifindex ≤ 2147483647) ∧
    (topology = snapshot ∨ ∃ allowed, topology = snapshot.restrictedTo allowed)

theorem Parsed.observed {topology : TopologySnapshot} (h : Parsed topology) :
    topology.observed = true := by
  obtain ⟨parseNet, input, snapshot, hparse, hbound, htopology⟩ := h
  have hobserved := (keyedBy_parseTopology hparse hbound).2
  rcases htopology with rfl | ⟨allowed, rfl⟩
  · exact hobserved
  · exact hobserved

/-- An interface of the snapshot has an identity of its own name that can be rendered. -/
theorem Parsed.identity {topology : TopologySnapshot} (h : Parsed topology) {name : String}
    {entry : InterfaceTopology} (hentry : topology.interface name = some entry) :
    ∃ identity, entry.identity = some identity ∧ identity.name = name ∧
      0 < identity.ifindex ∧ identity.ifindex ≤ 2147483647 := by
  obtain ⟨parseNet, input, snapshot, hparse, hbound, htopology⟩ := h
  have hkeyed := (keyedBy_parseTopology hparse hbound).1
  rcases htopology with rfl | ⟨allowed, rfl⟩
  · exact hkeyed name entry hentry
  · rw [TopologySnapshot.interface, TopologySnapshot.restrictedTo, OrderedMap.find?_retain,
      Option.filter_eq_some_iff] at hentry
    exact hkeyed name entry hentry.1

/-! ## The planner and the renderer -/

/-- The renderer takes a compiled lane for ready when the planner does. -/
theorem ready_compileLane {topology : TopologySnapshot} (h : Parsed topology) {lane : Lane}
    {slot : ℕ} {family : IpFamily}
    (havailable : familyAvailable (compileLane topology lane slot) family = true) :
    (compileLane topology lane slot).ready family = true := by
  have hlane := havailable
  rw [familyAvailable_compileLane, laneAvailable, Option.any_eq_true] at hlane
  obtain ⟨entry, hentry, hready⟩ := hlane
  obtain ⟨identity, hidentity, hname, hpos, hfit⟩ := h.identity hentry
  rw [familyAvailable, Bool.and_eq_true] at havailable
  rw [h.observed, Bool.and_eq_true] at hready
  have hsource : (compileLane topology lane slot).hasSource family = true := by
    have hentryReady : entry.ready family = true := hready.1
    cases family <;>
      simp_all [InterfaceTopology.ready, LanePlan.hasSource, compileLane]
  rw [LanePlan.ready, havailable.1, havailable.2, hsource]
  simp [compileLane, hentry, hidentity, hname, hpos, hfit]

/-! ## The selector and the planner -/

theorem mem_of_find?_frozenBindings {profile : Profile} {frozen : TopologySnapshot} {id : LaneId}
    {identity : InterfaceIdentity} (h : (frozenBindings profile frozen).find? id = some identity) :
    ∃ lane ∈ profile.lanes, lane.id = id ∧ ∃ entry, frozen.interface lane.interface = some entry ∧
      entry.identity = some identity := by
  obtain ⟨lane, hlane, hbound⟩ := List.mem_filterMap.1 (OrderedMap.mem_of_find?_ofList h)
  obtain ⟨entry, hentry, hbound⟩ := Option.bind_eq_some_iff.1 hbound
  obtain ⟨found, hidentity, hbound⟩ := Option.bind_eq_some_iff.1 hbound
  obtain ⟨rfl, rfl⟩ := Prod.mk.inj (Option.some.inj hbound)
  exact ⟨lane, hlane, rfl, entry, hentry, hidentity⟩

/-- A lane the selector holds ready is compiled as an available one. -/
theorem available_of_frozenReady {profile : Profile} {frozen topology : TopologySnapshot}
    (hfrozen : Parsed frozen) (hnd : (profile.lanes.map Lane.id).Nodup) {family : IpFamily}
    {id : LaneId} (h : FrozenReady (frozenBindings profile frozen) topology family id) :
    ∃ lane ∈ compileLanes topology profile.lanes,
      (lanesById (compileLanes topology profile.lanes)).find? id = some lane ∧ lane.id = id ∧
      familyAvailable lane family = true := by
  obtain ⟨identity, entry, hbound, hentry, hsame, hready⟩ := h
  obtain ⟨lane, hlane, rfl, bound, hboundEntry, hboundIdentity⟩ := mem_of_find?_frozenBindings hbound
  obtain ⟨identity', hidentity', hname, -⟩ := hfrozen.identity hboundEntry
  obtain rfl : identity' = identity := Option.some.inj (hidentity'.symm.trans hboundIdentity)
  obtain ⟨slot, hslot⟩ := find?_compileLanes topology hnd hlane
  refine ⟨compileLane topology lane slot, List.mem_of_find?_eq_some hslot, ?_, rfl, ?_⟩
  · rw [find?_lanesById hnd, hslot]
  · rw [hname] at hentry
    rw [familyAvailable_compileLane, laneAvailable, hentry]
    cases family <;>
      simp_all [InterfaceTopology.ready]

/-! ## Errors of a compilation -/

section Errors

variable {topology : TopologySnapshot} {resolutions : ResolutionSnapshot}
  {primary : PrimaryDecision} {profileLanes : OrderedMap LaneId Lane}
  {lanePlans : OrderedMap LaneId LanePlan} {family : IpFamily} {e : CompileFailure}

theorem fallbackMark_error :
    ∀ {fuel : ℕ} {start : Option LaneId},
      fallbackMark profileLanes lanePlans family fuel start = .error e →
      e = .panic ∨ e = .diverge := by
  intro fuel
  induction fuel with
  | zero =>
    intro start h
    cases start with
    | none => cases h
    | some id => exact Or.inr (Except.error.inj h).symm
  | succ fuel ih =>
    intro start h
    cases start with
    | none => cases h
    | some id =>
      rw [fallbackMark] at h
      split at h
      · exact Or.inl (Except.error.inj h).symm
      · split at h
        · cases h
        · split at h
          · exact Or.inl (Except.error.inj h).symm
          · exact ih h

theorem primaryAction_error (h : primaryAction lanePlans primary family = .error e) :
    e = .panic := by
  unfold primaryAction at h
  split at h
  · cases h
  · split at h
    · cases h
    · exact (Except.error.inj h).symm

/-- An action is compiled, or the compiler itself fails; it is never refused. -/
theorem compileAction_error {action : RuleAction}
    (h : compileAction profileLanes lanePlans primary family action = .error e) :
    e = .panic ∨ e = .diverge := by
  have hdirect (h : (primaryAction lanePlans primary family).map some = .error e) :
      e = .panic ∨ e = .diverge := by
    cases hexit : primaryAction lanePlans primary family with
    | ok exit => rw [hexit] at h; cases h
    | error e' =>
      rw [hexit] at h
      obtain rfl := Except.error.inj h
      exact Or.inl (primaryAction_error hexit)
  cases action with
  | block => cases h
  | direct => exact hdirect h
  | route id =>
    rw [compileAction, compileRouteAction] at h
    split at h
    · split at h
      · cases h
      · split at h
        · rename_i e' hmark
          obtain rfl := Except.error.inj h
          exact fallbackMark_error hmark
        · cases h
        · split at h
          · cases h
          · exact hdirect h
          · cases h
    · exact Or.inl (Except.error.inj h).symm

/-- Compiling the rules never complains about the primary exit. -/
theorem compileRules_ne_invalidPrimaryExit {profile : Profile} {id : LaneId} :
    compileRules topology resolutions primary profile ≠
      .error (.error (.invalidPrimaryExit id family)) := by
  intro h
  obtain ⟨rule, -, h⟩ := error_of_collect h
  rw [compileRule] at h
  cases htargets : compileTargets resolutions rule with
  | error e =>
    rw [htargets] at h
    obtain rfl := Except.error.inj h
    unfold compileTargets at htargets
    split at htargets <;> try cases htargets
    split at htargets <;> cases htargets
  | ok targets =>
    rw [htargets] at h
    obtain ⟨target, -, h⟩ := error_of_collect h
    obtain ⟨family', -, h⟩ := error_of_collect h
    cases haction : compileAction (profileLanesById profile.lanes)
        (lanesById (compileLanes topology profile.lanes)) primary family' rule.action with
    | ok action => rw [haction] at h; cases h
    | error e =>
      rw [haction] at h
      obtain rfl := Except.error.inj h
      rcases compileAction_error haction with he | he <;> cases he

end Errors

/-! ## The exit selected is the exit rendered -/

section Selected

variable {toLowercase : String → String} {profile : Profile} {frozen topology : TopologySnapshot}
  {resolutions : ResolutionSnapshot} {primary : PrimaryDecision} {generation : ℕ}
  {plan : KernelPlan}

/-- Every exit of the decision is ready on the device that was frozen for it. -/
def ExitsReady (profile : Profile) (frozen topology : TopologySnapshot)
    (primary : PrimaryDecision) : Prop :=
  ∀ family id, primary.effective.get family = .lane id →
    FrozenReady (frozenBindings profile frozen) topology family id

theorem checkPrimaryExit_of_ready (hfrozen : Parsed frozen) (htopology : Parsed topology)
    (hnd : (profile.lanes.map Lane.id).Nodup)
    (hready : ExitsReady profile frozen topology primary) (family : IpFamily) :
    checkPrimaryExit (lanesById (compileLanes topology profile.lanes)) primary family = .ok () := by
  unfold checkPrimaryExit
  cases heffective : primary.effective.get family with
  | blocked => rfl
  | lane id =>
    obtain ⟨lane, hlane, hfind, -, havailable⟩ :=
      available_of_frozenReady hfrozen hnd (hready family id heffective)
    obtain ⟨compiled, slot, -, rfl⟩ := mem_compileLanes.1 hlane
    have hrendered := ready_compileLane htopology havailable
    simp only [LanePlan.ready, Bool.and_eq_true, Option.any_eq_true] at hrendered
    obtain ⟨⟨-, identity, hidentity, -⟩, -, hsource⟩ := hrendered
    rw [failIf_eq_ok, hfind]
    simp [hidentity, havailable, hsource]

/-- With exits that are ready, an enabled valid profile compiles unless its rules do not. -/
theorem compile_of_ready (hfrozen : Parsed frozen) (htopology : Parsed topology)
    (hready : ExitsReady profile frozen topology primary) (family : IpFamily) (id : LaneId) :
    compileProfileWithPrimary toLowercase profile topology resolutions primary generation ≠
      .error (.error (.invalidPrimaryExit id family)) := by
  intro h
  unfold compileProfileWithPrimary at h
  by_cases henabled : profile.enabled = false
  · rw [failIf, if_pos henabled] at h
    cases h
  rw [failIf, if_neg henabled] at h
  cases hvalid : validateProfile toLowercase profile with
  | error e =>
    rw [hvalid] at h
    cases h
  | ok u =>
    have hexit := checkPrimaryExit_of_ready hfrozen htopology (validateProfile_lanes_nodup hvalid)
      hready
    rw [hvalid, hexit .v4, hexit .v6] at h
    cases hrules : compileRules topology resolutions primary profile with
    | ok compiled =>
      simp only [hrules] at h
      cases h
    | error e =>
      simp only [hrules] at h
      obtain rfl := Except.error.inj h
      exact compileRules_ne_invalidPrimaryExit hrules

/-- The lanes a compiled plan sends traffic of a family to are rendered as ready for it. -/
theorem Compiles.ready {compiled : List CompiledRule}
    (c : Compiles toLowercase profile topology resolutions primary generation plan compiled)
    (hfrozen : Parsed frozen) (htopology : Parsed topology)
    (hready : ExitsReady profile frozen topology primary) :
    (∀ rule ∈ plan.rules, ∀ mark, rule.action = .mark mark →
      ∃ lane ∈ plan.lanes, lane.mark = mark ∧ lane.ready rule.family = true) ∧
    ∀ family id, plan.primary.effective.get family = .lane id →
      ∃ lane ∈ plan.lanes, lane.id = id ∧ lane.ready family = true := by
  rw [c.lanes_eq, c.primary_eq]
  have hrendered {lane : LanePlan} {family : IpFamily}
      (hlane : lane ∈ compileLanes topology profile.lanes)
      (havailable : familyAvailable lane family = true) : lane.ready family = true := by
    obtain ⟨source, slot, -, rfl⟩ := mem_compileLanes.1 hlane
    exact ready_compileLane htopology havailable
  have hexit : ∀ family id, primary.effective.get family = .lane id →
      ∃ lane ∈ compileLanes topology profile.lanes, lane.id = id ∧ lane.ready family = true := by
    intro family id heffective
    obtain ⟨lane, hlane, -, hid, havailable⟩ :=
      available_of_frozenReady hfrozen c.ids_nodup (hready family id heffective)
    exact ⟨lane, hlane, hid, hrendered hlane havailable⟩
  refine ⟨?_, hexit⟩
  intro rule hrule mark hmark
  obtain ⟨source, -, -, targets, -, target, -, family, -, action, haction, rfl⟩ :=
    c.exists_rule_of_mem hrule
  obtain rfl : action = .mark mark := hmark
  obtain ⟨lane, hlane, heq, havailable | heffective⟩ := lane_of_compileAction c.ids_nodup haction
  · exact ⟨lane, hlane, heq, hrendered hlane havailable⟩
  · -- the mark came from the primary exit, whose lane is the only one with its id
    obtain ⟨exit, hexitLane, hid, hexitReady⟩ := hexit family lane.id heffective
    obtain rfl : exit = lane :=
      List.inj_on_of_nodup_map (compileLanes_ids_nodup c.ids_nodup) hexitLane hlane hid
    exact ⟨exit, hlane, heq, hexitReady⟩

end Selected

/-- **Agreement on readiness.**  What a selector decides on a snapshot of the topology reader,
after any history and with any resolved addresses, the planner never refuses as an exit; and
in the plan it compiles, the lane of every mark and of every exit in effect is one the
renderer takes for ready. -/
theorem selected_exits_ready (toLowercase : String → String) (profile : Profile)
    {frozen : TopologySnapshot} (hfrozen : Parsed frozen) (previous : Option PrimaryDecision)
    (past : List SelectorInput) {input : SelectorInput} (hinput : Parsed input.topology)
    (resolutions : ResolutionSnapshot) (generation : ℕ) :
    let decision := ((run PrimarySelector.feed (.start profile frozen previous) past).update
      input.policy input.topology input.now).2
    (∀ family id, compileProfileWithPrimary toLowercase profile input.topology resolutions
      decision generation ≠ .error (.error (.invalidPrimaryExit id family))) ∧
    ∀ plan, compileProfileWithPrimary toLowercase profile input.topology resolutions decision
        generation = .ok plan →
      (∀ rule ∈ plan.rules, ∀ mark, rule.action = .mark mark →
        ∃ lane ∈ plan.lanes, lane.mark = mark ∧ lane.ready rule.family = true) ∧
      ∀ family id, plan.primary.effective.get family = .lane id →
        ∃ lane ∈ plan.lanes, lane.id = id ∧ lane.ready family = true := by
  intro decision
  have hready : ExitsReady profile frozen input.topology decision := by
    intro family id heffective
    have hupdate : decision.effective.get family = _ := effective_update
    rw [bindings_run, bindings_start, heffective] at hupdate
    exact (boundReady_iff.1 (boundReady_updateFamily hupdate.symm)).2
  refine ⟨compile_of_ready hfrozen hinput hready, ?_⟩
  intro plan hplan
  obtain ⟨compiled, c⟩ := compileProfileWithPrimary_eq_ok hplan
  exact c.ready hfrozen hinput hready

/-- The documents of two links that are up, each with an address and a default route. -/
def uplinkDocuments : TopologyInput where
  links := .ok [⟨2, "eth0", ["UP", "LOWER_UP"], "UP", "ether", none, none⟩,
    ⟨3, "wg0", ["UP", "LOWER_UP"], "UP", "ether", none, none⟩]
  addresses := .ok [
    ⟨2, "eth0", [⟨"inet", .v4 0x0a010002#32, .string "global", [], false, false, false, none, none⟩]⟩,
    ⟨3, "wg0", [⟨"inet", .v4 0x0a020002#32, .string "global", [], false, false, false, none, none⟩]⟩]
  routes := ⟨.ok [⟨some "default", some "eth0", none, none, 0, [], [], none, none⟩,
    ⟨some "default", some "wg0", none, none, 10, [], [], none, none⟩], .ok []⟩
  rules := ⟨.ok [.object [("priority", .number 32766), ("src", .string "all"),
    ("table", .string "main")]], .ok []⟩

theorem parsed_uplinks : Parsed (uplinks "eth0") := by
  refine ⟨fun _ => none, uplinkDocuments, _, by decide +kernel, ?_, Or.inl rfl⟩
  intro links hlinks link hlink
  obtain rfl := Except.ok.inj hlinks
  revert link
  decide

/-- Two lanes, and a rule that sends everything to the second. -/
def routedProfile : Profile :=
  { pairProfile with rules := [⟨"r", true, 10, .any, .any, .route "b"⟩] }

/-- What the profile compiles to while the first lane carries the system's default. -/
def routedPlan : KernelPlan where
  primary := ⟨⟨some "a", none⟩, ⟨.lane "a", .blocked⟩⟩
  localNetworks := []
  localAddresses := [.v4 0x0a010002#32, .v4 0x0a020002#32]
  generation := 1
  profileId := "p"
  lanes := compileLanes (uplinks "eth0") routedProfile.lanes
  rules := [⟨.v4, "r", 10, .any, .mark 0x524c0002⟩, ⟨.v6, "r", 10, .any, .block⟩]

theorem selected_exits_ready_uplinks :
    (∀ rule ∈ routedPlan.rules, ∀ mark, rule.action = .mark mark →
      ∃ lane ∈ routedPlan.lanes, lane.mark = mark ∧ lane.ready rule.family = true) ∧
    ∀ family id, routedPlan.primary.effective.get family = .lane id →
      ∃ lane ∈ routedPlan.lanes, lane.id = id ∧ lane.ready family = true :=
  (selected_exits_ready id routedProfile parsed_uplinks none []
    (show Parsed (SelectorInput.mk routedProfile.routing (uplinks "eth0") 0).topology from
      parsed_uplinks) ⟨.empty⟩ 1).2 routedPlan (by decide +kernel)

end RouteLane
