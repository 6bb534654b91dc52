import RouteLane.Nft.Egress

/-!
# Flows across plans

Marks are handed out by position at every compilation, while the mark of a connection
outlives the plan that set it.  This module says exactly when a flow of an earlier plan
can leave through another interface under a later one: when the later plan has given the
flow's mark to a lane on another interface and would let a packet of the flow out at all.
-/

namespace RouteLane

open Nft Chains FirstMatch

/-! ## Flows -/

/-- A connection marked under a plan: the lane that was ready when its first packet left, the
interface that lane is bound to, and the entry conntrack keeps of it, the addresses and the
UDP ports of its first packet. -/
structure MarkedFlow (plan : KernelPlan) where
  lane : LanePlan
  lane_mem : lane ∈ plan.lanes
  identity : InterfaceIdentity
  bound : lane.identity = some identity
  source : IpAddr
  destination : IpAddr
  /-- none where the connection is not one of UDP -/
  ports : Option (ℕ × ℕ)
  ready : lane.ready source.family = true
  sameFamily : destination.family = source.family

/-- A packet in this direction of a flow goes from one end of it to the other. -/
def MarkedFlow.Goes {plan : KernelPlan} (flow : MarkedFlow plan) (p : Packet) :
    CtDirection → Prop
  | .original => p.daddr = flow.destination ∧ p.udp = flow.ports
  | .reply => p.daddr = flow.source ∧ p.udp = flow.ports.map Prod.swap

/-- A locally generated packet of a flow. -/
def MarkedFlow.Sends {plan : KernelPlan} (flow : MarkedFlow plan) (p : Packet) : Prop :=
  p.iif = 0 ∧ ∃ c, p.ct = some c ∧ c.mark = flow.lane.mark ∧ c.saddr = flow.source ∧
    flow.Goes p c.direction

/-- A later packet of a flow, from the process of another packet to its destination. -/
def MarkedFlow.packetLike {plan : KernelPlan} (flow : MarkedFlow plan) (q : Packet)
    (h : q.family = flow.source.family) : Packet :=
  { q with
    mark := 0
    iif := 0
    ct := some ⟨flow.lane.mark, .established, .original, flow.source⟩
    ct_family := by
      intro c hc
      rw [← Option.some.inj hc]
      exact h.symm }

/-- The packet routed to an output interface. -/
def Packet.routed (p : Packet) (oif : ℕ) (oifname : String) : Packet :=
  { p with oif := oif, oifname := oifname }

/-- The output and egress chains of a plan let a packet that is not control traffic out
through a ready lane bound to another interface. -/
def LeavesElsewhere (document : Document) (plan : KernelPlan) (identity : InterfaceIdentity)
    (p : Packet) : Prop :=
  controlExempt plan.localNetworks p = false ∧
    ∃ p' lane, evalChainOf document .output p = some (none, p') ∧ lane ∈ plan.lanes ∧
      lane.ready p.family = true ∧ lane.identity ≠ some identity ∧
      controlExempt plan.localNetworks (p'.routed lane.ifindex lane.interface) = false ∧
      evalChainOf document .egressGuard (p'.routed lane.ifindex lane.interface) =
        some (none, p'.routed lane.ifindex lane.interface)

/-- No packet of the flow leaves through another interface. -/
def FlowStays (document : Document) (later : KernelPlan) {earlier : KernelPlan}
    (flow : MarkedFlow earlier) : Prop :=
  ∀ p, flow.Sends p → ¬ LeavesElsewhere document later flow.identity p

/-- The mark of the flow belongs to a lane of the plan that is ready on another interface. -/
def MarkMoved (later : KernelPlan) {earlier : KernelPlan} (flow : MarkedFlow earlier) : Prop :=
  ∃ lane ∈ later.lanes, lane.mark = flow.lane.mark ∧ lane.ready flow.source.family = true ∧
    lane.identity ≠ some flow.identity ∧ lane.interface ≠ "lo"

/-- The plan lets a packet to the destination of the flow out: one that is not control traffic
and that no blocking rule decides. -/
def LetsOut (later : KernelPlan) {earlier : KernelPlan} (flow : MarkedFlow earlier) : Prop :=
  ∃ p : Packet, flow.Goes p .original ∧ controlExempt later.localNetworks p = false ∧
    ∀ rule, later.rules.find? (CompiledRule.matches p.daddr p.cgroup) = some rule →
      rule.action ≠ .block

/-! ## Compiled plans -/

section Compiled

variable {toLowercase : String → String} {profile : Profile} {topology : TopologySnapshot}
  {resolutions : ResolutionSnapshot} {primary : PrimaryDecision} {generation : ℕ}
  {plan : KernelPlan}

theorem intendedAction_ne_direct (family : IpFamily) (action : RuleAction) :
    intendedAction profile topology plan family action ≠ some .direct := by
  have hprimary : primaryExit plan family ≠ .direct := by
    rw [primaryExit]
    cases plan.primary.effective.get family <;> simp
  cases action with
  | block => simp [intendedAction]
  | direct => simpa [intendedAction] using hprimary
  | route id =>
    rw [intendedAction]
    split
    · simp
    · intro h
      obtain ⟨lane, -, h⟩ := Option.bind_eq_some_iff.1 h
      cases hp : lane.failurePolicy <;> simp [failureAction, hp, hprimary] at h

/-- Every rule of a compiled plan carries the family of its network, and none leaves its
verdict to the primary exit of the moment. -/
theorem compiled_rules
    (h : compileProfileWithPrimary toLowercase profile topology resolutions primary generation =
      .ok plan) :
    plan.FamiliesAgree ∧ ∀ rule ∈ plan.rules, rule.action ≠ .direct := by
  obtain ⟨compiled, c⟩ := compileProfileWithPrimary_eq_ok h
  have hshape : ∀ rule ∈ plan.rules, ∃ source target family action,
      rule = compiledRule source target family action ∧ family ∈ targetFamilies target ∧
        intendedAction profile topology plan family source.action = some action := by
    intro rule hrule
    rw [c.plan_eq] at hrule
    have hrules := c.rules_eq
    rw [compileRules] at hrules
    obtain ⟨source, hsource, out, hout, hmem⟩ := Fallible.mem_collect hrules (mem_of_mem_retainNew hrule)
    obtain ⟨targets, -, rfl⟩ := c.compileRule_eq (mem_executionOrder.1 hsource).1 hout
    obtain ⟨target, -, hmem⟩ := List.mem_flatMap.1 hmem
    obtain ⟨family, hfamily, hmem⟩ := List.mem_flatMap.1 hmem
    obtain ⟨action, haction, rfl⟩ := List.mem_map.1 hmem
    exact ⟨source, target, family, action, rfl, hfamily, Option.mem_toList.1 haction⟩
  refine ⟨?_, ?_⟩
  · intro rule hrule n hn
    obtain ⟨source, target, family, action, rfl, hfamily, -⟩ := hshape rule hrule
    have ht : target = .network n := hn
    rw [ht, targetFamilies, List.mem_singleton] at hfamily
    exact hfamily
  · intro rule hrule hdirect
    obtain ⟨source, target, family, action, rfl, -, haction⟩ := hshape rule hrule
    have ha : action = .direct := hdirect
    exact intendedAction_ne_direct family source.action (ha ▸ haction)

/-- The identity of a compiled lane is that of its interface in the topology. -/
theorem compiled_identity
    (h : compileProfileWithPrimary toLowercase profile topology resolutions primary generation =
      .ok plan) {a b : LanePlan} (ha : a ∈ plan.lanes) (hb : b ∈ plan.lanes)
    (heq : a.interface = b.interface) : a.identity = b.identity := by
  obtain ⟨compiled, c⟩ := compileProfileWithPrimary_eq_ok h
  rw [c.lanes_eq] at ha hb
  obtain ⟨la, sa, -, rfl⟩ := mem_compileLanes.1 ha
  obtain ⟨lb, sb, -, rfl⟩ := mem_compileLanes.1 hb
  have hname : la.interface = lb.interface := heq
  simp only [compileLane, hname]

end Compiled

/-! ## One packet -/

section Packets

variable {plan : KernelPlan} {p : Packet}

/-- A packet of a marked flow that is not control traffic: refused where its own mark is
foreign or a blocking rule decides it, and otherwise left to the restore chain. -/
theorem outputResult_marked (hwf : plan.WellFormed) (hfam : plan.FamiliesAgree)
    (hdirect : ∀ rule ∈ plan.rules, rule.action ≠ .direct) (hown : ownMark p.ctMark = true)
    (hexempt : controlExempt plan.localNetworks p = false) :
    outputResult plan p =
      if foreignMark p.mark then (some (.reject none), p)
      else if (plan.rules.find? (CompiledRule.matches p.daddr p.cgroup)).any
          (fun rule => rule.action == .block) then (some (.reject (some p.family)), p)
      else restoreResult plan p.family p := by
  have hparts := hown
  rw [ownMark_eq, Bool.and_eq_true, bne_iff_ne, Bool.not_eq_true'] at hparts
  obtain ⟨hne, hforeign⟩ := hparts
  rw [outputResult, hexempt, find?_explicitHit hfam, hforeign, Bool.or_false]
  simp only [Bool.false_eq_true, if_false, hown, if_true]
  by_cases hmeta : foreignMark p.mark = true
  · rw [if_pos hmeta, if_pos hmeta]
  rw [if_neg hmeta, if_neg hmeta]
  cases hfind : plan.rules.find? (CompiledRule.matches p.daddr p.cgroup) with
  | none => simp
  | some rule =>
    have hrule : rule ∈ plan.rules := List.mem_of_find?_eq_some hfind
    have hfamily : rule.family = p.family := by
      have hm := List.find?_some hfind
      rw [CompiledRule.matches, Bool.and_eq_true, beq_iff_eq] at hm
      exact hm.1
    simp only [Option.any_some, hfamily]
    have haction : rule.action = .block ∨ ∃ m, rule.action = .mark m := by
      have hne' := hdirect rule hrule
      cases ha : rule.action with
      | block => exact Or.inl rfl
      | direct => exact absurd ha hne'
      | mark m => exact Or.inr ⟨m, rfl⟩
    rcases haction with ha | ⟨m, ha⟩
    · simp [explicitMark, ha, markResult]
    · obtain ⟨lane, hlane, hm⟩ := hwf.marks_known rule hrule m ha
      have hany : plan.lanes.any (fun l => l.mark == m) = true :=
        List.any_eq_true.2 ⟨lane, hlane, by simp [hm]⟩
      simp [explicitMark, ha, markResult, hany, selectResult, hne]

/-- Only the name of the output interface tells the control traffic of a routed packet. -/
theorem controlExempt_routed {networks : List IpNet} (oif : ℕ) (oifname : String) (m : ℕ)
    (h : controlExempt networks p = false) :
    controlExempt networks ((p.setMark m).routed oif oifname) = (oifname == "lo") := by
  simp only [controlExempt, Bool.or_eq_false_iff] at h
  obtain ⟨⟨⟨⟨⟨⟨-, h1⟩, h2⟩, h3⟩, h4⟩, h5⟩, h6⟩ := h
  simp only [controlExempt, Packet.routed, Packet.setMark, Packet.family] at h5 ⊢
  rw [h1, h2, h3, h4, h5, h6]
  simp

end Packets

/-! ## The flow -/

/-- A flow marked under one compiled plan stays on its interface under another exactly
unless the later plan has given its mark to a lane that is ready on another interface,
the address of the flow is still a local one, and the plan lets a packet to the flow's
destination out. -/
theorem flowStays_iff (blake3 : Blake3) {toLowercase : String → String} {profile : Profile}
    {topology : TopologySnapshot} {resolutions : ResolutionSnapshot} {primary : PrimaryDecision}
    {generation : ℕ} {earlier later : KernelPlan} {pending : Option KernelPlan} {guard : Bool}
    (hlater : compileProfileWithPrimary toLowercase profile topology resolutions primary
      generation = .ok later)
    (hvalid : validatePrivilegedPlan earlier = .ok ())
    (hvalid' : validatePrivilegedPlan later = .ok ()) (flow : MarkedFlow earlier) :
    FlowStays (renderNftDocument blake3 (some later) pending guard) later flow ↔
      ¬ (MarkMoved later flow ∧ flow.source ∈ later.localAddresses ∧ LetsOut later flow) := by
  have hwf := validatePrivilegedPlan_eq_ok.1 hvalid'
  obtain ⟨hfam, hdirect⟩ := compiled_rules hlater
  have hrange := ((validatePrivilegedPlan_eq_ok.1 hvalid).inRange flow.lane flow.lane_mem).mark_mem
  have hown : ownMark flow.lane.mark = true := by simp [ownMark, hrange]
  constructor
  · rintro hstays ⟨⟨lane, hlane, hmark, hready, hother, hlo⟩, hlocal, q, hqgoes, hqexempt, hqrule⟩
    -- a later packet of the flow, which the plan lets out
    have hqfam : q.family = flow.source.family := by
      rw [Packet.family, hqgoes.1, flow.sameFamily]
    set p := flow.packetLike q hqfam with hp
    have hpfam : p.family = flow.source.family := hqfam
    have hctm : p.ctMark = flow.lane.mark := rfl
    have hpexempt : controlExempt later.localNetworks p = false := hqexempt
    have hpblock : (later.rules.find? (CompiledRule.matches p.daddr p.cgroup)).any
        (fun rule => rule.action == .block) = false := by
      show (later.rules.find? (CompiledRule.matches q.daddr q.cgroup)).any
        (fun rule => rule.action == .block) = false
      cases hfind : later.rules.find? (CompiledRule.matches q.daddr q.cgroup) with
      | none => rfl
      | some rule => simpa using hqrule rule hfind
    have hlaneReady : later.laneReady p.family p.ctMark = true :=
      List.any_eq_true.2 ⟨lane, hlane, by rw [hpfam, hready, hctm, hmark]; simp⟩
    have hnoforeign : foreignMark p.mark = false := by
      show foreignMark 0 = false
      decide
    have hout : outputResult later p = (none, p.setMark p.ctMark) := by
      rw [outputResult_marked hwf hfam hdirect (hctm ▸ hown) hpexempt, hnoforeign, hpblock,
        restoreResult, if_pos hlaneReady]
      rfl
    have hexempt' := controlExempt_routed lane.ifindex lane.interface p.ctMark hpexempt
    have hleaves : leavesThrough later ((p.setMark p.ctMark).routed lane.ifindex lane.interface)
        lane = true := by
      have hfamily : ((p.setMark p.ctMark).routed lane.ifindex lane.interface).family =
          flow.source.family := hpfam
      rw [leavesThrough, hfamily, hready]
      simp [Packet.routed, Packet.setMark, hp, MarkedFlow.packetLike, Packet.ctMark, hmark, hlocal]
    refine hstays p ⟨rfl, _, rfl, rfl, rfl, hqgoes⟩ ⟨hpexempt, p.setMark p.ctMark, lane, ?_, hlane, ?_,
      hother, ?_, ?_⟩
    · rw [evalChainOf_output hwf (c := ⟨flow.lane.mark, .established, .original, flow.source⟩) rfl,
        hout]
    · rw [hpfam]
      exact hready
    · rw [hexempt']
      simpa using hlo
    · have hany : later.lanes.any (leavesThrough later
          ((p.setMark p.ctMark).routed lane.ifindex lane.interface)) = true :=
        List.any_eq_true.2 ⟨lane, hlane, hleaves⟩
      rw [evalChainOf_egress hwf, egressResult, hany]
      simp
  · rintro hcond p ⟨hiif, c, hct, hcm, hsaddr, hgoes⟩ ⟨hexempt, p', lane, hout, hlane, hready, hother,
      hexempt', hegress⟩
    have hctm : p.ctMark = flow.lane.mark := by rw [Packet.ctMark_of_ct hct, hcm]
    have hpfam : flow.source.family = p.family := hsaddr ▸ p.ct_family c hct
    -- the output chain has let the packet through with the mark of its connection
    rw [evalChainOf_output hwf hct, outputResult_marked hwf hfam hdirect (hctm ▸ hown) hexempt,
      Option.some.injEq] at hout
    by_cases hforeign : foreignMark p.mark = true
    · rw [if_pos hforeign] at hout
      exact absurd (Prod.mk.inj hout).1 (by simp)
    rw [if_neg hforeign] at hout
    by_cases hblock : (later.rules.find? (CompiledRule.matches p.daddr p.cgroup)).any
        (fun rule => rule.action == .block) = true
    · rw [if_pos hblock] at hout
      exact absurd (Prod.mk.inj hout).1 (by simp)
    rw [if_neg hblock, restoreResult] at hout
    by_cases hlaneReady : later.laneReady p.family p.ctMark = true
    · rw [if_pos hlaneReady] at hout
      obtain rfl : p.setMark p.ctMark = p' := (Prod.mk.inj hout).2
      -- and the egress guard because it leaves through a lane with that mark
      rw [evalChainOf_egress hwf, egressResult, hexempt'] at hegress
      have hiif' : ((p.setMark p.ctMark).routed lane.ifindex lane.interface).iif = 0 := hiif
      have hown' : ownMark ((p.setMark p.ctMark).routed lane.ifindex lane.interface).mark = true :=
        hctm.symm ▸ hown
      rw [if_neg (not_not.2 hiif'), hown'] at hegress
      cases hany : later.lanes.any (leavesThrough later
          ((p.setMark p.ctMark).routed lane.ifindex lane.interface)) with
      | false => simp [hany] at hegress
      | true =>
        obtain ⟨x, hx, hleaves⟩ := List.any_eq_true.1 hany
        rw [leavesThrough] at hleaves
        simp only [Packet.routed, Packet.setMark, Bool.and_eq_true, beq_iff_eq, hct,
          Option.any_some, decide_eq_true_eq] at hleaves
        obtain ⟨⟨⟨⟨hxready, hxmark⟩, ⟨-, hxdirection⟩, hxlocal⟩, -⟩, hxname⟩ := hleaves
        have hxid := compiled_identity hlater hx hlane hxname.symm
        have hlo : lane.interface ≠ "lo" := by
          rw [controlExempt_routed _ _ _ hexempt] at hexempt'
          simpa using hexempt'
        refine hcond ⟨⟨x, hx, by rw [← hxmark, hctm], ?_, hxid ▸ hother, hxname ▸ hlo⟩,
          hsaddr ▸ hxlocal, p, hxdirection ▸ hgoes, hexempt, ?_⟩
        · rw [hpfam]
          exact hxready
        · intro rule hrule haction
          rw [hrule] at hblock
          simp [haction] at hblock
    · rw [if_neg hlaneReady] at hout
      exact absurd (Prod.mk.inj hout).1 (by simp)

/-- Two links that are both ready for IPv4. -/
def twoLinks : TopologySnapshot where
  interfaces := .ofList [
    ("wg0",
      { identity := some ⟨6, "wg0", "wireguard", none⟩, linkReady := true, routeV4 := some .device,
        routeV6 := none, sourceV4 := [0x0a010002#32], sourceV6 := [], connectedNetworks := [] }),
    ("wg1",
      { identity := some ⟨7, "wg1", "wireguard", none⟩, linkReady := true, routeV4 := some .device,
        routeV6 := none, sourceV4 := [0x0a020002#32], sourceV6 := [], connectedNetworks := [] })]
  observed := true
  assignedAddresses := [.v4 0x0a010002#32, .v4 0x0a020002#32]

def laneA : Lane := ⟨"a", "A", "wg0", none, .block⟩

def laneB : Lane := ⟨"b", "B", "wg1", none, .block⟩

/-- All traffic through the lane on the second link. -/
def linkProfile (lanes : List Lane) : Profile where
  id := "p"
  name := "P"
  enabled := true
  lanes := lanes
  rules := [⟨"r", true, 10, .any, .any, .route "b"⟩]
  routing := ⟨.preserveSystem, .followSystemDefault, [], true⟩

/-- The plan of the profile with these lanes, the second link's lane having this mark. -/
def linkPlan (lanes : List LanePlan) (mark generation : ℕ) : KernelPlan where
  primary := noPrimary
  localNetworks := []
  localAddresses := [.v4 0x0a010002#32, .v4 0x0a020002#32]
  generation := generation
  profileId := "p"
  lanes := lanes
  rules := [⟨.v4, "r", 10, .any, .mark mark⟩, ⟨.v6, "r", 10, .any, .block⟩]

/-- The plan with the second link's lane alone. -/
def beforePlan : KernelPlan := linkPlan [compileLane twoLinks laneB 0] 0x524c0001 1

/-- The plan after a lane on the first link has been added. -/
def afterPlan : KernelPlan :=
  linkPlan [compileLane twoLinks laneA 0, compileLane twoLinks laneB 1] 0x524c0002 2

/-- A flow of the second link's lane. -/
def linkFlow : MarkedFlow beforePlan where
  lane := compileLane twoLinks laneB 0
  lane_mem := List.mem_singleton_self _
  identity := ⟨7, "wg1", "wireguard", none⟩
  bound := rfl
  source := .v4 0x0a020002#32
  destination := openingPacket.daddr
  ports := none
  ready := by decide
  sameFamily := rfl

theorem flowStays_iff_links :
    FlowStays (renderNftDocument blankDigests (some afterPlan) none false) afterPlan linkFlow ↔
      ¬ (MarkMoved afterPlan linkFlow ∧ linkFlow.source ∈ afterPlan.localAddresses ∧
        LetsOut afterPlan linkFlow) := by
  have h : compileProfileWithPrimary id (linkProfile [laneA, laneB]) twoLinks ⟨.empty⟩ noPrimary 2 =
      .ok afterPlan := by decide
  exact flowStays_iff blankDigests h (by decide) (by decide) linkFlow

/-- Adding a lane in front of it moves a flow of the second link to the first: the plan gives
the flow's mark to the new lane, and both chains let the flow's packets out there. -/
theorem linkFlow_moves :
    compileProfileWithPrimary id (linkProfile [laneB]) twoLinks ⟨.empty⟩ noPrimary 1 =
        .ok beforePlan ∧
      compileProfileWithPrimary id (linkProfile [laneA, laneB]) twoLinks ⟨.empty⟩ noPrimary 2 =
        .ok afterPlan ∧
      validatePrivilegedPlan beforePlan = .ok () ∧ validatePrivilegedPlan afterPlan = .ok () ∧
      ¬ FlowStays (renderNftDocument blankDigests (some afterPlan) none false) afterPlan
        linkFlow := by
  have hvalid : validatePrivilegedPlan afterPlan = .ok () := by decide
  have hwf := validatePrivilegedPlan_eq_ok.1 hvalid
  refine ⟨by decide, by decide, by decide, hvalid, ?_⟩
  intro hstays
  set p := linkFlow.packetLike openingPacket rfl with hp
  have hout : outputResult afterPlan p = (none, p.setMark 0x524c0001) := by decide
  have hegress : egressResult afterPlan ((p.setMark 0x524c0001).routed 6 "wg0") =
      (none, (p.setMark 0x524c0001).routed 6 "wg0") := by decide
  refine hstays p ⟨rfl, _, rfl, rfl, rfl, rfl, rfl⟩ ⟨by decide, p.setMark 0x524c0001,
    compileLane twoLinks laneA 0, ?_, List.mem_cons_self, by decide, by decide, by decide, ?_⟩
  · rw [evalChainOf_output hwf (c := ⟨0x524c0001, .established, .original, .v4 0x0a020002#32⟩) rfl,
      hout]
  · rw [evalChainOf_egress hwf]
    exact congrArg some hegress

end RouteLane
