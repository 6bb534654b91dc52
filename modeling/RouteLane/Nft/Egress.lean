import RouteLane.Nft.MarkedFlows

/-!
# The egress chains

The last look at a locally generated packet before it leaves the machine.  A packet
with a mark of RouteLane's leaves only through the interface of the lane the mark
belongs to, and only such packets are masqueraded.
-/

namespace RouteLane

open Nft Chains

/-- The packet belongs to a flow of this lane and leaves through its interface: the lane is
ready for the family, packet and connection carry its mark, the packet goes in the
direction that opened the connection from a local address, and the interface is the one
observed, by index and by name. -/
def leavesThrough (plan : KernelPlan) (p : Packet) (lane : LanePlan) : Bool :=
  lane.ready p.family && p.mark == lane.mark &&
    p.ct.any (fun c => c.mark == lane.mark && c.direction == .original &&
      decide (c.saddr ∈ plan.localAddresses)) &&
    p.oif == lane.ifindex && p.oifname == lane.interface

/-! ## The scope of a lane -/

/-- The lanes that own egress rules, with the source proof of the family they own them in. -/
def readyPairs (plan : KernelPlan) : List (Expr × LanePlan) :=
  families.flatMap fun f =>
    match sourceProof plan f with
    | none => []
    | some source => (plan.lanes.filter fun l => l.ready f).map fun lane => (source, lane)

theorem perReadyLane_eq (plan : KernelPlan) (rule : Expr → LanePlan → List Expr) :
    perReadyLane plan rule = (readyPairs plan).map fun pair => rule pair.1 pair.2 := by
  rw [perReadyLane, readyPairs, List.map_flatMap]
  refine List.flatMap_congr ?_
  intro f _
  cases sourceProof plan f with
  | none => rfl
  | some source => rw [List.map_map]; rfl

theorem mem_readyPairs {plan : KernelPlan} {source : Expr} {lane : LanePlan} :
    (source, lane) ∈ readyPairs plan ↔
      ∃ f, sourceProof plan f = some source ∧ lane ∈ plan.lanes ∧ lane.ready f = true := by
  rw [readyPairs, List.mem_flatMap]
  constructor
  · rintro ⟨f, -, h⟩
    cases hs : sourceProof plan f with
    | none => simp [hs] at h
    | some source' =>
      rw [hs] at h
      obtain ⟨lane', hlane', heq⟩ := List.mem_map.1 h
      obtain ⟨rfl, rfl⟩ := Prod.mk.inj heq
      rw [List.mem_filter] at hlane'
      exact ⟨f, hs, hlane'.1, hlane'.2⟩
  · rintro ⟨f, hs, hlane, hready⟩
    refine ⟨f, mem_families f, ?_⟩
    rw [hs]
    exact List.mem_map.2 ⟨lane, List.mem_filter.2 ⟨hlane, hready⟩, rfl⟩

theorem mem_sourceAddresses {plan : KernelPlan} {f : IpFamily} {a : IpAddr} :
    a ∈ sourceAddresses plan f ↔ a ∈ plan.localAddresses ∧ a.family = f := by
  rw [sourceAddresses, FirstMatch.mem_sorted_dedup, List.mem_filter, beq_iff_eq]

/-- A family has a source proof when the machine has an address of it. -/
theorem exists_sourceProof {plan : KernelPlan} {a : IpAddr} (h : a ∈ plan.localAddresses) :
    ∃ source, sourceProof plan a.family = some source := by
  have ha : a ∈ sourceAddresses plan a.family := mem_sourceAddresses.2 ⟨h, rfl⟩
  rw [sourceProof]
  match hs : sourceAddresses plan a.family with
  | [] => rw [hs] at ha; exact absurd ha List.not_mem_nil
  | [b] => exact ⟨_, rfl⟩
  | b :: b' :: rest => exact ⟨_, rfl⟩

/-- The source proof of a family: the connection was opened by a local address of it. -/
theorem sourceProof_spec {plan : KernelPlan} {f : IpFamily} {source : Expr}
    (h : sourceProof plan f = some source) (p : Packet) :
    source.isMatch = true ∧ source.holds p =
      p.ct.any fun c => c.saddr.family == f && decide (c.saddr ∈ plan.localAddresses) := by
  have hmem : ∀ a : IpAddr, (a.family == f && decide (a ∈ plan.localAddresses)) =
      decide (a ∈ sourceAddresses plan f) := by
    intro a
    rw [Bool.eq_iff_iff, decide_eq_true_iff, mem_sourceAddresses]
    simp [and_comm]
  have hread : ∀ right : Right, (∀ a, right.holds (.addr a) = decide (a ∈ sourceAddresses plan f)) →
      (Expr.match (.ct (.saddr f)) .eq right).holds p =
        p.ct.any fun c => c.saddr.family == f && decide (c.saddr ∈ plan.localAddresses) := by
    intro right hright
    rw [holds_match, Operand.read]
    cases hc : p.ct with
    | none => rfl
    | some c =>
      rw [Option.any_some, hmem]
      by_cases hf : c.saddr.family = f
      · simp [Option.filter, hf, Op.test, hright]
      · have hnot : c.saddr ∉ sourceAddresses plan f := fun hin => hf (mem_sourceAddresses.1 hin).2
        simp [Option.filter, hf, hnot]
  rw [sourceProof] at h
  split at h
  · cases h
  · rename_i b hs
    obtain rfl := Option.some.inj h
    refine ⟨rfl, hread _ ?_⟩
    intro a
    rw [hs, Bool.eq_iff_iff]
    simp [Right.holds]
  · obtain rfl := Option.some.inj h
    refine ⟨rfl, hread _ ?_⟩
    intro a
    rw [Bool.eq_iff_iff]
    simp [Right.holds]

theorem laneScope_isMatch {source : Expr} (h : source.isMatch = true) (lane : LanePlan) :
    ∀ e ∈ laneScope source lane, e.isMatch = true := by
  simp [laneScope, h]

/-- The scope of a lane, in the family of its source proof, is that of the packets leaving
through it. -/
theorem all_holds_laneScope {plan : KernelPlan} {f : IpFamily} {source : Expr}
    (hs : sourceProof plan f = some source) {lane : LanePlan} (hready : lane.ready f = true)
    (p : Packet) :
    (laneScope source lane).all (Expr.holds p) = true ↔
      p.iif = 0 ∧ p.family = f ∧ leavesThrough plan p lane = true := by
  have hsource := (sourceProof_spec hs p).2
  cases hc : p.ct with
  | none => simp [laneScope, hsource, hc, leavesThrough]
  | some c =>
    have hfamily : c.saddr.family = p.family := p.ct_family c hc
    have hdir : ∀ d : CtDirection, d.text = "original" ↔ d = .original := by
      intro d
      cases d <;> simp [CtDirection.text]
    simp only [laneScope, List.all_cons, List.all_nil, Bool.and_true, Bool.and_eq_true, hsource, hc,
      holds_equal, Operand.read, Option.map_some, Option.any_some, leavesThrough, hfamily,
      decide_eq_true_eq, beq_iff_eq, Option.some.injEq, Datum.num.injEq, Datum.str.injEq, hdir]
    constructor
    · rintro ⟨hiif, hoif, hname, hd, ⟨hf, hlocal⟩, hcm, hm⟩
      exact ⟨hiif, hf, ⟨⟨⟨hf ▸ hready, hm⟩, ⟨hcm, hd⟩, hlocal⟩, hoif⟩, hname⟩
    · rintro ⟨hiif, hf, ⟨⟨⟨-, hm⟩, ⟨hcm, hd⟩, hlocal⟩, hoif⟩, hname⟩
      exact ⟨hiif, hoif, hname, hd, ⟨hf, hlocal⟩, hcm, hm⟩

/-- Some lane owns a scope the packet is in exactly when the packet leaves through a lane. -/
theorem any_readyPairs (plan : KernelPlan) (p : Packet) :
    ((readyPairs plan).any fun pair => (laneScope pair.1 pair.2).all (Expr.holds p)) =
      (p.iif == 0 && plan.lanes.any (leavesThrough plan p)) := by
  rw [Bool.eq_iff_iff, Bool.and_eq_true, List.any_eq_true, List.any_eq_true, beq_iff_eq]
  constructor
  · rintro ⟨⟨source, lane⟩, hpair, hall⟩
    obtain ⟨f, hs, hlane, hready⟩ := mem_readyPairs.1 hpair
    obtain ⟨hiif, -, hleaves⟩ := (all_holds_laneScope hs hready p).1 hall
    exact ⟨hiif, lane, hlane, hleaves⟩
  · rintro ⟨hiif, lane, hlane, hleaves⟩
    have hl := hleaves
    rw [leavesThrough] at hl
    simp only [Bool.and_eq_true, Option.any_eq_true_iff_get] at hl
    obtain ⟨⟨⟨⟨hready, -⟩, hsome, ⟨-, hlocal⟩⟩, -⟩, -⟩ := hl
    have hfamily := p.ct_family _ (Option.some_get hsome).symm
    obtain ⟨source, hs⟩ := exists_sourceProof (of_decide_eq_true hlocal)
    rw [hfamily] at hs
    exact ⟨(source, lane), mem_readyPairs.2 ⟨p.family, hs, hlane, hready⟩,
      (all_holds_laneScope hs hready p).2 ⟨hiif, rfl, hleaves⟩⟩

/-! ## The chains -/

/-- The rules of the lanes end with the same action for every packet in one of their scopes. -/
theorem runRules_perReadyLane (plan : KernelPlan) (tail : List Expr) (p : Packet)
    (out : Flow Packet ChainName Verdict) (hout : ∀ s', out ≠ .next s' ∧ out ≠ .skip s')
    (htail : runRule exec tail p = out) :
    runRules exec (perReadyLane plan fun source lane => laneScope source lane ++ tail) p =
      if p.iif == 0 && plan.lanes.any (leavesThrough plan p) then out else .next p := by
  have hrule : ∀ pair ∈ readyPairs plan, runRule exec (laneScope pair.1 pair.2 ++ tail) p =
      if (laneScope pair.1 pair.2).all (Expr.holds p) then out else .skip p := by
    intro pair hpair
    obtain ⟨f, hs, -, -⟩ := mem_readyPairs.1 hpair
    rw [runRule_matches (laneScope_isMatch (sourceProof_spec hs p).1 pair.2), htail]
  have hany := runRules_any exec (fun pair : Expr × LanePlan => laneScope pair.1 pair.2 ++ tail)
    (fun pair => (laneScope pair.1 pair.2).all (Expr.holds p)) hout (readyPairs plan) hrule
  rw [perReadyLane_eq, hany, any_readyPairs]

/-- What the egress guard does: forwarded and control traffic is not its business, a packet
in the scope of a lane passes, and any other packet with a mark of RouteLane's is dropped. -/
def egressResult (plan : KernelPlan) (p : Packet) : Option Verdict × Packet :=
  if p.iif ≠ 0 then (none, p)
  else if controlExempt plan.localNetworks p then (none, p)
  else if plan.lanes.any (leavesThrough plan p) then (none, p)
  else if ownMark p.mark then (some .drop, p)
  else (none, p)

section Eval

variable {blake3 : Blake3} {plan : KernelPlan} {pending : Option KernelPlan} {guard : Bool}
  {p : Packet}

theorem evalChainOf_egress (hwf : plan.WellFormed) :
    evalChainOf (renderNftDocument blake3 (some plan) pending guard) .egressGuard p =
      some (egressResult plan p) := by
  have hmem : egressChain plan ∈ policyChains plan := by simp [policyChains]
  have hrules : rulesOf (renderNftDocument blake3 (some plan) pending guard) .egressGuard =
      (egressChain plan).rules :=
    rulesOf_chain (fun q hq => Option.some.inj hq ▸ hwf) (mem_renderChains_policy hmem)
  have hret : ∀ s' : Packet, (Flow.ret p : Flow Packet ChainName Verdict) ≠ .next s' ∧
      (Flow.ret p : Flow Packet ChainName Verdict) ≠ .skip s' := fun s' => ⟨by simp, by simp⟩
  have hiif : runRule exec [.match (.meta .iif) .ne (.one (.num 0)), .ret] p =
      if p.iif = 0 then .skip p else .ret p := by
    by_cases hz : p.iif = 0 <;> simp [runRule_cons, exec, Operand.read, Op.test, Right.holds, hz]
  have hlast : runRules exec [[owned (.meta .mark), .drop]] p =
      if ownMark p.mark then .stop .drop p else .next p := by
    have hm : ∀ e ∈ [owned (.meta .mark)], e.isMatch = true := by simp [owned, Expr.isMatch]
    have hmatch := runRule_matches hm [.drop] p
    have hdrop : runRule exec [owned (.meta .mark), .drop] p =
        if ownMark p.mark then .stop .drop p else .skip p := by
      simpa [holds_owned (readsMark_meta p), exec] using hmatch
    rw [runRules_cons, hdrop]
    cases ownMark p.mark <;> rfl
  have hlanes := runRules_perReadyLane plan [.ret] p (.ret p) hret rfl
  rw [evalChainOf, hrules, egressResult, egressChain]
  simp only [List.append_assoc]
  by_cases hz : p.iif = 0
  · rw [if_neg (not_not.2 hz)]
    simp only [hz, beq_self_eq_true, Bool.true_and] at hlanes
    have hrun : ∀ rules, runRules exec
        ([[.match (.meta .iif) .ne (.one (.num 0)), .ret]] ++ rules) p = runRules exec rules p := by
      intro rules
      rw [List.singleton_append, runRules_cons, hiif, if_pos hz]
    by_cases hexempt : controlExempt plan.localNetworks p = true
    · rw [if_pos hexempt]
      refine evalChain_of_ret exec ?_
      rw [hrun, runRules_append, runRules_controls, if_pos hexempt]
    rw [if_neg hexempt]
    by_cases hlane : plan.lanes.any (leavesThrough plan p) = true
    · rw [if_pos hlane]
      refine evalChain_of_ret exec ?_
      rw [hrun, runRules_append, runRules_controls, if_neg hexempt]
      simp only
      rw [runRules_append, hlanes, if_pos hlane]
    rw [if_neg hlane]
    by_cases hown : ownMark p.mark = true
    · rw [if_pos hown]
      refine evalChain_of_stop exec ?_
      rw [hrun, runRules_append, runRules_controls, if_neg hexempt]
      simp only
      rw [runRules_append, hlanes, if_neg hlane]
      simp only
      rw [hlast, if_pos hown]
    · rw [if_neg hown]
      refine evalChain_of_next exec ?_
      rw [hrun, runRules_append, runRules_controls, if_neg hexempt]
      simp only
      rw [runRules_append, hlanes, if_neg hlane]
      simp only
      rw [hlast, if_neg hown]
  · rw [if_pos hz]
    refine evalChain_of_ret exec ?_
    rw [List.singleton_append, runRules_cons, hiif, if_neg hz]

/-- What the source NAT chain does: it masquerades the packets in the scope of a lane. -/
theorem evalChainOf_nat (hwf : plan.WellFormed) :
    evalChainOf (renderNftDocument blake3 (some plan) pending guard) .sourceNat p =
      some (if p.iif == 0 && plan.lanes.any (leavesThrough plan p) then some .masquerade else none,
        p) := by
  have hmem : natChain plan ∈ policyChains plan := by simp [policyChains]
  have hrules : rulesOf (renderNftDocument blake3 (some plan) pending guard) .sourceNat =
      (natChain plan).rules :=
    rulesOf_chain (fun q hq => Option.some.inj hq ▸ hwf) (mem_renderChains_policy hmem)
  have hstop : ∀ s' : Packet,
      (Flow.stop .masquerade p : Flow Packet ChainName Verdict) ≠ .next s' ∧
      (Flow.stop .masquerade p : Flow Packet ChainName Verdict) ≠ .skip s' :=
    fun s' => ⟨by simp, by simp⟩
  have hrun := runRules_perReadyLane plan [.counter none, .masquerade] p (.stop .masquerade p)
    hstop rfl
  rw [evalChainOf, hrules, natChain]
  by_cases hlane : (p.iif == 0 && plan.lanes.any (leavesThrough plan p)) = true
  · rw [if_pos hlane] at hrun ⊢
    exact evalChain_of_stop exec hrun
  · rw [if_neg hlane] at hrun ⊢
    exact evalChain_of_next exec hrun

end Eval

/-- A locally generated packet with a mark of RouteLane's that is not control traffic passes
the egress guard only through the interface of its lane and is dropped otherwise; and only
packets of that kind are masqueraded. -/
theorem egress_confined (blake3 : Blake3) {plan : KernelPlan} {pending : Option KernelPlan}
    {guard : Bool} (hvalid : validatePrivilegedPlan plan = .ok ()) {p : Packet} (hiif : p.iif = 0)
    (hmark : ownMark p.mark = true) (hexempt : controlExempt plan.localNetworks p = false) :
    (evalChainOf (renderNftDocument blake3 (some plan) pending guard) .egressGuard p =
        if plan.lanes.any (leavesThrough plan p) then some (none, p) else some (some .drop, p)) ∧
      ∀ q v q', evalChainOf (renderNftDocument blake3 (some plan) pending guard) .sourceNat q =
          some (v, q') →
        q' = q ∧ (v = none ∨ v = some .masquerade ∧ q.iif = 0 ∧ ∃ lane ∈ plan.lanes,
          leavesThrough plan q lane = true) := by
  have hwf := validatePrivilegedPlan_eq_ok.1 hvalid
  refine ⟨?_, ?_⟩
  · rw [evalChainOf_egress hwf, egressResult, if_neg (not_not.2 hiif), hexempt, hmark]
    cases plan.lanes.any (leavesThrough plan p) <;> rfl
  · intro q v q' h
    rw [evalChainOf_nat hwf] at h
    obtain ⟨rfl, rfl⟩ := Prod.mk.inj (Option.some.inj h)
    refine ⟨rfl, ?_⟩
    by_cases hlane : (q.iif == 0 && plan.lanes.any (leavesThrough plan q)) = true
    · rw [if_pos hlane]
      rw [Bool.and_eq_true, beq_iff_eq, List.any_eq_true] at hlane
      exact Or.inr ⟨rfl, hlane.1, hlane.2⟩
    · rw [if_neg hlane]
      exact Or.inl rfl

/-- A packet of a flow of the second lane of the plan, on its way out through another
interface. -/
def strayPacket : Packet :=
  { openingPacket with
    mark := 0x524c0002
    ct := some ⟨0x524c0002, .established, .original, .v4 0x0a020002#32⟩
    ct_family := by simp [openingPacket, IpAddr.family] }

theorem egress_confined_stray :
    (evalChainOf (renderNftDocument blankDigests (some standInPlan) none false) .egressGuard
        strayPacket =
      if standInPlan.lanes.any (leavesThrough standInPlan strayPacket) then some (none, strayPacket)
      else some (some .drop, strayPacket)) ∧
      ∀ q v q', evalChainOf (renderNftDocument blankDigests (some standInPlan) none false)
          .sourceNat q = some (v, q') →
        q' = q ∧ (v = none ∨ v = some .masquerade ∧ q.iif = 0 ∧ ∃ lane ∈ standInPlan.lanes,
          leavesThrough standInPlan q lane = true) :=
  egress_confined blankDigests (by decide) (by decide) (by decide) (by decide)

end RouteLane
