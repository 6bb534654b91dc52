import RouteLane.Nft.Output
import RouteLane.Policy.PlannerSemantics

/-!
# New flows

The policy a plan states for a packet that opens a connection — which lane it
leaves through, or that it may not leave — and the proof that the rendered output
chain carries that policy out.
-/

namespace RouteLane

open Nft Chains

/-! ## The policy of a plan -/

/-- What is to become of a packet: it goes on unmarked, or with the mark of a lane, or
not at all. -/
inductive Decision where
  | pass
  | mark (m : ℕ)
  | refuse
  deriving DecidableEq, Repr

/-- The decision for the lane with this mark. -/
def laneDecision (plan : KernelPlan) (f : IpFamily) (m : ℕ) : Decision :=
  if plan.laneReady f m then .mark m else .refuse

/-- The decision for the effective primary exit of a family. -/
def primaryDecision (plan : KernelPlan) (f : IpFamily) : Decision :=
  match plan.primary.effective.get f with
  | .blocked => .refuse
  | .lane id =>
    match plan.lanes.find? fun l => l.id == id with
    | some lane => if lane.ready f then .mark lane.mark else .refuse
    | none => .refuse

/-- The decision of a plan: the first rule that matches decides, local networks are let
through, and the rest takes the primary exit. -/
def planDecision (plan : KernelPlan) (p : Packet) : Decision :=
  match plan.rules.find? (CompiledRule.matches p.daddr p.cgroup) with
  | some rule =>
    match rule.action with
    | .mark m => laneDecision plan p.family m
    | .direct => primaryDecision plan p.family
    | .block => .refuse
  | none =>
    if plan.localNetworks.any (fun n => n.contains p.daddr) then .pass
    else primaryDecision plan p.family

/-- An evaluation carries a decision out: it accepts the packet as it came, accepts it
with the mark on packet and connection, or rejects it. -/
def CarriesOut (p : Packet) (result : Option (Option Verdict × Packet)) : Decision → Prop
  | .pass => result = some (none, p)
  | .mark m => result = some (none, p.setMarks m)
  | .refuse => ∃ f, result = some (some (.reject f), p)

/-- Every network rule carries the family of its network, as the compiler emits them. -/
def KernelPlan.FamiliesAgree (plan : KernelPlan) : Prop :=
  ∀ rule ∈ plan.rules, ∀ n, rule.target = .network n → rule.family = n.family

/-! ## The chain carries the policy out -/

section NewFlows

variable {plan : KernelPlan} {p : Packet} {c : Conntrack}

/-- Where the families agree, the chain's matches are the plan's. -/
theorem explicitHit_eq_matches {rule : CompiledRule}
    (h : ∀ n, rule.target = .network n → rule.family = n.family) :
    explicitHit p rule = rule.matches p.daddr p.cgroup := by
  rw [explicitHit, CompiledRule.matches]
  cases ht : rule.target with
  | any => rfl
  | cgroup path => rfl
  | network n =>
    rw [h n ht, Bool.eq_iff_iff]
    simp only [CompiledTarget.matches, Bool.and_eq_true, beq_iff_eq]
    exact ⟨fun hc => ⟨IpNet.family_of_contains hc, hc⟩, fun hc => hc.2⟩

theorem find?_explicitHit (h : plan.FamiliesAgree) :
    plan.rules.find? (explicitHit p) =
      plan.rules.find? (CompiledRule.matches p.daddr p.cgroup) := by
  refine List.find?_congr ?_
  intro rule hrule
  exact explicitHit_eq_matches (h rule hrule)

/-- A packet that opens a connection leaves the selection chain of a lane with its mark,
or is rejected. -/
theorem markResult_new (hct : p.ct = some c) (hmark : c.mark = 0) (hstate : c.state = .new)
    (hdir : c.direction = .original) (f : IpFamily) (m : ℕ) :
    CarriesOut p (some (markResult plan f (some m) p)) (laneDecision plan f m) := by
  have hz : p.ctMark = 0 := by rw [Packet.ctMark_of_ct hct, hmark]
  have hsession : unmanagedSession p = false := by simp [unmanagedSession, hct, hstate, hdir]
  have hopens : opensFlow p = true := by simp [opensFlow, hct, hstate, hdir]
  by_cases hready : plan.laneReady f m = true
  · have hany : plan.lanes.any (fun l => l.mark == m) = true := by
      obtain ⟨lane, hlane, hl⟩ := List.any_eq_true.1 hready
      rw [Bool.and_eq_true] at hl
      exact List.any_eq_true.2 ⟨lane, hlane, hl.2⟩
    rw [laneDecision, if_pos hready]
    simp [CarriesOut, markResult, hany, selectResult, hz, hsession, hready, hopens]
  · rw [laneDecision, if_neg hready]
    rw [Bool.not_eq_true] at hready
    cases hany : plan.lanes.any fun l => l.mark == m with
    | true => exact ⟨none, by simp [markResult, hany, selectResult, hz, hsession, hready]⟩
    | false => exact ⟨some f, by simp [markResult, hany]⟩

/-- The effective primary exit, as the marks of the chain express it. -/
theorem markResult_primary (hwf : plan.WellFormed) (hct : p.ct = some c) (hmark : c.mark = 0)
    (hstate : c.state = .new) (hdir : c.direction = .original) (f : IpFamily) :
    CarriesOut p (some (markResult plan f (primaryMark plan f) p)) (primaryDecision plan f) := by
  rw [primaryMark, primaryDecision]
  cases plan.primary.effective.get f with
  | blocked => exact ⟨some f, rfl⟩
  | lane id =>
    simp only [FirstMatch.find?_key_and hwf.ids_nodup]
    cases hfind : plan.lanes.find? fun l => l.id == id with
    | none => exact ⟨some f, rfl⟩
    | some lane =>
      have hlane : lane ∈ plan.lanes := List.mem_of_find?_eq_some hfind
      have hlaneDecision : laneDecision plan f lane.mark =
          if lane.ready f then .mark lane.mark else .refuse := by
        rw [laneDecision, laneReady_eq hwf hlane]
      by_cases hready : lane.ready f = true
      · simp only [Option.filter, hready, if_true, Option.map_some] at hlaneDecision ⊢
        rw [← hlaneDecision]
        exact markResult_new hct hmark hstate hdir f lane.mark
      · simp only [Option.filter, hready]
        exact ⟨some f, rfl⟩

end NewFlows

/-- The rendered output chain carries out the policy of a plan on every packet that opens
a connection: the first matching rule decides, local networks pass, the rest takes the
primary exit, and a lane that is not ready takes nothing. -/
theorem output_implements_plan (blake3 : Blake3) {plan : KernelPlan} {pending : Option KernelPlan}
    {guard : Bool} (hvalid : validatePrivilegedPlan plan = .ok ()) (hfam : plan.FamiliesAgree)
    {p : Packet} {c : Conntrack} (hmeta : p.mark = 0) (hct : p.ct = some c) (hmark : c.mark = 0)
    (hstate : c.state = .new) (hdir : c.direction = .original)
    (hexempt : controlExempt plan.localNetworks p = false) :
    CarriesOut p (evalChainOf (renderNftDocument blake3 (some plan) pending guard) .output p)
      (planDecision plan p) := by
  have hwf := validatePrivilegedPlan_eq_ok.1 hvalid
  have hz : p.ctMark = 0 := by rw [Packet.ctMark_of_ct hct, hmark]
  have hforeign : (foreignMark p.mark || foreignMark p.ctMark) = false := by
    rw [hmeta, hz]
    decide
  have hown : ownMark p.ctMark = false := by
    rw [hz]
    decide
  have hsession : unmanagedSession p = false := by simp [unmanagedSession, hct, hstate, hdir]
  have hprimary := markResult_primary hwf hct hmark hstate hdir p.family
  rw [evalChainOf_output hwf hct, outputResult, hexempt, hforeign, planDecision,
    find?_explicitHit hfam]
  simp only [Bool.false_eq_true, if_false, hown, hsession]
  cases hfind : plan.rules.find? (CompiledRule.matches p.daddr p.cgroup) with
  | some rule =>
    have hfamily : rule.family = p.family := by
      have hm := List.find?_some hfind
      rw [CompiledRule.matches, Bool.and_eq_true, beq_iff_eq] at hm
      exact hm.1
    simp only [explicitMark, hfamily]
    cases rule.action with
    | mark m => exact markResult_new hct hmark hstate hdir p.family m
    | direct => exact hprimary
    | block => exact ⟨some p.family, rfl⟩
  | none =>
    simp only
    by_cases hlocal : (plan.localNetworks.any fun n => n.contains p.daddr) = true
    · rw [if_pos hlocal, if_pos hlocal]
      rfl
    · rw [if_neg hlocal, if_neg hlocal]
      exact hprimary

/-- The first packet of a connection to a host in the network the rule of the plan names. -/
def openingPacket : Packet where
  daddr := .v4 0x0a010203#32
  daddrType := "unicast"
  mark := 0
  iif := 0
  iifname := ""
  oif := 2
  oifname := "eth0"
  udp := none
  hoplimit := 64
  icmpv6Type := none
  cgroup := none
  ct := some ⟨0, .new, .original, .v4 0x0a020002#32⟩
  ct_family := by simp [IpAddr.family]

/-- Digests that tell nothing apart. -/
def blankDigests : Blake3 := ⟨fun _ => "", fun _ => "", fun _ => ""⟩

theorem output_implements_plan_standIn :
    CarriesOut openingPacket
      (evalChainOf (renderNftDocument blankDigests (some standInPlan) none false) .output
        openingPacket) (planDecision standInPlan openingPacket) := by
  have hfam : standInPlan.FamiliesAgree := by simp [KernelPlan.FamiliesAgree, standInPlan, IpNet.family]
  exact output_implements_plan blankDigests (by decide) hfam (c := ⟨0, .new, .original, .v4 0x0a020002#32⟩)
    rfl rfl rfl rfl rfl (by decide)

end RouteLane
