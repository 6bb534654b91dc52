import RouteLane.Nft.NewFlows

/-!
# Marked flows

What the output chain does to a packet whose connection carries a mark already.  The
mark may come from another plan: nothing here assumes that the plan in force set it.
-/

namespace RouteLane

open Nft Chains

/-- A marked packet is refused, goes on with the mark of its connection because a lane
ready for the family has that mark, or is control traffic and is left alone.  The mark
of the connection stays, and a foreign one gets nothing but control traffic out. -/
def KeepsMark (plan : KernelPlan) (f : IpFamily) (p : Packet)
    (result : Option (Option Verdict × Packet)) : Prop :=
  ∃ v p', result = some (v, p') ∧ p'.ct = p.ct ∧
    ((∃ kind, v = some (.reject kind)) ∨
      (v = none ∧ p' = p.setMark p.ctMark ∧ plan.laneReady f p.ctMark = true) ∨
      (v = none ∧ p' = p ∧ controlExempt plan.localNetworks p = true)) ∧
    (ownMark p.ctMark = false → controlExempt plan.localNetworks p = false →
      ∃ kind, v = some (.reject kind))

/-- The family a packet is handled under: that of the rule that decides it, its own when
no rule does. -/
def decidingFamily (plan : KernelPlan) (p : Packet) : IpFamily :=
  match plan.rules.find? (explicitHit p) with
  | some rule => rule.family
  | none => p.family

/-- Where network rules carry the family of their network, packets are handled under
their own family. -/
theorem decidingFamily_eq {plan : KernelPlan} (hfam : plan.FamiliesAgree) (p : Packet) :
    decidingFamily plan p = p.family := by
  rw [decidingFamily]
  cases hfind : plan.rules.find? (explicitHit p) with
  | none => rfl
  | some rule =>
    have hhit := List.find?_some hfind
    rw [explicitHit_eq_matches (hfam rule (List.mem_of_find?_eq_some hfind)), CompiledRule.matches,
      Bool.and_eq_true, beq_iff_eq] at hhit
    exact hhit.1

section MarkedFlows

variable {plan : KernelPlan} {p : Packet}

theorem keepsMark_reject (f : IpFamily) (kind : Option IpFamily) :
    KeepsMark plan f p (some (some (.reject kind), p)) :=
  ⟨_, _, rfl, rfl, Or.inl ⟨kind, rfl⟩, fun _ _ => ⟨kind, rfl⟩⟩

/-- Marks of lanes lie in the reserved range. -/
theorem ownMark_of_laneReady (hwf : plan.WellFormed) {f : IpFamily} {m : ℕ}
    (h : plan.laneReady f m = true) : ownMark m = true := by
  obtain ⟨lane, hlane, hl⟩ := List.any_eq_true.1 h
  rw [Bool.and_eq_true, beq_iff_eq] at hl
  have hrange := (hwf.inRange lane hlane).mark_mem
  simp [ownMark, ← hl.2, hrange]

theorem keepsMark_restoreResult (hwf : plan.WellFormed) (f : IpFamily) :
    KeepsMark plan f p (some (restoreResult plan f p)) := by
  by_cases hready : plan.laneReady f p.ctMark = true
  · refine ⟨none, p.setMark p.ctMark, ?_, rfl, Or.inr (Or.inl ⟨rfl, rfl, hready⟩), ?_⟩
    · rw [restoreResult, if_pos hready]
    · intro hown
      exact absurd (ownMark_of_laneReady hwf hready) (by simp [hown])
  · rw [restoreResult, if_neg hready]
    exact keepsMark_reject f none

/-- Whatever lane a rule or the primary exit names, a marked packet ends in the restore
chain or is rejected. -/
theorem keepsMark_markResult (hwf : plan.WellFormed) (hmark : p.ctMark ≠ 0) (f : IpFamily)
    (m : Option ℕ) : KeepsMark plan f p (some (markResult plan f m p)) := by
  cases m with
  | none => exact keepsMark_reject f (some f)
  | some m =>
    rw [markResult]
    split
    · rw [selectResult, if_neg hmark]
      exact keepsMark_restoreResult hwf f
    · exact keepsMark_reject f (some f)

end MarkedFlows

/-- The rendered output chain keeps the mark of every marked connection, whichever plan set
it: a packet of it gets out only as control traffic, or with that very mark while a lane
that has it is ready for the family the packet is handled under. -/
theorem output_keeps_mark (blake3 : Blake3) {plan : KernelPlan} {pending : Option KernelPlan}
    {guard : Bool} (hvalid : validatePrivilegedPlan plan = .ok ()) {p : Packet}
    (hmark : p.ctMark ≠ 0) :
    KeepsMark plan (decidingFamily plan p) p
        (evalChainOf (renderNftDocument blake3 (some plan) pending guard) .output p) ∧
      (plan.FamiliesAgree → decidingFamily plan p = p.family) := by
  have hwf := validatePrivilegedPlan_eq_ok.1 hvalid
  refine ⟨?_, fun hfam => decidingFamily_eq hfam p⟩
  obtain ⟨c, hct⟩ : ∃ c, p.ct = some c := by
    cases hc : p.ct with
    | none => simp [Packet.ctMark, hc] at hmark
    | some c => exact ⟨c, rfl⟩
  rw [evalChainOf_output hwf hct, outputResult]
  by_cases hexempt : controlExempt plan.localNetworks p = true
  · rw [if_pos hexempt]
    refine ⟨none, p, rfl, rfl, Or.inr (Or.inr ⟨rfl, rfl, hexempt⟩), ?_⟩
    intro _ hnot
    exact absurd hexempt (by simp [hnot])
  rw [if_neg hexempt]
  by_cases hforeign : (foreignMark p.mark || foreignMark p.ctMark) = true
  · rw [if_pos hforeign]
    exact keepsMark_reject _ none
  rw [if_neg hforeign, decidingFamily]
  cases plan.rules.find? (explicitHit p) with
  | some rule => exact keepsMark_markResult hwf hmark rule.family (explicitMark plan rule)
  | none =>
    have hown : ownMark p.ctMark = true := by
      rw [Bool.or_eq_true, not_or, Bool.not_eq_true, Bool.not_eq_true] at hforeign
      rw [ownMark_eq, hforeign.2]
      simpa using hmark
    simp only [hown, if_true]
    exact keepsMark_restoreResult hwf p.family

/-- A later packet of an IPv4 connection with the mark of the first lane. -/
def markedPacket : Packet :=
  { openingPacket with
    ct := some ⟨0x524c0001, .established, .original, .v4 0x0a020002#32⟩
    ct_family := by simp [openingPacket, IpAddr.family] }

theorem output_keeps_mark_standIn :
    KeepsMark standInPlan (decidingFamily standInPlan markedPacket) markedPacket
        (evalChainOf (renderNftDocument blankDigests (some standInPlan) none false) .output
          markedPacket) ∧
      (standInPlan.FamiliesAgree → decidingFamily standInPlan markedPacket = markedPacket.family) :=
  output_keeps_mark blankDigests (by decide) (by decide)

/-- A lane that is ready for IPv6 only. -/
def lane6 : LanePlan where
  identity := some ⟨7, "wg1", "wireguard", none⟩
  sourceV4 := []
  sourceV6 := [0x20010db8000000000000000000000002#128]
  id := "a"
  interface := "wg1"
  routeV4 := none
  routeV6 := some .device
  availability := .available
  table := 20000
  mark := 0x524c0001
  rulePriority := 10000
  failurePolicy := .block

theorem prefix_le_v4_bits : 8 ≤ 32 := by decide

/-- A plan whose IPv6 rule has an IPv4 network. -/
def crossedPlan : KernelPlan where
  primary := noPrimary
  localNetworks := []
  localAddresses := []
  generation := 1
  profileId := "p"
  lanes := [lane6]
  rules := [⟨.v6, "r", 10, .network (.v4 ⟨0x0a000000#32, 8, prefix_le_v4_bits⟩), .mark 0x524c0001⟩]

/-- The chain accepts the IPv4 packet with the mark of a lane that is not ready for IPv4:
the rule hands it to the IPv6 chains, and the helper's check of a plan does not look at
the family of a rule. -/
theorem crossedPlan_not_keepsMark :
    validatePrivilegedPlan crossedPlan = .ok () ∧ markedPacket.ctMark ≠ 0 ∧
      ¬ KeepsMark crossedPlan markedPacket.family markedPacket
        (evalChainOf (renderNftDocument blankDigests (some crossedPlan) none false) .output
          markedPacket) := by
  have hvalid : validatePrivilegedPlan crossedPlan = .ok () := by decide
  have hresult : outputResult crossedPlan markedPacket =
      (none, markedPacket.setMark markedPacket.ctMark) := by decide
  refine ⟨hvalid, by decide, ?_⟩
  rw [evalChainOf_output (validatePrivilegedPlan_eq_ok.1 hvalid) rfl, hresult]
  rintro ⟨v, p', heq, -, hcases, -⟩
  obtain ⟨rfl, rfl⟩ := Prod.mk.inj (Option.some.inj heq)
  rcases hcases with ⟨kind, h⟩ | ⟨-, -, h⟩ | ⟨-, h, -⟩
  · exact absurd h (by simp)
  · exact absurd h (by decide)
  · exact absurd h (by decide)

end RouteLane
