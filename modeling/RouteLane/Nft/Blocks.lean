import RouteLane.Nft.Eval

/-!
# Blocks of rules

What the expressions and the rule blocks that several chains share mean for a
packet: which destinations a match accepts, which traffic is control traffic, which
marks are foreign, and which sessions are left alone.
-/

namespace RouteLane

open Nft Chains

/-! ## Matches -/

/-- Whether a packet passes a match. -/
def Nft.Expr.holds (p : Packet) : Expr → Bool
  | .match left op right => (left.read p).any fun d => op.test d right
  | _ => false

def Nft.Expr.isMatch : Expr → Bool
  | .match .. => true
  | _ => false

@[simp] theorem isMatch_equal (left : Operand) (d : Datum) : (equal left d).isMatch = true := rfl

/-- A match lets a packet go on unchanged or ends the rule. -/
theorem exec_of_isMatch {e : Expr} (h : e.isMatch = true) (p : Packet) :
    exec e p = if e.holds p then .next p else .skip p := by
  cases e with
  | «match» left op right =>
    rw [exec, Expr.holds]
    cases left.read p <;> simp
  | _ => simp [Expr.isMatch] at h

/-- The matches at the front of a rule decide whether the rest of it runs. -/
theorem runRule_matches {ms : List Expr} (h : ∀ e ∈ ms, e.isMatch = true) (rest : List Expr)
    (p : Packet) :
    runRule exec (ms ++ rest) p = if ms.all (Expr.holds p) then runRule exec rest p else .skip p := by
  induction ms with
  | nil => rfl
  | cons e ms ih =>
    have he := exec_of_isMatch (h e List.mem_cons_self) p
    have ih' := ih fun e' he' => h e' (List.mem_cons_of_mem _ he')
    rw [List.cons_append, runRule_cons, he, List.all_cons]
    cases e.holds p with
    | true => simpa using ih'
    | false => rfl

theorem holds_match (p : Packet) (left : Operand) (op : Op) (right : Right) :
    (Expr.match left op right).holds p = (left.read p).any fun d => op.test d right := rfl

theorem holds_equal (p : Packet) (left : Operand) (d : Datum) :
    (equal left d).holds p = decide (left.read p = some d) := by
  rw [equal, Expr.holds]
  cases left.read p with
  | none => simp
  | some d' => simp [Op.test, Right.holds, BEq.beq]

@[simp] theorem holds_familyMatch (p : Packet) (f : IpFamily) :
    (familyMatch f).holds p = (f == p.family) := by
  rw [familyMatch, holds_equal]
  cases hf : p.family <;> cases f <;> simp [Operand.read, hf]

/-- A destination match accepts the addresses inside the network. -/
@[simp] theorem holds_destination (p : Packet) (n : IpNet) :
    (destination n).holds p = n.contains p.daddr := by
  rw [destination, Expr.holds, Operand.read, Bool.eq_iff_iff]
  cases n with
  | v4 n =>
    cases hd : p.daddr with
    | v6 a => simp [Packet.family, hd, IpAddr.family, IpNet.family, IpNet.contains]
    | v4 a =>
      by_cases hfull : n.prefixLen = 32
      · simp [Packet.family, hd, IpAddr.family, IpNet.family, IpNet.contains, networkRight, hfull,
          Op.test, Right.holds, NetOf.contains_of_full hfull]
      · simp [Packet.family, hd, IpAddr.family, IpNet.family, IpNet.contains, networkRight, hfull,
          Op.test, Right.holds]
  | v6 n =>
    cases hd : p.daddr with
    | v4 a => simp [Packet.family, hd, IpAddr.family, IpNet.family, IpNet.contains]
    | v6 a =>
      by_cases hfull : n.prefixLen = 128
      · simp [Packet.family, hd, IpAddr.family, IpNet.family, IpNet.contains, networkRight, hfull,
          Op.test, Right.holds, NetOf.contains_of_full hfull]
      · simp [Packet.family, hd, IpAddr.family, IpNet.family, IpNet.contains, networkRight, hfull,
          Op.test, Right.holds]

/-! ## Control traffic -/

/-- Host-local and on-link control traffic: loopback and local destinations, DHCP,
link-local multicast and neighbour discovery. -/
def controlExempt (networks : List IpNet) (p : Packet) : Bool :=
  p.oifname == "lo" || p.daddrType == "local" ||
    (p.udp == some (68, 67) && (p.daddr == broadcastAddr ||
      networks.any fun n => n.family == .v4 && n.contains p.daddr)) ||
    allSystemsNet.contains p.daddr || linkLocalMulticastNet.contains p.daddr ||
    (p.family == .v6 && p.hoplimit == 255 &&
      p.icmpv6Type.any fun t => decide (t ∈ neighbourDiscoveryTypes)) ||
    (p.udp == some (546, 547) && linkLocalNet.contains p.daddr)

/-- The matches of the rules of `controls`. -/
def controlMatches (networks : List IpNet) : List (List Expr) :=
  [[equal (.meta .oifname) (.str "lo")], [equal .fibDaddrType (.str "local")],
    dhcp4Match ++ [equal (.payload (.daddr .v4)) (.addr broadcastAddr)]] ++
  (networks.filter fun n => n.family == .v4).map (fun subnet => dhcp4Match ++ [destination subnet]) ++
  [[destination allSystemsNet], [destination linkLocalMulticastNet],
    [equal (.payload .ip6Hoplimit) (.num 255),
      .match (.payload .icmpv6Type) .eq (.set (neighbourDiscoveryTypes.map .str))],
    [equal (.payload .udpSport) (.num 546), equal (.payload .udpDport) (.num 547),
      destination linkLocalNet]]

theorem controls_eq (networks : List IpNet) :
    controls networks = (controlMatches networks).map fun ms => ms ++ [.ret] := by
  simp [controls, controlMatches, dhcp4Match, Function.comp_def]

theorem isMatch_of_mem_controlMatches {networks : List IpNet} {ms : List Expr}
    (h : ms ∈ controlMatches networks) : ∀ e ∈ ms, e.isMatch = true := by
  simp only [controlMatches, List.mem_append, List.mem_cons, List.mem_map, List.not_mem_nil,
    or_false] at h
  rcases h with ((rfl | rfl | rfl) | ⟨n, -, rfl⟩) | rfl | rfl | rfl | rfl <;>
    simp [dhcp4Match, equal, destination, Expr.isMatch]

/-- A pair of matches on the ports of a UDP packet. -/
theorem all_holds_ports (p : Packet) (sport dport : ℕ) :
    [equal (.payload .udpSport) (.num sport), equal (.payload .udpDport) (.num dport)].all
      (Expr.holds p) = (p.udp == some (sport, dport)) := by
  rw [Bool.eq_iff_iff]
  cases hu : p.udp with
  | none => simp [holds_equal, Operand.read, hu]
  | some ports => simp [holds_equal, Operand.read, hu, Prod.ext_iff]

theorem any_controlMatches (networks : List IpNet) (p : Packet) :
    ((controlMatches networks).any fun ms => ms.all (Expr.holds p)) = controlExempt networks p := by
  have hlo : (equal (.meta .oifname) (.str "lo")).holds p = (p.oifname == "lo") := by
    simp [holds_equal, Operand.read, BEq.beq]
  have hlocal : (equal .fibDaddrType (.str "local")).holds p = (p.daddrType == "local") := by
    simp [holds_equal, Operand.read, BEq.beq]
  have hdhcp : dhcp4Match.all (Expr.holds p) = (p.udp == some (68, 67)) := all_holds_ports p 68 67
  have hbroadcast : (equal (.payload (.daddr .v4)) (.addr broadcastAddr)).holds p =
      (p.daddr == broadcastAddr) := by
    rw [holds_equal, Bool.eq_iff_iff]
    cases hd : p.daddr <;> simp [Operand.read, Packet.family, hd, IpAddr.family, broadcastAddr]
  have hsubnets : (((networks.filter fun n => n.family == .v4).map
      (fun subnet => dhcp4Match ++ [destination subnet])).any fun ms => ms.all (Expr.holds p)) =
        (p.udp == some (68, 67) && networks.any fun n => n.family == .v4 && n.contains p.daddr) := by
    rw [Bool.eq_iff_iff]
    simp only [List.any_map, List.any_filter, List.any_eq_true, Function.comp_apply,
      List.all_append, hdhcp, List.all_cons, holds_destination, List.all_nil, Bool.and_true,
      Bool.and_eq_true]
    tauto
  have hhops : (equal (.payload .ip6Hoplimit) (.num 255)).holds p =
      (p.family == .v6 && p.hoplimit == 255) := by
    rw [holds_equal, Bool.eq_iff_iff]
    cases hf : p.family <;> simp [Operand.read, hf]
  have htype : (Expr.match (.payload .icmpv6Type) .eq
      (.set (neighbourDiscoveryTypes.map .str))).holds p =
        p.icmpv6Type.any fun t => decide (t ∈ neighbourDiscoveryTypes) := by
    rw [Expr.holds, Operand.read]
    cases p.icmpv6Type <;> simp [Op.test, Right.holds]
  have hdhcp6 : [equal (.payload .udpSport) (.num 546), equal (.payload .udpDport) (.num 547),
      destination linkLocalNet].all (Expr.holds p) =
        (p.udp == some (546, 547) && linkLocalNet.contains p.daddr) := by
    have hports := all_holds_ports p 546 547
    simp only [List.all_cons, List.all_nil, Bool.and_true, holds_destination] at hports ⊢
    rw [← hports, Bool.and_assoc]
  rw [controlMatches, List.any_append, List.any_append, hsubnets, controlExempt]
  simp only [List.any_cons, List.any_nil, List.all_append, hdhcp, hdhcp6, List.all_cons, List.all_nil,
    Bool.and_true, Bool.or_false, hlo, hlocal, hbroadcast, hhops, htype, holds_destination]
  rw [Bool.eq_iff_iff]
  simp only [Bool.or_eq_true, Bool.and_eq_true]
  tauto

/-- `controls` lets exactly the control traffic leave the chain. -/
theorem runRules_controls (networks : List IpNet) (p : Packet) :
    runRules exec (controls networks) p =
      if controlExempt networks p then .ret p else .next p := by
  have hret : ∀ s' : Packet, (Flow.ret p : Flow Packet ChainName Verdict) ≠ .next s' ∧
      (Flow.ret p : Flow Packet ChainName Verdict) ≠ .skip s' := fun s' => ⟨by simp, by simp⟩
  have hrule : ∀ ms ∈ controlMatches networks, runRule exec (ms ++ [.ret]) p =
      if ms.all (Expr.holds p) then .ret p else .skip p := by
    intro ms hms
    rw [runRule_matches (isMatch_of_mem_controlMatches hms)]
    rfl
  have hany := runRules_any exec (fun ms : List Expr => ms ++ [Expr.ret])
    (fun ms => ms.all (Expr.holds p)) hret (controlMatches networks) hrule
  rw [controls_eq, hany, any_controlMatches]

/-! ## Marks -/

/-- A mark of someone else's. -/
def foreignMark (m : ℕ) : Bool := (m != 0 && decide (m < markBase)) || decide (markMax < m)

/-- A mark of the reserved range. -/
def ownMark (m : ℕ) : Bool := decide (markBase ≤ m) && decide (m ≤ markMax)

theorem ownMark_eq (m : ℕ) : ownMark m = (m != 0 && !foreignMark m) := by
  have hbase : 0 < markBase := by decide
  rw [Bool.eq_iff_iff]
  simp only [ownMark, foreignMark, Bool.and_eq_true, decide_eq_true_eq, bne_iff_ne,
    Bool.not_eq_true', Bool.or_eq_false_iff, Bool.and_eq_false_iff, decide_eq_false_iff_not,
    bne_eq_false_iff_eq]
  omega

/-- An operand that reads a mark, or nothing where there is no mark to read. -/
def ReadsMark (key : Operand) (p : Packet) (m : ℕ) : Prop :=
  key.read p = some (.num m) ∨ key.read p = none ∧ m = 0

theorem readsMark_meta (p : Packet) : ReadsMark (.meta .mark) p p.mark := Or.inl rfl

theorem readsMark_ct (p : Packet) : ReadsMark (.ct .mark) p p.ctMark := by
  cases hc : p.ct with
  | none => exact Or.inr ⟨by simp [Operand.read, hc], by simp [Packet.ctMark, hc]⟩
  | some c => exact Or.inl (by simp [Operand.read, hc, Packet.ctMark])

/-- Foreign marks are refused. -/
theorem runRules_foreignMarkRules {key : Operand} {p : Packet} {m : ℕ} (h : ReadsMark key p m) :
    runRules exec (foreignMarkRules key) p =
      if foreignMark m then .stop (.reject none) p else .next p := by
  rcases h with h | ⟨h, rfl⟩
  · by_cases hzero : m = 0
    · subst hzero
      simp [foreignMarkRules, runRules_cons, runRule_cons, exec, h, Op.test, Right.holds,
        Datum.compareNum, foreignMark]
    · by_cases hlow : m < markBase
      · simp [foreignMarkRules, runRules_cons, runRule_cons, exec, h, Op.test, Right.holds,
          Datum.compareNum, foreignMark, hzero, hlow]
      · by_cases hhigh : markMax < m
        · simp [foreignMarkRules, runRules_cons, runRule_cons, exec, h, Op.test, Right.holds,
            Datum.compareNum, foreignMark, hzero, hlow, hhigh]
        · simp [foreignMarkRules, runRules_cons, runRule_cons, exec, h, Op.test, Right.holds,
            Datum.compareNum, foreignMark, hzero, hlow, hhigh]
  · simp [foreignMarkRules, runRules_cons, runRule_cons, exec, h, foreignMark]

theorem holds_owned {key : Operand} {p : Packet} {m : ℕ} (h : ReadsMark key p m) :
    (owned key).holds p = ownMark m := by
  rcases h with h | ⟨h, rfl⟩
  · simp [owned, Expr.holds, h, Op.test, Right.holds, ownMark]
  · simp [owned, Expr.holds, h, ownMark, markBase]

/-! ## Sessions -/

/-- An unmarked connection that is already under way, or the answer to one. -/
def unmanagedSession (p : Packet) : Bool :=
  p.ct.any fun c => c.mark == 0 &&
    (c.state == .established || c.state == .related || c.direction == .reply)

/-- Unmarked sessions that are under way leave the chain. -/
theorem runRules_preserveUnmanagedSessions (p : Packet) :
    runRules exec preserveUnmanagedSessions p =
      if unmanagedSession p then .ret p else .next p := by
  cases hc : p.ct with
  | none =>
    simp [preserveUnmanagedSessions, runRules_cons, runRule_cons, exec, equal, Operand.read, hc,
      unmanagedSession]
  | some c =>
    by_cases hmark : c.mark = 0
    · cases hs : c.state <;> cases hd : c.direction <;>
        simp [preserveUnmanagedSessions, runRules_cons, runRule_cons, exec, equal, Operand.read,
          hc, Op.test, Right.holds, unmanagedSession, hmark, hs, hd, CtState.text,
          CtDirection.text]
    · simp [preserveUnmanagedSessions, runRules_cons, runRule_cons, exec, equal, Operand.read, hc,
        Op.test, Right.holds, unmanagedSession, hmark]

end RouteLane
