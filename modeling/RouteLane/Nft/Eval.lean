import RouteLane.Lib.Chains
import RouteLane.Nft.Document

/-!
# Evaluating the nft document

A packet as the kernel shows it to a chain, what each expression reads from it or
does to it, and the evaluation of a base chain of a document.  The lemmas at the
end evaluate the blocks of rules that several chains share.
-/

namespace RouteLane

open Nft Chains

/-! ## Packets -/

inductive CtState where
  | new
  | established
  | related
  | invalid
  | untracked
  deriving DecidableEq, Repr

def CtState.text : CtState → String
  | .new => "new"
  | .established => "established"
  | .related => "related"
  | .invalid => "invalid"
  | .untracked => "untracked"

inductive CtDirection where
  | original
  | reply
  deriving DecidableEq, Repr

def CtDirection.text : CtDirection → String
  | .original => "original"
  | .reply => "reply"

/-- The connection a packet belongs to, as conntrack knows it. -/
structure Conntrack where
  mark : ℕ
  state : CtState
  direction : CtDirection
  /-- the source of the first packet of the connection -/
  saddr : IpAddr
  deriving DecidableEq, Repr

/-- A packet with everything the document's expressions read.  Its connection is one of
its own family. -/
structure Packet where
  daddr : IpAddr
  /-- the routing type of the destination -/
  daddrType : String
  mark : ℕ
  iif : ℕ
  iifname : String
  oif : ℕ
  oifname : String
  udp : Option (ℕ × ℕ)
  hoplimit : ℕ
  icmpv6Type : Option String
  /-- the ancestor at level 2 of the cgroup of the sending socket -/
  cgroup : Option String
  ct : Option Conntrack
  ct_family : ∀ c, ct = some c → c.saddr.family = daddr.family
  deriving DecidableEq, Repr

namespace Packet

def family (p : Packet) : IpFamily := p.daddr.family

/-- The mark of the packet's connection, 0 where there is no connection. -/
def ctMark (p : Packet) : ℕ := (p.ct.map Conntrack.mark).getD 0

/-- The packet with another mark. -/
def setMark (p : Packet) (m : ℕ) : Packet := { p with mark := m }

/-- The packet with another mark on its connection, if it has one. -/
def setCtMark (p : Packet) (m : ℕ) : Packet :=
  { p with
    ct := p.ct.map fun c => { c with mark := m }
    ct_family := by
      intro c hc
      obtain ⟨c', hc', rfl⟩ := Option.map_eq_some_iff.1 hc
      exact p.ct_family c' hc' }

/-- The packet with a mark on itself and on its connection. -/
def setMarks (p : Packet) (m : ℕ) : Packet := (p.setMark m).setCtMark m

@[simp] theorem daddr_setMark (p : Packet) (m : ℕ) : (p.setMark m).daddr = p.daddr := rfl

@[simp] theorem mark_setMark (p : Packet) (m : ℕ) : (p.setMark m).mark = m := rfl

@[simp] theorem ct_setMark (p : Packet) (m : ℕ) : (p.setMark m).ct = p.ct := rfl

@[simp] theorem ctMark_setMark (p : Packet) (m : ℕ) : (p.setMark m).ctMark = p.ctMark := rfl

@[simp] theorem setMark_self (p : Packet) : p.setMark p.mark = p := rfl

theorem ctMark_of_ct {p : Packet} {c : Conntrack} (h : p.ct = some c) : p.ctMark = c.mark := by
  simp [ctMark, h]

end Packet

/-! ## Expressions -/

/-- What an operand reads from a packet; `none` when the packet has no such thing, and the
rule then does not match. -/
def Nft.Operand.read (p : Packet) : Operand → Option Datum
  | .meta .mark => some (.num p.mark)
  | .meta .nfproto => some (.str (if p.family = .v4 then "ipv4" else "ipv6"))
  | .meta .iif => some (.num p.iif)
  | .meta .iifname => some (.str p.iifname)
  | .meta .oif => some (.num p.oif)
  | .meta .oifname => some (.str p.oifname)
  | .ct .mark => p.ct.map fun c => .num c.mark
  | .ct .state => p.ct.map fun c => .str c.state.text
  | .ct .direction => p.ct.map fun c => .str c.direction.text
  | .ct (.saddr f) => (p.ct.filter fun c => c.saddr.family == f).map fun c => .addr c.saddr
  | .payload .udpSport => p.udp.map fun ports => .num ports.1
  | .payload .udpDport => p.udp.map fun ports => .num ports.2
  | .payload (.daddr f) => if p.family = f then some (.addr p.daddr) else none
  | .payload .ip6Hoplimit => if p.family = .v6 then some (.num p.hoplimit) else none
  | .payload .icmpv6Type => p.icmpv6Type.map .str
  | .fibDaddrType => some (.str p.daddrType)
  | .socketCgroup 2 => p.cgroup.map .str
  | .socketCgroup _ => none

/-- Equality with a value, membership in a set, a range or a network. -/
def Nft.Right.holds (d : Datum) : Right → Bool
  | .one d' => d == d'
  | .set ds => decide (d ∈ ds)
  | .range low high =>
    match d with
    | .num n => decide (low ≤ n) && decide (n ≤ high)
    | _ => false
  | .net n =>
    match d with
    | .addr a => n.contains a
    | _ => false

/-- An ordered comparison with a number. -/
def Nft.Datum.compareNum (test : ℕ → ℕ → Bool) : Datum → Right → Bool
  | .num n, .one (.num m) => test n m
  | _, _ => false

/-- Whether a value and a right side are in the relation of an operator.  `in` tests a
state against a set of states written as one word or several. -/
def Nft.Op.test (d : Datum) (right : Right) : Op → Bool
  | .eq => right.holds d
  | .ne => !right.holds d
  | .lt => d.compareNum (fun n m => decide (n < m)) right
  | .gt => d.compareNum (fun n m => decide (m < n)) right
  | .mem => right.holds d

inductive Verdict where
  | reject (family : Option IpFamily)
  | drop
  | masquerade
  deriving DecidableEq, Repr

/-- The value a mangle statement stores. -/
def Nft.Source.read (p : Packet) : Source → Option ℕ
  | .num n => some n
  | .operand o =>
    match o.read p with
    | some (.num n) => some n
    | _ => none

/-- What an expression does to a packet. -/
def exec : Expr → Packet → Flow Packet ChainName Verdict
  | .match left op right, p =>
    match left.read p with
    | some d => if op.test d right then .next p else .skip p
    | none => .skip p
  | .mangle (.meta .mark) value, p =>
    match value.read p with
    | some n => .next (p.setMark n)
    | none => .skip p
  | .mangle (.ct .mark) value, p =>
    match value.read p with
    | some n => .next (p.setCtMark n)
    | none => .skip p
  | .mangle _ _, p => .skip p
  | .counter _, p => .next p
  | .ret, p => .ret p
  | .goto target, p => .goto target p
  | .reject family, p => .stop (.reject family) p
  | .drop, p => .stop .drop p
  | .masquerade, p => .stop .masquerade p

/-- The chain an expression jumps to. -/
def chainRules (document : Document) (name : ChainName) : Option (List (List Expr)) :=
  if name ∈ chainNames document then some (rulesOf document name) else none

/-- The number of chains the kernel lets a packet go through from one hook. -/
def jumpLimit : ℕ := 16

/-- The evaluation of a base chain: the verdict, or `none` where the policy accepts, and
the packet as it leaves. -/
def evalChainOf (document : Document) (name : ChainName) (p : Packet) :
    Option (Option Verdict × Packet) :=
  evalChain exec (chainRules document) jumpLimit (rulesOf document name) p

/-! ## Chains of a rendered document -/

theorem filterMap_exprIn?_ruleObjects (chain : Chain) (name : ChainName) :
    chain.ruleObjects.filterMap (Object.exprIn? name) =
      if chain.name = name then chain.rules else [] := by
  rw [Chain.ruleObjects, List.filterMap_map]
  by_cases h : chain.name = name
  · have hfun : (Object.exprIn? name ∘ fun expr => Object.rule chain.name expr none) = some := by
      funext expr
      simp [Object.exprIn?, h]
    rw [hfun, if_pos h, List.filterMap_some]
  · have hfun : (Object.exprIn? name ∘ fun expr => Object.rule chain.name expr none) =
        fun _ => none := by
      funext expr
      simp [Object.exprIn?, h]
    rw [hfun, if_neg h, List.filterMap_eq_nil_iff.2 (fun _ _ => rfl)]

theorem filterMap_exprIn?_objects (chains : List Chain) (name : ChainName) :
    (chains.map Chain.object).filterMap (Object.exprIn? name) = [] := by
  rw [List.filterMap_map, List.filterMap_eq_nil_iff]
  intro c _
  rfl

theorem filterMap_chainName?_objects (chains : List Chain) :
    (chains.map Chain.object).filterMap Object.chainName? = chains.map Chain.name := by
  rw [List.filterMap_map]
  have hfun : Object.chainName? ∘ Chain.object = some ∘ Chain.name := rfl
  rw [hfun, ← List.filterMap_map, List.filterMap_some]

section Document

variable (blake3 : Blake3) (active pending : Option KernelPlan) (guard : Bool)

/-- The rules of a chain of a rendered document are those it was built with. -/
theorem rulesOf_render (name : ChainName) :
    rulesOf (renderNftDocument blake3 active pending guard) name =
      (renderChains blake3 active pending guard).flatMap fun chain =>
        if chain.name = name then chain.rules else [] := by
  rw [rulesOf, renderNftDocument, List.filterMap_append, List.filterMap_append,
    filterMap_exprIn?_objects, List.append_nil, List.filterMap_flatMap]
  have hhead : ([Object.empty, .table none, (Chain.regular (.seal (contentSeal blake3
      (unsealedDocument (renderChains blake3 active pending guard)))) []).object]).filterMap
        (Object.exprIn? name) = [] := rfl
  rw [hhead, List.nil_append]
  exact List.flatMap_congr fun chain _ => filterMap_exprIn?_ruleObjects chain name

theorem mem_chainNames_render {name : ChainName} {chain : Chain}
    (hchain : chain ∈ renderChains blake3 active pending guard) (hname : chain.name = name) :
    name ∈ chainNames (renderNftDocument blake3 active pending guard) := by
  rw [chainNames, renderNftDocument, List.filterMap_append, List.filterMap_append,
    filterMap_chainName?_objects]
  refine List.mem_append_left _ (List.mem_append_right _ ?_)
  exact List.mem_map.2 ⟨chain, hchain, hname⟩

/-- The chains of a rendered document: its seal, and those it was built from. -/
theorem chainNames_renderNftDocument :
    chainNames (renderNftDocument blake3 active pending guard) =
      .seal (contentSeal blake3 (unsealedDocument (renderChains blake3 active pending guard))) ::
        (renderChains blake3 active pending guard).map Chain.name := by
  have hrules : ((renderChains blake3 active pending guard).flatMap Chain.ruleObjects).filterMap
      Object.chainName? = [] := by
    rw [List.filterMap_eq_nil_iff]
    intro o ho
    obtain ⟨chain, -, ho⟩ := List.mem_flatMap.1 ho
    obtain ⟨expr, -, rfl⟩ := List.mem_map.1 ho
    rfl
  rw [chainNames, renderNftDocument, List.filterMap_append, List.filterMap_append, hrules,
    filterMap_chainName?_objects, List.append_nil]
  rfl

end Document

section Names

variable {blake3 : Blake3} {active pending : Option KernelPlan} {guard : Bool}

theorem names_policyChains (plan : KernelPlan) :
    (policyChains plan).map Chain.name =
      (.restore .v4 :: plan.lanes.map fun l => .select .v4 l.mark) ++
        (.restore .v6 :: plan.lanes.map fun l => .select .v6 l.mark) ++
        [.output, .prerouting, .egressGuard, .sourceNat] := by
  simp [policyChains, families, restoreChain, selectChain, outputChain, preroutingChain,
    egressChain, natChain, Chain.regular, Function.comp_def]

/-- The chains of a plan have distinct names: the lanes have distinct marks. -/
theorem nodup_names_policyChains {plan : KernelPlan} (h : plan.WellFormed) :
    ((policyChains plan).map Chain.name).Nodup := by
  have hselect : ∀ f, (plan.lanes.map fun l => ChainName.select f l.mark).Nodup := by
    intro f
    have hmap : (plan.lanes.map fun l => ChainName.select f l.mark) =
        (plan.lanes.map LanePlan.mark).map (ChainName.select f) := by
      rw [List.map_map]
      rfl
    rw [hmap]
    exact h.marks_nodup.map fun a b hab => (ChainName.select.inj hab).2
  rw [names_policyChains, List.nodup_append, List.nodup_append]
  refine ⟨⟨?_, ?_, ?_⟩, by decide, ?_⟩
  · exact List.nodup_cons.2 ⟨by simp, hselect .v4⟩
  · exact List.nodup_cons.2 ⟨by simp, hselect .v6⟩
  · simp
  · simp only [List.mem_append, List.mem_cons, List.mem_map, List.not_mem_nil, or_false]
    rintro a ((rfl | ⟨l, -, rfl⟩) | rfl | ⟨l, -, rfl⟩) b (rfl | rfl | rfl | rfl) <;> simp

/-- The chains of a rendered document have distinct names. -/
theorem nodup_names_renderChains (h : ∀ plan, active = some plan → plan.WellFormed) :
    ((renderChains blake3 active pending guard).map Chain.name).Nodup := by
  have hpolicy : (((active.map policyChains).getD []).map Chain.name).Nodup := by
    cases active with
    | none => exact List.nodup_nil
    | some plan => exact nodup_names_policyChains (h plan rfl)
  have hmem : ∀ name ∈ ((active.map policyChains).getD []).map Chain.name,
      (∀ g d, name ≠ .state g d) ∧ (∀ g d, name ≠ .transaction g d) ∧ name ≠ .guard := by
    cases active with
    | none => intro name hname; exact absurd hname List.not_mem_nil
    | some plan =>
      intro name hname
      rw [Option.map_some, Option.getD_some, names_policyChains] at hname
      simp only [List.mem_append, List.mem_cons, List.mem_map, List.not_mem_nil, or_false] at hname
      rcases hname with ((rfl | ⟨l, -, rfl⟩) | rfl | ⟨l, -, rfl⟩) | rfl | rfl | rfl | rfl <;> simp
  rw [renderChains, List.map_append, List.map_append, List.map_append]
  rw [List.nodup_append, List.nodup_append, List.nodup_append]
  refine ⟨⟨⟨?_, ?_, ?_⟩, hpolicy, ?_⟩, ?_, ?_⟩
  · cases active <;> simp
  · cases pending <;> simp
  · cases active <;> cases pending <;> simp [Chain.regular, stateChainName, transactionChainName]
  · intro a ha b hb
    obtain ⟨hs, ht, -⟩ := hmem b hb
    rcases List.mem_append.1 ha with ha | ha
    · cases active with
      | none => exact absurd ha List.not_mem_nil
      | some plan =>
        obtain rfl : a = stateChainName blake3 plan := by simpa [Chain.regular] using ha
        exact (hs _ _).symm
    · cases pending with
      | none => exact absurd ha List.not_mem_nil
      | some plan =>
        obtain rfl : a = transactionChainName blake3 plan := by simpa [Chain.regular] using ha
        exact (ht _ _).symm
  · cases guard <;> simp
  · intro a ha b hb
    have hguard : b = .guard := by
      cases guard with
      | true => simpa [guardChain] using hb
      | false => simp at hb
    subst hguard
    rcases List.mem_append.1 ha with ha | ha
    · rcases List.mem_append.1 ha with ha | ha
      · cases active with
        | none => exact absurd ha List.not_mem_nil
        | some plan =>
          obtain rfl : a = stateChainName blake3 plan := by simpa [Chain.regular] using ha
          simp [stateChainName]
      · cases pending with
        | none => exact absurd ha List.not_mem_nil
        | some plan =>
          obtain rfl : a = transactionChainName blake3 plan := by simpa [Chain.regular] using ha
          simp [transactionChainName]
    · exact (hmem a ha).2.2

theorem flatMap_named {chains : List Chain} (hnd : (chains.map Chain.name).Nodup) {chain : Chain}
    (hchain : chain ∈ chains) :
    (chains.flatMap fun c => if c.name = chain.name then c.rules else []) = chain.rules := by
  induction chains with
  | nil => exact absurd hchain List.not_mem_nil
  | cons c rest ih =>
    rw [List.map_cons, List.nodup_cons] at hnd
    rw [List.flatMap_cons]
    rcases List.mem_cons.1 hchain with rfl | hchain
    · have hrest : (rest.flatMap fun c => if c.name = chain.name then c.rules else []) = [] := by
        rw [List.flatMap_eq_nil_iff]
        intro c hc
        refine if_neg ?_
        intro heq
        exact hnd.1 (List.mem_map.2 ⟨c, hc, heq⟩)
      rw [hrest, if_pos rfl, List.append_nil]
    · have hne : c.name ≠ chain.name := by
        intro heq
        exact hnd.1 (heq ▸ List.mem_map.2 ⟨chain, hchain, rfl⟩)
      rw [if_neg hne, List.nil_append, ih hnd.2 hchain]

/-- A chain of a rendered document is found under its name, with its own rules. -/
theorem rulesOf_chain (h : ∀ plan, active = some plan → plan.WellFormed) {chain : Chain}
    (hchain : chain ∈ renderChains blake3 active pending guard) :
    rulesOf (renderNftDocument blake3 active pending guard) chain.name = chain.rules := by
  rw [rulesOf_render]
  exact flatMap_named (nodup_names_renderChains h) hchain

theorem chainRules_chain (h : ∀ plan, active = some plan → plan.WellFormed) {chain : Chain}
    (hchain : chain ∈ renderChains blake3 active pending guard) :
    chainRules (renderNftDocument blake3 active pending guard) chain.name = some chain.rules := by
  rw [chainRules, if_pos (mem_chainNames_render blake3 active pending guard hchain rfl),
    rulesOf_chain h hchain]

theorem mem_renderChains_policy {plan : KernelPlan} {chain : Chain}
    (hchain : chain ∈ policyChains plan) :
    chain ∈ renderChains blake3 (some plan) pending guard := by
  rw [renderChains]
  exact List.mem_append_left _ (List.mem_append_right _ hchain)

end Names

end RouteLane
