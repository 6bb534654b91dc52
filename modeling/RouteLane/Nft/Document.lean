import RouteLane.Nft.Syntax
import RouteLane.Policy.Plan

/-!
# The nft document of a plan

`render_nft_document` describes RouteLane's whole table: the chains that put an
active plan in force, the marker of a pending one, and the guard that blocks
everything new while a transaction runs.  Every chain is a definition of its own
here, in the order the code builds them.
-/

namespace RouteLane

open Nft

/-- The part of a plan its hash covers: everything but the generation. -/
structure PolicyContent where
  primary : PrimaryDecision
  localNetworks : List IpNet
  localAddresses : List IpAddr
  profileId : ProfileId
  lanes : List LanePlan
  rules : List CompiledRule
  deriving DecidableEq, Repr

/-- The content of a plan that `content_hash` encodes. -/
def KernelPlan.content (plan : KernelPlan) : PolicyContent :=
  { primary := plan.primary, localNetworks := plan.localNetworks,
    localAddresses := plan.localAddresses, profileId := plan.profileId, lanes := plan.lanes,
    rules := plan.rules }

abbrev PlanHash := String

/-- The digests the code takes with BLAKE3 over canonical JSON: of a policy, of a plan
hash for a marker name, of a document for its seal, and of a table for a journal. -/
structure Blake3 where
  contentHash : PolicyContent → PlanHash
  markerDigest : PlanHash → String
  documentDigest : Document → String

/-! ## Expressions -/

def equal (left : Operand) (right : Datum) : Expr := .match left .eq (.one right)

def familyMatch (f : IpFamily) : Expr :=
  equal (.meta .nfproto) (.str (if f = .v4 then "ipv4" else "ipv6"))

/-- The mark of RouteLane's own traffic lies in the reserved range. -/
def owned (key : Operand) : Expr := .match key .eq (.range markBase markMax)

def networkRight : IpNet → Right
  | .v4 n => if n.prefixLen = 32 then .one (.addr (.v4 n.addr)) else .net (.v4 n.trunc)
  | .v6 n => if n.prefixLen = 128 then .one (.addr (.v6 n.addr)) else .net (.v6 n.trunc)

def destination (n : IpNet) : Expr := .match (.payload (.daddr n.family)) .eq (networkRight n)

/-- `ready`: the lane can take traffic of this family now. -/
def LanePlan.ready (lane : LanePlan) (f : IpFamily) : Bool :=
  lane.availability == .available &&
    lane.identity.any (fun identity =>
      decide (0 < identity.ifindex) && decide (identity.ifindex ≤ 2147483647) &&
        identity.name == lane.interface) &&
    (lane.hasRoute f && lane.hasSource f)

/-! ## Blocks of rules shared by chains -/

def dhcp4Match : List Expr :=
  [equal (.payload .udpSport) (.num 68), equal (.payload .udpDport) (.num 67)]

/-- The addresses of the constant networks of `controls`. -/
def allSystemsNet : IpNet := .v4 ⟨0xe0000000#32, 24, by decide⟩

def linkLocalMulticastNet : IpNet := .v6 ⟨0xff020000000000000000000000000000#128, 16, by decide⟩

def linkLocalNet : IpNet := .v6 ⟨0xfe800000000000000000000000000000#128, 10, by decide⟩

def broadcastAddr : IpAddr := .v4 0xffffffff#32

def neighbourDiscoveryTypes : List String :=
  ["nd-router-solicit", "nd-router-advert", "nd-neighbor-solicit", "nd-neighbor-advert",
    "nd-redirect"]

/-- Host-local and on-link control traffic, kept out of explicit policy. -/
def controls (networks : List IpNet) : List (List Expr) :=
  [[equal (.meta .oifname) (.str "lo"), .ret],
    [equal .fibDaddrType (.str "local"), .ret],
    dhcp4Match ++ [equal (.payload (.daddr .v4)) (.addr broadcastAddr), .ret]] ++
  (networks.filter fun n => n.family == .v4).map
    (fun subnet => dhcp4Match ++ [destination subnet, .ret]) ++
  [[destination allSystemsNet, .ret],
    [destination linkLocalMulticastNet, .ret],
    [equal (.payload .ip6Hoplimit) (.num 255),
      .match (.payload .icmpv6Type) .eq (.set (neighbourDiscoveryTypes.map .str)), .ret],
    [equal (.payload .udpSport) (.num 546), equal (.payload .udpDport) (.num 547),
      destination linkLocalNet, .ret]]

def preserveUnmanagedSessions : List (List Expr) :=
  [[equal (.ct .mark) (.num 0),
      .match (.ct .state) .eq (.set [.str "established", .str "related"]), .ret],
    [equal (.ct .mark) (.num 0), equal (.ct .direction) (.str "reply"), .ret]]

/-- The local addresses of a family, sorted, each once. -/
def sourceAddresses (plan : KernelPlan) (f : IpFamily) : List IpAddr :=
  FirstMatch.dedupAdjacent
    ((plan.localAddresses.filter fun a => a.family == f).insertionSort IpAddr.le)

/-- `source_proof`: the flow started from an address of this machine. -/
def sourceProof (plan : KernelPlan) (f : IpFamily) : Option Expr :=
  match sourceAddresses plan f with
  | [] => none
  | [a] => some (.match (.ct (.saddr f)) .eq (.one (.addr a)))
  | addresses => some (.match (.ct (.saddr f)) .eq (.set (addresses.map .addr)))

/-- `primary_mark`: the mark of the effective primary lane while it is ready. -/
def primaryMark (plan : KernelPlan) (f : IpFamily) : Option ℕ :=
  match plan.primary.effective.get f with
  | .lane id => (plan.lanes.find? fun l => l.id == id && l.ready f).map LanePlan.mark
  | .blocked => none

/-- The match part of an explicit rule.  A network predicate already encodes its family. -/
def explicitMatch (rule : CompiledRule) : List Expr :=
  match rule.target with
  | .any => [familyMatch rule.family]
  | .network n => [destination n]
  | .cgroup path => [familyMatch rule.family, equal (.socketCgroup 2) (.str path)]

/-- The mark an explicit rule sends its traffic to. -/
def explicitMark (plan : KernelPlan) (rule : CompiledRule) : Option ℕ :=
  match rule.action with
  | .mark m => some m
  | .direct => primaryMark plan rule.family
  | .block => none

/-- The verdict of an explicit rule: the selection chain of a lane of the plan, or a reject. -/
def explicitVerdict (plan : KernelPlan) (rule : CompiledRule) : Expr :=
  match explicitMark plan rule with
  | some m =>
    if plan.lanes.any (fun l => l.mark == m) then .goto (.select rule.family m)
    else .reject (some rule.family)
  | none => .reject (some rule.family)

def explicitRule (plan : KernelPlan) (rule : CompiledRule) : List Expr :=
  explicitMatch rule ++ [.counter none, explicitVerdict plan rule]

/-! ## Chains -/

/-- A chain with its rules. -/
structure Chain where
  name : ChainName
  base : Option BaseHook
  rules : List (List Expr)
  deriving DecidableEq, Repr

def Chain.regular (name : ChainName) (rules : List (List Expr)) : Chain := ⟨name, none, rules⟩

def Chain.object (chain : Chain) : Object := .chain chain.name chain.base none

def Chain.ruleObjects (chain : Chain) : List Object :=
  chain.rules.map fun expr => .rule chain.name expr none

def restoreRule (lane : LanePlan) : List Expr :=
  [equal (.ct .mark) (.num lane.mark), .mangle (.meta .mark) (.operand (.ct .mark)), .ret]

def restoreChain (plan : KernelPlan) (f : IpFamily) : Chain :=
  .regular (.restore f)
    ((plan.lanes.filter fun l => l.ready f).map restoreRule ++ [[.reject none]])

def selectRule (lane : LanePlan) : List Expr :=
  [.match (.ct .state) .mem (.one (.str "new")), equal (.ct .direction) (.str "original"),
    .mangle (.meta .mark) (.num lane.mark), .mangle (.ct .mark) (.operand (.meta .mark)), .ret]

def selectChain (f : IpFamily) (lane : LanePlan) : Chain :=
  .regular (.select f lane.mark)
    ([[.match (.ct .mark) .ne (.one (.num 0)), .goto (.restore f)]] ++
      preserveUnmanagedSessions ++ (if lane.ready f then [selectRule lane] else []) ++
      [[.reject none]])

/-- Marks of anyone else are refused, never overwritten. -/
def foreignMarkRules (key : Operand) : List (List Expr) :=
  [[.match key .ne (.one (.num 0)), .match key .lt (.one (.num markBase)), .reject none],
    [.match key .gt (.one (.num markMax)), .reject none]]

/-- The verdict on what no rule and no session claims: the effective primary exit. -/
def unmatchedVerdict (plan : KernelPlan) (f : IpFamily) : Expr :=
  match primaryMark plan f with
  | some mark => .goto (.select f mark)
  | none => .reject (some f)

/-- The last two rules of the output chain. -/
def unmatchedRule (plan : KernelPlan) (f : IpFamily) : List Expr :=
  [familyMatch f, .counter none, unmatchedVerdict plan f]

def outputRules (plan : KernelPlan) : List (List Expr) :=
  controls plan.localNetworks ++
    (foreignMarkRules (.meta .mark) ++ foreignMarkRules (.ct .mark)) ++
    plan.rules.map (explicitRule plan) ++
    families.map (fun f => [familyMatch f, owned (.ct .mark), .goto (.restore f)]) ++
    preserveUnmanagedSessions ++
    plan.localNetworks.map (fun n => [destination n, .ret]) ++
    families.map (unmatchedRule plan)

def outputChain (plan : KernelPlan) : Chain := ⟨.output, some ⟨"route", "output", -150⟩, outputRules plan⟩

/-- The observed index of a ready lane's interface. -/
def LanePlan.ifindex (lane : LanePlan) : ℕ := (lane.identity.map InterfaceIdentity.ifindex).getD 0

def replyRule (source : Expr) (lane : LanePlan) : List Expr :=
  [equal (.meta .iif) (.num lane.ifindex), equal (.meta .iifname) (.str lane.interface),
    equal (.ct .direction) (.str "reply"), source, equal (.ct .mark) (.num lane.mark),
    .mangle (.meta .mark) (.operand (.ct .mark)), .ret]

/-- The scope in which a packet may leave through a lane. -/
def laneScope (source : Expr) (lane : LanePlan) : List Expr :=
  [equal (.meta .iif) (.num 0), equal (.meta .oif) (.num lane.ifindex),
    equal (.meta .oifname) (.str lane.interface), equal (.ct .direction) (.str "original"), source,
    equal (.ct .mark) (.num lane.mark), equal (.meta .mark) (.num lane.mark)]

/-- One rule for every family with a source and every lane ready for it. -/
def perReadyLane (plan : KernelPlan) (rule : Expr → LanePlan → List Expr) : List (List Expr) :=
  families.flatMap fun f =>
    match sourceProof plan f with
    | none => []
    | some source => (plan.lanes.filter fun l => l.ready f).map (rule source)

def preroutingChain (plan : KernelPlan) : Chain :=
  ⟨.prerouting, some ⟨"filter", "prerouting", -150⟩, perReadyLane plan replyRule⟩

def egressChain (plan : KernelPlan) : Chain :=
  ⟨.egressGuard, some ⟨"filter", "postrouting", 99⟩,
    [[.match (.meta .iif) .ne (.one (.num 0)), .ret]] ++ controls plan.localNetworks ++
      perReadyLane plan (fun source lane => laneScope source lane ++ [.ret]) ++
      [[owned (.meta .mark), .drop]]⟩

def natChain (plan : KernelPlan) : Chain :=
  ⟨.sourceNat, some ⟨"nat", "postrouting", 100⟩,
    perReadyLane plan (fun source lane => laneScope source lane ++ [.counter none, .masquerade])⟩

/-- The networks the guard lets through: those of both plans, sorted, each once. -/
def guardNetworks (active pending : Option KernelPlan) : List IpNet :=
  FirstMatch.dedupAdjacent
    (((active.toList ++ pending.toList).flatMap KernelPlan.localNetworks).insertionSort IpNet.le)

def guardChain (active pending : Option KernelPlan) : Chain :=
  ⟨.guard, some ⟨"route", "output", -149⟩,
    controls (guardNetworks active pending) ++
      (guardNetworks active pending).map (fun n => [destination n, .ret]) ++ [[.reject none]]⟩

/-! ## Documents -/

section Render

variable (blake3 : Blake3)

/-- `content_hash`. -/
def KernelPlan.contentHash (plan : KernelPlan) : PlanHash := blake3.contentHash plan.content

/-- The digest in a plan's marker names. -/
def KernelPlan.marker (plan : KernelPlan) : String := blake3.markerDigest (plan.contentHash blake3)

/-- `state_chain_name`. -/
def stateChainName (plan : KernelPlan) : ChainName := .state plan.generation (plan.marker blake3)

/-- `transaction_chain_name`. -/
def transactionChainName (plan : KernelPlan) : ChainName :=
  .transaction plan.generation (plan.marker blake3)

/-- Whether the seal of a document covers an object: neither the guard nor the seal itself. -/
def Nft.Object.sealed : Object → Bool
  | .empty => false
  | .metainfo => false
  | .table _ => true
  | .chain .guard _ _ => false
  | .chain (.seal _) _ _ => false
  | .chain _ _ _ => true
  | .rule .guard _ _ => false
  | .rule _ _ _ => true

/-- `content_seal`. -/
def contentSeal (document : Document) : String :=
  blake3.documentDigest (normalizeNftDocument (document.filter Object.sealed))

/-- The chains that put a plan in force. -/
def policyChains (plan : KernelPlan) : List Chain :=
  families.flatMap (fun f => restoreChain plan f :: plan.lanes.map (selectChain f)) ++
    [outputChain plan, preroutingChain plan, egressChain plan, natChain plan]

/-- Every chain of a document but its seal. -/
def renderChains (active pending : Option KernelPlan) (guard : Bool) : List Chain :=
  (active.map fun p => Chain.regular (stateChainName blake3 p) []).toList ++
    (pending.map fun p => Chain.regular (transactionChainName blake3 p) []).toList ++
    (active.map policyChains).getD [] ++
    (if guard then [guardChain active pending] else [])

/-- The objects of a document before it is sealed: all chains, then all rules. -/
def unsealedDocument (chains : List Chain) : Document :=
  [.empty, .table none] ++ chains.map Chain.object ++ chains.flatMap Chain.ruleObjects

def renderNftDocument (active pending : Option KernelPlan) (guard : Bool) : Document :=
  let chains := renderChains blake3 active pending guard
  [.empty, .table none,
    (Chain.regular (.seal (contentSeal blake3 (unsealedDocument chains))) []).object] ++
    chains.map Chain.object ++ chains.flatMap Chain.ruleObjects

end Render

end RouteLane
