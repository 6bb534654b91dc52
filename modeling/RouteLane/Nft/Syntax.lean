import RouteLane.Net.Address

/-!
# The nft language

The part of nft's JSON the helper writes and reads back: a document is a list of
objects, a rule a list of match and statement expressions.  Chain names are typed
by what the code builds them from; values stay the numbers, words and addresses of
the JSON.
-/

namespace RouteLane

namespace Nft

/-- The chains of RouteLane's table. -/
inductive ChainName where
  /-- `rules_v2_<digest>` -/
  | seal (digest : String)
  /-- `state_g<generation>_<digest>` -/
  | state (generation : ℕ) (digest : String)
  /-- `transaction_g<generation>_<digest>` -/
  | transaction (generation : ℕ) (digest : String)
  /-- `restore4`, `restore6` -/
  | restore (family : IpFamily)
  /-- `select4_<mark>`, `select6_<mark>`, the mark in eight hex digits -/
  | select (family : IpFamily) (mark : ℕ)
  | output
  | prerouting
  | egressGuard
  | sourceNat
  | guard
  deriving DecidableEq, Repr

inductive MetaKey where
  | mark
  | nfproto
  | iif
  | iifname
  | oif
  | oifname
  deriving DecidableEq, Repr

inductive CtKey where
  | mark
  | state
  | direction
  /-- `ip saddr` or `ip6 saddr` in direction `original` -/
  | saddr (family : IpFamily)
  deriving DecidableEq, Repr

inductive PayloadField where
  | udpSport
  | udpDport
  | daddr (family : IpFamily)
  | ip6Hoplimit
  | icmpv6Type
  deriving DecidableEq, Repr

/-- The left side of a match. -/
inductive Operand where
  | «meta» (key : MetaKey)
  | ct (key : CtKey)
  | payload (field : PayloadField)
  /-- `fib daddr type` -/
  | fibDaddrType
  /-- `socket cgroupv2 level <level>` -/
  | socketCgroup (level : ℕ)
  deriving DecidableEq, Repr

inductive Datum where
  | num (n : ℕ)
  | str (s : String)
  | addr (a : IpAddr)
  deriving DecidableEq, Repr

/-- The right side of a match. -/
inductive Right where
  | one (d : Datum)
  | set (ds : List Datum)
  | range (low high : ℕ)
  | net (n : IpNet)
  deriving DecidableEq, Repr

inductive Op where
  | eq
  | ne
  | lt
  | gt
  | mem
  deriving DecidableEq, Repr

/-- What a mangle statement stores. -/
inductive Source where
  | num (n : ℕ)
  | operand (o : Operand)
  deriving DecidableEq, Repr

inductive Expr where
  | «match» (left : Operand) (op : Op) (right : Right)
  | mangle (key : Operand) (value : Source)
  | counter (values : Option (ℕ × ℕ))
  | ret
  | goto (target : ChainName)
  /-- `icmp` or `icmpv6` for a family, `icmpx` for either -/
  | reject (family : Option IpFamily)
  | drop
  | masquerade
  deriving DecidableEq, Repr

/-- Type, hook and priority of a base chain; the policy of every one is `accept`. -/
structure BaseHook where
  kind : String
  hook : String
  prio : ℤ
  deriving DecidableEq, Repr

inductive Object where
  | empty
  | metainfo
  | table (handle : Option ℕ)
  | chain (name : ChainName) (base : Option BaseHook) (handle : Option ℕ)
  | rule (chain : ChainName) (expr : List Expr) (handle : Option ℕ)
  deriving DecidableEq, Repr

/-- The value of `"nftables"` in a document. -/
abbrev Document := List Object

namespace Object

def isRule : Object → Bool
  | .rule .. => true
  | _ => false

/-- The name of the chain an object defines. -/
def chainName? : Object → Option ChainName
  | .chain name _ _ => some name
  | _ => none

/-- The expressions of a rule of this chain. -/
def exprIn? (name : ChainName) : Object → Option (List Expr)
  | .rule owner expr _ => if owner = name then some expr else none
  | _ => none

end Object

/-- The rules of a chain, in order. -/
def rulesOf (document : Document) (name : ChainName) : List (List Expr) :=
  document.filterMap (Object.exprIn? name)

/-- The chains a document defines. -/
def chainNames (document : Document) : List ChainName :=
  document.filterMap Object.chainName?

/-! ## Normal form -/

/-- Counters are compared without their values. -/
def Expr.normalize : Expr → Expr
  | .counter _ => .counter none
  | e => e

/-- Handles are dropped, and so is the content of the metainfo object. -/
def Object.normalize : Object → Object
  | .empty => .empty
  | .metainfo => .empty
  | .table _ => .table none
  | .chain name base _ => .chain name base none
  | .rule owner expr _ => .rule owner (expr.map Expr.normalize) none

/-- `normalize_nft_document`: rules go behind everything else, in the order they are in. -/
def normalizeNftDocument (document : Document) : Document :=
  (document.filter (fun o => !o.isRule) ++ document.filter Object.isRule).map Object.normalize

end Nft

end RouteLane
