import RouteLane.Kernel.LiveRouting
import RouteLane.Nft.Document

/-!
# Documents as JSON

What the chains, expressions and objects of a document are in nft's JSON.  A `Map` of
`serde_json` keeps its fields in the order of their keys, and so do the objects here.
-/

namespace RouteLane

open Nft JsonValue

/-! ## Texts -/

/-- The digits of a number in hexadecimal, as many as asked for. -/
def hexDigits : ℕ → ℕ → List Char
  | 0, _ => []
  | width + 1, n => hexDigits width (n / 16) ++ [Nat.digitChar (n % 16)]

/-- `{:08x}` of a 32-bit number. -/
def hexText (n : ℕ) : String := String.ofList (hexDigits 8 n)

/-- `suffix`. -/
def suffix : IpFamily → String
  | .v4 => "4"
  | .v6 => "6"

/-- `protocol`. -/
def protocol : IpFamily → String
  | .v4 => "ip"
  | .v6 => "ip6"

def policySealPrefix : String := "rules_v2_"

/-- `restore_name`. -/
def restoreName (f : IpFamily) : String := "restore" ++ suffix f

/-- `selection_name`. -/
def selectionName (f : IpFamily) (mark : ℕ) : String :=
  "select" ++ suffix f ++ "_" ++ hexText mark

/-- `marker_name`. -/
def markerName (kind : String) (generation : ℕ) (digest : String) : String :=
  kind ++ "_g" ++ toString generation ++ "_" ++ digest

def Nft.ChainName.text : ChainName → String
  | .seal digest => policySealPrefix ++ digest
  | .state generation digest => markerName "state" generation digest
  | .transaction generation digest => markerName "transaction" generation digest
  | .restore f => restoreName f
  | .select f mark => selectionName f mark
  | .output => "output"
  | .prerouting => "prerouting"
  | .egressGuard => "egress_guard"
  | .sourceNat => "source_nat"
  | .guard => "guard"

def Nft.MetaKey.text : MetaKey → String
  | .mark => "mark"
  | .nfproto => "nfproto"
  | .iif => "iif"
  | .iifname => "iifname"
  | .oif => "oif"
  | .oifname => "oifname"

def Nft.Op.text : Op → String
  | .eq => "=="
  | .ne => "!="
  | .lt => "<"
  | .gt => ">"
  | .mem => "in"

/-! ## Expressions -/

/-- An object with one field. -/
def single (key : String) (value : JsonValue) : JsonValue := .object [(key, value)]

/-- `meta`. -/
def metaJson (key : String) : JsonValue := single "meta" (single "key" (.string key))

/-- `ct`. -/
def ctJson (key : String) : JsonValue := single "ct" (single "key" (.string key))

/-- `payload`. -/
def payloadJson (protocol field : String) : JsonValue :=
  single "payload" (.object [("field", .string field), ("protocol", .string protocol)])

def Nft.PayloadField.json : PayloadField → JsonValue
  | .udpSport => payloadJson "udp" "sport"
  | .udpDport => payloadJson "udp" "dport"
  | .daddr f => payloadJson (protocol f) "daddr"
  | .ip6Hoplimit => payloadJson "ip6" "hoplimit"
  | .icmpv6Type => payloadJson "icmpv6" "type"

def Nft.Operand.json : Operand → JsonValue
  | .meta key => metaJson key.text
  | .ct .mark => ctJson "mark"
  | .ct .state => ctJson "state"
  | .ct .direction => ctJson "direction"
  | .ct (.saddr f) =>
    single "ct" (.object [("dir", .string "original"), ("key", .string (protocol f ++ " saddr"))])
  | .payload field => field.json
  | .fibDaddrType =>
    single "fib" (.object [("flags", .array [.string "daddr"]), ("result", .string "type")])
  | .socketCgroup level =>
    single "socket" (.object [("key", .string "cgroupv2"), ("level", .number level)])

def Nft.Source.json : Source → JsonValue
  | .num n => .number n
  | .operand o => o.json

/-- `reject`. -/
def rejectKind : Option IpFamily → String
  | some .v4 => "icmp"
  | some .v6 => "icmpv6"
  | none => "icmpx"

section Render

variable (t : AddressText)

def Nft.Datum.json : Datum → JsonValue
  | .num n => .number n
  | .str s => .string s
  | .addr a => .string (t.print a)

/-- The address a network starts at. -/
def IpNet.networkAddr : IpNet → IpAddr
  | .v4 n => .v4 n.network
  | .v6 n => .v6 n.network

def Nft.Right.json : Right → JsonValue
  | .one d => d.json t
  | .set ds => single "set" (.array (ds.map (Datum.json t)))
  | .range low high => single "range" (.array [.number low, .number high])
  | .net n =>
    single "prefix" (.object [("addr", .string (t.print n.networkAddr)),
      ("len", .number n.prefixLen)])

def Nft.Expr.json : Expr → JsonValue
  | .match left op right =>
    single "match" (.object [("left", left.json), ("op", .string op.text), ("right", right.json t)])
  | .mangle key value =>
    single "mangle" (.object [("key", key.json), ("value", value.json)])
  | .counter none => single "counter" .null
  | .counter (some (packets, bytes)) =>
    single "counter" (.object [("bytes", .number bytes), ("packets", .number packets)])
  | .ret => single "return" .null
  | .goto target => single "goto" (single "target" (.string target.text))
  | .reject f =>
    single "reject" (.object [("expr", .string "port-unreachable"), ("type", .string (rejectKind f))])
  | .drop => single "drop" .null
  | .masquerade => single "masquerade" .null

/-! ## Objects -/

def integer : ℤ → JsonValue
  | .ofNat n => .number n
  | .negSucc n => .otherNumber ("-" ++ toString (n + 1))

/-- The handle nft gives an object; the code never writes one. -/
def handleField (handle : Option ℕ) : List (String × JsonValue) :=
  (handle.map fun n => ("handle", JsonValue.number n)).toList

/-- `Chain::regular` and `Chain::base`. -/
def chainFields (name : ChainName) (base : Option BaseHook) (handle : Option ℕ) :
    List (String × JsonValue) :=
  match base with
  | none =>
    [("family", .string "inet")] ++ handleField handle ++
      [("name", .string name.text), ("table", .string "routelane")]
  | some base =>
    [("family", .string "inet")] ++ handleField handle ++
      [("hook", .string base.hook), ("name", .string name.text), ("policy", .string "accept"),
        ("prio", integer base.prio), ("table", .string "routelane"), ("type", .string base.kind)]

def Nft.Object.json : Object → JsonValue
  | .empty => .object []
  | .metainfo => single "metainfo" (.object [])
  | .table handle =>
    single "table" (.object
      ([("family", .string "inet")] ++ handleField handle ++ [("name", .string "routelane")]))
  | .chain name base handle => single "chain" (.object (chainFields name base handle))
  | .rule owner expr handle =>
    single "rule" (.object
      ([("chain", .string owner.text), ("expr", .array (expr.map (Expr.json t))),
        ("family", .string "inet")] ++ handleField handle ++ [("table", .string "routelane")]))

/-- A document as JSON. -/
def documentJson (document : Document) : JsonValue :=
  single "nftables" (.array (document.map (Object.json t)))

end Render

/-! ## Reading texts -/

/-- `str::strip_prefix`. -/
def stripPrefix (start text : String) : Option String :=
  if start.toList <+: text.toList then some (.ofList (text.toList.drop start.toList.length))
  else none

/-- `str::starts_with`. -/
def startsWith (text start : String) : Bool := decide (start.toList <+: text.toList)

theorem stripPrefix_append (start rest : String) : stripPrefix start (start ++ rest) = some rest := by
  rw [stripPrefix, String.toList_append, if_pos (List.prefix_append _ _), List.drop_left,
    String.ofList_toList]

theorem isSome_stripPrefix (start text : String) :
    (stripPrefix start text).isSome = startsWith text start := by
  unfold stripPrefix startsWith
  split <;> simp_all

end RouteLane
