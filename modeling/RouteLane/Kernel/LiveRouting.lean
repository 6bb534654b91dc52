import RouteLane.Kernel.Snapshot
import RouteLane.Kernel.Ownership
import RouteLane.Policy.Plan

/-!
# Reading live routes and rules

The helper reads what `ip -j` prints twice.  The snapshot takes every entry apart, field by
field, and asks later whether it is a given resource; the ownership reader accepts only what
can be a resource of RouteLane, and says at once which.  Both start from the same documents.
-/

namespace RouteLane

/-! ## Texts and fields -/

/-- How Rust reads and writes an IP address.  What it writes it reads back. -/
structure AddressText where
  parse : String → Option IpAddr
  print : IpAddr → String
  parse_print : ∀ address, parse (print address) = some address

/-- `split_once`. -/
def splitOnce (separator : Char) (text : String) : Option (String × String) :=
  match text.toList.span (· ≠ separator) with
  | (_, []) => none
  | (before, _ :: after) => some (String.ofList before, String.ofList after)

/-- A 32-bit number in decimal, or in hexadecimal after `0x` or `0X`. -/
def parseU32Text (text : String) : Option ℕ :=
  match text.toList with
  | '0' :: 'x' :: digits | '0' :: 'X' :: digits => u32FromStrRadix 16 (String.ofList digits)
  | _ => u32FromStrRadix 10 text

/-- `parse_u32` of the snapshot, which reads what `parse_u32_text` does. -/
def parseU32 (text : String) : Option ℕ := parseU32Text text

/-- The text of a mark before and after a slash. -/
def splitMark (text : String) : String × Option String :=
  match splitOnce '/' text with
  | some (mark, mask) => (mark, some mask)
  | none => (text, none)

/-! ## The snapshot -/

namespace Inspect

/-- An optional field: `null` is as good as absent, and anything else has to decode. -/
def optional {α : Type} (decode : JsonValue → Option α) : Option JsonValue → Option (Option α)
  | none | some .null => some none
  | some value => (decode value).map some

/-- `u32` as serde decodes it. -/
def decodeU32 (value : JsonValue) : Option ℕ := value.asU64.filter fun n => n < 2 ^ 32

/-- `Vec<String>` as serde decodes it. -/
def decodeTexts (value : JsonValue) : Option (List String) :=
  value.asArray.bind fun items => items.mapM JsonValue.asStr

/-- `TableRef`, taken for a number. -/
def decodeTable (value : JsonValue) : Option ℕ :=
  match value with
  | .string "default" => some 253
  | .string "main" => some 254
  | .string "local" => some 255
  | .string name => u32FromStrRadix 10 name
  | value => decodeU32 value

/-- `MarkValue`, parsed by `parse_mark`. -/
def decodeMark : JsonValue → Option Mark
  | .string text => do
    let value ← parseU32 (splitMark text).1
    match (splitMark text).2 with
    | none => return ⟨value, none⟩
    | some mask => return ⟨value, some (← parseU32 mask)⟩
  | value => (decodeU32 value).map fun value => ⟨value, none⟩

/-- An address of the family, if there is one. -/
def decodeAddress (t : AddressText) (f : IpFamily) : Option String → Option (Option IpAddr)
  | none => some none
  | some text => ((t.parse text).filter fun address => address.family == f).map some

/-- The fields that are read, each there once at most, and what is left over. -/
def takeFields (known : List String) (fields : List (String × JsonValue)) :
    Option (OrderedMap String JsonValue) :=
  if known.all fun key => fields.countP (fun field => field.1 == key) ≤ 1 then
    some (.ofList (fields.filter fun field => field.1 ∉ known))
  else none

/-- The fields of a route. -/
def routeFields : List String :=
  ["type", "dst", "gateway", "dev", "table", "metric", "protocol", "scope", "prefsrc", "flags",
    "pref"]

/-- One entry of `parse_routes`. -/
def parseRoute (t : AddressText) (f : IpFamily) (route : JsonValue) : Option RouteEntry := do
  let fields ← route.asObject
  let extra ← takeFields routeFields fields
  let routeType ← optional JsonValue.asStr (fields.lookup "type")
  let destination ← optional JsonValue.asStr (fields.lookup "dst")
  let gateway ← optional JsonValue.asStr (fields.lookup "gateway")
  let interface ← optional JsonValue.asStr (fields.lookup "dev")
  let table ← ((fields.lookup "table").map decodeTable).getD (some 254)
  let metric ← optional decodeU32 (fields.lookup "metric")
  let protocol ← optional JsonValue.asStr (fields.lookup "protocol")
  let scope ← optional JsonValue.asStr (fields.lookup "scope")
  let preferredSource ← optional JsonValue.asStr (fields.lookup "prefsrc")
  let flags ← ((fields.lookup "flags").map decodeTexts).getD (some [])
  let preference ← optional JsonValue.asStr (fields.lookup "pref")
  let gateway ← decodeAddress t f gateway
  let preferredSource ← decodeAddress t f preferredSource
  return ⟨f, table, routeType, destination, gateway, interface, metric, protocol, scope,
    preferredSource, flags, preference, extra⟩

/-- The fields of a rule. -/
def ruleFields : List String := ["priority", "table", "fwmark", "mark", "src", "dst"]

/-- One entry of `parse_rules`.  `mark` is another name of `fwmark`. -/
def parseRule (f : IpFamily) (rule : JsonValue) : Option RuleEntry := do
  let fields ← rule.asObject
  let extra ← takeFields ruleFields fields
  if (fields.lookup "fwmark").isSome && (fields.lookup "mark").isSome then none
  let priority ← (fields.lookup "priority").bind decodeU32
  let table ← optional decodeTable (fields.lookup "table")
  let mark ← optional decodeMark ((fields.lookup "fwmark").or (fields.lookup "mark"))
  let source ← optional JsonValue.asStr (fields.lookup "src")
  let destination ← optional JsonValue.asStr (fields.lookup "dst")
  return ⟨f, priority, table, mark, source, destination, extra⟩

end Inspect

/-! ## The ownership reader -/

/-- `RouteOwnership` as the helper keeps it: the gateway is a text. -/
structure RouteRecord where
  family : IpFamily
  table : ℕ
  gateway : Option String
  interface : String
  terminal : Bool
  deriving DecidableEq, Repr

/-- The record of a route that is owned. -/
def RouteOwnership.record (t : AddressText) (route : RouteOwnership) : RouteRecord :=
  ⟨route.family, route.table, route.gateway.map t.print, route.interface, route.terminal⟩

/-- `absent_or_exact_string`. -/
def absentOrExactString (value : Option JsonValue) (expected : String) : Bool :=
  value.all fun value => value.asStr == some expected

/-- `absent_or_exact_route_enum`. -/
def absentOrExactRouteEnum (value : Option JsonValue) (name : String) (number : ℕ) : Bool :=
  value.all fun value =>
    value.asStr.any (fun text => routeEnumMatches text name number) || value.asU64 == some number

/-- `route_scope_is_exact`. -/
def routeScopeIsExact (value : Option JsonValue) (gatewayless : Bool) : Bool :=
  value.all fun value =>
    absentOrExactRouteEnum (some value) "global" 0 ||
      (gatewayless && absentOrExactRouteEnum (some value) "link" 253)

/-- `absent_or_exact_u32`. -/
def absentOrExactU32 (value : Option JsonValue) (expected : ℕ) : Bool :=
  value.all fun value => jsonNumber value == some expected

/-- `absent_or_empty_array`. -/
def absentOrEmptyArray (value : Option JsonValue) : Bool :=
  value.all fun value => value.asArray.any List.isEmpty

/-- The one flag a route without carrier has. -/
def linkdownFlags : List JsonValue → Bool
  | [.string flag] => flag == "linkdown"
  | _ => false

/-- `unicast_flags_are_owned`. -/
def unicastFlagsAreOwned (flags : Option JsonValue) : Bool :=
  flags.all fun flags => flags.asArray.any fun flags => flags.isEmpty || linkdownFlags flags

/-- What a value says if it is one of these texts. -/
def saysOneOf (texts : List String) (value : Option JsonValue) : Bool :=
  (value.bind JsonValue.asStr).any fun text => texts.contains text

/-- `live_terminal_route`. -/
def liveTerminalRoute (route : JsonValue) (f : IpFamily) (table : ℕ) :
    Except String RouteRecord :=
  let deviceIsExact :=
    match f with
    | .v4 => (route.get "dev").isNone
    | .v6 => absentOrExactString (route.get "dev") "lo"
  let preferenceIsExact :=
    match f with
    | .v4 => (route.get "pref").isNone
    | .v6 => absentOrExactString (route.get "pref") "medium"
  if (route.get "dst").bind JsonValue.asStr == some "default" &&
      (route.get "metric").bind jsonNumber == some terminalRouteMetric &&
      (route.get "gateway").isNone && deviceIsExact &&
      ((route.get "protocol").isNone || saysOneOf ["boot", "3"] (route.get "protocol")) &&
      ((route.get "scope").isNone || saysOneOf ["global", "0"] (route.get "scope")) &&
      (route.get "prefsrc").isNone && absentOrEmptyArray (route.get "flags") &&
      preferenceIsExact then .ok ⟨f, table, none, "", true⟩
  else .error "live RouteLane terminal route has foreign semantics"

/-- `live_unicast_route`. -/
def liveUnicastRoute (route : JsonValue) (f : IpFamily) (table : ℕ) : Except String RouteRecord :=
  let gateway := (route.get "gateway").bind JsonValue.asStr
  let metric := match f with | .v4 => 0 | .v6 => 1024
  let preferenceIsExact :=
    match f with
    | .v4 => (route.get "pref").isNone
    | .v6 => absentOrExactString (route.get "pref") "medium"
  if (route.get "dst").bind JsonValue.asStr == some "default" &&
      absentOrExactRouteEnum (route.get "type") "unicast" 1 &&
      absentOrExactU32 (route.get "metric") metric &&
      absentOrExactRouteEnum (route.get "protocol") "boot" 3 &&
      routeScopeIsExact (route.get "scope") gateway.isNone &&
      (route.get "prefsrc").isNone && unicastFlagsAreOwned (route.get "flags") &&
      preferenceIsExact then
    match (route.get "dev").bind JsonValue.asStr with
    | some interface => .ok ⟨f, table, gateway, interface, false⟩
    | none => .error "live RouteLane route is missing its interface"
  else .error "live RouteLane routing-table entry has foreign semantics"

/-- One entry of `collect_live_routes`: it is passed over outside the tables of RouteLane. -/
def liveRoute (route : JsonValue) (f : IpFamily) : Except String (Option RouteRecord) :=
  match (route.get "table").bind jsonNumber with
  | none => .ok none
  | some table =>
    if tableBase ≤ table ∧ table ≤ tableMax then
      if (route.asObject.getD []).any fun field => !Inspect.routeFields.contains field.1 then
        .error "live RouteLane routing-table entry has foreign semantics"
      else if saysOneOf ["unreachable", "7"] (route.get "type") then
        (liveTerminalRoute route f table).map some
      else (liveUnicastRoute route f table).map some
    else .ok none

/-- `parse_exact_mark`. -/
def parseExactMark : JsonValue → Option ℕ
  | .string text =>
    if (splitMark text).2.any fun mask => parseU32Text mask != some (2 ^ 32 - 1) then none
    else parseU32Text (splitMark text).1
  | value => value.asU64.filter fun n => n < 2 ^ 32

/-- One entry of `collect_live_rules`. -/
def liveRule (rule : JsonValue) (f : IpFamily) : Except String (Option RuleOwnership) :=
  match (rule.get "priority").bind jsonNumber with
  | none => .ok none
  | some priority =>
    if rulePriorityBase ≤ priority ∧ priority ≤ rulePriorityMax then
      if (rule.asObject.getD []).any (fun field =>
            !Inspect.ruleFields.contains field.1) ||
          !absentOrExactString (rule.get "src") "all" ||
          !absentOrExactString (rule.get "dst") "all" then
        .error "live RouteLane policy-rule entry has foreign semantics"
      else match (rule.get "table").bind jsonNumber with
        | none => .error "live RouteLane policy rule is missing its table"
        | some table =>
          match ((rule.get "fwmark").or (rule.get "mark")).bind parseExactMark with
          | none => .error "live RouteLane policy rule is missing its mark"
          | some mark => .ok (some ⟨f, priority, table, mark⟩)
    else .ok none

end RouteLane
