import RouteLane.Kernel.LiveRouting

/-!
# The two readers side by side

An entry both readers accept is compared with every resource of RouteLane: is it that
resource for the snapshot exactly if the ownership reader takes it for that resource?  Rules
always are, and terminal routes are.  A unicast route is unless one of two spellings comes
in, each of which one reader takes and the other does not: an IPv6 route that does not say
its metric, and a gateway that is not written the way Rust writes it.
-/

namespace RouteLane

namespace Inspect

/-! ## One field -/

theorem optional_asStr {value : Option JsonValue} {x : Option String}
    (h : optional JsonValue.asStr value = some x) : value.bind JsonValue.asStr = x := by
  match value with
  | none => simpa [optional] using h
  | some .null => simpa [optional, JsonValue.asStr] using h
  | some (.string text) => simpa [optional, JsonValue.asStr] using h
  | some (.bool _) | some (.number _) | some (.otherNumber _) | some (.array _)
  | some (.object _) => simp [optional, JsonValue.asStr] at h

theorem eq_none_of_isNone {α : Type} {decode : JsonValue → Option α} {value : Option JsonValue}
    {x : Option α} (h : optional decode value = some x) (hnone : value.isNone = true) :
    x = none := by
  rw [Option.isNone_iff_eq_none] at hnone
  subst hnone
  simpa [optional, eq_comm] using h

/-- A text field of which the ownership reader takes one kind of text only. -/
theorem all_of_all {value : Option JsonValue} {x : Option String}
    (h : optional JsonValue.asStr value = some x) {good : JsonValue → Bool} {fits : String → Bool}
    (hgood : ∀ text, good (.string text) = true → fits text = true)
    (hall : value.all good = true) : x.all fits = true := by
  have hx := optional_asStr h
  subst hx
  match value with
  | none => rfl
  | some (.string text) => exact hgood text (by simpa using hall)
  | some .null | some (.bool _) | some (.number _) | some (.otherNumber _) | some (.array _)
  | some (.object _) => rfl

theorem all_of_absentOrExactString {value : Option JsonValue} {x : Option String}
    (h : optional JsonValue.asStr value = some x) {expected : String}
    (hexact : absentOrExactString value expected = true) :
    x.all (fun text => text == expected) = true :=
  all_of_all h (fun text htext => by simpa [JsonValue.asStr] using htext) hexact

theorem all_of_absentOrExactRouteEnum {value : Option JsonValue} {x : Option String}
    (h : optional JsonValue.asStr value = some x) {name : String} {number : ℕ}
    (hexact : absentOrExactRouteEnum value name number = true) :
    x.all (fun text => routeEnumMatches text name number) = true :=
  all_of_all h (fun text htext => by simpa [JsonValue.asStr, JsonValue.asU64] using htext) hexact

theorem all_of_routeScopeIsExact {value : Option JsonValue} {x : Option String}
    (h : optional JsonValue.asStr value = some x) {gatewayless : Bool}
    (hexact : routeScopeIsExact value gatewayless = true) :
    x.all (fun text => routeEnumMatches text "global" 0 ||
      (gatewayless && routeEnumMatches text "link" 253)) = true :=
  all_of_all h (fun text htext => by
    simpa [absentOrExactRouteEnum, JsonValue.asStr, JsonValue.asU64] using htext) hexact

/-- The texts the ownership reader lists for a field of a terminal route. -/
theorem all_of_saysOneOf {value : Option JsonValue} {x : Option String}
    (h : optional JsonValue.asStr value = some x) {name number : String}
    (hone : (value.isNone || saysOneOf [name, number] value) = true) :
    x.all (fun text => text == name || text == number) = true := by
  have hx := optional_asStr h
  subst hx
  cases value with
  | none => rfl
  | some value =>
    rw [Option.isNone_some, Bool.false_or] at hone
    unfold saysOneOf at hone
    cases htext : (some value).bind JsonValue.asStr with
    | none => rfl
    | some text => simpa [htext] using hone

theorem decodeU32_eq {value : JsonValue} {n : ℕ} (h : decodeU32 value = some n) :
    jsonNumber value = some n := by
  unfold jsonNumber
  rw [show value.asU64.filter (fun n => n < 2 ^ 32) = some n from h, Option.some_or]

theorem all_of_absentOrExactU32 {value : Option JsonValue} {x : Option ℕ}
    (h : optional decodeU32 value = some x) {expected : ℕ}
    (hexact : absentOrExactU32 value expected = true) :
    x.isSome = value.isSome ∧ x.all (fun n => n == expected) = true := by
  match value with
  | none =>
    obtain rfl : none = x := by simpa [optional] using h
    simp
  | some .null => simp [absentOrExactU32, jsonNumber, JsonValue.asU64, JsonValue.asStr] at hexact
  | some (.number n) =>
    obtain ⟨m, hm, rfl⟩ : ∃ m, decodeU32 (.number n) = some m ∧ some m = x := by
      simpa [optional] using h
    have hnumber := decodeU32_eq hm
    simp [absentOrExactU32, hnumber] at hexact
    simp [hexact]
  | some (.string _) | some (.bool _) | some (.otherNumber _) | some (.array _)
  | some (.object _) => simp [optional, decodeU32, JsonValue.asU64] at h

/-- Where the ownership reader insists on a value, an optional field has it. -/
theorem optional_eq {α β : Type} {decode : JsonValue → Option α} {value : Option JsonValue}
    {x : Option α} (h : optional decode value = some x) {read : JsonValue → Option β} {b : β}
    (hb : value.bind read = some b) (hnull : read .null = none) :
    ∃ v a, value = some v ∧ decode v = some a ∧ x = some a ∧ read v = some b := by
  match value with
  | none => simp at hb
  | some .null => simp [hnull] at hb
  | some (.bool _) | some (.number _) | some (.otherNumber _) | some (.string _)
  | some (.array _) | some (.object _) =>
    obtain ⟨a, ha, rfl⟩ := Option.map_eq_some_iff.mp h
    exact ⟨_, a, rfl, ha, rfl, hb⟩

theorem eq_of_jsonNumber {value : Option JsonValue} {x : Option ℕ}
    (h : optional decodeU32 value = some x) {n : ℕ} (hn : value.bind jsonNumber = some n) :
    x = some n := by
  obtain ⟨v, m, -, hm, rfl, hn⟩ := optional_eq h hn rfl
  rw [← decodeU32_eq hm, hn]

/-- The three names of tables are no numbers. -/
theorem decodeTable_eq {value : JsonValue} {table n : ℕ} (h : decodeTable value = some table)
    (hn : jsonNumber value = some n) : table = n := by
  unfold decodeTable at h
  split at h
  · simp [show jsonNumber (.string "default") = none by decide] at hn
  · simp [show jsonNumber (.string "main") = none by decide] at hn
  · simp [show jsonNumber (.string "local") = none by decide] at hn
  · rename_i name _ _ _
    have htext : u32FromStrRadix 10 name = some n := by
      simpa [jsonNumber, JsonValue.asU64, JsonValue.asStr] using hn
    exact Option.some.inj (h.symm.trans htext)
  · exact Option.some.inj ((decodeU32_eq h).symm.trans hn)

theorem eq_of_table {value : Option JsonValue} {table n : ℕ}
    (h : (value.map decodeTable).getD (some 254) = some table)
    (hn : value.bind jsonNumber = some n) : table = n := by
  cases value with
  | none => simp at hn
  | some value => exact decodeTable_eq h hn

theorem eq_of_decodeTexts {value : Option JsonValue} {flags : List String}
    (h : (value.map decodeTexts).getD (some []) = some flags) :
    (absentOrEmptyArray value = true → flags = []) ∧
      (unicastFlagsAreOwned value = true → flags = [] ∨ flags = ["linkdown"]) := by
  match value with
  | none => simp_all
  | some (.array []) =>
    have : flags = [] := by simpa [decodeTexts, JsonValue.asArray, eq_comm] using h
    simp [this]
  | some (.array [.string flag]) =>
    have : flags = [flag] := by
      simpa [decodeTexts, JsonValue.asArray, JsonValue.asStr, eq_comm] using h
    subst this
    simp [absentOrEmptyArray, unicastFlagsAreOwned, JsonValue.asArray, linkdownFlags]
  | some (.array [.null]) | some (.array [.bool _]) | some (.array [.number _])
  | some (.array [.otherNumber _]) | some (.array [.array _]) | some (.array [.object _]) =>
    simp [decodeTexts, JsonValue.asArray, JsonValue.asStr] at h
  | some (.array (_ :: _ :: _)) =>
    simp [absentOrEmptyArray, unicastFlagsAreOwned, JsonValue.asArray, linkdownFlags]
  | some .null | some (.bool _) | some (.number _) | some (.otherNumber _) | some (.string _)
  | some (.object _) => simp [decodeTexts, JsonValue.asArray] at h

theorem splitMark_exact {text : String} {m : ℕ} (h : parseExactMark (.string text) = some m) :
    parseU32Text (splitMark text).1 = some m ∧
      (splitMark text).2.all (fun mask => parseU32Text mask == some (2 ^ 32 - 1)) = true := by
  simp only [parseExactMark] at h
  cases hfound : (splitMark text).2 with
  | none => simpa [hfound] using h
  | some mask =>
    rw [hfound, Option.any_some] at h
    by_cases hmask : parseU32Text mask = some (2 ^ 32 - 1)
    · rw [hmask, bne_self_eq_false] at h
      exact ⟨h, by rw [Option.all_some, hmask, beq_self_eq_true]⟩
    · rw [bne_iff_ne.mpr hmask] at h
      cases h

/-- A mark the ownership reader takes is full width, and the snapshot sees it so. -/
theorem decodeMark_eq {value : JsonValue} {mark : Mark} {m : ℕ}
    (h : decodeMark value = some mark) (hm : parseExactMark value = some m) :
    mark.value = m ∧ mark.isFullWidth = true := by
  cases value with
  | string text =>
    obtain ⟨hvalue, hmask⟩ := splitMark_exact hm
    obtain ⟨n, hn, h⟩ := Option.bind_eq_some_iff.mp h
    obtain rfl : m = n := Option.some.inj (hvalue.symm.trans hn)
    cases hfound : (splitMark text).2 with
    | none =>
      rw [hfound] at h
      obtain rfl := Option.some.inj h
      exact ⟨rfl, rfl⟩
    | some mask =>
      rw [hfound] at h hmask
      obtain ⟨width, hwidth, h⟩ := Option.bind_eq_some_iff.mp h
      obtain rfl := Option.some.inj h
      have hfull : parseU32Text mask = some (2 ^ 32 - 1) := by simpa using hmask
      obtain rfl : width = 2 ^ 32 - 1 := Option.some.inj (hwidth.symm.trans hfull)
      exact ⟨rfl, rfl⟩
  | number n =>
    obtain ⟨n, hn, rfl⟩ := Option.map_eq_some_iff.mp h
    exact ⟨Option.some.inj (hn.symm.trans hm), rfl⟩
  | null | bool _ | otherNumber _ | array _ | object _ => cases hm

theorem isNone_of_decodeAddress {t : AddressText} {f : IpFamily} {text : Option String}
    {address : Option IpAddr} (h : decodeAddress t f text = some address) :
    address.isNone = text.isNone := by
  cases text with
  | none =>
    obtain rfl := Option.some.inj h
    rfl
  | some text =>
    obtain ⟨found, -, rfl⟩ := Option.map_eq_some_iff.mp h
    rfl

/-- Nothing is left over of an entry that has no field but the known ones. -/
theorem takeFields_eq {known : List String} {fields : List (String × JsonValue)}
    {extra : OrderedMap String JsonValue} (h : takeFields known fields = some extra)
    (hknown : fields.any (fun field => !known.contains field.1) = false) :
    extra.entries.isEmpty = true := by
  unfold takeFields at h
  split at h
  · have hnil : fields.filter (fun field => field.1 ∉ known) = [] := by
      rw [List.filter_eq_nil_iff]
      intro field hfield
      have := (List.any_eq_false.mp hknown) field hfield
      simpa using this
    rw [hnil] at h
    obtain rfl := Option.some.inj h
    rfl
  · cases h

/-! ## A whole entry -/

theorem asObject_eq {value : JsonValue} {fields : List (String × JsonValue)}
    (h : value.asObject = some fields) : value = .object fields := by
  cases value with
  | object _ => rw [Option.some.inj h]
  | null | bool _ | number _ | otherNumber _ | string _ | array _ => cases h

theorem parseRoute_eq {t : AddressText} {f : IpFamily} {route : JsonValue} {entry : RouteEntry}
    (h : parseRoute t f route = some entry) :
    ∃ fields, route = .object fields ∧ takeFields routeFields fields = some entry.extra ∧
      entry.family = f ∧ optional JsonValue.asStr (route.get "type") = some entry.routeType ∧
      optional JsonValue.asStr (route.get "dst") = some entry.destination ∧
      optional JsonValue.asStr (route.get "dev") = some entry.interface ∧
      ((route.get "table").map decodeTable).getD (some 254) = some entry.table ∧
      optional decodeU32 (route.get "metric") = some entry.metric ∧
      optional JsonValue.asStr (route.get "protocol") = some entry.protocol ∧
      optional JsonValue.asStr (route.get "scope") = some entry.scope ∧
      ((route.get "flags").map decodeTexts).getD (some []) = some entry.flags ∧
      optional JsonValue.asStr (route.get "pref") = some entry.preference ∧
      (∃ gateway, optional JsonValue.asStr (route.get "gateway") = some gateway ∧
        decodeAddress t f gateway = some entry.gateway) ∧
      ∃ source, optional JsonValue.asStr (route.get "prefsrc") = some source ∧
        decodeAddress t f source = some entry.preferredSource := by
  unfold parseRoute at h
  obtain ⟨fields, hfields, hread⟩ := Option.bind_eq_some_iff.mp h
  obtain rfl := asObject_eq hfields
  obtain ⟨extra, hextra, hread⟩ := Option.bind_eq_some_iff.mp hread
  obtain ⟨routeType, htype, hread⟩ := Option.bind_eq_some_iff.mp hread
  obtain ⟨destination, hdst, hread⟩ := Option.bind_eq_some_iff.mp hread
  obtain ⟨gateway, hgateway, hread⟩ := Option.bind_eq_some_iff.mp hread
  obtain ⟨interface, hdev, hread⟩ := Option.bind_eq_some_iff.mp hread
  obtain ⟨table, htable, hread⟩ := Option.bind_eq_some_iff.mp hread
  obtain ⟨metric, hmetric, hread⟩ := Option.bind_eq_some_iff.mp hread
  obtain ⟨protocol, hprotocol, hread⟩ := Option.bind_eq_some_iff.mp hread
  obtain ⟨scope, hscope, hread⟩ := Option.bind_eq_some_iff.mp hread
  obtain ⟨source, hsource, hread⟩ := Option.bind_eq_some_iff.mp hread
  obtain ⟨flags, hflags, hread⟩ := Option.bind_eq_some_iff.mp hread
  obtain ⟨preference, hpref, hread⟩ := Option.bind_eq_some_iff.mp hread
  obtain ⟨address, haddress, hread⟩ := Option.bind_eq_some_iff.mp hread
  obtain ⟨preferred, hpreferred, hread⟩ := Option.bind_eq_some_iff.mp hread
  obtain rfl := Option.some.inj hread
  exact ⟨fields, rfl, hextra, rfl, htype, hdst, hdev, htable, hmetric, hprotocol, hscope,
    hflags, hpref, ⟨gateway, hgateway, haddress⟩, source, hsource, hpreferred⟩

theorem parseRule_eq {f : IpFamily} {rule : JsonValue} {entry : RuleEntry}
    (h : parseRule f rule = some entry) :
    ∃ fields, rule = .object fields ∧ takeFields ruleFields fields = some entry.extra ∧
      entry.family = f ∧ (rule.get "priority").bind decodeU32 = some entry.priority ∧
      optional decodeTable (rule.get "table") = some entry.table ∧
      optional decodeMark ((rule.get "fwmark").or (rule.get "mark")) = some entry.mark ∧
      optional JsonValue.asStr (rule.get "src") = some entry.source ∧
      optional JsonValue.asStr (rule.get "dst") = some entry.destination := by
  unfold parseRule at h
  obtain ⟨fields, hfields, hread⟩ := Option.bind_eq_some_iff.mp h
  obtain rfl := asObject_eq hfields
  obtain ⟨extra, hextra, hread⟩ := Option.bind_eq_some_iff.mp hread
  split at hread
  · cases hread
  · obtain ⟨priority, hpriority, hread⟩ := Option.bind_eq_some_iff.mp hread
    obtain ⟨table, htable, hread⟩ := Option.bind_eq_some_iff.mp hread
    obtain ⟨mark, hmark, hread⟩ := Option.bind_eq_some_iff.mp hread
    obtain ⟨source, hsource, hread⟩ := Option.bind_eq_some_iff.mp hread
    obtain ⟨destination, hdst, hread⟩ := Option.bind_eq_some_iff.mp hread
    obtain rfl := Option.some.inj hread
    exact ⟨fields, rfl, hextra, rfl, hpriority, htable, hmark, hsource, hdst⟩

end Inspect

open Inspect

/-- What the ownership reader found when it took an entry for a route. -/
theorem liveRoute_eq {route : JsonValue} {f : IpFamily} {record : RouteRecord}
    (h : liveRoute route f = .ok (some record)) :
    ∃ table, (route.get "table").bind jsonNumber = some table ∧
      (route.asObject.getD []).any (fun field => !Inspect.routeFields.contains field.1) = false ∧
      if saysOneOf ["unreachable", "7"] (route.get "type") then
        liveTerminalRoute route f table = .ok record
      else liveUnicastRoute route f table = .ok record := by
  unfold liveRoute at h
  cases htable : (route.get "table").bind jsonNumber with
  | none => simp [htable] at h
  | some table =>
    simp only [htable] at h
    split at h
    · split at h
      · simp at h
      · rename_i hfields
        refine ⟨table, rfl, by simpa using hfields, ?_⟩
        split at h
        · cases hlive : liveTerminalRoute route f table with
          | error e => simp [hlive, Except.map] at h
          | ok found => simp_all [Except.map]
        · cases hlive : liveUnicastRoute route f table with
          | error e => simp [hlive, Except.map] at h
          | ok found => simp_all [Except.map]
    · simp at h

theorem of_guard_eq_ok {α ε : Type} {c : Prop} [Decidable c] {result : Except ε α} {b : α} {e : ε}
    (h : (if c then result else .error e) = .ok b) : c ∧ result = .ok b := by
  by_cases hc : c
  · exact ⟨hc, by rwa [if_pos hc] at h⟩
  · rw [if_neg hc] at h
    cases h

/-- A field that is absent for IPv4, and says the one thing it can for IPv6. -/
theorem all_of_exactFor (f : IpFamily) {value : Option JsonValue} {x : Option String}
    (h : optional JsonValue.asStr value = some x) {expected : String} :
    (match f with | .v4 => value.isNone | .v6 => absentOrExactString value expected) = true →
      (match f with | .v4 => x.isNone | .v6 => x.all (· == expected)) = true := by
  cases f with
  | v4 => exact fun hexact => by rw [eq_none_of_isNone h hexact, Option.isNone_none]
  | v6 => exact all_of_absentOrExactString h

theorem all_and_all_of_exactFor (f : IpFamily) {x y : Option String} {first second : String} :
    (match f with | .v4 => x.isNone | .v6 => x.all (· == first)) = true →
      (match f with | .v4 => y.isNone | .v6 => y.all (· == second)) = true →
      (match f with
        | .v4 => x.isNone && y.isNone
        | .v6 => x.all (· == first) && y.all (· == second)) = true := by
  cases f <;> exact fun hx hy => Bool.and_eq_true_iff.mpr ⟨hx, hy⟩

theorem record_terminal (t : AddressText) (f : IpFamily) (table : ℕ) :
    (routeOwnership f table .terminal).record t = ⟨f, table, none, "", true⟩ := rfl

/-- An entry of the type of a terminal route that both readers take is a terminal route. -/
theorem matchesTerminal_of_liveRoute {t : AddressText} {f : IpFamily} {route : JsonValue}
    {entry : Inspect.RouteEntry} {record : RouteRecord} (hparse : parseRoute t f route = some entry)
    (hlive : liveRoute route f = .ok (some record))
    (hterminal : saysOneOf ["unreachable", "7"] (route.get "type") = true) :
    ∃ table, record = (routeOwnership f table .terminal).record t ∧
      entry.matchesTerminal f table = true := by
  obtain ⟨fields, hroute, hextra, hfamily, htype, hdst, hdev, htable, hmetric, hprotocol,
    hscope, hflags, hpref, ⟨gateway, hgateway, haddress⟩, source, hsource, hpreferred⟩ :=
    parseRoute_eq hparse
  obtain ⟨table, hnumber, hknown, hlive⟩ := liveRoute_eq hlive
  rw [if_pos hterminal] at hlive
  obtain ⟨hexact, hrecord⟩ := of_guard_eq_ok hlive
  simp only [Bool.and_eq_true, beq_iff_eq] at hexact
  obtain ⟨⟨⟨⟨⟨⟨⟨⟨hdst', hmetric'⟩, hgateway'⟩, hdev'⟩, hprotocol'⟩, hscope'⟩, hsource'⟩,
    hflags'⟩, hpref'⟩ := hexact
  have hgateway : gateway = none := eq_none_of_isNone hgateway hgateway'
  have hsource : source = none := eq_none_of_isNone hsource hsource'
  subst hgateway hsource
  have htable := eq_of_table htable hnumber
  have htype : entry.routeType = some "unreachable" ∨ entry.routeType = some "7" := by
    rw [← optional_asStr htype]
    cases htext : (route.get "type").bind JsonValue.asStr with
    | none => simp [saysOneOf, htext] at hterminal
    | some text => simpa [saysOneOf, htext] using hterminal
  have hprotocol := all_of_saysOneOf hprotocol hprotocol'
  have hscope := all_of_saysOneOf hscope hscope'
  have hdevice := all_and_all_of_exactFor f (all_of_exactFor f hdev hdev')
    (all_of_exactFor f hpref hpref')
  have hnone : entry.gateway = none ∧ entry.preferredSource = none := by
    constructor
    · simpa [decodeAddress, eq_comm] using haddress
    · simpa [decodeAddress, eq_comm] using hpreferred
  have hextra : entry.extra.entries.isEmpty = true := by
    subst hroute
    exact takeFields_eq hextra hknown
  refine ⟨table, (Except.ok.inj hrecord).symm.trans (record_terminal t f table).symm, ?_⟩
  have htype' : (entry.routeType == some "unreachable" || entry.routeType == some "7") = true := by
    simpa using htype
  simp only [Inspect.RouteEntry.matchesTerminal, hfamily, htable, ← optional_asStr hdst, hdst',
    htype', hnone, eq_of_jsonNumber hmetric hmetric', (eq_of_decodeTexts hflags).1 hflags',
    hextra]
  simpa using ⟨⟨hdevice, hprotocol⟩, hscope⟩

/-- Whether an entry says its metric where the snapshot asks for one. -/
def SaysItsMetric (f : IpFamily) (route : JsonValue) : Prop :=
  f = .v4 ∨ (route.get "metric").isSome

/-- Whether the gateway of an entry, if there is one, is written the way Rust writes it. -/
def GatewayIsPrinted (t : AddressText) (route : JsonValue) : Prop :=
  ∃ gateway : Option IpAddr, (route.get "gateway").bind JsonValue.asStr = gateway.map t.print

theorem metric_iff {f : IpFamily} {route : JsonValue} {metric : Option ℕ}
    (hsome : metric.isSome = (route.get "metric").isSome) :
    metric.all (fun n => n == (match f with | .v4 => 0 | .v6 => 1024)) = true →
      (metric.getD 0 = (match f with | .v4 => 0 | .v6 => 1024) ↔ SaysItsMetric f route) := by
  unfold SaysItsMetric
  rw [← hsome]
  cases metric with
  | none => cases f <;> simp
  | some n => cases f <;> simp

/-- An entry of another type that both readers take is, for the snapshot, the unicast default
of its own gateway and interface if it says its metric, and nothing else. -/
theorem matchesDefault_of_liveRoute {t : AddressText} {f : IpFamily} {route : JsonValue}
    {entry : Inspect.RouteEntry} {record : RouteRecord} (hparse : parseRoute t f route = some entry)
    (hlive : liveRoute route f = .ok (some record))
    (hunicast : saysOneOf ["unreachable", "7"] (route.get "type") = false) :
    ∃ table interface, record =
        ⟨f, table, (route.get "gateway").bind JsonValue.asStr, interface, false⟩ ∧
      decodeAddress t f ((route.get "gateway").bind JsonValue.asStr) = some entry.gateway ∧
      (∀ f' table', entry.matchesTerminal f' table' = false) ∧
      ∀ f' table' gateway' interface',
        entry.matchesDefault f' table' gateway' interface' = true ↔
          f' = f ∧ table' = table ∧ gateway' = entry.gateway ∧ interface' = interface ∧
            SaysItsMetric f route := by
  obtain ⟨fields, hroute, hextra, hfamily, htype, hdst, hdev, htable, hmetric, hprotocol,
    hscope, hflags, hpref, ⟨gateway, hgateway, haddress⟩, source, hsource, hpreferred⟩ :=
    parseRoute_eq hparse
  obtain ⟨table, hnumber, hknown, hlive⟩ := liveRoute_eq hlive
  rw [if_neg (by simp [hunicast])] at hlive
  obtain ⟨hexact, hfound⟩ := of_guard_eq_ok hlive
  simp only [Bool.and_eq_true, beq_iff_eq] at hexact
  obtain ⟨⟨⟨⟨⟨⟨⟨hdst', htype'⟩, hmetric'⟩, hprotocol'⟩, hscope'⟩, hsource'⟩, hflags'⟩,
    hpref'⟩ := hexact
  have htable := eq_of_table htable hnumber
  have hgateway := optional_asStr hgateway
  have hsource : source = none := eq_none_of_isNone hsource hsource'
  subst hgateway hsource
  have hsource : entry.preferredSource = none := by
    simpa [decodeAddress, eq_comm] using hpreferred
  have hnone := isNone_of_decodeAddress haddress
  have htype := all_of_absentOrExactRouteEnum htype htype'
  have hprotocol := all_of_absentOrExactRouteEnum hprotocol hprotocol'
  have hscope := all_of_routeScopeIsExact hscope hscope'
  have hflags := (eq_of_decodeTexts hflags).2 hflags'
  have hpref := all_of_exactFor f hpref hpref'
  obtain ⟨hsome, hall⟩ := all_of_absentOrExactU32 hmetric hmetric'
  have hmetric := metric_iff hsome hall
  have hextra : entry.extra.entries.isEmpty = true := by
    subst hroute
    exact takeFields_eq hextra hknown
  have hlow : (entry.metric == some terminalRouteMetric) = false := by
    cases hvalue : entry.metric with
    | none => rfl
    | some n =>
      rw [hvalue] at hall
      cases f <;> (obtain rfl : n = _ := by simpa using hall) <;> rfl
  cases hdevice : (route.get "dev").bind JsonValue.asStr with
  | none => simp [hdevice] at hfound
  | some interface =>
    rw [hdevice] at hfound
    refine ⟨table, interface, (Except.ok.inj hfound).symm, haddress, ?_, ?_⟩
    · intro f' table'
      simp [Inspect.RouteEntry.matchesTerminal, hlow]
    · intro f' table' gateway' interface'
      constructor
      · intro h
        simp only [Inspect.RouteEntry.matchesDefault, Bool.and_eq_true, beq_iff_eq] at h
        obtain ⟨⟨⟨⟨⟨⟨⟨⟨⟨⟨⟨⟨hf, ht⟩, -⟩, hg⟩, hi⟩, -⟩, hm⟩, -⟩, -⟩, -⟩, -⟩, -⟩, -⟩ := h
        have hi' : some interface = some interface' := by
          rw [← hdevice, optional_asStr hdev, hi]
        obtain rfl : f = f' := hfamily.symm.trans hf
        exact ⟨rfl, ht.symm.trans htable, hg.symm, (Option.some.inj hi').symm, hmetric.mp hm⟩
      · intro h
        obtain ⟨rfl, rfl, rfl, rfl, hm⟩ := h
        have hi : entry.interface = some interface' := by rw [← optional_asStr hdev, hdevice]
        simp only [Inspect.RouteEntry.matchesDefault, hfamily, htable, ← optional_asStr hdst,
          hdst', hi, htype, hmetric.mpr hm, hprotocol, hsource, hextra, hnone]
        cases f' with
        | v4 => simpa using ⟨⟨hscope, hflags⟩, Option.isNone_iff_eq_none.1 hpref⟩
        | v6 => simpa using ⟨⟨hscope, hflags⟩, hpref⟩

/-- What the ownership reader found when it took an entry for a rule. -/
theorem liveRule_eq {rule : JsonValue} {f : IpFamily} {record : RuleOwnership}
    (h : liveRule rule f = .ok (some record)) :
    (rule.get "priority").bind jsonNumber = some record.priority ∧
      (rule.get "table").bind jsonNumber = some record.table ∧
      ((rule.get "fwmark").or (rule.get "mark")).bind parseExactMark = some record.mark ∧
      record.family = f ∧
      (rule.asObject.getD []).any (fun field => !Inspect.ruleFields.contains field.1) = false ∧
      absentOrExactString (rule.get "src") "all" = true ∧
      absentOrExactString (rule.get "dst") "all" = true := by
  unfold liveRule at h
  cases hpriority : (rule.get "priority").bind jsonNumber with
  | none => simp [hpriority] at h
  | some priority =>
    simp only [hpriority] at h
    split at h
    · split at h
      · cases h
      · rename_i hforeign
        simp only [Bool.or_eq_true, not_or, Bool.not_eq_true, Bool.not_eq_eq_eq_not,
          Bool.not_true, Bool.not_eq_false] at hforeign
        cases htable : (rule.get "table").bind jsonNumber with
        | none => simp [htable] at h
        | some table =>
          cases hmark : ((rule.get "fwmark").or (rule.get "mark")).bind parseExactMark with
          | none => simp [htable, hmark] at h
          | some mark =>
            rw [htable, hmark] at h
            obtain rfl := Option.some.inj (Except.ok.inj h)
            exact ⟨rfl, rfl, rfl, rfl, hforeign.1.1, hforeign.1.2, hforeign.2⟩
    · simp at h

/-- A rule that both readers take is the same rule for both. -/
theorem matchesPolicy_iff_of_liveRule {f : IpFamily} {rule : JsonValue} {entry : RuleEntry}
    {record : RuleOwnership} (hparse : parseRule f rule = some entry)
    (hlive : liveRule rule f = .ok (some record)) (f' : IpFamily) (priority table mark : ℕ) :
    entry.matchesPolicy f' priority table mark = true ↔
      record = ruleOwnership f' priority table mark := by
  obtain ⟨fields, hrule, hextra, hfamily, hpriority, htable, hmark, hsource, hdst⟩ :=
    parseRule_eq hparse
  obtain ⟨hpriority', htable', hmark', hfamily', hknown, hsource', hdst'⟩ := liveRule_eq hlive
  obtain ⟨v, hv, hpriority⟩ := Option.bind_eq_some_iff.mp hpriority
  obtain ⟨_, n, -, hn, htable, htable'⟩ := optional_eq htable htable' rfl
  obtain ⟨_, m, -, hm, hmark, hmark'⟩ := optional_eq hmark hmark' rfl
  have hpriority : entry.priority = record.priority := by
    rw [hv, Option.bind_some, decodeU32_eq hpriority] at hpriority'
    exact Option.some.inj hpriority'
  have htable : entry.table = some record.table := by rw [htable, decodeTable_eq hn htable']
  obtain ⟨hvalue, hwidth⟩ := decodeMark_eq hm hmark'
  have hextra : entry.extra.entries.isEmpty = true := by
    subst hrule
    exact takeFields_eq hextra hknown
  have hsource := all_of_absentOrExactString hsource hsource'
  have hdst := all_of_absentOrExactString hdst hdst'
  obtain ⟨family, _, _, _⟩ := record
  obtain rfl : family = f := hfamily'
  simp only [RuleEntry.matchesPolicy, ruleOwnership, hfamily, hpriority, htable, hmark, hvalue,
    Option.any_some, hwidth, hextra, hsource, hdst, Bool.and_true, Bool.and_eq_true, beq_iff_eq,
    Option.some.injEq, RuleOwnership.mk.injEq]
  tauto

/-! ## Agreement -/

/-- The snapshot and the ownership reader agree on a route: it is the terminal route or the
unicast default of given parameters for both or for neither. -/
def RoutesAgree (t : AddressText) (entry : Inspect.RouteEntry) (record : RouteRecord) : Prop :=
  (∀ f table, entry.matchesTerminal f table = true ↔
    record = (routeOwnership f table .terminal).record t) ∧
  ∀ f table gateway interface, entry.matchesDefault f table gateway interface = true ↔
    record = (routeOwnership f table (.unicast gateway interface)).record t

/-- They agree on a rule. -/
def RulesAgree (entry : RuleEntry) (record : RuleOwnership) : Prop :=
  ∀ f priority table mark, entry.matchesPolicy f priority table mark = true ↔
    record = ruleOwnership f priority table mark

theorem matchesTerminal_place {entry : Inspect.RouteEntry} {f : IpFamily} {table : ℕ}
    (h : entry.matchesTerminal f table = true) : entry.family = f ∧ entry.table = table := by
  unfold Inspect.RouteEntry.matchesTerminal at h
  simp only [Bool.and_eq_true, beq_iff_eq] at h
  tauto

theorem routesAgree_terminal {t : AddressText} {f : IpFamily} {route : JsonValue}
    {entry : Inspect.RouteEntry} {record : RouteRecord} (hparse : parseRoute t f route = some entry)
    (hlive : liveRoute route f = .ok (some record))
    (hterminal : saysOneOf ["unreachable", "7"] (route.get "type") = true) :
    RoutesAgree t entry record := by
  obtain ⟨table, rfl, hmatches⟩ := matchesTerminal_of_liveRoute hparse hlive hterminal
  refine ⟨fun f' table' => ⟨fun h => ?_, fun h => ?_⟩,
    fun f' table' gateway interface => ⟨fun h => ?_, fun h => ?_⟩⟩
  · obtain ⟨hf, htable⟩ := matchesTerminal_place h
    obtain ⟨rfl, rfl⟩ := matchesTerminal_place hmatches
    rw [hf, htable]
  · simp only [record_terminal, RouteRecord.mk.injEq] at h
    obtain ⟨rfl, rfl, -⟩ := h
    exact hmatches
  · rw [Inspect.RouteEntry.matchesDefault_eq_false hmatches] at h
    cases h
  · have := congrArg RouteRecord.terminal h
    cases this

/-- What an address was read from is what it prints, if an address prints it at all. -/
theorem printed_iff {t : AddressText} {f : IpFamily} {text : Option String}
    {address : Option IpAddr} (h : decodeAddress t f text = some address) (a : Option IpAddr) :
    text = a.map t.print ↔ a = address ∧ text = address.map t.print := by
  have hread : ∀ b : Option IpAddr, text = b.map t.print → b = address := by
    intro b hb
    subst hb
    cases b with
    | none => exact Option.some.inj h
    | some b =>
      obtain ⟨c, hc, rfl⟩ := Option.map_eq_some_iff.mp h
      rw [t.parse_print] at hc
      exact (Option.filter_eq_some_iff.mp hc).1
  constructor
  · intro ha
    obtain rfl := hread a ha
    exact ⟨rfl, ha⟩
  · rintro ⟨rfl, ha⟩
    exact ha

/-- On a unicast route the readers agree if neither of the two spellings comes in, or both. -/
theorem routesAgree_unicast_iff {t : AddressText} {f : IpFamily} {route : JsonValue}
    {entry : Inspect.RouteEntry} {record : RouteRecord} (hparse : parseRoute t f route = some entry)
    (hlive : liveRoute route f = .ok (some record))
    (hunicast : saysOneOf ["unreachable", "7"] (route.get "type") = false) :
    RoutesAgree t entry record ↔ (GatewayIsPrinted t route ↔ SaysItsMetric f route) := by
  obtain ⟨table, interface, rfl, haddress, hother, hdefault⟩ :=
    matchesDefault_of_liveRoute hparse hlive hunicast
  have hprinted : GatewayIsPrinted t route ↔
      (route.get "gateway").bind JsonValue.asStr = entry.gateway.map t.print :=
    ⟨fun ⟨a, ha⟩ => ((printed_iff haddress a).mp ha).2, fun h => ⟨_, h⟩⟩
  have hrecord : ∀ f' table' gateway' interface',
      ((⟨f, table, (route.get "gateway").bind JsonValue.asStr, interface, false⟩ : RouteRecord) =
          (routeOwnership f' table' (.unicast gateway' interface')).record t ↔
        f' = f ∧ table' = table ∧ gateway' = entry.gateway ∧ interface' = interface ∧
          GatewayIsPrinted t route) := by
    intro f' table' gateway' interface'
    simp only [routeOwnership, RouteOwnership.record, RouteRecord.mk.injEq,
      printed_iff haddress gateway', hprinted]
    constructor
    · rintro ⟨rfl, rfl, ⟨rfl, hg⟩, rfl, -⟩
      exact ⟨rfl, rfl, rfl, rfl, hg⟩
    · rintro ⟨rfl, rfl, rfl, rfl, hg⟩
      exact ⟨rfl, rfl, ⟨rfl, hg⟩, rfl, trivial⟩
  constructor
  · intro hagree
    have hown := hagree.2 f table entry.gateway interface
    rw [hdefault, hrecord] at hown
    simp only [true_and] at hown
    exact hown.symm
  · intro hiff
    refine ⟨fun f' table' => ?_, fun f' table' gateway' interface' => ?_⟩
    · rw [hother]
      refine ⟨fun h => (Bool.false_ne_true h).elim, fun h => ?_⟩
      cases congrArg RouteRecord.terminal h
    · rw [hdefault, hrecord, hiff]

/-- The readers agree on every rule, on every terminal route, and on a unicast route exactly
if its gateway is written the way Rust writes it just in case it says its metric. -/
theorem readers_agree_iff (t : AddressText) (f : IpFamily) (document : JsonValue) :
    (∀ entry record, parseRoute t f document = some entry →
      liveRoute document f = .ok (some record) →
      (RoutesAgree t entry record ↔
        (saysOneOf ["unreachable", "7"] (document.get "type") = true ∨
          (GatewayIsPrinted t document ↔ SaysItsMetric f document)))) ∧
    ∀ entry record, parseRule f document = some entry →
      liveRule document f = .ok (some record) → RulesAgree entry record := by
  constructor
  · intro entry record hparse hlive
    cases hterminal : saysOneOf ["unreachable", "7"] (document.get "type") with
    | true => simp [routesAgree_terminal hparse hlive hterminal]
    | false => simp [routesAgree_unicast_iff hparse hlive hterminal]
  · intro entry record hparse hlive f' priority table mark
    exact matchesPolicy_iff_of_liveRule hparse hlive f' priority table mark

/-- Addresses as their family and their number, for a machine without gateways. -/
def AddressText.numbers : AddressText where
  parse text :=
    match text.toList with
    | '4' :: '/' :: digits => (String.ofList digits).toNat?.map fun n => .v4 (.ofNat 32 n)
    | '6' :: '/' :: digits => (String.ofList digits).toNat?.map fun n => .v6 (.ofNat 128 n)
    | _ => none
  print
    | .v4 address => String.ofList ('4' :: '/' :: address.toNat.repr.toList)
    | .v6 address => String.ofList ('6' :: '/' :: address.toNat.repr.toList)
  parse_print address := by
    cases address <;>
      simp only [String.toList_ofList, String.ofList_toList, Nat.toNat?_repr, Option.map_some,
        BitVec.ofNat_toNat, BitVec.setWidth_eq]

/-- The default route of a lane on a device, as IPv6 shows it without its metric. -/
def routeWithoutMetric : JsonValue :=
  .object [("type", .string "unicast"), ("dst", .string "default"), ("dev", .string "eth0"),
    ("table", .number tableBase), ("protocol", .string "boot")]

theorem readers_agree_without_gateway :
    ∃ entry record,
      parseRoute .numbers .v4 routeWithoutMetric = some entry ∧
      liveRoute routeWithoutMetric .v4 = .ok (some record) ∧
      (RoutesAgree .numbers entry record ↔
        (saysOneOf ["unreachable", "7"] (routeWithoutMetric.get "type") = true ∨
          (GatewayIsPrinted .numbers routeWithoutMetric ↔
            SaysItsMetric .v4 routeWithoutMetric))) :=
  ⟨_, _, rfl, rfl, (readers_agree_iff .numbers .v4 routeWithoutMetric).1 _ _ rfl rfl⟩

/-- The snapshot misses the route the ownership reader takes, for want of a metric. -/
theorem readers_disagree_without_metric :
    ¬ ∀ (t : AddressText) (f : IpFamily) (document : JsonValue),
      (∀ entry record, parseRoute t f document = some entry →
        liveRoute document f = .ok (some record) → RoutesAgree t entry record) ∧
      ∀ entry record, parseRule f document = some entry →
        liveRule document f = .ok (some record) → RulesAgree entry record := by
  intro h
  have hagree := (h .numbers .v6 routeWithoutMetric).1 _ _ rfl rfl
  have hmissed := hagree.2 .v6 tableBase none "eth0"
  exact absurd (hmissed.mpr rfl) (by decide)

end RouteLane
