import RouteLane.Backend.Journal

/-!
# What a journal holds

The derived encodings of the plans, the ownership, the receipts and the runtime records in a
journal.  The types of schema 2 are those of today, read with `deny_unknown_fields` where today's
are not.
-/

namespace RouteLane

open Fallible JsonValue

/-! ## Records -/

/-- How the fields of a record are found: with `deny_unknown_fields` or without. -/
abbrev FieldReader := List String → ℕ → JsonValue → Except String (List (String × JsonValue))

/-- What was written of a record is found again. -/
def FindsWritten (find : FieldReader) : Prop :=
  ∀ {parts : List (String × Option JsonValue)} {known : List String} {needed : ℕ},
    parts.map Prod.fst = known → known.Nodup →
      find known needed (JsonValue.object (written parts)).toValue = .ok (toFields (written parts))

theorem findsWritten_structFields : FindsWritten structFields := structFields_written

theorem findsWritten_openFields : FindsWritten openFields := openFields_written

/-- Some of the fields of a record: their names, what is written of them and how they are read. -/
structure Fields (ρ α : Type) where
  names : List String
  parts : ρ → List (String × Option JsonValue)
  read : List (String × JsonValue) → Except String α
  map_fst_parts : ∀ r, (parts r).map Prod.fst = names

section Fields

variable {ρ α β : Type}

def Fields.nil : Fields ρ Unit := ⟨[], fun _ => [], fun _ => .ok (), fun _ => rfl⟩

/-- One more field, at the end. -/
def Fields.and (fs : Fields ρ α) (name : String) (write : ρ → Option JsonValue)
    (readOne : List (String × JsonValue) → String → Except String β) : Fields ρ (α × β) where
  names := fs.names ++ [name]
  parts r := fs.parts r ++ [(name, write r)]
  read fields := do
    let a ← fs.read fields
    let b ← readOne fields name
    return (a, b)
  map_fst_parts r := by
    rw [List.map_append, fs.map_fst_parts]
    rfl

/-- A field without a default. -/
def Fields.field (fs : Fields ρ α) (name : String) (c : Codec β) (value : ρ → β) :
    Fields ρ (α × β) :=
  fs.and name (fun r => some (c.encode (value r))) (readField c)

/-- An `Option`, which may be missing. -/
def Fields.option (fs : Fields ρ α) (name : String) (c : Codec β) (value : ρ → Option β) :
    Fields ρ (α × Option β) :=
  fs.and name (fun r => some (c.option.encode (value r))) (readOption c)

/-- A field that is skipped where it has its default. -/
def Fields.skipped [DecidableEq β] (fs : Fields ρ α) (name : String) (c : Codec β) (default : β)
    (value : ρ → β) : Fields ρ (α × β) :=
  fs.and name (fun r => if value r = default then none else some (c.encode (value r)))
    fun fields key => readDefault c fields key default

@[simp] theorem Fields.names_nil : (Fields.nil : Fields ρ Unit).names = [] := rfl

@[simp] theorem Fields.names_field (fs : Fields ρ α) (name : String) (c : Codec β)
    (value : ρ → β) : (fs.field name c value).names = fs.names ++ [name] := rfl

@[simp] theorem Fields.names_option (fs : Fields ρ α) (name : String) (c : Codec β)
    (value : ρ → Option β) : (fs.option name c value).names = fs.names ++ [name] := rfl

@[simp] theorem Fields.names_skipped [DecidableEq β] (fs : Fields ρ α) (name : String)
    (c : Codec β) (default : β) (value : ρ → β) :
    (fs.skipped name c default value).names = fs.names ++ [name] := rfl

/-- Wherever these fields were written they are read back. -/
def Fields.ReadsBack (fs : Fields ρ α) (r : ρ) (a : α) : Prop :=
  ∀ parts, (parts.map Prod.fst).Nodup → fs.parts r ⊆ parts →
    fs.read (toFields (written parts)) = .ok a

variable {fs : Fields ρ α} {r : ρ} {a : α} {name : String} {c : Codec β} {value : ρ → β}

theorem Fields.nil_readsBack (r : ρ) : Fields.nil.ReadsBack r () := fun _ _ _ => rfl

theorem Fields.ReadsBack.and {write : ρ → Option JsonValue}
    {readOne : List (String × JsonValue) → String → Except String β} {b : β}
    (h : fs.ReadsBack r a)
    (hone : ∀ parts, (parts.map Prod.fst).Nodup → (name, write r) ∈ parts →
      readOne (toFields (written parts)) name = .ok b) :
    (fs.and name write readOne).ReadsBack r (a, b) := by
  intro parts hnodup hparts
  have hfirst : fs.parts r ⊆ parts := fun part hpart => hparts (List.mem_append_left _ hpart)
  have hlast : (name, write r) ∈ parts := hparts (List.mem_append_right _ List.mem_cons_self)
  exact bind_eq_ok.2 ⟨a, h parts hnodup hfirst, bind_eq_ok.2 ⟨b, hone parts hnodup hlast, rfl⟩⟩

theorem Fields.ReadsBack.field (h : fs.ReadsBack r a) (hc : c.ReadsBack (value r)) :
    (fs.field name c value).ReadsBack r (a, value r) :=
  h.and fun _ hnodup hpart => readField_written hnodup hpart hc

theorem Fields.ReadsBack.option {value : ρ → Option β} (h : fs.ReadsBack r a)
    (hc : ∀ b, value r = some b → c.ReadsBack b) :
    (fs.option name c value).ReadsBack r (a, value r) :=
  h.and fun _ hnodup hpart => readOption_written hnodup hpart hc

theorem Fields.ReadsBack.skipped [DecidableEq β] {default : β} (h : fs.ReadsBack r a)
    (hc : c.ReadsBack (value r)) :
    (fs.skipped name c default value).ReadsBack r (a, value r) := by
  refine h.and fun parts hnodup hpart => ?_
  rw [readDefault, lookup_toFields_written hnodup hpart]
  by_cases hdefault : value r = default
  · rw [if_pos hdefault, hdefault]
    rfl
  · rw [if_neg hdefault]
    exact hc.decode

/-- A record, by its fields; those up to the last one without a default are needed. -/
def Codec.record (find : FieldReader) (needed : ℕ) (fs : Fields ρ α) (build : α → ρ) :
    Codec ρ where
  encode r := .object (written (fs.parts r))
  decode v := do
    let fields ← find fs.names needed v
    let a ← fs.read fields
    return build a

theorem Codec.record_readsBack {find : FieldReader} {needed : ℕ} {build : α → ρ}
    (hfind : FindsWritten find) (hnodup : fs.names.Nodup) (h : fs.ReadsBack r a)
    (hbuild : build a = r) : (Codec.record find needed fs build).ReadsBack r := by
  refine ⟨?_, by simp [Codec.record]⟩
  have hparts : ((fs.parts r).map Prod.fst).Nodup := by
    rw [fs.map_fst_parts]
    exact hnodup
  refine bind_eq_ok.2 ⟨_, hfind (fs.map_fst_parts r) hnodup, bind_eq_ok.2 ⟨a, ?_, ?_⟩⟩
  · exact h _ hparts (List.Subset.refl _)
  · rw [hbuild]
    rfl

end Fields

/-! ## Numbers, maps and sets -/

/-- An unsigned integer of so many bits, which is kept as a number. -/
def Codec.unsigned (bits : ℕ) : Codec ℕ where
  encode := .number
  decode
    | .number n => if n < 2 ^ bits then .ok n else .error "invalid value, out of range"
    | _ => .error "invalid type, expected an unsigned integer"

theorem Codec.unsigned_readsBack {bits n : ℕ} (h : n < 2 ^ bits) :
    (Codec.unsigned bits).ReadsBack n := ⟨if_pos h, by simp [unsigned]⟩

/-- `BTreeMap` with texts for keys. -/
def Codec.map {α : Type} (c : Codec α) : Codec (OrderedMap String α) where
  encode m := .object (m.entries.map fun entry => (entry.1, c.encode entry.2))
  decode
    | .object fields => do
      let entries ← fields.mapM fun field => (c.decode field.2).map fun a => (field.1, a)
      return .ofList entries
    | _ => .error "invalid type, expected a map"

theorem ofList_entries {α : Type} (m : OrderedMap String α) : OrderedMap.ofList m.entries = m := by
  refine OrderedMap.ext_find? fun key => ?_
  rw [OrderedMap.find?_ofList]
  · rfl
  · exact List.pairwise_map.2 (m.sorted.imp ne_of_lt)

theorem Codec.map_readsBack {α : Type} {c : Codec α} {m : OrderedMap String α}
    (h : ∀ a ∈ m.values, c.ReadsBack a) : c.map.ReadsBack m := by
  refine ⟨?_, by simp [Codec.map]⟩
  have hnodup : ((m.entries.map fun entry => (entry.1, c.encode entry.2)).map Prod.fst).Nodup := by
    rw [List.map_map]
    exact List.pairwise_map.2 (m.sorted.imp ne_of_lt)
  have hfields : ∀ entries : List (String × α), (∀ a ∈ entries.map Prod.snd, c.ReadsBack a) →
      (toFields (entries.map fun entry => (entry.1, c.encode entry.2))).mapM
        (fun field => (c.decode field.2).map fun a => (field.1, a)) = .ok entries := by
    intro entries hentries
    induction entries with
    | nil => rfl
    | cons entry rest ih =>
      rw [List.map_cons, toFields, List.mapM_cons, (hentries _ List.mem_cons_self).decode,
        ih fun a ha => hentries a (List.mem_cons_of_mem _ ha)]
      rfl
  show (Codec.map c).decode (JsonValue.object _).toValue = _
  rw [toValue_object_of_nodup hnodup]
  refine bind_eq_ok.2 ⟨m.entries, hfields m.entries h, ?_⟩
  rw [ofList_entries]
  rfl

section Sets

variable {α κ : Type} [LinearOrder κ] (key : α → κ) (hkey : Function.Injective key)

/-- The elements in the order of their keys. -/
def inKeyOrder (s : Finset α) : List α :=
  letI : LinearOrder α := LinearOrder.lift' key hkey
  s.sort (· ≤ ·)

theorem mem_inKeyOrder {s : Finset α} {a : α} : a ∈ inKeyOrder key hkey s ↔ a ∈ s :=
  letI : LinearOrder α := LinearOrder.lift' key hkey
  Finset.mem_sort (· ≤ ·)

/-- `BTreeSet`. -/
def Codec.set [DecidableEq α] (c : Codec α) : Codec (Finset α) where
  encode s := c.list.encode (inKeyOrder key hkey s)
  decode v := (c.list.decode v).map List.toFinset

theorem Codec.set_readsBack [DecidableEq α] {c : Codec α} {s : Finset α}
    (h : ∀ a ∈ s, c.ReadsBack a) : (c.set key hkey).ReadsBack s := by
  have hlist := Codec.list_readsBack fun a ha => h a ((mem_inKeyOrder key hkey).1 ha)
  refine ⟨?_, hlist.something⟩
  show (c.list.decode (c.list.encode (inKeyOrder key hkey s)).toValue).map _ = _
  rw [hlist.decode]
  refine congrArg Except.ok (Finset.ext fun a => ?_)
  rw [List.mem_toFinset, mem_inKeyOrder]

end Sets

/-! ## Interfaces and receipts -/

def Codec.identity : Codec InterfaceIdentity :=
  .record openFields 4
    (Fields.nil.field "ifindex" (.unsigned 32) InterfaceIdentity.ifindex
      |>.field "name" .string InterfaceIdentity.name
      |>.field "kind" .string InterfaceIdentity.kind
      |>.option "hardware_address" .string InterfaceIdentity.hardwareAddress)
    fun ((((_, ifindex), name), kind), hardwareAddress) => ⟨ifindex, name, kind, hardwareAddress⟩

def InterfaceIdentity.Fits (identity : InterfaceIdentity) : Prop := identity.ifindex < 2 ^ 32

theorem Codec.identity_readsBack {identity : InterfaceIdentity} (h : identity.Fits) :
    Codec.identity.ReadsBack identity :=
  Codec.record_readsBack findsWritten_openFields (by simp)
    (Fields.nil_readsBack identity |>.field (Codec.unsigned_readsBack h)
      |>.field (Codec.string_readsBack _) |>.field (Codec.string_readsBack _)
      |>.option fun _ _ => Codec.string_readsBack _) rfl

def Codec.settingReceipt : Codec InterfaceSettingReceipt :=
  .record structFields 3
    (Fields.nil.field "identity" .identity InterfaceSettingReceipt.identity
      |>.field "previous" (.unsigned 8) InterfaceSettingReceipt.previous
      |>.field "applied" (.unsigned 8) InterfaceSettingReceipt.applied)
    fun (((_, identity), previous), applied) => ⟨identity, previous, applied⟩

structure InterfaceSettingReceipt.Fits (receipt : InterfaceSettingReceipt) : Prop where
  identity : receipt.identity.Fits
  previous : receipt.previous < 2 ^ 8
  applied : receipt.applied < 2 ^ 8

theorem Codec.settingReceipt_readsBack {receipt : InterfaceSettingReceipt} (h : receipt.Fits) :
    Codec.settingReceipt.ReadsBack receipt :=
  Codec.record_readsBack findsWritten_structFields (by simp)
    (Fields.nil_readsBack receipt |>.field (Codec.identity_readsBack h.identity)
      |>.field (Codec.unsigned_readsBack h.previous)
      |>.field (Codec.unsigned_readsBack h.applied)) rfl

/-! ## Ownership of routes and rules -/

/-- A family as the number in its name. -/
def Codec.familyNumber : Codec IpFamily where
  encode
    | .v4 => .number 4
    | .v6 => .number 6
  decode
    | .number 4 => .ok .v4
    | .number 6 => .ok .v6
    | _ => .error "invalid value, expected an IP family"

theorem Codec.familyNumber_readsBack (family : IpFamily) :
    Codec.familyNumber.ReadsBack family := by
  cases family <;> exact ⟨rfl, by simp [familyNumber]⟩

/-- A pair, as an array of two. -/
def Codec.pair {α β : Type} (c : Codec α) (d : Codec β) : Codec (α × β) where
  encode p := .array [c.encode p.1, d.encode p.2]
  decode
    | .array [v, w] => do
      let a ← c.decode v
      let b ← d.decode w
      return (a, b)
    | .array _ => .error "invalid length, expected a tuple of size 2"
    | _ => .error "invalid type, expected a tuple of size 2"

theorem Codec.pair_readsBack {α β : Type} {c : Codec α} {d : Codec β} {p : α × β}
    (hfst : c.ReadsBack p.1) (hsnd : d.ReadsBack p.2) : (c.pair d).ReadsBack p :=
  ⟨bind_eq_ok.2 ⟨_, hfst.decode, bind_eq_ok.2 ⟨_, hsnd.decode, rfl⟩⟩, by simp [pair]⟩

/-- The families in their order. -/
def familyRank : IpFamily → ℕ
  | .v4 => 4
  | .v6 => 6

theorem familyRank_inj {f f' : IpFamily} (h : familyRank f = familyRank f') : f = f' := by
  cases f <;> cases f' <;> simp_all [familyRank]

def lostKey (lost : IpFamily × ℕ) : ℕ ×ₗ ℕ := toLex (familyRank lost.1, lost.2)

theorem lostKey_injective : Function.Injective lostKey := by
  rintro ⟨f, table⟩ ⟨f', table'⟩ h
  obtain ⟨hfamily, rfl⟩ := Prod.mk.inj (toLex.injective h)
  obtain rfl : f = f' := familyRank_inj hfamily
  rfl

def Codec.lostUnicast : Codec LostUnicast :=
  .set lostKey lostKey_injective (.pair .familyNumber (.unsigned 32))

theorem Codec.lostUnicast_readsBack {lost : LostUnicast} (h : ∀ entry ∈ lost, entry.2 < 2 ^ 32) :
    Codec.lostUnicast.ReadsBack lost :=
  Codec.set_readsBack _ _ fun entry hentry =>
    Codec.pair_readsBack (Codec.familyNumber_readsBack _) (Codec.unsigned_readsBack (h entry hentry))

section Ownership

variable (text : NetworkText)

/-- Routes in the order of their fields; a gateway is text. -/
def routeKey (route : RouteOwnership) : ℕ ×ₗ ℕ ×ₗ WithBot String ×ₗ String ×ₗ Bool :=
  toLex (familyRank route.family, toLex (route.table,
    toLex (route.gateway.map fun address => String.ofList (text.printAddress address),
      toLex (route.interface, route.terminal))))

theorem routeKey_injective : Function.Injective (routeKey text) := by
  rintro ⟨f, table, gateway, interface, terminal⟩ ⟨f', table', gateway', interface', terminal'⟩ h
  obtain ⟨hfamily, h⟩ := Prod.mk.inj (toLex.injective h)
  obtain ⟨rfl, h⟩ := Prod.mk.inj (toLex.injective h)
  obtain ⟨hgateway, h⟩ := Prod.mk.inj (toLex.injective h)
  obtain ⟨rfl, rfl⟩ := Prod.mk.inj (toLex.injective h)
  have hprint : Function.Injective fun address => String.ofList (text.printAddress address) := by
    intro a b hab
    have hchars := congrArg (fun s : String => text.parseAddress s.toList) hab
    simpa only [String.toList_ofList, text.parse_printAddress, Option.some.injEq] using hchars
  obtain rfl := Option.map_injective hprint hgateway
  obtain rfl := familyRank_inj hfamily
  rfl

/-- A rule in the order of its fields. -/
def ruleKey (rule : RuleOwnership) : ℕ ×ₗ ℕ ×ₗ ℕ ×ₗ ℕ :=
  toLex (familyRank rule.family, toLex (rule.priority, toLex (rule.table, rule.mark)))

theorem ruleKey_injective : Function.Injective ruleKey := by
  rintro ⟨f, priority, table, mark⟩ ⟨f', priority', table', mark'⟩ h
  obtain ⟨hfamily, h⟩ := Prod.mk.inj (toLex.injective h)
  obtain ⟨rfl, h⟩ := Prod.mk.inj (toLex.injective h)
  obtain ⟨rfl, rfl⟩ := Prod.mk.inj (toLex.injective h)
  obtain rfl : f = f' := familyRank_inj hfamily
  rfl

/-- `RouteOwnership`: `terminal` is omitted where it is false. -/
def Codec.routeOwnership (find : FieldReader) : Codec RouteOwnership :=
  .record find 4
    (Fields.nil.field "family" .familyNumber RouteOwnership.family
      |>.field "table" (.unsigned 32) RouteOwnership.table
      |>.option "gateway" (.address text) RouteOwnership.gateway
      |>.field "interface" .string RouteOwnership.interface
      |>.skipped "terminal" .bool false RouteOwnership.terminal)
    fun (((((_, family), table), gateway), interface), terminal) =>
      ⟨family, table, gateway, interface, terminal⟩

def Codec.ruleOwnership (find : FieldReader) : Codec RuleOwnership :=
  .record find 4
    (Fields.nil.field "family" .familyNumber RuleOwnership.family
      |>.field "priority" (.unsigned 32) RuleOwnership.priority
      |>.field "table" (.unsigned 32) RuleOwnership.table
      |>.field "mark" (.unsigned 32) RuleOwnership.mark)
    fun ((((_, family), priority), table), mark) => ⟨family, priority, table, mark⟩

/-- `RoutingOwnership`, and the strict one of schema 2. -/
def Codec.routingOwnership (find : FieldReader) : Codec RoutingOwnership :=
  .record find 2
    (Fields.nil.field "routes" (.set (routeKey text) (routeKey_injective text)
        (.routeOwnership text find)) RoutingOwnership.routes
      |>.field "rules" (.set ruleKey ruleKey_injective (.ruleOwnership find))
        RoutingOwnership.rules)
    fun ((_, routes), rules) => ⟨routes, rules⟩

variable {text} {find : FieldReader}

theorem Codec.routeOwnership_readsBack {route : RouteOwnership} (hfind : FindsWritten find)
    (h : route.table < 2 ^ 32) : (Codec.routeOwnership text find).ReadsBack route :=
  Codec.record_readsBack hfind (by simp)
    (Fields.nil_readsBack route |>.field (Codec.familyNumber_readsBack _)
      |>.field (Codec.unsigned_readsBack h) |>.option (fun _ _ => Codec.address_readsBack _)
      |>.field (Codec.string_readsBack _) |>.skipped (Codec.bool_readsBack _)) rfl

structure RuleOwnership.Fits (rule : RuleOwnership) : Prop where
  priority : rule.priority < 2 ^ 32
  table : rule.table < 2 ^ 32
  mark : rule.mark < 2 ^ 32

theorem Codec.ruleOwnership_readsBack {rule : RuleOwnership} (hfind : FindsWritten find)
    (h : rule.Fits) : (Codec.ruleOwnership find).ReadsBack rule :=
  Codec.record_readsBack hfind (by simp)
    (Fields.nil_readsBack rule |>.field (Codec.familyNumber_readsBack _)
      |>.field (Codec.unsigned_readsBack h.priority) |>.field (Codec.unsigned_readsBack h.table)
      |>.field (Codec.unsigned_readsBack h.mark)) rfl

structure RoutingOwnership.Fits (routing : RoutingOwnership) : Prop where
  routes : ∀ route ∈ routing.routes, route.table < 2 ^ 32
  rules : ∀ rule ∈ routing.rules, rule.Fits

theorem Codec.routingOwnership_readsBack {routing : RoutingOwnership} (hfind : FindsWritten find)
    (h : routing.Fits) : (Codec.routingOwnership text find).ReadsBack routing :=
  Codec.record_readsBack hfind (by simp)
    (Fields.nil_readsBack routing
      |>.field (Codec.set_readsBack _ _ fun route hroute =>
        Codec.routeOwnership_readsBack hfind (h.routes route hroute))
      |>.field (Codec.set_readsBack _ _ fun rule hrule =>
        Codec.ruleOwnership_readsBack hfind (h.rules rule hrule))) rfl

end Ownership

/-! ## Plans -/

def Codec.family : Codec IpFamily where
  encode
    | .v4 => .string "V4"
    | .v6 => .string "V6"
  decode v := do
    let variant ← readVariant v
    if variant.1 = "V4" then unitVariant .v4 variant.2
    else if variant.1 = "V6" then unitVariant .v6 variant.2
    else .error "unknown variant"

def Codec.availability : Codec LaneAvailability where
  encode
    | .available => .string "Available"
    | .unavailable => .string "Unavailable"
  decode v := do
    let variant ← readVariant v
    if variant.1 = "Available" then unitVariant .available variant.2
    else if variant.1 = "Unavailable" then unitVariant .unavailable variant.2
    else .error "unknown variant"

def Codec.routeMode {α : Type} (c : Codec α) : Codec (RouteMode α) where
  encode
    | .via gateway => .object [("Via", c.encode gateway)]
    | .device => .string "Device"
  decode v := do
    let variant ← readVariant v
    if variant.1 = "Via" then newtypeVariant c .via variant.2
    else if variant.1 = "Device" then unitVariant .device variant.2
    else .error "unknown variant"

def Codec.compiledAction : Codec CompiledAction where
  encode
    | .mark mark => .object [("Mark", .number mark)]
    | .direct => .string "Direct"
    | .block => .string "Block"
  decode v := do
    let variant ← readVariant v
    if variant.1 = "Mark" then newtypeVariant (.unsigned 32) .mark variant.2
    else if variant.1 = "Direct" then unitVariant .direct variant.2
    else if variant.1 = "Block" then unitVariant .block variant.2
    else .error "unknown variant"

def Codec.familyExit : Codec FamilyExit where
  encode
    | .lane id => .object [("Lane", .string id)]
    | .blocked => .string "Blocked"
  decode v := do
    let variant ← readVariant v
    if variant.1 = "Lane" then newtypeVariant .string .lane variant.2
    else if variant.1 = "Blocked" then unitVariant .blocked variant.2
    else .error "unknown variant"

theorem Codec.family_readsBack (family : IpFamily) : Codec.family.ReadsBack family := by
  cases family <;> exact ⟨rfl, by simp [Codec.family]⟩

theorem Codec.availability_readsBack (a : LaneAvailability) : Codec.availability.ReadsBack a := by
  cases a <;> exact ⟨rfl, by simp [availability]⟩

theorem Codec.routeMode_readsBack {α : Type} {c : Codec α} {mode : RouteMode α}
    (h : ∀ gateway, mode = .via gateway → c.ReadsBack gateway) : c.routeMode.ReadsBack mode := by
  refine ⟨?_, by cases mode <;> simp [routeMode]⟩
  cases mode with
  | via gateway =>
    show (c.decode (c.encode gateway).toValue).map RouteMode.via = _
    rw [(h gateway rfl).decode]
    rfl
  | device => rfl

theorem Codec.compiledAction_readsBack {action : CompiledAction}
    (h : ∀ mark, action = .mark mark → mark < 2 ^ 32) :
    Codec.compiledAction.ReadsBack action := by
  refine ⟨?_, by cases action <;> simp [compiledAction]⟩
  cases action with
  | mark mark =>
    show ((Codec.unsigned 32).decode (.number mark)).map CompiledAction.mark = _
    rw [show (Codec.unsigned 32).decode (.number mark) = .ok mark from if_pos (h mark rfl)]
    rfl
  | direct => rfl
  | block => rfl

theorem Codec.familyExit_readsBack (e : FamilyExit) : Codec.familyExit.ReadsBack e := by
  cases e <;> exact ⟨rfl, by simp [familyExit]⟩

def Codec.preferred : Codec (FamilyPair (Option LaneId)) :=
  .record openFields 2
    (Fields.nil.option "v4" .string FamilyPair.v4 |>.option "v6" .string FamilyPair.v6)
    fun ((_, v4), v6) => ⟨v4, v6⟩

def Codec.effective : Codec (FamilyPair FamilyExit) :=
  .record openFields 2
    (Fields.nil.field "v4" .familyExit FamilyPair.v4 |>.field "v6" .familyExit FamilyPair.v6)
    fun ((_, v4), v6) => ⟨v4, v6⟩

def Codec.decision : Codec PrimaryDecision :=
  .record openFields 2
    (Fields.nil.field "preferred" .preferred PrimaryDecision.preferred
      |>.field "effective" .effective PrimaryDecision.effective)
    fun ((_, preferred), effective) => ⟨preferred, effective⟩

theorem Codec.decision_readsBack (decision : PrimaryDecision) :
    Codec.decision.ReadsBack decision := by
  have hpreferred : Codec.preferred.ReadsBack decision.preferred :=
    Codec.record_readsBack findsWritten_openFields (by simp)
      (Fields.nil_readsBack decision.preferred |>.option (fun _ _ => Codec.string_readsBack _)
        |>.option fun _ _ => Codec.string_readsBack _) rfl
  have heffective : Codec.effective.ReadsBack decision.effective :=
    Codec.record_readsBack findsWritten_openFields (by simp)
      (Fields.nil_readsBack decision.effective |>.field (Codec.familyExit_readsBack _)
        |>.field (Codec.familyExit_readsBack _)) rfl
  exact Codec.record_readsBack findsWritten_openFields (by simp)
    (Fields.nil_readsBack decision |>.field hpreferred |>.field heffective) rfl

section Plans

variable (text : NetworkText)

def Codec.ipv4 : Codec Ipv4Addr where
  encode address := (Codec.address text).encode (.v4 address)
  decode v := do
    match ← (Codec.address text).decode v with
    | .v4 address => .ok address
    | .v6 _ => .error "invalid IPv4 address syntax"

def Codec.ipv6 : Codec Ipv6Addr where
  encode address := (Codec.address text).encode (.v6 address)
  decode v := do
    match ← (Codec.address text).decode v with
    | .v6 address => .ok address
    | .v4 _ => .error "invalid IPv6 address syntax"

def Codec.compiledTarget : Codec CompiledTarget where
  encode
    | .any => .string "Any"
    | .cgroup path => .object [("Cgroup", .string path)]
    | .network net => .object [("Network", (Codec.network text).encode net)]
  decode v := do
    let variant ← readVariant v
    if variant.1 = "Any" then unitVariant .any variant.2
    else if variant.1 = "Cgroup" then newtypeVariant .string .cgroup variant.2
    else if variant.1 = "Network" then newtypeVariant (.network text) .network variant.2
    else .error "unknown variant"

def Codec.lanePlan : Codec LanePlan :=
  .record openFields 12
    (Fields.nil.option "identity" .identity LanePlan.identity
      |>.field "source_v4" (Codec.ipv4 text).list LanePlan.sourceV4
      |>.field "source_v6" (Codec.ipv6 text).list LanePlan.sourceV6
      |>.field "id" .string LanePlan.id
      |>.field "interface" .string LanePlan.interface
      |>.option "route_v4" (Codec.ipv4 text).routeMode LanePlan.routeV4
      |>.option "route_v6" (Codec.ipv6 text).routeMode LanePlan.routeV6
      |>.field "availability" .availability LanePlan.availability
      |>.field "table" (.unsigned 32) LanePlan.table
      |>.field "mark" (.unsigned 32) LanePlan.mark
      |>.field "rule_priority" (.unsigned 32) LanePlan.rulePriority
      |>.field "failure_policy" .failurePolicy LanePlan.failurePolicy)
    fun ((((((((((((_, identity), sourceV4), sourceV6), id), interface), routeV4), routeV6),
        availability), table), mark), rulePriority), failurePolicy) =>
      { identity, sourceV4, sourceV6, id, interface, routeV4, routeV6, availability, table, mark,
        rulePriority, failurePolicy }

def Codec.compiledRule : Codec CompiledRule :=
  .record openFields 5
    (Fields.nil.field "family" .family CompiledRule.family
      |>.field "id" .string CompiledRule.id
      |>.field "priority" (.unsigned 32) CompiledRule.priority
      |>.field "target" (.compiledTarget text) CompiledRule.target
      |>.field "action" .compiledAction CompiledRule.action)
    fun (((((_, family), id), priority), target), action) => ⟨family, id, priority, target, action⟩

/-- `KernelPlan`, and the strict `LegacyPlanV2`. -/
def Codec.kernelPlan (find : FieldReader) : Codec KernelPlan :=
  .record find 7
    (Fields.nil.field "primary" .decision KernelPlan.primary
      |>.field "local_networks" (Codec.network text).list KernelPlan.localNetworks
      |>.field "local_addresses" (Codec.address text).list KernelPlan.localAddresses
      |>.field "generation" (.unsigned 64) KernelPlan.generation
      |>.field "profile_id" .string KernelPlan.profileId
      |>.field "lanes" (Codec.lanePlan text).list KernelPlan.lanes
      |>.field "rules" (Codec.compiledRule text).list KernelPlan.rules)
    fun (((((((_, primary), localNetworks), localAddresses), generation), profileId), lanes),
        rules) =>
      { primary, localNetworks, localAddresses, generation, profileId, lanes, rules }

/-! ### Plans of schema 1 -/

def Codec.legacyLaneV1 : Codec LegacyLaneV1 :=
  .record structFields 9
    (Fields.nil.field "id" .string LegacyLaneV1.id
      |>.field "interface" .string LegacyLaneV1.interface
      |>.option "route_v4" (Codec.ipv4 text).routeMode LegacyLaneV1.routeV4
      |>.option "route_v6" (Codec.ipv6 text).routeMode LegacyLaneV1.routeV6
      |>.field "availability" .availability LegacyLaneV1.availability
      |>.field "table" (.unsigned 32) LegacyLaneV1.table
      |>.field "mark" (.unsigned 32) LegacyLaneV1.mark
      |>.field "rule_priority" (.unsigned 32) LegacyLaneV1.rulePriority
      |>.field "failure_policy" .failurePolicy LegacyLaneV1.failurePolicy)
    fun (((((((((_, id), interface), routeV4), routeV6), availability), table), mark),
        rulePriority), failurePolicy) =>
      { id, interface, routeV4, routeV6, availability, table, mark, rulePriority, failurePolicy }

def Codec.legacyRuleV1 : Codec LegacyRuleV1 :=
  .record structFields 4
    (Fields.nil.field "id" .string LegacyRuleV1.id
      |>.field "priority" (.unsigned 32) LegacyRuleV1.priority
      |>.field "target" (.compiledTarget text) LegacyRuleV1.target
      |>.field "action" .compiledAction LegacyRuleV1.action)
    fun ((((_, id), priority), target), action) => ⟨id, priority, target, action⟩

def Codec.legacyPlanV1 : Codec LegacyPlanV1 :=
  .record structFields 4
    (Fields.nil.field "generation" (.unsigned 64) LegacyPlanV1.generation
      |>.field "profile_id" .string LegacyPlanV1.profileId
      |>.field "lanes" (Codec.legacyLaneV1 text).list LegacyPlanV1.lanes
      |>.field "rules" (Codec.legacyRuleV1 text).list LegacyPlanV1.rules)
    fun ((((_, generation), profileId), lanes), rules) => ⟨generation, profileId, lanes, rules⟩

structure LanePlan.Fits (lane : LanePlan) : Prop where
  identity : ∀ identity, lane.identity = some identity → identity.Fits
  table : lane.table < 2 ^ 32
  mark : lane.mark < 2 ^ 32
  rulePriority : lane.rulePriority < 2 ^ 32

structure CompiledRule.Fits (rule : CompiledRule) : Prop where
  priority : rule.priority < 2 ^ 32
  mark : ∀ mark, rule.action = .mark mark → mark < 2 ^ 32

/-- The numbers of a plan are those the source keeps in so many bits. -/
structure KernelPlan.Fits (plan : KernelPlan) : Prop where
  generation : plan.generation < 2 ^ 64
  lanes : ∀ lane ∈ plan.lanes, lane.Fits
  rules : ∀ rule ∈ plan.rules, rule.Fits

structure LegacyLaneV1.Fits (lane : LegacyLaneV1) : Prop where
  table : lane.table < 2 ^ 32
  mark : lane.mark < 2 ^ 32
  rulePriority : lane.rulePriority < 2 ^ 32

structure LegacyRuleV1.Fits (rule : LegacyRuleV1) : Prop where
  priority : rule.priority < 2 ^ 32
  mark : ∀ mark, rule.action = .mark mark → mark < 2 ^ 32

structure LegacyPlanV1.Fits (plan : LegacyPlanV1) : Prop where
  generation : plan.generation < 2 ^ 64
  lanes : ∀ lane ∈ plan.lanes, lane.Fits
  rules : ∀ rule ∈ plan.rules, rule.Fits

variable {text}

theorem Codec.ipv4_readsBack (address : Ipv4Addr) : (Codec.ipv4 text).ReadsBack address :=
  ⟨bind_eq_ok.2 ⟨_, (Codec.address_readsBack (.v4 address)).decode, rfl⟩,
    (Codec.address_readsBack (.v4 address)).something⟩

theorem Codec.ipv6_readsBack (address : Ipv6Addr) : (Codec.ipv6 text).ReadsBack address :=
  ⟨bind_eq_ok.2 ⟨_, (Codec.address_readsBack (.v6 address)).decode, rfl⟩,
    (Codec.address_readsBack (.v6 address)).something⟩

theorem Codec.compiledTarget_readsBack (target : CompiledTarget) :
    (Codec.compiledTarget text).ReadsBack target := by
  refine ⟨?_, by cases target <;> simp [compiledTarget]⟩
  cases target with
  | any => rfl
  | cgroup path => rfl
  | network net =>
    show ((Codec.network text).decode ((Codec.network text).encode net).toValue).map _ = _
    rw [(Codec.network_readsBack net).decode]
    rfl

theorem Codec.lanePlan_readsBack {lane : LanePlan} (h : lane.Fits) :
    (Codec.lanePlan text).ReadsBack lane :=
  Codec.record_readsBack findsWritten_openFields (by simp)
    (Fields.nil_readsBack lane
      |>.option (fun identity hidentity => Codec.identity_readsBack (h.identity identity hidentity))
      |>.field (Codec.list_readsBack fun _ _ => Codec.ipv4_readsBack _)
      |>.field (Codec.list_readsBack fun _ _ => Codec.ipv6_readsBack _)
      |>.field (Codec.string_readsBack _)
      |>.field (Codec.string_readsBack _)
      |>.option (fun _ _ => Codec.routeMode_readsBack fun _ _ => Codec.ipv4_readsBack _)
      |>.option (fun _ _ => Codec.routeMode_readsBack fun _ _ => Codec.ipv6_readsBack _)
      |>.field (Codec.availability_readsBack _)
      |>.field (Codec.unsigned_readsBack h.table)
      |>.field (Codec.unsigned_readsBack h.mark)
      |>.field (Codec.unsigned_readsBack h.rulePriority)
      |>.field (Codec.failurePolicy_readsBack _)) rfl

theorem Codec.compiledRule_readsBack {rule : CompiledRule} (h : rule.Fits) :
    (Codec.compiledRule text).ReadsBack rule :=
  Codec.record_readsBack findsWritten_openFields (by simp)
    (Fields.nil_readsBack rule
      |>.field (Codec.family_readsBack _)
      |>.field (Codec.string_readsBack _)
      |>.field (Codec.unsigned_readsBack h.priority)
      |>.field (Codec.compiledTarget_readsBack _)
      |>.field (Codec.compiledAction_readsBack h.mark)) rfl

theorem Codec.kernelPlan_readsBack {find : FieldReader} {plan : KernelPlan}
    (hfind : FindsWritten find) (h : plan.Fits) :
    (Codec.kernelPlan text find).ReadsBack plan :=
  Codec.record_readsBack hfind (by simp)
    (Fields.nil_readsBack plan
      |>.field (Codec.decision_readsBack _)
      |>.field (Codec.list_readsBack fun _ _ => Codec.network_readsBack _)
      |>.field (Codec.list_readsBack fun _ _ => Codec.address_readsBack _)
      |>.field (Codec.unsigned_readsBack h.generation)
      |>.field (Codec.string_readsBack _)
      |>.field (Codec.list_readsBack fun lane hlane => Codec.lanePlan_readsBack (h.lanes lane hlane))
      |>.field (Codec.list_readsBack fun rule hrule =>
        Codec.compiledRule_readsBack (h.rules rule hrule))) rfl

theorem Codec.legacyLaneV1_readsBack {lane : LegacyLaneV1} (h : lane.Fits) :
    (Codec.legacyLaneV1 text).ReadsBack lane :=
  Codec.record_readsBack findsWritten_structFields (by simp)
    (Fields.nil_readsBack lane
      |>.field (Codec.string_readsBack _)
      |>.field (Codec.string_readsBack _)
      |>.option (fun _ _ => Codec.routeMode_readsBack fun _ _ => Codec.ipv4_readsBack _)
      |>.option (fun _ _ => Codec.routeMode_readsBack fun _ _ => Codec.ipv6_readsBack _)
      |>.field (Codec.availability_readsBack _)
      |>.field (Codec.unsigned_readsBack h.table)
      |>.field (Codec.unsigned_readsBack h.mark)
      |>.field (Codec.unsigned_readsBack h.rulePriority)
      |>.field (Codec.failurePolicy_readsBack _)) rfl

theorem Codec.legacyRuleV1_readsBack {rule : LegacyRuleV1} (h : rule.Fits) :
    (Codec.legacyRuleV1 text).ReadsBack rule :=
  Codec.record_readsBack findsWritten_structFields (by simp)
    (Fields.nil_readsBack rule
      |>.field (Codec.string_readsBack _)
      |>.field (Codec.unsigned_readsBack h.priority)
      |>.field (Codec.compiledTarget_readsBack _)
      |>.field (Codec.compiledAction_readsBack h.mark)) rfl

theorem Codec.legacyPlanV1_readsBack {plan : LegacyPlanV1} (h : plan.Fits) :
    (Codec.legacyPlanV1 text).ReadsBack plan :=
  Codec.record_readsBack findsWritten_structFields (by simp)
    (Fields.nil_readsBack plan
      |>.field (Codec.unsigned_readsBack h.generation)
      |>.field (Codec.string_readsBack _)
      |>.field (Codec.list_readsBack fun lane hlane =>
        Codec.legacyLaneV1_readsBack (h.lanes lane hlane))
      |>.field (Codec.list_readsBack fun rule hrule =>
        Codec.legacyRuleV1_readsBack (h.rules rule hrule))) rfl

end Plans

/-! ## Profiles of schema 3 -/

def routingV3Parts (routing : RoutingPolicyV3) : List (String × Option JsonValue) :=
  [("primary", some (Codec.primarySelection.encode routing.primary)),
    ("backups", some (Codec.string.list.encode routing.backups)),
    ("automatic_failover", some (Codec.bool.encode routing.automaticFailover))]

def Codec.routingV3 : Codec RoutingPolicyV3 where
  encode routing := .object (written (routingV3Parts routing))
  decode := readRoutingV3

theorem Codec.routingV3_readsBack (routing : RoutingPolicyV3) :
    Codec.routingV3.ReadsBack routing := by
  have hnodup : ((routingV3Parts routing).map Prod.fst).Nodup := by simp [routingV3Parts]
  refine ⟨?_, by simp [routingV3]⟩
  refine bind_eq_ok.2 ⟨_, structFields_written rfl (by decide), ?_⟩
  refine bind_eq_ok.2 ⟨_, readField_written hnodup (a := routing.primary)
    (by simp [routingV3Parts]) (Codec.primarySelection_readsBack _), ?_⟩
  refine bind_eq_ok.2 ⟨_, readField_written hnodup (a := routing.backups)
    (by simp [routingV3Parts]) (Codec.list_readsBack fun id _ => Codec.string_readsBack id), ?_⟩
  exact bind_eq_ok.2 ⟨_, readField_written hnodup (a := routing.automaticFailover)
    (by simp [routingV3Parts]) (Codec.bool_readsBack _), rfl⟩

section Runtime

variable (text : NetworkText)

def profileV3Parts (profile : ProfileV3) : List (String × Option JsonValue) :=
  [("id", some (Codec.string.encode profile.id)), ("name", some (Codec.string.encode profile.name)),
    ("enabled", some (Codec.bool.encode profile.enabled)),
    ("lanes", some (Codec.lane.list.encode profile.lanes)),
    ("rules", some ((Codec.rule text).list.encode profile.rules)),
    ("routing", some (Codec.routingV3.encode profile.routing))]

def Codec.profileV3 : Codec ProfileV3 :=
  ⟨fun profile => .object (written (profileV3Parts text profile)), readProfileV3 text⟩

variable {text} in
theorem Codec.profileV3_readsBack {profile : ProfileV3} (h : PrioritiesFit profile.rules) :
    (Codec.profileV3 text).ReadsBack profile := by
  have hnodup : ((profileV3Parts text profile).map Prod.fst).Nodup := by simp [profileV3Parts]
  refine ⟨?_, by simp [profileV3]⟩
  refine bind_eq_ok.2 ⟨_, structFields_written rfl (by decide), ?_⟩
  refine bind_eq_ok.2 ⟨_, readField_written hnodup (a := profile.id)
    (by simp [profileV3Parts]) (Codec.string_readsBack _), ?_⟩
  refine bind_eq_ok.2 ⟨_, readField_written hnodup (a := profile.name)
    (by simp [profileV3Parts]) (Codec.string_readsBack _), ?_⟩
  refine bind_eq_ok.2 ⟨_, readField_written hnodup (a := profile.enabled)
    (by simp [profileV3Parts]) (Codec.bool_readsBack _), ?_⟩
  refine bind_eq_ok.2 ⟨_, readField_written hnodup (a := profile.lanes)
    (by simp [profileV3Parts]) (Codec.list_readsBack fun lane _ => Codec.lane_readsBack lane), ?_⟩
  refine bind_eq_ok.2 ⟨_, readField_written hnodup (a := profile.rules)
    (by simp [profileV3Parts])
    (Codec.list_readsBack fun rule hrule => Codec.rule_readsBack (h rule hrule)), ?_⟩
  have hrouting : readField Codec.routingV3 _ "routing" = .ok profile.routing :=
    readField_written hnodup (by simp [profileV3Parts]) (Codec.routingV3_readsBack _)
  exact bind_eq_ok.2 ⟨_, hrouting, rfl⟩

/-! ## The runtime -/

variable (hash : Codec PlanHash)

def Codec.restoreReceipt : Codec RestoreReceipt :=
  .record structFields 4
    (Fields.nil.field "failed_generation" (.unsigned 64) RestoreReceipt.failedGeneration
      |>.field "failed_plan_hash" hash RestoreReceipt.failedPlanHash
      |>.option "previous_generation" (.unsigned 64) RestoreReceipt.previousGeneration
      |>.option "previous_plan_hash" hash RestoreReceipt.previousPlanHash)
    fun ((((_, failedGeneration), failedPlanHash), previousGeneration), previousPlanHash) =>
      { failedGeneration, failedPlanHash, previousGeneration, previousPlanHash }

def Codec.resolutions : Codec ResolutionSnapshot :=
  .record openFields 1
    (Fields.nil.field "rules" (Codec.network text).list.map ResolutionSnapshot.rules)
    fun (_, rules) => ⟨rules⟩

def Codec.grant : Codec RuntimeGrant :=
  .record structFields 5
    (Fields.nil.field "owner_uid" (.unsigned 32) RuntimeGrant.ownerUid
      |>.field "boot_id" .string RuntimeGrant.bootId
      |>.field "network_namespace" (.unsigned 64) RuntimeGrant.networkNamespace
      |>.field "policy_hash" hash RuntimeGrant.policyHash
      |>.field "interfaces" Codec.identity.map RuntimeGrant.interfaces)
    fun (((((_, ownerUid), bootId), networkNamespace), policyHash), interfaces) =>
      { ownerUid, bootId, networkNamespace, policyHash, interfaces }

def Codec.runtimeRecord : Codec RuntimeRecord :=
  .record structFields 4
    (Fields.nil.field "grant" (.grant hash) RuntimeRecord.grant
      |>.field "profile" (.profile text) RuntimeRecord.profile
      |>.field "resolutions" (.resolutions text) RuntimeRecord.resolutions
      |>.field "decision" .decision RuntimeRecord.decision)
    fun ((((_, grant), profile), resolutions), decision) => ⟨grant, profile, resolutions, decision⟩

def Codec.runtimeRecordV2 : Codec RuntimeRecordV2 :=
  .record structFields 4
    (Fields.nil.field "grant" (.grant hash) RuntimeRecordV2.grant
      |>.field "profile" (.profileV3 text) RuntimeRecordV2.profile
      |>.field "resolutions" (.resolutions text) RuntimeRecordV2.resolutions
      |>.field "decision" .decision RuntimeRecordV2.decision)
    fun ((((_, grant), profile), resolutions), decision) => ⟨grant, profile, resolutions, decision⟩

def Codec.runtimeRestore : Codec RuntimeRestoreReceipt :=
  .record structFields 6
    (Fields.nil.field "token_hash" .string RuntimeRestoreReceipt.tokenHash
      |>.field "owner_uid" (.unsigned 32) RuntimeRestoreReceipt.ownerUid
      |>.field "issued_for_generation" (.unsigned 64) RuntimeRestoreReceipt.issuedForGeneration
      |>.field "issued_for_plan_hash" hash RuntimeRestoreReceipt.issuedForPlanHash
      |>.option "previous_plan" (.kernelPlan text openFields) RuntimeRestoreReceipt.previousPlan
      |>.option "previous_record" (.runtimeRecord text hash) RuntimeRestoreReceipt.previousRecord)
    fun ((((((_, tokenHash), ownerUid), issuedForGeneration), issuedForPlanHash), previousPlan),
        previousRecord) =>
      { tokenHash, ownerUid, issuedForGeneration, issuedForPlanHash, previousPlan, previousRecord }

def Codec.runtimeRestoreV2 : Codec RuntimeRestoreReceiptV2 :=
  .record structFields 6
    (Fields.nil.field "token_hash" .string RuntimeRestoreReceiptV2.tokenHash
      |>.field "owner_uid" (.unsigned 32) RuntimeRestoreReceiptV2.ownerUid
      |>.field "issued_for_generation" (.unsigned 64) RuntimeRestoreReceiptV2.issuedForGeneration
      |>.field "issued_for_plan_hash" hash RuntimeRestoreReceiptV2.issuedForPlanHash
      |>.option "previous_plan" (.kernelPlan text structFields) RuntimeRestoreReceiptV2.previousPlan
      |>.option "previous_record" (.runtimeRecordV2 text hash)
        RuntimeRestoreReceiptV2.previousRecord)
    fun ((((((_, tokenHash), ownerUid), issuedForGeneration), issuedForPlanHash), previousPlan),
        previousRecord) =>
      { tokenHash, ownerUid, issuedForGeneration, issuedForPlanHash, previousPlan, previousRecord }

structure RestoreReceipt.Fits (receipt : RestoreReceipt) : Prop where
  failed : receipt.failedGeneration < 2 ^ 64
  previous : ∀ generation, receipt.previousGeneration = some generation → generation < 2 ^ 64

structure RuntimeGrant.Fits (grant : RuntimeGrant) : Prop where
  ownerUid : grant.ownerUid < 2 ^ 32
  networkNamespace : grant.networkNamespace < 2 ^ 64
  interfaces : ∀ identity ∈ grant.interfaces.values, identity.Fits

structure RuntimeRecord.Fits (record : RuntimeRecord) : Prop where
  grant : record.grant.Fits
  priorities : PrioritiesFit record.profile.rules

structure RuntimeRecordV2.Fits (record : RuntimeRecordV2) : Prop where
  grant : record.grant.Fits
  priorities : PrioritiesFit record.profile.rules

structure RuntimeRestoreReceipt.Fits (receipt : RuntimeRestoreReceipt) : Prop where
  ownerUid : receipt.ownerUid < 2 ^ 32
  generation : receipt.issuedForGeneration < 2 ^ 64
  plan : ∀ plan, receipt.previousPlan = some plan → plan.Fits
  record : ∀ record, receipt.previousRecord = some record → record.Fits

structure RuntimeRestoreReceiptV2.Fits (receipt : RuntimeRestoreReceiptV2) : Prop where
  ownerUid : receipt.ownerUid < 2 ^ 32
  generation : receipt.issuedForGeneration < 2 ^ 64
  plan : ∀ plan, receipt.previousPlan = some plan → plan.Fits
  record : ∀ record, receipt.previousRecord = some record → record.Fits

section ReadsBack

variable {text hash} (hhash : ∀ h, hash.ReadsBack h)
include hhash

theorem Codec.restoreReceipt_readsBack {receipt : RestoreReceipt} (h : receipt.Fits) :
    (Codec.restoreReceipt hash).ReadsBack receipt :=
  Codec.record_readsBack findsWritten_structFields (by simp)
    (Fields.nil_readsBack receipt
      |>.field (Codec.unsigned_readsBack h.failed)
      |>.field (hhash _)
      |>.option (fun generation hprevious =>
        Codec.unsigned_readsBack (h.previous generation hprevious))
      |>.option fun _ _ => hhash _) rfl

theorem Codec.grant_readsBack {grant : RuntimeGrant} (h : grant.Fits) :
    (Codec.grant hash).ReadsBack grant :=
  Codec.record_readsBack findsWritten_structFields (by simp)
    (Fields.nil_readsBack grant
      |>.field (Codec.unsigned_readsBack h.ownerUid)
      |>.field (Codec.string_readsBack _)
      |>.field (Codec.unsigned_readsBack h.networkNamespace)
      |>.field (hhash _)
      |>.field (Codec.map_readsBack fun identity hidentity =>
        Codec.identity_readsBack (h.interfaces identity hidentity))) rfl

omit hhash in
theorem Codec.resolutions_readsBack (resolutions : ResolutionSnapshot) :
    (Codec.resolutions text).ReadsBack resolutions :=
  Codec.record_readsBack findsWritten_openFields (by simp)
    (Fields.nil_readsBack resolutions
      |>.field (Codec.map_readsBack fun _ _ =>
        Codec.list_readsBack fun _ _ => Codec.network_readsBack _)) rfl

theorem Codec.runtimeRecord_readsBack {record : RuntimeRecord} (h : record.Fits) :
    (Codec.runtimeRecord text hash).ReadsBack record :=
  Codec.record_readsBack findsWritten_structFields (by simp)
    (Fields.nil_readsBack record
      |>.field (Codec.grant_readsBack hhash h.grant)
      |>.field (Codec.profile_readsBack h.priorities)
      |>.field (Codec.resolutions_readsBack _)
      |>.field (Codec.decision_readsBack _)) rfl

theorem Codec.runtimeRecordV2_readsBack {record : RuntimeRecordV2} (h : record.Fits) :
    (Codec.runtimeRecordV2 text hash).ReadsBack record :=
  Codec.record_readsBack findsWritten_structFields (by simp)
    (Fields.nil_readsBack record
      |>.field (Codec.grant_readsBack hhash h.grant)
      |>.field (Codec.profileV3_readsBack h.priorities)
      |>.field (Codec.resolutions_readsBack _)
      |>.field (Codec.decision_readsBack _)) rfl

theorem Codec.runtimeRestore_readsBack {receipt : RuntimeRestoreReceipt} (h : receipt.Fits) :
    (Codec.runtimeRestore text hash).ReadsBack receipt :=
  Codec.record_readsBack findsWritten_structFields (by simp)
    (Fields.nil_readsBack receipt
      |>.field (Codec.string_readsBack _)
      |>.field (Codec.unsigned_readsBack h.ownerUid)
      |>.field (Codec.unsigned_readsBack h.generation)
      |>.field (hhash _)
      |>.option (fun plan hplan =>
        Codec.kernelPlan_readsBack findsWritten_openFields (h.plan plan hplan))
      |>.option fun record hrecord => Codec.runtimeRecord_readsBack hhash (h.record record hrecord))
    rfl

theorem Codec.runtimeRestoreV2_readsBack {receipt : RuntimeRestoreReceiptV2} (h : receipt.Fits) :
    (Codec.runtimeRestoreV2 text hash).ReadsBack receipt :=
  Codec.record_readsBack findsWritten_structFields (by simp)
    (Fields.nil_readsBack receipt
      |>.field (Codec.string_readsBack _)
      |>.field (Codec.unsigned_readsBack h.ownerUid)
      |>.field (Codec.unsigned_readsBack h.generation)
      |>.field (hhash _)
      |>.option (fun plan hplan =>
        Codec.kernelPlan_readsBack findsWritten_structFields (h.plan plan hplan))
      |>.option fun record hrecord =>
        Codec.runtimeRecordV2_readsBack hhash (h.record record hrecord)) rfl

end ReadsBack

end Runtime

end RouteLane
