import RouteLane.Net.Json
import RouteLane.Lib.Fallible

/-!
# Derived encodings

What `serde` derives for the records of the repository.  A record is written as an object,
some of its fields only when they hold something; it is read from an object, or from an
array of its fields in order.  A field that is not there takes its default, and a field
the record does not have is an error.
-/

namespace RouteLane

open Fallible

namespace JsonValue

/-! ## Equality -/

mutual
/-- Two documents are the same, jointly with `decEqItems` and `decEqFields`. -/
def decEq : (a b : JsonValue) → Decidable (a = b)
  | .null, .null => isTrue rfl
  | .bool a, .bool b => decidable_of_iff (a = b) (by simp)
  | .number a, .number b => decidable_of_iff (a = b) (by simp)
  | .otherNumber a, .otherNumber b => decidable_of_iff (a = b) (by simp)
  | .string a, .string b => decidable_of_iff (a = b) (by simp)
  | .array a, .array b => @decidable_of_iff _ (a = b) (by simp) (decEqItems a b)
  | .object a, .object b => @decidable_of_iff _ (a = b) (by simp) (decEqFields a b)
  | .null, .bool _ | .null, .number _ | .null, .otherNumber _ | .null, .string _
  | .null, .array _ | .null, .object _ => isFalse (by simp)
  | .bool _, .null | .bool _, .number _ | .bool _, .otherNumber _ | .bool _, .string _
  | .bool _, .array _ | .bool _, .object _ => isFalse (by simp)
  | .number _, .null | .number _, .bool _ | .number _, .otherNumber _ | .number _, .string _
  | .number _, .array _ | .number _, .object _ => isFalse (by simp)
  | .otherNumber _, .null | .otherNumber _, .bool _ | .otherNumber _, .number _
  | .otherNumber _, .string _ | .otherNumber _, .array _ | .otherNumber _, .object _ =>
    isFalse (by simp)
  | .string _, .null | .string _, .bool _ | .string _, .number _ | .string _, .otherNumber _
  | .string _, .array _ | .string _, .object _ => isFalse (by simp)
  | .array _, .null | .array _, .bool _ | .array _, .number _ | .array _, .otherNumber _
  | .array _, .string _ | .array _, .object _ => isFalse (by simp)
  | .object _, .null | .object _, .bool _ | .object _, .number _ | .object _, .otherNumber _
  | .object _, .string _ | .object _, .array _ => isFalse (by simp)

def decEqItems : (a b : List JsonValue) → Decidable (a = b)
  | [], [] => isTrue rfl
  | [], _ :: _ => isFalse (by simp)
  | _ :: _, [] => isFalse (by simp)
  | a :: as, b :: bs =>
    @decidable_of_iff _ (a = b ∧ as = bs) (by simp) (@instDecidableAnd _ _ (decEq a b) (decEqItems as bs))

def decEqFields : (a b : List (String × JsonValue)) → Decidable (a = b)
  | [], [] => isTrue rfl
  | [], _ :: _ => isFalse (by simp)
  | _ :: _, [] => isFalse (by simp)
  | (k, a) :: as, (l, b) :: bs =>
    @decidable_of_iff _ (k = l ∧ a = b ∧ as = bs) (by simp [and_assoc])
      (@instDecidableAnd _ _ inferInstance (@instDecidableAnd _ _ (decEq a b) (decEqFields as bs)))
end

instance : DecidableEq JsonValue := decEq

/-! ## Documents and values -/

/-- Of the fields that share a name the last one. -/
def lastWins : List (String × JsonValue) → List (String × JsonValue)
  | [] => []
  | (key, v) :: rest =>
    if key ∈ rest.map Prod.fst then lastWins rest else (key, v) :: lastWins rest

mutual
/-- The `Value` a document parses to: an object has each of its fields once. -/
def toValue : JsonValue → JsonValue
  | .array items => .array (toValues items)
  | .object fields => .object (lastWins (toFields fields))
  | .null => .null
  | .bool b => .bool b
  | .number n => .number n
  | .otherNumber text => .otherNumber text
  | .string s => .string s

def toValues : List JsonValue → List JsonValue
  | [] => []
  | v :: rest => v.toValue :: toValues rest

def toFields : List (String × JsonValue) → List (String × JsonValue)
  | [] => []
  | (key, v) :: rest => (key, v.toValue) :: toFields rest
end

theorem toValues_eq_map (items : List JsonValue) : toValues items = items.map toValue := by
  induction items with
  | nil => rfl
  | cons v rest ih => rw [toValues, ih, List.map_cons]

theorem toFields_eq_map (fields : List (String × JsonValue)) :
    toFields fields = fields.map fun field => (field.1, field.2.toValue) := by
  induction fields with
  | nil => rfl
  | cons field rest ih => rw [toFields, ih, List.map_cons]

theorem map_fst_toFields (fields : List (String × JsonValue)) :
    (toFields fields).map Prod.fst = fields.map Prod.fst := by
  rw [toFields_eq_map, List.map_map]
  rfl

/-- Where every field has a name of its own none is dropped. -/
theorem lastWins_of_nodup {fields : List (String × JsonValue)}
    (h : (fields.map Prod.fst).Nodup) : lastWins fields = fields := by
  induction fields with
  | nil => rfl
  | cons field rest ih =>
    rw [List.map_cons, List.nodup_cons] at h
    rw [lastWins, if_neg h.1, ih h.2]

theorem mem_lastWins {field : String × JsonValue} {fields : List (String × JsonValue)}
    (h : field ∈ lastWins fields) : field ∈ fields := by
  induction fields with
  | nil => exact h
  | cons first rest ih =>
    rw [lastWins] at h
    split at h
    · exact List.mem_cons_of_mem _ (ih h)
    · rcases List.mem_cons.1 h with rfl | h
      · exact List.mem_cons_self
      · exact List.mem_cons_of_mem _ (ih h)

/-- No name is lost. -/
theorem mem_keys_lastWins {key : String} {fields : List (String × JsonValue)} :
    key ∈ (lastWins fields).map Prod.fst ↔ key ∈ fields.map Prod.fst := by
  induction fields with
  | nil => rfl
  | cons first rest ih =>
    rw [lastWins]
    split
    · rename_i hlater
      rw [ih, List.map_cons, List.mem_cons]
      exact ⟨Or.inr, fun h => h.elim (fun heq => heq ▸ hlater) id⟩
    · rw [List.map_cons, List.map_cons, List.mem_cons, List.mem_cons, ih]

theorem nodup_lastWins (fields : List (String × JsonValue)) :
    ((lastWins fields).map Prod.fst).Nodup := by
  induction fields with
  | nil => exact List.nodup_nil
  | cons first rest ih =>
    rw [lastWins]
    split
    · exact ih
    · rename_i hfresh
      rw [List.map_cons, List.nodup_cons, mem_keys_lastWins]
      exact ⟨hfresh, ih⟩

/-- Fields whose values are parsed stay so when some of them are dropped. -/
theorem toFields_lastWins {fields : List (String × JsonValue)} (h : toFields fields = fields) :
    toFields (lastWins fields) = lastWins fields := by
  rw [toFields_eq_map] at h ⊢
  have hfixed := List.map_inj_left.1 (h.trans (List.map_id fields).symm)
  refine (List.map_congr_left fun field hfield => ?_).trans (List.map_id _)
  exact hfixed field (mem_lastWins hfield)

mutual
/-- A value parses to itself. -/
theorem toValue_toValue : (v : JsonValue) → v.toValue.toValue = v.toValue
  | .array items => by rw [toValue, toValue, toValues_toValues items]
  | .object fields => by
    rw [toValue, toValue, toFields_lastWins (toFields_toFields fields),
      lastWins_of_nodup (nodup_lastWins _)]
  | .null | .bool _ | .number _ | .otherNumber _ | .string _ => rfl

theorem toValues_toValues : (items : List JsonValue) → toValues (toValues items) = toValues items
  | [] => rfl
  | v :: rest => by rw [toValues, toValues, toValue_toValue v, toValues_toValues rest]

theorem toFields_toFields :
    (fields : List (String × JsonValue)) → toFields (toFields fields) = toFields fields
  | [] => rfl
  | (key, v) :: rest => by rw [toFields, toFields, toValue_toValue v, toFields_toFields rest]
end

theorem toValue_object_of_nodup {fields : List (String × JsonValue)}
    (h : (fields.map Prod.fst).Nodup) : (object fields).toValue = object (toFields fields) := by
  rw [toValue, lastWins_of_nodup (by rw [map_fst_toFields]; exact h)]

theorem toValue_eq_null {v : JsonValue} : v.toValue = .null ↔ v = .null := by
  cases v <;> simp [toValue]

/-- A look-up of a parsed document finds the parsed field. -/
theorem lookup_toFields (fields : List (String × JsonValue)) (key : String) :
    (toFields fields).lookup key = (fields.lookup key).map toValue := by
  induction fields with
  | nil => rfl
  | cons field rest ih =>
    obtain ⟨k, v⟩ := field
    rw [toFields, List.lookup_cons, List.lookup_cons, ih]
    cases key == k <;> rfl

end JsonValue

/-- A value kept as it is found in an optional field, where `null` would be nothing. -/
structure Undecoded where
  value : JsonValue
  parsed : value.toValue = value
  something : value ≠ .null
  deriving DecidableEq

/-! ## Encodings -/

/-- How a type is written and read. -/
structure Codec (α : Type) where
  encode : α → JsonValue
  decode : JsonValue → Except String α

/-- What is written for a value is something, and is read back as the value. -/
structure Codec.ReadsBack {α : Type} (c : Codec α) (a : α) : Prop where
  decode : c.decode (c.encode a).toValue = .ok a
  something : c.encode a ≠ .null

/-! ### Plain types -/

def Codec.string : Codec String where
  encode := .string
  decode
    | .string s => .ok s
    | _ => .error "invalid type, expected a string"

def Codec.bool : Codec Bool where
  encode := .bool
  decode
    | .bool b => .ok b
    | _ => .error "invalid type, expected a boolean"

/-- `u32`. -/
def Codec.u32 : Codec UInt32 where
  encode n := .number n.toNat
  decode
    | .number n => if n < 2 ^ 32 then .ok (UInt32.ofNat n) else .error "invalid value, expected u32"
    | _ => .error "invalid type, expected u32"

theorem Codec.u32_readsBack (n : UInt32) : Codec.u32.ReadsBack n := by
  refine ⟨?_, by simp [u32]⟩
  show (if n.toNat < 2 ^ 32 then Except.ok (UInt32.ofNat n.toNat) else _) = Except.ok n
  rw [if_pos n.toNat_lt, UInt32.ofNat_toNat]

theorem Codec.string_readsBack (s : String) : Codec.string.ReadsBack s := ⟨rfl, by simp [string]⟩

theorem Codec.bool_readsBack (b : Bool) : Codec.bool.ReadsBack b := ⟨rfl, by simp [bool]⟩

/-- `serde_json::Value` in an optional field. -/
def Codec.undecoded : Codec Undecoded where
  encode := Undecoded.value
  decode v :=
    if h : v.toValue = .null then .error "invalid type, expected a value"
    else .ok ⟨v.toValue, v.toValue_toValue, h⟩

theorem Codec.undecoded_readsBack (u : Undecoded) : Codec.undecoded.ReadsBack u := by
  obtain ⟨value, hparsed, hsomething⟩ := u
  refine ⟨?_, hsomething⟩
  simp only [Codec.undecoded, hparsed]
  exact dif_neg hsomething

section Options

variable {α : Type} (c : Codec α)

/-- `Option`: nothing is written as `null`. -/
def Codec.option : Codec (Option α) where
  encode
    | none => .null
    | some a => c.encode a
  decode
    | .null => .ok none
    | v => (c.decode v).map some

/-- `Vec`. -/
def Codec.list : Codec (List α) where
  encode l := .array (l.map c.encode)
  decode
    | .array items => items.mapM c.decode
    | _ => .error "invalid type, expected a sequence"

variable {c}

/-- An option is read back when what it holds is. -/
theorem Codec.decode_option {o : Option α} (h : ∀ a, o = some a → c.ReadsBack a) :
    c.option.decode (c.option.encode o).toValue = .ok o := by
  cases o with
  | none => rfl
  | some a =>
    obtain ⟨hdecode, hsomething⟩ := h a rfl
    show c.option.decode (c.encode a).toValue = _
    have hnull : (c.encode a).toValue ≠ .null := fun hnull =>
      hsomething (JsonValue.toValue_eq_null.1 hnull)
    cases hvalue : (c.encode a).toValue with
    | null => exact absurd hvalue hnull
    | _ =>
      rw [hvalue] at hdecode
      simp only [Codec.option, hdecode]
      rfl

/-- A list is read back when its elements are. -/
theorem Codec.list_readsBack {l : List α} (h : ∀ a ∈ l, c.ReadsBack a) : c.list.ReadsBack l := by
  refine ⟨?_, by simp [Codec.list]⟩
  show ((JsonValue.toValues (l.map c.encode)).mapM c.decode) = .ok l
  rw [JsonValue.toValues_eq_map]
  induction l with
  | nil => rfl
  | cons a rest ih =>
    rw [List.map_cons, List.map_cons, List.mapM_cons, (h a List.mem_cons_self).decode,
      ih fun b hb => h b (List.mem_cons_of_mem _ hb)]
    rfl

end Options

/-! ### Records -/

/-- The fields of a record that are written: one without a value is skipped. -/
def written (parts : List (String × Option JsonValue)) : List (String × JsonValue) :=
  parts.filterMap fun part => part.2.map fun v => (part.1, v)

/-- `skip_serializing_if = "Option::is_none"`. -/
def skipNone {α : Type} (c : Codec α) (o : Option α) : Option JsonValue := o.map c.encode

/-- `skip_serializing_if = "Vec::is_empty"`. -/
def skipEmpty {α : Type} (c : Codec α) (l : List α) : Option JsonValue :=
  if l.isEmpty then none else some (c.list.encode l)

/-- The fields a record is read from, with `deny_unknown_fields`: those of an object, each
known and there once, or the elements of an array in the order of the declaration, at least
up to the last one without a default. -/
def structFields (known : List String) (needed : ℕ) :
    JsonValue → Except String (List (String × JsonValue))
  | .object fields => do
    failIf (∃ field ∈ fields, field.1 ∉ known) "unknown field"
    failIf (¬(fields.map Prod.fst).Nodup) "duplicate field"
    return fields
  | .array items =>
    if items.length < needed ∨ known.length < items.length then .error "invalid length"
    else .ok (known.zip items)
  | _ => .error "invalid type, expected a struct"

section Read

variable {α : Type} (c : Codec α) (fields : List (String × JsonValue)) (key : String)

/-- A field without a default. -/
def readField : Except String α :=
  match fields.lookup key with
  | none => .error ("missing field " ++ key)
  | some v => c.decode v

/-- A field that takes its default where it is missing. -/
def readDefault (d : α) : Except String α :=
  match fields.lookup key with
  | none => .ok d
  | some v => c.decode v

/-- An optional field: one that is missing is none, with or without `default`. -/
def readOption : Except String (Option α) := readDefault c.option fields key none

end Read

section Written

variable {α : Type} {c : Codec α} {parts : List (String × Option JsonValue)} {key : String}

theorem map_fst_written_sublist (parts : List (String × Option JsonValue)) :
    ((written parts).map Prod.fst).Sublist (parts.map Prod.fst) := by
  induction parts with
  | nil => exact List.Sublist.slnil
  | cons part rest ih =>
    obtain ⟨k, o⟩ := part
    cases o with
    | none => exact ih.cons _
    | some v => exact ih.cons_cons _

/-- What a record is read from is what was written of it. -/
theorem structFields_written {known : List String} {needed : ℕ}
    (hparts : parts.map Prod.fst = known) (hnodup : known.Nodup) :
    structFields known needed (JsonValue.object (written parts)).toValue =
      .ok (JsonValue.toFields (written parts)) := by
  have hsublist : ((written parts).map Prod.fst).Sublist known :=
    hparts ▸ map_fst_written_sublist parts
  have hdistinct : ((written parts).map Prod.fst).Nodup := hsublist.nodup hnodup
  rw [JsonValue.toValue_object_of_nodup hdistinct]
  have hkeys := JsonValue.map_fst_toFields (written parts)
  have hknown : ¬∃ field ∈ JsonValue.toFields (written parts), field.1 ∉ known := by
    intro ⟨field, hfield, hunknown⟩
    have hmem : field.1 ∈ (JsonValue.toFields (written parts)).map Prod.fst :=
      List.mem_map_of_mem hfield
    rw [hkeys] at hmem
    exact hunknown (hsublist.subset hmem)
  have honce : ¬¬((JsonValue.toFields (written parts)).map Prod.fst).Nodup := by
    rw [hkeys, not_not]
    exact hdistinct
  rw [structFields]
  refine check_eq_ok.2 ⟨failIf_eq_ok.2 hknown, ?_⟩
  exact check_eq_ok.2 ⟨failIf_eq_ok.2 honce, rfl⟩

theorem lookup_eq_none_of_notMem {α : Type} {l : List (String × α)} (h : key ∉ l.map Prod.fst) :
    l.lookup key = none := by
  rw [List.lookup_eq_none_iff]
  intro field hfield
  rw [bne_iff_ne]
  rintro rfl
  exact h (List.mem_map_of_mem hfield)

/-- A field is found as it was written, where the names are distinct. -/
theorem lookup_written (hnodup : (parts.map Prod.fst).Nodup) {o : Option JsonValue}
    (hpart : (key, o) ∈ parts) : (written parts).lookup key = o := by
  induction parts with
  | nil => cases hpart
  | cons part rest ih =>
    obtain ⟨k, o'⟩ := part
    rw [List.map_cons, List.nodup_cons] at hnodup
    rcases List.mem_cons.1 hpart with heq | hmem
    · obtain ⟨rfl, rfl⟩ := Prod.mk.inj heq
      have hlater : (written rest).lookup key = none := lookup_eq_none_of_notMem fun hmem =>
        hnodup.1 ((map_fst_written_sublist rest).subset hmem)
      cases o with
      | none => exact hlater
      | some v => exact List.lookup_cons_self
    · have hne : key ≠ k := by
        intro heq
        exact hnodup.1 (List.mem_map.2 ⟨(key, o), hmem, heq⟩)
      have hrest := ih hnodup.2 hmem
      cases o' with
      | none => exact hrest
      | some v =>
        show ((k, v) :: written rest).lookup key = o
        rw [List.lookup_cons, beq_eq_false_iff_ne.2 hne]
        exact hrest

theorem lookup_toFields_written (hnodup : (parts.map Prod.fst).Nodup) {o : Option JsonValue}
    (hpart : (key, o) ∈ parts) :
    (JsonValue.toFields (written parts)).lookup key = o.map JsonValue.toValue := by
  rw [JsonValue.lookup_toFields, lookup_written hnodup hpart]

variable (hnodup : (parts.map Prod.fst).Nodup)
include hnodup

theorem readDefault_written {a d : α} (hpart : (key, some (c.encode a)) ∈ parts)
    (hread : c.decode (c.encode a).toValue = .ok a) :
    readDefault c (JsonValue.toFields (written parts)) key d = .ok a := by
  rw [readDefault, lookup_toFields_written hnodup hpart]
  exact hread

theorem readField_written {a : α} (hpart : (key, some (c.encode a)) ∈ parts)
    (hread : c.ReadsBack a) :
    readField c (JsonValue.toFields (written parts)) key = .ok a := by
  rw [readField, lookup_toFields_written hnodup hpart]
  exact hread.decode

/-- An optional field that is always written. -/
theorem readOption_written {o : Option α} (hpart : (key, some (c.option.encode o)) ∈ parts)
    (hread : ∀ a, o = some a → c.ReadsBack a) :
    readOption c (JsonValue.toFields (written parts)) key = .ok o :=
  readDefault_written hnodup hpart (Codec.decode_option hread)

/-- An optional field that is skipped where there is nothing. -/
theorem readOption_skipNone {o : Option α} (hpart : (key, skipNone c o) ∈ parts)
    (hread : ∀ a, o = some a → c.ReadsBack a) :
    readOption c (JsonValue.toFields (written parts)) key = .ok o := by
  rw [readOption, readDefault, lookup_toFields_written hnodup hpart]
  cases o with
  | none => rfl
  | some a => exact Codec.decode_option hread

/-- A list that is skipped where it is empty, which is its default. -/
theorem readDefault_skipEmpty {l : List α} (hpart : (key, skipEmpty c l) ∈ parts)
    (hread : ∀ a ∈ l, c.ReadsBack a) :
    readDefault c.list (JsonValue.toFields (written parts)) key [] = .ok l := by
  rw [readDefault, lookup_toFields_written hnodup hpart]
  cases l with
  | nil => rfl
  | cons a rest => exact (Codec.list_readsBack hread).decode

end Written

/-! ### Refusals -/

theorem structFields_eq_ok {known : List String} {needed : ℕ} {fields fields' : List (String × JsonValue)}
    (h : structFields known needed (.object fields) = .ok fields') :
    fields' = fields ∧ ∀ field ∈ fields, field.1 ∈ known := by
  rw [structFields] at h
  obtain ⟨hknown, h⟩ := check_eq_ok.1 h
  obtain ⟨-, h⟩ := check_eq_ok.1 h
  refine ⟨(Except.ok.inj h).symm, ?_⟩
  intro field hfield
  by_contra hunknown
  exact failIf_eq_ok.1 hknown ⟨field, hfield, hunknown⟩

end RouteLane
