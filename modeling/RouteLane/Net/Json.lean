import RouteLane.Lib.Places

/-!
# JSON documents

Values as `serde_json` decodes them, and the ways the readers of the kernel's documents
take a 32-bit number out of one: from a number, or from text in a radix.
-/

namespace RouteLane

/-- `serde_json::Value`.  A number is kept by its value when it is one `as_u64` returns. -/
inductive JsonValue where
  | null
  | bool (b : Bool)
  | number (n : ℕ)
  | otherNumber (text : String)
  | string (s : String)
  | array (items : List JsonValue)
  | object (fields : List (String × JsonValue))
  deriving Repr

namespace JsonValue

def asU64 : JsonValue → Option ℕ
  | .number n => some n
  | _ => none

def asStr : JsonValue → Option String
  | .string s => some s
  | _ => none

def asArray : JsonValue → Option (List JsonValue)
  | .array items => some items
  | _ => none

def asObject : JsonValue → Option (List (String × JsonValue))
  | .object fields => some fields
  | _ => none

/-- `Value::get`. -/
def get (value : JsonValue) (key : String) : Option JsonValue :=
  value.asObject.bind fun fields => fields.lookup key

/-- `value[key]`, which is `null` where there is nothing. -/
def index (value : JsonValue) (key : String) : JsonValue := (value.get key).getD .null

/-- The value under a key replaced. -/
def setField (key : String) (v : JsonValue) : List (String × JsonValue) → List (String × JsonValue)
  | [] => []
  | (k, old) :: rest => if k = key then (k, v) :: rest else (k, old) :: setField key v rest

/-- `value[key] = v` where there is a value under the key. -/
def set (value : JsonValue) (key : String) (v : JsonValue) : JsonValue :=
  match value with
  | .object fields => .object (setField key v fields)
  | value => value

theorem lookup_setField {key : String} {v old : JsonValue} {fields : List (String × JsonValue)}
    (h : fields.lookup key = some old) : (setField key v fields).lookup key = some v := by
  induction fields with
  | nil => cases h
  | cons field fields ih =>
    obtain ⟨k, w⟩ := field
    rw [setField]
    by_cases hk : k = key
    · rw [if_pos hk, hk, List.lookup_cons_self]
    · have hne : (key == k) = false := beq_false_of_ne (Ne.symm hk)
      rw [List.lookup_cons, hne] at h
      rw [if_neg hk, List.lookup_cons, hne]
      exact ih h

theorem lookup_setField_of_ne {key other : String} (hne : other ≠ key) (v : JsonValue)
    (fields : List (String × JsonValue)) :
    (setField key v fields).lookup other = fields.lookup other := by
  induction fields with
  | nil => rfl
  | cons field fields ih =>
    obtain ⟨k, w⟩ := field
    rw [setField]
    split
    · rename_i hk
      have hother : (other == k) = false := beq_false_of_ne (hk ▸ hne)
      rw [List.lookup_cons, List.lookup_cons, hother]
    · rw [List.lookup_cons, List.lookup_cons, ih]

theorem setField_self {key : String} {old : JsonValue} {fields : List (String × JsonValue)}
    (h : fields.lookup key = some old) : setField key old fields = fields := by
  induction fields with
  | nil => rfl
  | cons field fields ih =>
    obtain ⟨k, w⟩ := field
    rw [setField]
    by_cases hk : k = key
    · rw [hk, List.lookup_cons_self] at h
      rw [if_pos hk, Option.some.inj h]
    · have hne : (key == k) = false := beq_false_of_ne (Ne.symm hk)
      rw [List.lookup_cons, hne] at h
      rw [if_neg hk, ih h]

theorem setField_setField (key : String) (v w : JsonValue) (fields : List (String × JsonValue)) :
    setField key w (setField key v fields) = setField key w fields := by
  induction fields with
  | nil => rfl
  | cons field fields ih =>
    obtain ⟨k, old⟩ := field
    rw [setField]
    by_cases hk : k = key
    · simp [setField, hk]
    · simp [setField, hk, ih]

theorem get_eq_some {value : JsonValue} {key : String} {v : JsonValue} :
    value.get key = some v ↔ ∃ fields, value = .object fields ∧ fields.lookup key = some v := by
  cases value <;> simp [get, asObject]

theorem get_set_of_ne {key other : String} (hne : other ≠ key) (value v : JsonValue) :
    (value.set key v).get other = value.get other := by
  cases value <;> simp [set, get, asObject, lookup_setField_of_ne hne]

/-- The value under a key. -/
def field (key : String) : Place JsonValue JsonValue where
  get? value := value.get key
  put value v := value.set key v
  get?_put {value old} v h := by
    obtain ⟨fields, rfl, hold⟩ := get_eq_some.1 h
    exact get_eq_some.2 ⟨_, rfl, lookup_setField hold⟩
  put_get? {value old} h := by
    obtain ⟨fields, rfl, hold⟩ := get_eq_some.1 h
    rw [set, setField_self hold]
  put_put {value old} v w h := by
    obtain ⟨fields, rfl, -⟩ := get_eq_some.1 h
    simp only [set]
    rw [setField_setField]

/-- The elements of an array. -/
def items : Place JsonValue (List JsonValue) where
  get? := asArray
  put _ l := .array l
  get?_put _ _ := rfl
  put_get? {value l} h := by
    cases value <;> simp [asArray] at h
    rw [h]
  put_put _ _ _ := rfl

end JsonValue

/-- `char::to_digit`. -/
def toDigit (radix : ℕ) (c : Char) : Option ℕ :=
  let value :=
    if '0' ≤ c ∧ c ≤ '9' then c.toNat - '0'.toNat
    else if 'a' ≤ c ∧ c ≤ 'z' then c.toNat - 'a'.toNat + 10
    else if 'A' ≤ c ∧ c ≤ 'Z' then c.toNat - 'A'.toNat + 10
    else radix
  if value < radix then some value else none

/-- `u32::from_str_radix`: a sign, then at least one digit, none that leads out of range. -/
def u32FromStrRadix (radix : ℕ) (text : String) : Option ℕ :=
  let digits :=
    match text.toList with
    | '+' :: rest => rest
    | all => all
  if digits.isEmpty then none
  else digits.foldlM (fun n c => do
    let d ← toDigit radix c
    if n * radix + d < 2 ^ 32 then some (n * radix + d) else none) 0

/-- `number`: a 32-bit number, or its decimal text. -/
def jsonNumber (v : JsonValue) : Option ℕ :=
  (v.asU64.filter fun n => n < 2 ^ 32).or (v.asStr.bind (u32FromStrRadix 10))

/-- A number, or the text of one in hexadecimal after `0x`. -/
def jsonHexNumber (v : JsonValue) : Option ℕ :=
  (jsonNumber v).or (v.asStr.bind fun text =>
    if "0x".toList.isPrefixOf text.toList then
      u32FromStrRadix 16 (String.ofList (text.toList.drop 2))
    else none)

example : jsonHexNumber (.string "0x524c0001") = some 0x524c0001 := by decide

end RouteLane
