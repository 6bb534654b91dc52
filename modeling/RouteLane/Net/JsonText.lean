import RouteLane.Net.Derived

/-!
# The text of JSON documents

How `serde_json` writes a document, on one line or laid out over lines, and how a string is
read again.
-/

namespace RouteLane

/-! ## Bytes -/

/-- The bytes of a text. -/
def textBytes (text : String) : List UInt8 := text.toByteArray.data.toList

/-- `std::str::from_utf8`, where it succeeds. -/
def textOfBytes (bytes : List UInt8) : Option String := String.fromUTF8? ⟨bytes.toArray⟩

/-- `Utf8Error`: the first bytes up to there are text, then so many are not, or it breaks off. -/
structure Utf8Error where
  validUpTo : ℕ
  errorLen : Option ℕ
  deriving DecidableEq

def Utf8Error.display (e : Utf8Error) : String :=
  match e.errorLen with
  | some length =>
    "invalid utf-8 sequence of " ++ toString length ++ " bytes from index " ++ toString e.validUpTo
  | none => "incomplete utf-8 byte sequence from index " ++ toString e.validUpTo

/-- The bounds of the bytes that follow a first byte. -/
def utf8Tail (first : UInt8) : Option (List (UInt8 × UInt8)) :=
  if first < 0x80 then some []
  else if first < 0xC2 then none
  else if first < 0xE0 then some [(0x80, 0xBF)]
  else if first = 0xE0 then some [(0xA0, 0xBF), (0x80, 0xBF)]
  else if first = 0xED then some [(0x80, 0x9F), (0x80, 0xBF)]
  else if first < 0xF0 then some [(0x80, 0xBF), (0x80, 0xBF)]
  else if first = 0xF0 then some [(0x90, 0xBF), (0x80, 0xBF), (0x80, 0xBF)]
  else if first < 0xF4 then some [(0x80, 0xBF), (0x80, 0xBF), (0x80, 0xBF)]
  else if first = 0xF4 then some [(0x80, 0x8F), (0x80, 0xBF), (0x80, 0xBF)]
  else none

/-- The `error_len` after so many bytes of a character, if the rest of it is not there. -/
def tailError : ℕ → List (UInt8 × UInt8) → List UInt8 → Option (Option ℕ)
  | _, [], _ => none
  | _, _ :: _, [] => some none
  | seen, bounds :: more, byte :: bytes =>
    if bounds.1 ≤ byte ∧ byte ≤ bounds.2 then tailError (seen + 1) more bytes else some (some seen)

/-- The first error from an index on, after some bytes of a character that was seen. -/
def utf8ErrorFrom (index : ℕ) : ℕ → List UInt8 → Option Utf8Error
  | _, [] => none
  | rest + 1, _ :: bytes => utf8ErrorFrom (index + 1) rest bytes
  | 0, first :: bytes =>
    match utf8Tail first with
    | none => some ⟨index, some 1⟩
    | some bounds =>
      match tailError 1 bounds bytes with
      | some errorLen => some ⟨index, errorLen⟩
      | none => utf8ErrorFrom (index + 1) bounds.length bytes

/-- What `std::str::from_utf8` says where it fails. -/
def utf8ErrorText (bytes : List UInt8) : String :=
  ((utf8ErrorFrom 0 0 bytes).map Utf8Error.display).getD ""

example : utf8ErrorFrom 0 0 [0x61, 0xC3, 0xA9, 0xE2, 0x82, 0x61] = some ⟨3, some 2⟩ := by decide

theorem length_textBytes (text : String) : (textBytes text).length = text.utf8ByteSize := rfl

theorem textOfBytes_textBytes (text : String) : textOfBytes (textBytes text) = some text := by
  show (if h : text.toByteArray.IsValidUTF8 then some (String.fromUTF8 _ h) else none) = _
  rw [dif_pos text.isValidUTF8]
  rfl

namespace JsonValue

/-! ## Strings -/

def hexDigit (n : ℕ) : Char := Nat.digitChar n

/-- The characters that are written as two. -/
def shortEscapes : List (Char × Char) :=
  [('"', '"'), ('\\', '\\'), (Char.ofNat 8, 'b'), ('\t', 't'), ('\n', 'n'), (Char.ofNat 12, 'f'),
    ('\r', 'r')]

/-- A character as it stands in a string. -/
def escape (c : Char) : List Char :=
  match shortEscapes.lookup c with
  | some short => ['\\', short]
  | none =>
    if c.toNat < 32 then ['\\', 'u', '0', '0', hexDigit (c.toNat / 16), hexDigit (c.toNat % 16)]
    else [c]

def quote (s : String) : String := String.ofList ('"' :: (s.toList.flatMap escape ++ ['"']))

/-- The first character of what is left of a string, and what is left after it. -/
def unescape : List Char → Option (Char × List Char)
  | [] => none
  | c :: rest =>
    if c = '\\' then
      match rest with
      | 'u' :: '0' :: '0' :: high :: low :: rest => do
        let high ← toDigit 16 high
        let low ← toDigit 16 low
        return (Char.ofNat (16 * high + low), rest)
      | short :: rest =>
        (shortEscapes.find? fun entry => entry.2 = short).map fun entry => (entry.1, rest)
      | [] => none
    else if c = '"' ∨ c.toNat < 32 then none
    else some (c, rest)

/-- What is left of a string up to its closing quote, which ends the text; each character
takes at least one of the text. -/
def unescapeAll : ℕ → List Char → Option (List Char)
  | 0, _ => none
  | n + 1, text =>
    if text = ['"'] then some []
    else do
      let (c, rest) ← unescape text
      let s ← unescapeAll n rest
      return c :: s

/-- A string that was written so; JSON knows other escapes, which do not occur in it. -/
def unquote (text : String) : Option String :=
  match text.toList with
  | '"' :: rest => (unescapeAll rest.length rest).map String.ofList
  | _ => none

theorem toDigit_hexDigit {n : ℕ} (h : n < 16) : toDigit 16 (hexDigit n) = some n := by
  revert n
  decide

theorem ofNat_hexDigits (c : Char) : Char.ofNat (16 * (c.toNat / 16) + c.toNat % 16) = c := by
  rw [Nat.div_add_mod, Char.ofNat_toNat]

/-- A character that is not written as two is no mark of a string. -/
theorem ne_of_lookup_shortEscapes {c : Char} (h : shortEscapes.lookup c = none) :
    c ≠ '"' ∧ c ≠ '\\' := by
  constructor
  · rintro rfl
    cases h
  · rintro rfl
    cases h

/-- A character is read as it was written, whatever follows. -/
theorem unescape_escape (c : Char) (rest : List Char) :
    unescape (escape c ++ rest) = some (c, rest) := by
  unfold escape
  cases hshort : shortEscapes.lookup c with
  | some short =>
    have hmem : (c, short) ∈ shortEscapes := by
      obtain ⟨before, after, hsplit, -⟩ := List.lookup_eq_some_iff.1 hshort
      rw [hsplit]
      exact List.mem_append_right _ List.mem_cons_self
    simp only [shortEscapes, List.mem_cons, Prod.mk.injEq, List.not_mem_nil, or_false] at hmem
    rcases hmem with ⟨rfl, rfl⟩ | ⟨rfl, rfl⟩ | ⟨rfl, rfl⟩ | ⟨rfl, rfl⟩ | ⟨rfl, rfl⟩ | ⟨rfl, rfl⟩ |
      ⟨rfl, rfl⟩ <;> rfl
  | none =>
    obtain ⟨hquote, hslash⟩ := ne_of_lookup_shortEscapes hshort
    by_cases hcontrol : c.toNat < 32
    · have hhigh : toDigit 16 (hexDigit (c.toNat / 16)) = some (c.toNat / 16) :=
        toDigit_hexDigit (by omega)
      have hlow : toDigit 16 (hexDigit (c.toNat % 16)) = some (c.toNat % 16) :=
        toDigit_hexDigit (Nat.mod_lt _ (by norm_num))
      simp only [if_pos hcontrol]
      show (do
        let high ← toDigit 16 (hexDigit (c.toNat / 16))
        let low ← toDigit 16 (hexDigit (c.toNat % 16))
        return (Char.ofNat (16 * high + low), rest)) = some (c, rest)
      rw [hhigh, hlow]
      show some (Char.ofNat (16 * (c.toNat / 16) + c.toNat % 16), rest) = some (c, rest)
      rw [ofNat_hexDigits]
    · simp only [if_neg hcontrol]
      show (if c = '\\' then _ else if c = '"' ∨ c.toNat < 32 then none else some (c, rest)) =
        some (c, rest)
      rw [if_neg hslash, if_neg (not_or.2 ⟨hquote, hcontrol⟩)]

theorem length_escape_pos (c : Char) : 0 < (escape c).length := by
  unfold escape
  split
  · exact Nat.succ_pos _
  · split <;> exact Nat.succ_pos _

/-- Of a character more than the closing quote is written. -/
theorem escape_append_ne (c : Char) {rest : List Char} (h : rest ≠ []) :
    escape c ++ rest ≠ ['"'] := by
  intro hquote
  have hlength := congrArg List.length hquote
  rw [List.length_append, List.length_singleton] at hlength
  have hpos := length_escape_pos c
  have hrest := List.length_pos_iff.2 h
  omega

theorem unescapeAll_flatMap (s : List Char) {n : ℕ} (h : s.length < n) :
    unescapeAll n (s.flatMap escape ++ ['"']) = some s := by
  induction s generalizing n with
  | nil =>
    obtain ⟨n, rfl⟩ := Nat.exists_eq_succ_of_ne_zero (Nat.ne_of_gt h)
    rfl
  | cons c s ih =>
    obtain ⟨n, rfl⟩ := Nat.exists_eq_succ_of_ne_zero (Nat.ne_of_gt (Nat.zero_lt_of_lt h))
    rw [List.flatMap_cons, List.append_assoc, unescapeAll,
      if_neg (escape_append_ne c (by simp)), unescape_escape]
    show (do
      let s ← unescapeAll n (s.flatMap escape ++ ['"'])
      return c :: s) = some (c :: s)
    rw [ih (Nat.lt_of_succ_lt_succ h)]
    rfl

theorem length_le_flatMap_escape (s : List Char) : s.length ≤ (s.flatMap escape).length := by
  induction s with
  | nil => exact Nat.le_refl _
  | cons c s ih =>
    rw [List.flatMap_cons, List.length_append, List.length_cons]
    have hpos := length_escape_pos c
    omega

/-- A string is read as it was written. -/
theorem unquote_quote (s : String) : unquote (quote s) = some s := by
  have hfuel : s.toList.length < (s.toList.flatMap escape ++ ['"']).length := by
    rw [List.length_append, List.length_singleton]
    exact Nat.lt_succ_of_le (length_le_flatMap_escape _)
  rw [unquote, quote, String.toList_ofList]
  show (unescapeAll _ (s.toList.flatMap escape ++ ['"'])).map String.ofList = _
  rw [unescapeAll_flatMap _ hfuel, Option.map_some, String.ofList_toList]

/-! ## Documents -/

/-- The break before an item at a depth; on one line there is none. -/
def lineBreak : Option ℕ → String
  | none => ""
  | some depth => "\n" ++ String.ofList (List.replicate (2 * depth) ' ')

mutual
/-- `serde_json::to_string`, and `to_string_pretty` at a depth. -/
def print (depth : Option ℕ) : JsonValue → String
  | .null => "null"
  | .bool b => toString b
  | .number n => toString n
  | .otherNumber text => text
  | .string s => quote s
  | .array [] => "[]"
  | .array (item :: rest) =>
    "[" ++ lineBreak (depth.map (· + 1)) ++ item.print (depth.map (· + 1)) ++
      printItems (depth.map (· + 1)) rest ++ lineBreak depth ++ "]"
  | .object [] => "\x7b\x7d"
  | .object ((key, v) :: rest) =>
    "\x7b" ++ lineBreak (depth.map (· + 1)) ++ quote key ++
      (if depth.isSome then ": " else ":") ++ v.print (depth.map (· + 1)) ++
      printFields (depth.map (· + 1)) rest ++ lineBreak depth ++ "\x7d"

/-- The items after the first, jointly with `print`. -/
def printItems (depth : Option ℕ) : List JsonValue → String
  | [] => ""
  | item :: rest => "," ++ lineBreak depth ++ item.print depth ++ printItems depth rest

/-- The fields after the first, jointly with `print`. -/
def printFields (depth : Option ℕ) : List (String × JsonValue) → String
  | [] => ""
  | (key, v) :: rest =>
    "," ++ lineBreak depth ++ quote key ++ (if depth.isSome then ": " else ":") ++ v.print depth ++
      printFields depth rest
end

end JsonValue

end RouteLane
