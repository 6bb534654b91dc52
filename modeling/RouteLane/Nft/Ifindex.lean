import RouteLane.Net.Json
import RouteLane.Net.Topology

/-!
# Interface indexes in a dump

A rule names a device by its index, and a dump prints the index as the name of the device
that has it, or as a decimal text.  The helper takes the names back before it compares a
dump with what it rendered.
-/

namespace RouteLane

open Fallible

/-! ## Decimal texts -/

/-- `!name.is_empty() && name.bytes().all(|b| b.is_ascii_digit())`. -/
def isDecimal (name : String) : Bool := !name.toList.isEmpty && name.toList.all Char.isDigit

theorem le_ofDigitChars (l : List Char) (init : ℕ) : init ≤ Nat.ofDigitChars 10 l init := by
  rw [Nat.ofDigitChars_eq_ofDigitChars_zero]
  have hpower : 0 < 10 ^ l.length := by positivity
  have hscaled : 1 * init ≤ 10 ^ l.length * init := Nat.mul_le_mul_right init hpower
  omega

/-- The digits of a number that fits are read as that number. -/
theorem foldlM_digits {l : List Char} (hl : ∀ c ∈ l, c.isDigit = true) {bound : ℕ} :
    ∀ {init : ℕ}, Nat.ofDigitChars 10 l init < bound →
      l.foldlM (fun n c => do
        let d ← toDigit 10 c
        if n * 10 + d < bound then some (n * 10 + d) else none) init =
      some (Nat.ofDigitChars 10 l init) := by
  induction l with
  | nil =>
    intro init _
    simp
  | cons c l ih =>
    intro init hfits
    have hdigit := hl c List.mem_cons_self
    have hrange : '0' ≤ c ∧ c ≤ '9' := by
      simp only [Char.isDigit, Bool.and_eq_true, decide_eq_true_eq, ge_iff_le] at hdigit
      exact hdigit
    have hvalue : toDigit 10 c = some (c.toNat - '0'.toNat) := by
      have hupper : c.toNat ≤ '9'.toNat := hrange.2
      have hten : c.toNat - '0'.toNat < 10 := by
        have hzero : '0'.toNat = 48 := rfl
        have hnine : '9'.toNat = 57 := rfl
        omega
      unfold toDigit
      simp only [if_pos hrange, if_pos hten]
    rw [Nat.ofDigitChars_cons, Nat.mul_comm] at hfits ⊢
    have hstep := lt_of_le_of_lt (le_ofDigitChars l _) hfits
    rw [List.foldlM_cons, hvalue]
    simp only [Option.bind_eq_bind, Option.bind_some, if_pos hstep]
    exact ih (fun c hc => hl c (List.mem_cons_of_mem _ hc)) hfits

theorem isDigit_of_mem_toString {n : ℕ} {c : Char} (hc : c ∈ (toString n).toList) :
    c.isDigit = true := by
  rw [Nat.toString_eq_ofList_toDigits, String.toList_ofList] at hc
  exact Nat.isDigit_of_mem_toDigits (by norm_num) le_rfl hc

theorem isDecimal_toString (n : ℕ) : isDecimal (toString n) = true := by
  have hsome : (toString n).toList ≠ [] := by
    rw [Nat.toString_eq_ofList_toDigits, String.toList_ofList]
    exact Nat.toDigits_ne_nil
  unfold isDecimal
  rw [Bool.and_eq_true, List.all_eq_true]
  refine ⟨by rw [Bool.not_eq_true', List.isEmpty_eq_false_iff]; exact hsome, ?_⟩
  exact fun c hc => isDigit_of_mem_toString hc

/-- A 32-bit number is read back from its decimal text. -/
theorem u32FromStrRadix_toString {n : ℕ} (hn : n < 2 ^ 32) :
    u32FromStrRadix 10 (toString n) = some n := by
  have htext : (toString n).toList = Nat.toDigits 10 n := by
    rw [Nat.toString_eq_ofList_toDigits, String.toList_ofList]
  have hdigits : ∀ c ∈ Nat.toDigits 10 n, c.isDigit = true := fun c hc =>
    isDigit_of_mem_toString (htext ▸ hc)
  have hvalue : Nat.ofDigitChars 10 (Nat.toDigits 10 n) 0 = n := Nat.ofDigitChars_ten_toDigits
  unfold u32FromStrRadix
  simp only [htext]
  split
  · rename_i rest hsigned
    have hplus := hdigits '+' (hsigned ▸ List.mem_cons_self)
    exact absurd hplus (by decide)
  · rw [if_neg (by simp)]
    rw [foldlM_digits hdigits (by rw [hvalue]; exact hn), hvalue]

/-! ## Operands -/

/-- `i32::MAX`. -/
def maxIfindex : ℕ := 2 ^ 31 - 1

/-- `is_ifindex_match`. -/
def isIfindexMatch (expression : JsonValue) : Bool :=
  match ((((expression.index "match").index "left").index "meta").index "key").asStr with
  | some key => key == "iif" || key == "oif"
  | none => false

/-- Where the expressions of an nft object are, if it is a rule with expressions. -/
def ruleExpressions : Place JsonValue (List JsonValue) :=
  ((JsonValue.field "rule").comp (JsonValue.field "expr")).comp
    JsonValue.items

/-- Where the objects of a document are. -/
def nftObjects : Place JsonValue (List JsonValue) := 
  (JsonValue.field "nftables").comp JsonValue.items

/-- Where the right-hand side of a match is. -/
def matchOperand : Place JsonValue JsonValue :=
  (JsonValue.field "match").comp (JsonValue.field "right")

/-- Do something at every expression of every rule of a document. -/
def overExpressions {ε : Type} (f : JsonValue → Except ε JsonValue) :
    JsonValue → Except ε JsonValue :=
  nftObjects.mapM (List.mapM (ruleExpressions.mapM (List.mapM f)))

/-- Change every expression of every rule of a document. -/
def mapExpressions (g : JsonValue → JsonValue) : JsonValue → JsonValue :=
  nftObjects.map (List.map (ruleExpressions.map (List.map g)))

/-- The expressions of the rules of a document. -/
def expressionsOf (document : JsonValue) : List JsonValue :=
  ((nftObjects.get? document).getD []).flatMap fun object =>
    (ruleExpressions.get? object).getD []

/-- The number an operand stands for: its decimal text, the index of the device it names, or
the number it is. -/
def ifindexOf (identities : OrderedMap String InterfaceIdentity) (operand : JsonValue) :
    Option ℕ :=
  match operand with
  | .string name =>
    if isDecimal name then u32FromStrRadix 10 name
    else (identities.find? name).map InterfaceIdentity.ifindex
  | operand => operand.asU64.filter fun n => n < 2 ^ 32

/-- The loop body of `resolve_dump_ifindices`. -/
def resolveExpression (identities : OrderedMap String InterfaceIdentity)
    (expression : JsonValue) : Except String JsonValue :=
  if isIfindexMatch expression then
    match (ifindexOf identities ((expression.index "match").index "right")).filter
        fun i => i ≤ maxIfindex with
    | some index => .ok (matchOperand.put expression (.number index))
    | none => .error
      "nft ifindex operand cannot be bound to the stable observed interface snapshot"
  else .ok expression

/-- `resolve_dump_ifindices`. -/
def resolveDumpIfindices (document : JsonValue)
    (identities : OrderedMap String InterfaceIdentity) : Except String JsonValue := do
  failIf (∃ entry ∈ identities.entries, isDecimal entry.1 = true) <|
    "numeric-only interface names make exact nft ifindex ownership proof ambiguous; no " ++
      "network resources were adopted"
  failIf (nftObjects.get? document).isNone
    "invalid nftables document for interface identity proof"
  overExpressions (resolveExpression identities) document

/-! ## Printing -/

/-- How nft prints an index. -/
def printIfindex (identities : OrderedMap String InterfaceIdentity) (index : ℕ) : String :=
  match identities.entries.find? fun entry => entry.2.ifindex == index with
  | some entry => entry.2.name
  | none => toString index

def printOperand (identities : OrderedMap String InterfaceIdentity) : JsonValue → JsonValue
  | .number index => .string (printIfindex identities index)
  | operand => operand

/-- An expression as nft prints it. -/
def printExpression (identities : OrderedMap String InterfaceIdentity)
    (expression : JsonValue) : JsonValue :=
  if isIfindexMatch expression then matchOperand.map (printOperand identities) expression
  else expression

/-- An expression without its operand, if that is an interface index. -/
def withoutIfindex (expression : JsonValue) : JsonValue :=
  if isIfindexMatch expression then matchOperand.map (fun _ => .null) expression else expression

/-! ## One expression -/

/-- What an operand can be bound to: the number it is, the number its text is, or the index
of the device it names. -/
inductive BoundTo (identities : OrderedMap String InterfaceIdentity) : JsonValue → ℕ → Prop
  | number (n : ℕ) : BoundTo identities (.number n) n
  | decimal {text : String} {n : ℕ} : isDecimal text = true →
      u32FromStrRadix 10 text = some n → BoundTo identities (.string text) n
  | device {name : String} {identity : InterfaceIdentity} : isDecimal name = false →
      identities.find? name = some identity → BoundTo identities (.string name) identity.ifindex

section Expression

variable {identities : OrderedMap String InterfaceIdentity} {expression operand : JsonValue}

theorem boundTo_iff {index : ℕ} : BoundTo identities operand index ∧ index ≤ maxIfindex ↔
    (ifindexOf identities operand).filter (fun i => i ≤ maxIfindex) = some index := by
  rw [Option.filter_eq_some_iff, decide_eq_true_eq]
  refine and_congr_left fun hsmall => ?_
  have hfits : index < 2 ^ 32 := by
    unfold maxIfindex at hsmall
    omega
  constructor
  · rintro (_ | ⟨hdecimal, htext⟩ | ⟨hname, hidentity⟩)
    · simp only [ifindexOf, JsonValue.asU64, Option.filter_some, decide_eq_true hfits, if_true]
    · simp [ifindexOf, hdecimal, htext]
    · simp [ifindexOf, hname, hidentity]
  · intro hindex
    cases operand with
    | string text =>
      cases hdecimal : isDecimal text with
      | true =>
        simp only [ifindexOf, hdecimal, if_true] at hindex
        exact .decimal hdecimal hindex
      | false =>
        simp only [ifindexOf, hdecimal, Bool.false_eq_true, if_false] at hindex
        obtain ⟨identity, hidentity, rfl⟩ := Option.map_eq_some_iff.1 hindex
        exact .device hdecimal hidentity
    | number n =>
      simp only [ifindexOf, JsonValue.asU64] at hindex
      obtain ⟨hn, -⟩ := Option.filter_eq_some_iff.1 hindex
      rw [← Option.some.inj hn]
      exact .number n
    | null | bool _ | otherNumber _ | array _ | object _ => simp [ifindexOf, JsonValue.asU64] at hindex

theorem BoundTo.ne_null {index : ℕ} (h : BoundTo identities operand index) : operand ≠ .null := by
  cases h <;> simp

/-- An operand that is something is in its place. -/
theorem get?_matchOperand (h : (expression.index "match").index "right" = operand)
    (hnull : operand ≠ .null) : matchOperand.get? expression = some operand := by
  show (expression.get "match").bind (fun value => value.get "right") = some operand
  unfold JsonValue.index at h
  cases hmatch : expression.get "match" with
  | none =>
    rw [hmatch] at h
    exact absurd h.symm hnull
  | some value =>
    rw [hmatch, Option.getD_some] at h
    cases hright : value.get "right" with
    | none =>
      rw [hright] at h
      exact absurd h.symm hnull
    | some right =>
      rw [hright, Option.getD_some] at h
      rw [Option.bind_some, hright, h]

/-- Whatever is put in the place of the operand, the match is the same. -/
theorem isIfindexMatch_put (h : matchOperand.get? expression = some operand) (v : JsonValue) :
    isIfindexMatch (matchOperand.put expression v) = isIfindexMatch expression ∧
      ((matchOperand.put expression v).index "match").index "right" = v := by
  obtain ⟨value, hmatch, hright⟩ : ∃ value, expression.get "match" = some value ∧
      value.get "right" = some operand := Option.bind_eq_some_iff.1 h
  have hput : (matchOperand.put expression v).get "match" = some (value.set "right" v) := by
    show ((JsonValue.field "match").comp (JsonValue.field "right") |>.put expression v).get
      "match" = _
    unfold Place.comp
    simp only [JsonValue.field, hmatch]
    exact (JsonValue.field "match").get?_put _ hmatch
  have hleft : (value.set "right" v).get "left" = value.get "left" :=
    JsonValue.get_set_of_ne (by decide) value v
  constructor
  · unfold isIfindexMatch JsonValue.index
    rw [hput, hmatch, Option.getD_some, Option.getD_some, hleft]
  · have hfound : (value.set "right" v).get "right" = some v :=
      (JsonValue.field "right").get?_put v hright
    unfold JsonValue.index
    rw [hput, Option.getD_some, hfound, Option.getD_some]

theorem resolveExpression_eq_ok {resolved : JsonValue} :
    resolveExpression identities expression = .ok resolved ↔
      (isIfindexMatch expression = false ∧ resolved = expression) ∨
      (isIfindexMatch expression = true ∧ ∃ operand index,
        matchOperand.get? expression = some operand ∧ BoundTo identities operand index ∧
          index ≤ maxIfindex ∧ resolved = matchOperand.put expression (.number index)) := by
  unfold resolveExpression
  cases hmatch : isIfindexMatch expression with
  | false => simp [eq_comm]
  | true =>
    simp only [if_true, Bool.true_eq_false, false_and, false_or, true_and]
    constructor
    · intro h
      split at h
      · rename_i index hindex
        obtain ⟨hbound, hsmall⟩ := boundTo_iff.2 hindex
        exact ⟨_, index, get?_matchOperand rfl hbound.ne_null, hbound, hsmall,
          (Except.ok.inj h).symm⟩
      · cases h
    · rintro ⟨operand, index, hoperand, hbound, hsmall, rfl⟩
      have hright : (expression.index "match").index "right" = operand := by
        have hput := (isIfindexMatch_put hoperand operand).2
        rwa [matchOperand.put_get? hoperand] at hput
      rw [hright, boundTo_iff.1 ⟨hbound, hsmall⟩]

/-- An operand that was resolved is resolved. -/
theorem resolveExpression_resolved {resolved : JsonValue}
    (h : resolveExpression identities expression = .ok resolved) :
    resolveExpression identities resolved = .ok resolved := by
  rcases resolveExpression_eq_ok.1 h with ⟨hother, rfl⟩ | ⟨hmatch, operand, index, hoperand, -,
    hsmall, rfl⟩
  · exact h
  · refine resolveExpression_eq_ok.2 (Or.inr ⟨?_, .number index, index, ?_, .number index, hsmall,
      ?_⟩)
    · rw [(isIfindexMatch_put hoperand _).1, hmatch]
    · exact matchOperand.get?_put _ hoperand
    · rw [matchOperand.put_put _ _ hoperand]

/-- Resolving an expression changes its operand, and nothing else. -/
theorem withoutIfindex_resolved {resolved : JsonValue}
    (h : resolveExpression identities expression = .ok resolved) :
    withoutIfindex resolved = withoutIfindex expression := by
  rcases resolveExpression_eq_ok.1 h with ⟨-, rfl⟩ | ⟨hmatch, operand, index, hoperand, -, -, rfl⟩
  · rfl
  · have hput := (isIfindexMatch_put hoperand (.number index)).1
    unfold withoutIfindex
    rw [hput, if_pos hmatch, if_pos hmatch, Place.map_eq (matchOperand.get?_put _ hoperand),
      Place.map_eq hoperand, matchOperand.put_put _ _ hoperand]

/-- What nft prints for an index is bound to it. -/
theorem boundTo_printIfindex (hnames : ∀ entry ∈ identities.entries, isDecimal entry.1 = false)
    (hkeyed : ∀ entry ∈ identities.entries, entry.1 = entry.2.name) {index : ℕ}
    (hsmall : index ≤ maxIfindex) :
    BoundTo identities (.string (printIfindex identities index)) index := by
  unfold printIfindex
  cases hfound : identities.entries.find? fun entry => entry.2.ifindex == index with
  | none =>
    refine .decimal (isDecimal_toString index) (u32FromStrRadix_toString ?_)
    unfold maxIfindex at hsmall
    omega
  | some entry =>
    have hmem := List.mem_of_find?_eq_some hfound
    have hindex : entry.2.ifindex = index := by simpa using List.find?_some hfound
    dsimp only
    rw [← hindex, ← hkeyed entry hmem]
    exact .device (hnames entry hmem) (OrderedMap.find?_eq_some_iff.2 hmem)

theorem resolveExpression_print
    (hnames : ∀ entry ∈ identities.entries, isDecimal entry.1 = false)
    (hkeyed : ∀ entry ∈ identities.entries, entry.1 = entry.2.name)
    (hoperand : isIfindexMatch expression = true → ∃ index ≤ maxIfindex,
      matchOperand.get? expression = some (.number index)) :
    resolveExpression identities (printExpression identities expression) = .ok expression := by
  unfold printExpression
  cases hmatch : isIfindexMatch expression with
  | false => simp [resolveExpression, hmatch]
  | true =>
    obtain ⟨index, hsmall, hindex⟩ := hoperand hmatch
    rw [if_pos rfl, Place.map_eq hindex, resolveExpression_eq_ok]
    refine Or.inr ⟨?_, .string (printIfindex identities index), index, ?_,
      boundTo_printIfindex hnames hkeyed hsmall, hsmall, ?_⟩
    · rw [(isIfindexMatch_put hindex _).1, hmatch]
    · exact matchOperand.get?_put _ hindex
    · rw [matchOperand.put_put _ _ hindex, matchOperand.put_get? hindex]

end Expression

/-! ## Documents -/

section Documents

variable {ε : Type} {f : JsonValue → Except ε JsonValue} {g : JsonValue → JsonValue}
  {document resolved : JsonValue}

theorem mem_expressionsOf {expression : JsonValue} : expression ∈ expressionsOf document ↔
    ∃ objects object expressions, nftObjects.get? document = some objects ∧ object ∈ objects ∧
      ruleExpressions.get? object = some expressions ∧ expression ∈ expressions := by
  unfold expressionsOf
  cases nftObjects.get? document with
  | none => simp
  | some objects =>
    simp only [Option.getD_some, List.mem_flatMap, Option.some.injEq]
    constructor
    · rintro ⟨object, hobject, hexpression⟩
      cases hrule : ruleExpressions.get? object with
      | none => simp [hrule] at hexpression
      | some expressions =>
        rw [hrule, Option.getD_some] at hexpression
        exact ⟨objects, object, expressions, rfl, hobject, hrule, hexpression⟩
    · rintro ⟨_, object, expressions, rfl, hobject, hrule, hexpression⟩
      exact ⟨object, hobject, by rwa [hrule, Option.getD_some]⟩

theorem overExpressions_map
    (h : ∀ expression ∈ expressionsOf document, f (g expression) = .ok expression) :
    overExpressions f (mapExpressions g document) = .ok document := by
  refine Place.mapM_map fun objects hobjects => mapM_map fun object hobject => ?_
  refine Place.mapM_map fun expressions hrule => mapM_map fun expression hexpression => ?_
  exact h expression (mem_expressionsOf.2 ⟨objects, object, expressions, hobjects, hobject, hrule,
    hexpression⟩)

theorem mapExpressions_of_overExpressions (hresolved : overExpressions f document = .ok resolved)
    (h : ∀ expression after, f expression = .ok after → g after = g expression) :
    mapExpressions g resolved = mapExpressions g document := by
  refine Place.map_of_mapM hresolved fun objects after _ hobjects =>
    map_of_mapM hobjects fun object _ after hobject => ?_
  refine Place.map_of_mapM hobject fun expressions after _ hexpressions =>
    map_of_mapM hexpressions fun expression _ after hexpression => ?_
  exact h expression after hexpression

theorem overExpressions_of_overExpressions
    (hresolved : overExpressions f document = .ok resolved)
    (h : ∀ expression after, f expression = .ok after → f after = .ok after) :
    overExpressions f resolved = .ok resolved := by
  refine Place.mapM_of_mapM hresolved fun objects after _ hobjects =>
    mapM_of_mapM hobjects fun object _ after hobject => ?_
  refine Place.mapM_of_mapM hobject fun expressions after _ hexpressions =>
    mapM_of_mapM hexpressions fun expression _ after hexpression => ?_
  exact h expression after hexpression

/-- It works for a document exactly when it works for every expression. -/
theorem overExpressions_ok : (∃ resolved, overExpressions f document = .ok resolved) ↔
    ∀ expression ∈ expressionsOf document, ∃ after, f expression = .ok after := by
  constructor
  · rintro ⟨resolved, hresolved⟩ expression hexpression
    obtain ⟨objects, object, expressions, hobjects, hobject, hrule, hmem⟩ :=
      mem_expressionsOf.1 hexpression
    obtain ⟨_, hdone⟩ := Place.ok_of_mapM hresolved hobjects
    obtain ⟨_, hdone⟩ := ok_of_mapM hdone hobject
    obtain ⟨_, hdone⟩ := Place.ok_of_mapM hdone hrule
    exact ok_of_mapM hdone hmem
  · intro h
    refine Place.ok_mapM fun objects hobjects => ok_mapM fun object hobject => ?_
    refine Place.ok_mapM fun expressions hrule => ok_mapM fun expression hexpression => ?_
    exact h expression (mem_expressionsOf.2 ⟨objects, object, expressions, hobjects, hobject,
      hrule, hexpression⟩)

end Documents

/-! ## Resolution -/

section Resolution

variable {identities : OrderedMap String InterfaceIdentity} {document resolved : JsonValue}

theorem resolveDumpIfindices_eq_ok :
    resolveDumpIfindices document identities = .ok resolved ↔
      (∀ entry ∈ identities.entries, isDecimal entry.1 = false) ∧
      (nftObjects.get? document).isSome = true ∧
      overExpressions (resolveExpression identities) document = .ok resolved := by
  simp only [resolveDumpIfindices, check_eq_ok, failIf_eq_ok, not_exists, not_and,
    Bool.not_eq_true, Option.isNone_eq_false_iff]

/-- A document of nft all of whose interface indexes are small. -/
structure SmallIfindices (document : JsonValue) : Prop where
  objects : (nftObjects.get? document).isSome = true
  small : ∀ expression ∈ expressionsOf document, isIfindexMatch expression = true →
    ∃ index ≤ maxIfindex, matchOperand.get? expression = some (.number index)

/-- The devices as the snapshot of the links has them. -/
structure LinkBindings (identities : OrderedMap String InterfaceIdentity) : Prop where
  keyed : ∀ entry ∈ identities.entries, entry.1 = entry.2.name
  distinct : (identities.entries.map fun entry => entry.2.ifindex).Nodup
  named : ∀ entry ∈ identities.entries, isDecimal entry.1 = false

/-- Resolution takes back what nft prints, changes interface indexes only, changes nothing the
second time, and works only where every operand is bound. -/
structure IfindicesResolved (identities : OrderedMap String InterfaceIdentity)
    (document : JsonValue) : Prop where
  inverts : LinkBindings identities → SmallIfindices document →
    resolveDumpIfindices (mapExpressions (printExpression identities) document) identities =
      .ok document
  frames : ∀ resolved, resolveDumpIfindices document identities = .ok resolved →
    mapExpressions withoutIfindex resolved = mapExpressions withoutIfindex document
  idempotent : ∀ resolved, resolveDumpIfindices document identities = .ok resolved →
    resolveDumpIfindices resolved identities = .ok resolved
  bound : (∃ resolved, resolveDumpIfindices document identities = .ok resolved) ↔
    (∀ entry ∈ identities.entries, isDecimal entry.1 = false) ∧
      (nftObjects.get? document).isSome = true ∧
      ∀ expression ∈ expressionsOf document, isIfindexMatch expression = true →
        ∃ operand index, matchOperand.get? expression = some operand ∧
          BoundTo identities operand index ∧ index ≤ maxIfindex

/-- **Interface indexes are resolved exactly.** -/
theorem ifindices_resolved (identities : OrderedMap String InterfaceIdentity)
    (document : JsonValue) : IfindicesResolved identities document where
  inverts hlinks hsmall := by
    refine resolveDumpIfindices_eq_ok.2 ⟨hlinks.named, ?_, overExpressions_map fun expression he =>
      resolveExpression_print hlinks.named hlinks.keyed (hsmall.small expression he)⟩
    obtain ⟨objects, hobjects⟩ := Option.isSome_iff_exists.1 hsmall.objects
    unfold mapExpressions
    rw [Place.map_eq hobjects, nftObjects.get?_put _ hobjects]
    rfl
  frames resolved hresolved :=
    mapExpressions_of_overExpressions (resolveDumpIfindices_eq_ok.1 hresolved).2.2
      fun _ _ hdone => withoutIfindex_resolved hdone
  idempotent resolved hresolved := by
    obtain ⟨hnames, hobjects, hdone⟩ := resolveDumpIfindices_eq_ok.1 hresolved
    refine resolveDumpIfindices_eq_ok.2 ⟨hnames, ?_, overExpressions_of_overExpressions hdone
      fun _ _ hexpression => resolveExpression_resolved hexpression⟩
    rcases Place.mapM_eq_ok.1 hdone with ⟨-, rfl⟩ | ⟨objects, after, hsome, -, rfl⟩
    · exact hobjects
    · rw [nftObjects.get?_put _ hsome]
      rfl
  bound := by
    constructor
    · rintro ⟨resolved, hresolved⟩
      obtain ⟨hnames, hobjects, hdone⟩ := resolveDumpIfindices_eq_ok.1 hresolved
      refine ⟨hnames, hobjects, fun expression he hmatch => ?_⟩
      obtain ⟨after, hafter⟩ := overExpressions_ok.1 ⟨resolved, hdone⟩ expression he
      rcases resolveExpression_eq_ok.1 hafter with ⟨hother, -⟩ | ⟨-, operand, index, hoperand,
        hbound, hsmall, -⟩
      · rw [hmatch] at hother
        cases hother
      · exact ⟨operand, index, hoperand, hbound, hsmall⟩
    · rintro ⟨hnames, hobjects, hbound⟩
      have hdone : ∃ resolved, overExpressions (resolveExpression identities) document =
          .ok resolved := by
        refine overExpressions_ok.2 fun expression he => ?_
        cases hmatch : isIfindexMatch expression with
        | false => exact ⟨expression, resolveExpression_eq_ok.2 (Or.inl ⟨hmatch, rfl⟩)⟩
        | true =>
          obtain ⟨operand, index, hoperand, hindex, hsmall⟩ := hbound expression he hmatch
          exact ⟨_, resolveExpression_eq_ok.2
            (Or.inr ⟨hmatch, operand, index, hoperand, hindex, hsmall, rfl⟩)⟩
      obtain ⟨resolved, hresolved⟩ := hdone
      exact ⟨resolved, resolveDumpIfindices_eq_ok.2 ⟨hnames, hobjects, hresolved⟩⟩

/-- A rule that matches a device by its index. -/
def indexRule (key : String) (operand : JsonValue) : JsonValue :=
  .object [("rule", .object [("expr", .array [.object [("match", .object [("op", .string "=="),
    ("left", .object [("meta", .object [("key", .string key)])]), ("right", operand)])]])])]

/-- A name of a device is resolved, its name in another match is left alone. -/
example : resolveDumpIfindices (.object [("nftables", .array [.object [("chain", .null)],
      indexRule "oif" (.string "wg0"), indexRule "oifname" (.string "wg0"),
      indexRule "iif" (.string "7")])])
    (.ofList [("wg0", ⟨3, "wg0", "wireguard", none⟩)]) =
    .ok (.object [("nftables", .array [.object [("chain", .null)],
      indexRule "oif" (.number 3), indexRule "oifname" (.string "wg0"),
      indexRule "iif" (.number 7)])]) := rfl

end Resolution

end RouteLane
