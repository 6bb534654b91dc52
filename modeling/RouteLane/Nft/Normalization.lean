import RouteLane.Nft.Encoding

/-!
# The normal form of a document

nft prints one table in many ways: with handles, with the counts of the moment, with a header
of its own, and with the rules of a chain behind it or behind all chains.  The helper compares
normal forms, which forget exactly that.
-/

namespace RouteLane

open Nft

namespace JsonValue

/-- A counter that has counted. -/
def isReading (value : JsonValue) : Bool :=
  (value.get "packets").isSome || (value.get "bytes").isSome

def isRule (object : JsonValue) : Bool := (object.get "rule").isSome

/-- The rules of a list of objects behind everything else, in the order they are in. -/
def rulesLast : JsonValue → JsonValue
  | .array items => .array (items.filter (fun o => !o.isRule) ++ items.filter isRule)
  | value => value

/-- What a field of nft's bookkeeping is called. -/
def isBookkeeping (key : String) : Bool := key == "metainfo" || key == "handle"

mutual
/-- `normalize_nft_document`.  What is under `nftables` is put in order once it is in normal
form itself; the code does it before, and finds the same rules. -/
def normalizeNftDocument : JsonValue → JsonValue
  | .object fields => .object (normalizeFields fields)
  | .array items => .array (normalizeItems items)
  | .null => .null
  | .bool b => .bool b
  | .number n => .number n
  | .otherNumber text => .otherNumber text
  | .string s => .string s

def normalizeItems : List JsonValue → List JsonValue
  | [] => []
  | value :: rest => value.normalizeNftDocument :: normalizeItems rest

def normalizeFields : List (String × JsonValue) → List (String × JsonValue)
  | [] => []
  | (key, value) :: rest =>
    if isBookkeeping key then normalizeFields rest
    else if key = "nftables" then (key, rulesLast value.normalizeNftDocument) :: normalizeFields rest
    else if key = "counter" ∧ value.isReading = true then (key, .null) :: normalizeFields rest
    else (key, value.normalizeNftDocument) :: normalizeFields rest
end

/-- `nft_document_fingerprint`, the digest being that of the canonical text of a value. -/
def nftDocumentFingerprint (digest : JsonValue → String) (document : JsonValue) : String :=
  digest document.normalizeNftDocument

/-! ## Rules and fields -/

theorem normalizeItems_eq_map (items : List JsonValue) :
    normalizeItems items = items.map normalizeNftDocument := by
  induction items with
  | nil => rfl
  | cons value rest ih => rw [normalizeItems, ih, List.map_cons]

/-- Normal forms have the fields of the value, but for nft's bookkeeping. -/
theorem isSome_lookup_normalizeFields {key : String} (hkey : isBookkeeping key = false)
    (fields : List (String × JsonValue)) :
    ((normalizeFields fields).lookup key).isSome = (fields.lookup key).isSome := by
  induction fields with
  | nil => rfl
  | cons field rest ih =>
    obtain ⟨k, value⟩ := field
    rw [normalizeFields]
    by_cases hk : key = k
    · subst hk
      rw [if_neg (by simp [hkey]), List.lookup_cons_self]
      split
      · rw [List.lookup_cons_self]
        rfl
      · split <;> rw [List.lookup_cons_self] <;> rfl
    · have hne : (key == k) = false := beq_false_of_ne hk
      rw [List.lookup_cons, hne, ← ih]
      split
      · rfl
      · split
        · rw [List.lookup_cons, hne]
        · split <;> rw [List.lookup_cons, hne]

theorem isSome_get_normalize {key : String} (hkey : isBookkeeping key = false)
    (value : JsonValue) :
    (value.normalizeNftDocument.get key).isSome = (value.get key).isSome := by
  cases value with
  | object fields => exact isSome_lookup_normalizeFields hkey fields
  | _ => rfl

theorem isRule_normalize (value : JsonValue) : value.normalizeNftDocument.isRule = value.isRule :=
  isSome_get_normalize (by decide) value

theorem isReading_normalize (value : JsonValue) :
    value.normalizeNftDocument.isReading = value.isReading := by
  unfold isReading
  rw [isSome_get_normalize (by decide), isSome_get_normalize (by decide)]

theorem filter_normalizeItems (p : JsonValue → Bool)
    (hp : ∀ value, p value.normalizeNftDocument = p value) (items : List JsonValue) :
    (normalizeItems items).filter p = normalizeItems (items.filter p) := by
  rw [normalizeItems_eq_map, normalizeItems_eq_map, List.filter_map]
  congr 1
  exact List.filter_congr fun value _ => hp value

/-- It makes no difference whether the rules are moved before or after. -/
theorem rulesLast_normalize (value : JsonValue) :
    rulesLast value.normalizeNftDocument = (rulesLast value).normalizeNftDocument := by
  cases value with
  | array items =>
    rw [normalizeNftDocument, rulesLast, rulesLast, normalizeNftDocument,
      filter_normalizeItems _ (fun value => by rw [isRule_normalize]),
      filter_normalizeItems _ isRule_normalize, normalizeItems_eq_map, normalizeItems_eq_map,
      normalizeItems_eq_map, List.map_append]
  | _ => rfl

theorem rulesLast_rulesLast (value : JsonValue) : rulesLast (rulesLast value) = rulesLast value := by
  cases value with
  | array items => simp [rulesLast, List.filter_append, List.filter_filter]
  | _ => rfl

/-! ## Normal forms are their own -/

theorem normalizeItems_normalizeItems {items : List JsonValue}
    (h : ∀ value ∈ items, value.normalizeNftDocument.normalizeNftDocument =
      value.normalizeNftDocument) :
    normalizeItems (normalizeItems items) = normalizeItems items := by
  rw [normalizeItems_eq_map, normalizeItems_eq_map, List.map_map]
  exact List.map_congr_left h

theorem normalizeFields_normalizeFields {fields : List (String × JsonValue)}
    (h : ∀ field ∈ fields, field.2.normalizeNftDocument.normalizeNftDocument =
      field.2.normalizeNftDocument) :
    normalizeFields (normalizeFields fields) = normalizeFields fields := by
  induction fields with
  | nil => rfl
  | cons field rest ih =>
    obtain ⟨key, value⟩ := field
    have hvalue := h (key, value) List.mem_cons_self
    have hrest := ih fun other hother => h other (List.mem_cons_of_mem _ hother)
    rw [normalizeFields]
    by_cases hkey : isBookkeeping key = true
    · rw [if_pos hkey, hrest]
    · rw [if_neg hkey]
      by_cases hobjects : key = "nftables"
      · rw [if_pos hobjects, normalizeFields, if_neg hkey, if_pos hobjects, hrest,
          ← rulesLast_normalize, rulesLast_rulesLast, hvalue]
      · rw [if_neg hobjects]
        by_cases hcounter : key = "counter" ∧ value.isReading = true
        · rw [if_pos hcounter, normalizeFields, if_neg hkey, if_neg hobjects, hrest]
          simp [isReading, get, asObject, normalizeNftDocument]
        · rw [if_neg hcounter, normalizeFields, if_neg hkey, if_neg hobjects, isReading_normalize,
            if_neg hcounter, hrest, hvalue]

/-- `normalize_nft_document` changes nothing the second time. -/
theorem normalize_normalize : ∀ value : JsonValue,
    value.normalizeNftDocument.normalizeNftDocument = value.normalizeNftDocument := by
  refine JsonValue.rec
    (motive_1 := fun value => value.normalizeNftDocument.normalizeNftDocument =
      value.normalizeNftDocument)
    (motive_2 := fun items => ∀ value ∈ items, value.normalizeNftDocument.normalizeNftDocument =
      value.normalizeNftDocument)
    (motive_3 := fun fields => ∀ field ∈ fields, field.2.normalizeNftDocument.normalizeNftDocument =
      field.2.normalizeNftDocument)
    (motive_4 := fun field => field.2.normalizeNftDocument.normalizeNftDocument =
      field.2.normalizeNftDocument)
    rfl (fun _ => rfl) (fun _ => rfl) (fun _ => rfl) (fun _ => rfl) ?array ?object ?nil ?cons
    ?fnil ?fcons ?field
  case array =>
    intro items ih
    rw [normalizeNftDocument, normalizeNftDocument, normalizeItems_normalizeItems ih]
  case object =>
    intro fields ih
    rw [normalizeNftDocument, normalizeNftDocument, normalizeFields_normalizeFields ih]
  case nil =>
    intro value hvalue
    cases hvalue
  case cons =>
    intro first rest hfirst hrest
    exact List.forall_mem_cons.2 ⟨hfirst, hrest⟩
  case fnil =>
    intro field hfield
    cases hfield
  case fcons =>
    intro first rest hfirst hrest
    exact List.forall_mem_cons.2 ⟨hfirst, hrest⟩
  case field =>
    intro key value ih
    exact ih

/-! ## Two prints of one document -/

mutual
/-- Two prints of one value: they differ in handles, in the counts of counters, in the header
and in where rules stand among the other objects. -/
inductive Reprinted : JsonValue → JsonValue → Prop
  | same (value : JsonValue) : Reprinted value value
  | array {items items' : List JsonValue} : ReprintedItems items items' →
      Reprinted (.array items) (.array items')
  | object {fields fields' : List (String × JsonValue)} : ReprintedFields fields fields' →
      Reprinted (.object fields) (.object fields')

inductive ReprintedItems : List JsonValue → List JsonValue → Prop
  | nil : ReprintedItems [] []
  | cons {value value' : JsonValue} {rest rest' : List JsonValue} : Reprinted value value' →
      ReprintedItems rest rest' → ReprintedItems (value :: rest) (value' :: rest')

inductive ReprintedFields : List (String × JsonValue) → List (String × JsonValue) → Prop
  | nil : ReprintedFields [] []
  | cons (key : String) {value value' : JsonValue} {rest rest' : List (String × JsonValue)} :
      Reprinted value value' → ReprintedFields rest rest' →
      ReprintedFields ((key, value) :: rest) ((key, value') :: rest')
  /-- A handle, or a header, that only the first print has. -/
  | left {key : String} (value : JsonValue) {rest rest' : List (String × JsonValue)} :
      isBookkeeping key = true → ReprintedFields rest rest' →
      ReprintedFields ((key, value) :: rest) rest'
  | right {key : String} (value : JsonValue) {rest rest' : List (String × JsonValue)} :
      isBookkeeping key = true → ReprintedFields rest rest' →
      ReprintedFields rest ((key, value) :: rest')
  /-- A counter, which a batch leaves open. -/
  | counter {value value' : JsonValue} {rest rest' : List (String × JsonValue)} :
      (value = .null ∨ value.isReading = true) → (value' = .null ∨ value'.isReading = true) →
      ReprintedFields rest rest' →
      ReprintedFields (("counter", value) :: rest) (("counter", value') :: rest')
  /-- The rules anywhere among the other objects, both in the order they are in. -/
  | placed {items items' : List JsonValue} {rest rest' : List (String × JsonValue)} :
      ReprintedItems (items.filter fun o => !o.isRule) (items'.filter fun o => !o.isRule) →
      ReprintedItems (items.filter isRule) (items'.filter isRule) →
      ReprintedFields rest rest' →
      ReprintedFields (("nftables", .array items) :: rest) (("nftables", .array items') :: rest')
end

theorem rulesLast_normalizeItems (items : List JsonValue) :
    rulesLast (.array (normalizeItems items)) =
      .array (normalizeItems (items.filter fun o => !o.isRule) ++
        normalizeItems (items.filter isRule)) := by
  rw [rulesLast, filter_normalizeItems _ (fun value => by rw [isRule_normalize]),
    filter_normalizeItems _ isRule_normalize]

theorem normalizeFields_nftables (value : JsonValue) (rest : List (String × JsonValue)) :
    normalizeFields (("nftables", value) :: rest) =
      ("nftables", rulesLast value.normalizeNftDocument) :: normalizeFields rest := by
  rw [normalizeFields, if_neg (by decide), if_pos rfl]

theorem normalizeFields_counter {value : JsonValue} (h : value = .null ∨ value.isReading = true)
    (rest : List (String × JsonValue)) :
    normalizeFields (("counter", value) :: rest) = ("counter", .null) :: normalizeFields rest := by
  rw [normalizeFields, if_neg (by decide), if_neg (by decide)]
  rcases h with rfl | h
  · split <;> rfl
  · rw [if_pos ⟨rfl, h⟩]

theorem normalizeFields_cons_congr (key : String) {value value' : JsonValue}
    {rest rest' : List (String × JsonValue)}
    (h : value.normalizeNftDocument = value'.normalizeNftDocument)
    (hrest : normalizeFields rest = normalizeFields rest') :
    normalizeFields ((key, value) :: rest) = normalizeFields ((key, value') :: rest') := by
  have hreading : value.isReading = value'.isReading := by
    rw [← isReading_normalize, h, isReading_normalize]
  rw [normalizeFields, normalizeFields, h, hreading, hrest]

mutual
/-- Two prints of one value have one normal form. -/
theorem Reprinted.normalize_eq {value value' : JsonValue} :
    Reprinted value value' → value.normalizeNftDocument = value'.normalizeNftDocument
  | .same _ => rfl
  | .array h => by rw [normalizeNftDocument, normalizeNftDocument, h.normalize_eq]
  | .object h => by rw [normalizeNftDocument, normalizeNftDocument, h.normalize_eq]

theorem ReprintedItems.normalize_eq {items items' : List JsonValue} :
    ReprintedItems items items' → normalizeItems items = normalizeItems items'
  | .nil => rfl
  | .cons h hrest => by rw [normalizeItems, normalizeItems, h.normalize_eq, hrest.normalize_eq]

theorem ReprintedFields.normalize_eq {fields fields' : List (String × JsonValue)} :
    ReprintedFields fields fields' → normalizeFields fields = normalizeFields fields'
  | .nil => rfl
  | .cons key h hrest => normalizeFields_cons_congr key h.normalize_eq hrest.normalize_eq
  | .left _ hkey hrest => by rw [normalizeFields, if_pos hkey, hrest.normalize_eq]
  | .right _ hkey hrest => by rw [normalizeFields, if_pos hkey, hrest.normalize_eq]
  | .counter h h' hrest => by
    rw [normalizeFields_counter h, normalizeFields_counter h', hrest.normalize_eq]
  | .placed hobjects hrules hrest => by
    rw [normalizeFields_nftables, normalizeFields_nftables, normalizeNftDocument,
      normalizeNftDocument, rulesLast_normalizeItems, rulesLast_normalizeItems,
      hobjects.normalize_eq, hrules.normalize_eq, hrest.normalize_eq]
end

theorem reprintedItems_normalize {items : List JsonValue}
    (h : ∀ value ∈ items, Reprinted value value.normalizeNftDocument) :
    ReprintedItems items (normalizeItems items) := by
  induction items with
  | nil => exact .nil
  | cons value rest ih =>
    exact .cons (h value List.mem_cons_self)
      (ih fun other hother => h other (List.mem_cons_of_mem _ hother))

/-- What is under `nftables` and its normal form. -/
theorem reprintedFields_placed {value : JsonValue} {rest rest' : List (String × JsonValue)}
    (h : Reprinted value value.normalizeNftDocument)
    (hitems : ∀ items, value = .array items →
      ∀ object ∈ items, Reprinted object object.normalizeNftDocument)
    (hrest : ReprintedFields rest rest') :
    ReprintedFields (("nftables", value) :: rest)
      (("nftables", rulesLast value.normalizeNftDocument) :: rest') := by
  cases value with
  | array items =>
    have hall := hitems items rfl
    rw [normalizeNftDocument, rulesLast_normalizeItems]
    refine .placed ?_ ?_ hrest
    · have hobjects : (normalizeItems (items.filter fun o => !o.isRule) ++
          normalizeItems (items.filter isRule)).filter (fun o => !o.isRule) =
          normalizeItems (items.filter fun o => !o.isRule) := by
        rw [List.filter_append, filter_normalizeItems _ (fun value => by rw [isRule_normalize]),
          filter_normalizeItems _ (fun value => by rw [isRule_normalize])]
        simp [List.filter_filter, normalizeItems]
      rw [hobjects]
      exact reprintedItems_normalize fun object hobject => hall object (List.mem_of_mem_filter hobject)
    · have hrules : (normalizeItems (items.filter fun o => !o.isRule) ++
          normalizeItems (items.filter isRule)).filter isRule =
          normalizeItems (items.filter isRule) := by
        rw [List.filter_append, filter_normalizeItems _ isRule_normalize,
          filter_normalizeItems _ isRule_normalize]
        simp [List.filter_filter, normalizeItems]
      rw [hrules]
      exact reprintedItems_normalize fun object hobject => hall object (List.mem_of_mem_filter hobject)
  | object fields => exact .cons _ h hrest
  | null | bool _ | number _ | otherNumber _ | string _ => exact .cons _ (.same _) hrest

theorem reprintedFields_normalize {fields : List (String × JsonValue)}
    (h : ∀ field ∈ fields, Reprinted field.2 field.2.normalizeNftDocument ∧
      ∀ items, field.2 = .array items →
        ∀ object ∈ items, Reprinted object object.normalizeNftDocument) :
    ReprintedFields fields (normalizeFields fields) := by
  induction fields with
  | nil => exact .nil
  | cons field rest ih =>
    obtain ⟨key, value⟩ := field
    obtain ⟨hvalue, hitems⟩ := h (key, value) List.mem_cons_self
    have hrest := ih fun other hother => h other (List.mem_cons_of_mem _ hother)
    by_cases hobjects : key = "nftables"
    · subst hobjects
      rw [normalizeFields_nftables]
      exact reprintedFields_placed hvalue hitems hrest
    · rw [normalizeFields, if_neg hobjects]
      by_cases hkey : isBookkeeping key = true
      · rw [if_pos hkey]
        exact .left value hkey hrest
      · rw [if_neg hkey]
        by_cases hcounter : key = "counter" ∧ value.isReading = true
        · obtain ⟨rfl, hreading⟩ := hcounter
          rw [if_pos ⟨rfl, hreading⟩]
          exact .counter (Or.inr hreading) (Or.inl rfl) hrest
        · rw [if_neg hcounter]
          exact .cons key hvalue hrest

/-- A normal form is a print of its value. -/
theorem reprinted_normalize (value : JsonValue) : Reprinted value value.normalizeNftDocument := by
  refine And.left (JsonValue.rec
    (motive_1 := fun value => Reprinted value value.normalizeNftDocument ∧
      ∀ items, value = .array items →
        ∀ object ∈ items, Reprinted object object.normalizeNftDocument)
    (motive_2 := fun items => ∀ value ∈ items, Reprinted value value.normalizeNftDocument)
    (motive_3 := fun fields => ∀ field ∈ fields,
      Reprinted field.2 field.2.normalizeNftDocument ∧
        ∀ items, field.2 = .array items →
          ∀ object ∈ items, Reprinted object object.normalizeNftDocument)
    (motive_4 := fun field => Reprinted field.2 field.2.normalizeNftDocument ∧
      ∀ items, field.2 = .array items →
        ∀ object ∈ items, Reprinted object object.normalizeNftDocument)
    ⟨.same _, nofun⟩ (fun _ => ⟨.same _, nofun⟩) (fun _ => ⟨.same _, nofun⟩)
    (fun _ => ⟨.same _, nofun⟩) (fun _ => ⟨.same _, nofun⟩) ?array ?object ?nil ?cons ?fnil ?fcons
    ?field value)
  case array =>
    intro items ih
    rw [normalizeNftDocument]
    exact ⟨.array (reprintedItems_normalize ih), fun _ heq => JsonValue.array.inj heq ▸ ih⟩
  case object =>
    intro fields ih
    rw [normalizeNftDocument]
    exact ⟨.object (reprintedFields_normalize ih), nofun⟩
  case nil =>
    intro value hvalue
    cases hvalue
  case cons =>
    intro first rest hfirst hrest
    exact List.forall_mem_cons.2 ⟨hfirst.1, hrest⟩
  case fnil =>
    intro field hfield
    cases hfield
  case fcons =>
    intro first rest hfirst hrest
    exact List.forall_mem_cons.2 ⟨hfirst, hrest⟩
  case field =>
    intro key value ih
    exact ih

/-- Normal forms forget what differs between prints of one value, and nothing else. -/
theorem normalize_eq_iff {value value' : JsonValue} :
    value.normalizeNftDocument = value'.normalizeNftDocument ↔
      ∃ print, Reprinted value print ∧ Reprinted value' print := by
  constructor
  · intro h
    exact ⟨_, reprinted_normalize value, h ▸ reprinted_normalize value'⟩
  · rintro ⟨print, hleft, hright⟩
    rw [hleft.normalize_eq, hright.normalize_eq]

end JsonValue

/-! ## The helper's documents -/

section Rendered

variable (t : AddressText)

/-- Values without a field of their own are their normal form. -/
theorem normalize_datum (d : Datum) : (d.json t).normalizeNftDocument = d.json t := by
  cases d <;> rfl

theorem normalize_operand (o : Operand) : o.json.normalizeNftDocument = o.json := by
  rcases o with (_ | _ | _ | _ | _ | _) | (_ | _ | _ | _) | (_ | _ | _ | _ | _) | _ | _ <;> rfl

theorem normalize_right (r : Right) : (r.json t).normalizeNftDocument = r.json t := by
  cases r with
  | one d => exact normalize_datum t d
  | set ds =>
    have hitems : JsonValue.normalizeItems (ds.map (Datum.json t)) = ds.map (Datum.json t) := by
      rw [JsonValue.normalizeItems_eq_map, List.map_map]
      exact List.map_congr_left fun d _ => normalize_datum t d
    show single "set" (JsonValue.normalizeNftDocument (.array _)) = _
    rw [JsonValue.normalizeNftDocument, hitems]
    rfl
  | range low high => rfl
  | net n => rfl

theorem normalize_expr (e : Expr) :
    (e.json t).normalizeNftDocument = e.normalize.json t := by
  cases e with
  | «match» left op right =>
    show single "match" (.object [("left", left.json.normalizeNftDocument), ("op", .string op.text),
      ("right", (right.json t).normalizeNftDocument)]) = _
    rw [normalize_operand, normalize_right]
    rfl
  | mangle key value =>
    have hvalue : value.json.normalizeNftDocument = value.json := by
      cases value with
      | num n => rfl
      | operand o => exact normalize_operand o
    show single "mangle" (.object [("key", key.json.normalizeNftDocument),
      ("value", value.json.normalizeNftDocument)]) = _
    rw [normalize_operand, hvalue]
    rfl
  | counter values => cases values <;> rfl
  | ret | goto _ | reject _ | drop | masquerade => rfl

theorem normalize_object (o : Object) :
    (o.json t).normalizeNftDocument = o.normalize.json t := by
  cases o with
  | empty | metainfo => rfl
  | table handle => cases handle <;> rfl
  | chain name base handle =>
    cases handle with
    | none =>
      cases base with
      | none => rfl
      | some base => obtain ⟨kind, hook, _ | _⟩ := base <;> rfl
    | some n =>
      cases base with
      | none => rfl
      | some base => obtain ⟨kind, hook, _ | _⟩ := base <;> rfl
  | rule owner expr handle =>
    have hexpr : JsonValue.normalizeItems (expr.map (Expr.json t)) =
        (expr.map Expr.normalize).map (Expr.json t) := by
      rw [JsonValue.normalizeItems_eq_map, List.map_map, List.map_map]
      exact List.map_congr_left fun e _ => normalize_expr t e
    have hrule : (Object.rule owner expr handle |>.json t).normalizeNftDocument =
        single "rule" (.object [("chain", .string owner.text),
          ("expr", .array (JsonValue.normalizeItems (expr.map (Expr.json t)))),
          ("family", .string "inet"), ("table", .string "routelane")]) := by
      cases handle <;> rfl
    rw [hrule, hexpr]
    rfl

theorem isRule_json (o : Object) : (o.json t).isRule = o.isRule := by
  cases o <;> rfl

/-- The helper's own normal form of a document is that of its JSON. -/
theorem normalize_documentJson (document : Document) :
    (documentJson t document).normalizeNftDocument =
      documentJson t (Nft.normalizeNftDocument document) := by
  have hitems : ∀ p : Object → Bool, JsonValue.normalizeItems ((document.filter p).map
      (Object.json t)) = ((document.filter p).map Object.normalize).map (Object.json t) := by
    intro p
    rw [JsonValue.normalizeItems_eq_map, List.map_map, List.map_map]
    exact List.map_congr_left fun o _ => normalize_object t o
  have hfilter : ∀ (p : JsonValue → Bool) (q : Object → Bool), (∀ o : Object, p (o.json t) = q o) →
      (document.map (Object.json t)).filter p = (document.filter q).map (Object.json t) := by
    intro p q h
    rw [List.filter_map]
    congr 1
    exact List.filter_congr fun o _ => h o
  unfold documentJson single Nft.normalizeNftDocument
  rw [JsonValue.normalizeNftDocument, JsonValue.normalizeFields_nftables,
    JsonValue.normalizeNftDocument, JsonValue.rulesLast_normalizeItems,
    hfilter _ (fun o => !o.isRule) (fun o => by rw [isRule_json]),
    hfilter _ Object.isRule (isRule_json t), hitems, hitems, List.map_append, List.map_append]
  rfl

end Rendered

end RouteLane
