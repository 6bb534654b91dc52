import RouteLane.Kernel.CrashSafety
import RouteLane.Nft.Normalization

/-!
# The seal of a document

One chain of every document carries in its name a digest of all the others, so that a table
of RouteLane's can be told from one that somebody changed.  The guard comes and goes, and the
seal does not cover it.
-/

namespace RouteLane

open Nft

/-- The digests the code takes: of a policy and of a plan hash, as before, and of a value of
`serde_json` where it seals a document or takes its fingerprint. -/
structure JsonDigests where
  contentHash : PolicyContent → PlanHash
  markerDigest : PlanHash → String
  valueDigest : JsonValue → String

/-- The digests of documents are those of their JSON. -/
def JsonDigests.blake3 (digests : JsonDigests) (t : AddressText) : Blake3 where
  contentHash := digests.contentHash
  markerDigest := digests.markerDigest
  documentDigest document := digests.valueDigest (documentJson t document)

namespace JsonValue

/-- The text under `object["chain"]["name"]`. -/
def chainText? (object : JsonValue) : Option String := ((object.index "chain").index "name").asStr

/-- The text under `object["rule"]["chain"]`. -/
def ruleText? (object : JsonValue) : Option String := ((object.index "rule").index "chain").asStr

/-- Whether a seal covers an object. -/
def isSealed (object : JsonValue) : Bool :=
  !object.asObject.any List.isEmpty && (object.get "metainfo").isNone &&
    decide (object.chainText? ≠ some "guard") && decide (object.ruleText? ≠ some "guard") &&
    !object.chainText?.any fun name => startsWith name policySealPrefix

/-- `content_seal`, of a document with these objects. -/
def contentSeal (digest : JsonValue → String) (objects : List JsonValue) : String :=
  digest (single "nftables" (.array (objects.filter isSealed))).normalizeNftDocument

/-- The objects of a document. -/
def objects? (document : JsonValue) : Option (List JsonValue) :=
  (document.get "nftables").bind asArray

/-- `has_valid_policy_seal`. -/
def hasValidPolicySeal (digest : JsonValue → String) (document : JsonValue) : Bool :=
  match document.objects? with
  | none => false
  | some objects =>
    match (objects.filterMap chainText?).filterMap (stripPrefix policySealPrefix) with
    | [sealed] => sealed == contentSeal digest objects
    | _ => false

end JsonValue

/-! ## Texts of names -/

theorem text_eq_guard {name : ChainName} : name.text = "guard" ↔ name = .guard := by
  rw [← String.toList_inj]
  rcases name with d | ⟨g, d⟩ | ⟨g, d⟩ | f | ⟨f, mark⟩ | _ | _ | _ | _ | _ <;>
    simp [ChainName.text, policySealPrefix, markerName, restoreName, selectionName,
      String.toList_append]

/-- Only the seal is called one. -/
theorem stripPrefix_text (name : ChainName) : stripPrefix policySealPrefix name.text =
    match name with
    | .seal digest => some digest
    | _ => none := by
  cases name with
  | «seal» digest => exact stripPrefix_append policySealPrefix digest
  | restore f =>
    cases f <;> exact if_neg (by decide)
  | _ =>
    refine if_neg ?_
    simp [ChainName.text, policySealPrefix, markerName, selectionName, String.toList_append]

theorem startsWith_text (name : ChainName) : startsWith name.text policySealPrefix =
    match name with
    | .seal _ => true
    | _ => false := by
  rw [← isSome_stripPrefix, stripPrefix_text]
  cases name <;> rfl

/-! ## Objects -/

section Objects

variable (t : AddressText)

theorem chainText_json (o : Object) :
    (o.json t).chainText? = o.chainName?.map ChainName.text := by
  cases o with
  | empty | metainfo => rfl
  | table handle => rfl
  | chain name base handle => cases base <;> cases handle <;> rfl
  | rule owner expr handle => rfl

theorem ruleText_json (o : Object) :
    (o.json t).ruleText? =
      match o with
      | .rule owner _ _ => some owner.text
      | _ => none := by
  cases o <;> rfl

theorem isSealed_json (o : Object) : (o.json t).isSealed = o.sealed := by
  unfold JsonValue.isSealed
  rw [chainText_json, ruleText_json]
  cases o with
  | empty | metainfo => rfl
  | table handle => rfl
  | chain name base handle =>
    have hnonempty : (Object.chain name base handle |>.json t).asObject.any List.isEmpty = false :=
      rfl
    have hheader : ((Object.chain name base handle |>.json t).get "metainfo").isNone = true := rfl
    rw [hnonempty, hheader]
    simp only [Object.chainName?, Option.map_some, Option.any_some, startsWith_text, ne_eq,
      Option.some.injEq, text_eq_guard]
    cases name <;> rfl
  | rule owner expr handle =>
    have hnonempty : (Object.rule owner expr handle |>.json t).asObject.any List.isEmpty = false :=
      rfl
    have hheader : ((Object.rule owner expr handle |>.json t).get "metainfo").isNone = true := rfl
    rw [hnonempty, hheader]
    simp only [Object.chainName?, Option.map_none, ne_eq, Option.some.injEq, text_eq_guard]
    cases owner <;> rfl

theorem objects_documentJson (document : Document) :
    (documentJson t document).objects? = some (document.map (Object.json t)) := rfl

/-- The seal of a document is that of its JSON. -/
theorem contentSeal_json (digests : JsonDigests) (document : Document) :
    JsonValue.contentSeal digests.valueDigest (document.map (Object.json t)) =
      contentSeal (digests.blake3 t) document := by
  have hfilter : (document.map (Object.json t)).filter JsonValue.isSealed =
      (document.filter Object.sealed).map (Object.json t) := by
    rw [List.filter_map]
    congr 1
    exact List.filter_congr fun o _ => isSealed_json t o
  unfold JsonValue.contentSeal contentSeal
  rw [hfilter]
  exact congrArg digests.valueDigest (normalize_documentJson t (document.filter Object.sealed))

/-- Nothing the seal does not cover makes a difference to it. -/
theorem contentSeal_filter (digest : JsonValue → String) {objects objects' : List JsonValue}
    (h : objects.filter JsonValue.isSealed = objects'.filter JsonValue.isSealed) :
    JsonValue.contentSeal digest objects = JsonValue.contentSeal digest objects' := by
  unfold JsonValue.contentSeal
  rw [h]

end Objects

/-! ## Rendered documents -/

section Rendered

variable (t : AddressText) (digests : JsonDigests) (active pending : Option KernelPlan)
  (guard : Bool)

/-- Putting the seal in does not change it. -/
theorem contentSeal_render (blake3 : Blake3) :
    contentSeal blake3 (renderNftDocument blake3 active pending guard) =
      contentSeal blake3 (unsealedDocument (renderChains blake3 active pending guard)) := by
  unfold contentSeal
  congr 2

/-- No chain a document is built from is called a seal. -/
theorem filterMap_stripPrefix_render (blake3 : Blake3) :
    ((renderChains blake3 active pending guard).map Chain.name).filterMap
      (fun name => stripPrefix policySealPrefix name.text) = [] := by
  rw [List.filterMap_eq_nil_iff, map_name_renderChains]
  intro name hname
  rw [stripPrefix_text]
  cases active <;> cases pending <;> cases guard <;>
    simp [stateChainName, transactionChainName, names_policyChains] at hname <;> aesop

theorem filterMap_chainText (document : Document) :
    (document.map (Object.json t)).filterMap JsonValue.chainText? =
      (chainNames document).map ChainName.text := by
  rw [List.filterMap_map, chainNames, List.map_filterMap]
  congr 1
  funext o
  exact chainText_json t o

/-- Every document is sealed, with the guard and without it. -/
theorem hasValidPolicySeal_render :
    (documentJson t (renderNftDocument (digests.blake3 t) active pending guard)).hasValidPolicySeal
      digests.valueDigest = true := by
  have hseals : (((renderNftDocument (digests.blake3 t) active pending guard).map
      (Object.json t)).filterMap JsonValue.chainText?).filterMap (stripPrefix policySealPrefix) =
      [contentSeal (digests.blake3 t)
        (renderNftDocument (digests.blake3 t) active pending guard)] := by
    rw [filterMap_chainText, List.filterMap_map, chainNames_renderNftDocument, contentSeal_render,
      List.filterMap_cons]
    rw [Function.comp_apply, stripPrefix_text]
    exact congrArg _ (filterMap_stripPrefix_render active pending guard (digests.blake3 t))
  unfold JsonValue.hasValidPolicySeal
  rw [objects_documentJson]
  simp only [hseals, contentSeal_json, beq_self_eq_true]

end Rendered

end RouteLane
