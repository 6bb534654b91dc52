import RouteLane.Backend.Journal
import RouteLane.Kernel.Phases
import RouteLane.Kernel.Readers
import RouteLane.Nft.Ifindex
import RouteLane.Nft.Seal

/-!
# Documents without a journal

A table that no journal tells of is only taken for RouteLane's when its document is one the
helper could have left: sealed, without a guard, and every chain of it a hook or a selector
of the layout.  Every committed document is accepted, and none is with the guard in it.
-/

namespace RouteLane

open Fallible Nft JsonValue

/-! ## The validator -/

/-- `u64::from_str`: a sign, then at least one digit, none that leads out of range. -/
def u64FromStr (text : String) : Option ℕ :=
  let digits :=
    match text.toList with
    | '+' :: rest => rest
    | all => all
  if digits.isEmpty then none
  else digits.foldlM (fun n c => do
    let d ← toDigit 10 c
    if n * 10 + d < 2 ^ 64 then some (n * 10 + d) else none) 0

/-- `b.is_ascii_hexdigit() && !b.is_ascii_uppercase()`. -/
def isLowerHexDigit (c : Char) : Bool := c.isDigit || ('a' ≤ c && c ≤ 'f')

/-- The digits of a digest, as many as there should be. -/
def isLowerHex (length : ℕ) (text : String) : Bool :=
  text.length == length && text.toList.all isLowerHexDigit

/-- `valid_state_chain_name`. -/
def validStateChainName (name : String) : Bool :=
  match (stripPrefix "state_g" name).bind (splitOnce '_') with
  | none => false
  | some (generation, fingerprint) =>
    (u64FromStr generation).any (fun value => decide (0 < value)) && isLowerHex 16 fingerprint

/-- The hook of a base chain of the layout. -/
def expectedHook (name : String) : Option BaseHook :=
  if name = "output" then some ⟨"route", "output", -150⟩
  else if name = "prerouting" then some ⟨"filter", "prerouting", -150⟩
  else if name = "egress_guard" then some ⟨"filter", "postrouting", 99⟩
  else if name = "source_nat" then some ⟨"nat", "postrouting", 100⟩
  else if name = "guard" then some ⟨"route", "output", -149⟩
  else none

/-- The names of the regular chains of the layout. -/
def isRegularName (name : String) : Bool :=
  name == "restore4" || name == "restore6" || validStateChainName name ||
    (stripPrefix policySealPrefix name).any (isLowerHex 64) ||
    ["select4_", "select6_"].any fun start =>
      (stripPrefix start name).any fun mark => mark.length == 8 &&
        (u32FromStrRadix 16 mark).any fun m => decide (markBase ≤ m ∧ m ≤ markMax)

namespace JsonValue

/-- A comparison with a whole number. -/
def isInteger : JsonValue → ℤ → Bool
  | .number n, i => decide ((n : ℤ) = i)
  | .otherNumber text, i => decide (i < 0) && text == toString i
  | _, _ => false

/-- The text under a key, by `get`. -/
def textAt (value : JsonValue) (key : String) : Option String := (value.get key).bind asStr

end JsonValue

/-- `modern_owned_chain`. -/
def modernOwnedChain (chain : JsonValue) : Bool :=
  match (chain.index "name").asStr with
  | none => false
  | some name =>
    match expectedHook name with
    | some base => (chain.index "type").asStr == some base.kind &&
        (chain.index "hook").asStr == some base.hook && (chain.index "prio").isInteger base.prio &&
        (chain.index "policy").asStr == some "accept"
    | none => isRegularName name &&
        ["type", "hook", "prio", "policy"].all fun key => (chain.get key).isNone

/-- The kinds of objects a table of RouteLane's has. -/
inductive OwnedKind where
  | table
  | chain
  | rule
  deriving DecidableEq

def OwnedKind.key : OwnedKind → String
  | .table => "table"
  | .chain => "chain"
  | .rule => "rule"

/-- The kind of an object and what is under its key. -/
def ownedObject (object : JsonValue) : Option (OwnedKind × JsonValue) :=
  [OwnedKind.table, .chain, .rule].findSome? fun kind => (object.get kind.key).map (kind, ·)

/-- The object belongs to a table that is not RouteLane's. -/
def crossesBoundary (kind : OwnedKind) (value : JsonValue) : Bool :=
  decide (value.textAt "family" ≠ some "inet") ||
    decide (kind ≠ .table) && decide (value.textAt "table" ≠ some "routelane") ||
    decide (kind = .table) && decide (value.textAt "name" ≠ some "routelane")

/-- What was seen of a document so far. -/
structure OrphanScan where
  tables : ℕ := 0
  outputs : ℕ := 0
  markers : ℕ := 0
  chains : List String := []
  deriving DecidableEq

def OrphanScan.scanChain (modern : Bool) (scan : OrphanScan) (value : JsonValue) :
    Except PrivilegedError OrphanScan :=
  match value.textAt "name" with
  | none => .error "RouteLane nftables chain has no name"
  | some name =>
    if name ∈ scan.chains then .error "RouteLane nftables chain is duplicated"
    else if modern && !modernOwnedChain value then
      .error "RouteLane nftables chain does not match an exact owned hook or selector"
    else
      let scan := { scan with chains := name :: scan.chains }
      if name = "output" then .ok { scan with outputs := scan.outputs + 1 }
      else if validStateChainName name then .ok { scan with markers := scan.markers + 1 }
      else if modern then .ok scan
      else .error "RouteLane nftables table contains an unrecognized ownership marker"

def OrphanScan.scanRule (modern : Bool) (scan : OrphanScan) (value : JsonValue) :
    Except PrivilegedError OrphanScan :=
  let name := value.textAt "chain"
  let permitted :=
    if modern then name.any fun name => decide (name ∈ scan.chains) &&
      !validStateChainName name && !startsWith name policySealPrefix
    else decide (name = some "output")
  if permitted then .ok scan
  else .error "RouteLane nftables rule is outside the owned output chain"

/-- The body of the loop over the objects. -/
def OrphanScan.scanObject (modern : Bool) (scan : OrphanScan) (object : JsonValue) :
    Except PrivilegedError OrphanScan :=
  if (object.get "metainfo").isSome then .ok scan
  else match ownedObject object with
    | none => .error "RouteLane nftables table contains an unknown object"
    | some (kind, value) =>
      if crossesBoundary kind value then
        .error "RouteLane nftables ownership document crosses its reserved table boundary"
      else match kind with
        | .table => .ok { scan with tables := scan.tables + 1 }
        | .chain => scan.scanChain modern value
        | .rule => scan.scanRule modern value

/-- The chains no sealed document lacks. -/
def requiredChains : List String :=
  ["restore4", "restore6", "prerouting", "egress_guard", "source_nat"]

/-- `validate_orphan_nft_document`. -/
def validateOrphanNftDocument (digest : JsonValue → String) (document : JsonValue) :
    Except PrivilegedError Unit :=
  match document.objects? with
  | none => .error "RouteLane nftables ownership document is invalid"
  | some objects => do
    let modern := objects.any fun o => o.chainText?.any fun name => startsWith name policySealPrefix
    failIf (modern = true ∧ document.hasValidPolicySeal digest = false)
      "RouteLane nftables ownership content seal does not match the complete live table"
    failIf (modern = true ∧ ∃ o ∈ objects, o.chainText? = some "guard")
      "RouteLane temporary guard requires its exact transaction journal for recovery"
    let scan ← objects.foldlM (OrphanScan.scanObject modern) {}
    failIf (scan.tables ≠ 1 ∨ scan.outputs ≠ 1 ∨ scan.markers ≠ 1)
      "RouteLane nftables table has no unique validated ownership marker"
    failIf (modern = true ∧ ∃ name ∈ requiredChains, name ∉ scan.chains)
      "RouteLane nftables policy is missing a required owned chain"

/-! ## Numbers in names -/

/-- A 64-bit number is read back from its decimal text. -/
theorem u64FromStr_toString {n : ℕ} (hn : n < 2 ^ 64) : u64FromStr (toString n) = some n := by
  have htext : (toString n).toList = Nat.toDigits 10 n := by
    rw [Nat.toString_eq_ofList_toDigits, String.toList_ofList]
  have hdigits : ∀ c ∈ Nat.toDigits 10 n, c.isDigit = true := fun c hc =>
    isDigit_of_mem_toString (htext ▸ hc)
  have hvalue : Nat.ofDigitChars 10 (Nat.toDigits 10 n) 0 = n := Nat.ofDigitChars_ten_toDigits
  unfold u64FromStr
  simp only [htext]
  split
  · rename_i rest hsigned
    have hplus := hdigits '+' (hsigned ▸ List.mem_cons_self)
    exact absurd hplus (by decide)
  · rw [if_neg (by simp)]
    rw [foldlM_digits hdigits (by rw [hvalue]; exact hn), hvalue]

theorem toDigit_digitChar (n : ℕ) : toDigit 16 (Nat.digitChar (n % 16)) = some (n % 16) := by
  have hlt : n % 16 < 16 := Nat.mod_lt _ (by decide)
  generalize n % 16 = d at hlt
  revert d
  decide

theorem length_hexDigits (width n : ℕ) : (hexDigits width n).length = width := by
  induction width generalizing n with
  | zero => rfl
  | succ width ih => rw [hexDigits, List.length_append, ih, List.length_singleton]

/-- Digits in hexadecimal are read back as what they keep of the number. -/
theorem foldlM_hexDigits {width : ℕ} (hwidth : 16 ^ width ≤ 2 ^ 32) (n : ℕ) :
    (hexDigits width n).foldlM (fun n c => do
      let d ← toDigit 16 c
      if n * 16 + d < 2 ^ 32 then some (n * 16 + d) else none) 0 = some (n % 16 ^ width) := by
  induction width generalizing n with
  | zero => rw [pow_zero, Nat.mod_one]; rfl
  | succ width ih =>
    have hpower : 16 ^ (width + 1) = 16 * 16 ^ width := pow_succ' 16 width
    have hread : n / 16 % 16 ^ width * 16 + n % 16 = n % 16 ^ (width + 1) := by
      rw [hpower, Nat.mod_mul, Nat.mul_comm, Nat.add_comm]
    have hfits : n % 16 ^ (width + 1) < 2 ^ 32 :=
      lt_of_lt_of_le (Nat.mod_lt _ (by positivity)) hwidth
    rw [hexDigits, List.foldlM_append, ih (by omega)]
    simp only [Option.bind_eq_bind, Option.bind_some, List.foldlM_cons, toDigit_digitChar,
      List.foldlM_nil, hread, if_pos hfits]
    rfl

theorem u32FromStrRadix_hexText {n : ℕ} (hn : n < 2 ^ 32) :
    u32FromStrRadix 16 (hexText n) = some n := by
  have hunsigned : ∀ c ∈ hexDigits 8 n, c ≠ '+' := by
    have hall (width : ℕ) : ∀ n, ∀ c ∈ hexDigits width n, c ≠ '+' := by
      induction width with
      | zero =>
        intro n c hc
        cases hc
      | succ width ih =>
        intro n c hc
        rcases List.mem_append.1 hc with hc | hc
        · exact ih _ c hc
        · rw [List.mem_singleton.1 hc]
          intro hplus
          have hdigit := toDigit_digitChar n
          rw [hplus] at hdigit
          cases hdigit
    exact hall 8 n
  unfold u32FromStrRadix hexText
  rw [String.toList_ofList]
  split
  · rename_i rest hsigned
    exact absurd rfl (hunsigned '+' (hsigned ▸ List.mem_cons_self))
  · rw [if_neg (by simp [hexDigits]), foldlM_hexDigits (by norm_num), Nat.mod_eq_of_lt (by simpa using hn)]

/-! ## Names -/

/-- The first letters of a name, which tell the kinds of chains apart. -/
def Nft.ChainName.lead : ChainName → List Char
  | .seal _ => ['r', 'u', 'l']
  | .state _ _ => ['s', 't', 'a']
  | .transaction _ _ => ['t', 'r', 'a']
  | .restore _ => ['r', 'e', 's']
  | .select _ _ => ['s', 'e', 'l']
  | .output => ['o', 'u', 't']
  | .prerouting => ['p', 'r', 'e']
  | .egressGuard => ['e', 'g', 'r']
  | .sourceNat => ['s', 'o', 'u']
  | .guard => ['g', 'u', 'a']

theorem take_text (name : ChainName) : name.text.toList.take 3 = name.lead := by
  cases name <;>
    simp [ChainName.text, ChainName.lead, policySealPrefix, markerName, restoreName, selectionName,
      String.toList_append]

/-- The mark in a name has 32 bits. -/
def Nft.ChainName.Fits : ChainName → Prop
  | .select _ mark => mark < 2 ^ 32
  | _ => True

/-- The generation and the digest of a marker are told apart by the first underscore. -/
theorem splitOnce_marker (generation : ℕ) (digest : String) :
    splitOnce '_' (toString generation ++ "_" ++ digest) = some (toString generation, digest) := by
  have hdigits : ∀ c ∈ (toString generation).toList, decide (c ≠ '_') = true := by
    intro c hc
    rw [decide_eq_true_eq]
    rintro rfl
    exact absurd (isDigit_of_mem_toString hc) (by decide)
  have htext : (toString generation ++ "_" ++ digest).toList =
      (toString generation).toList ++ '_' :: digest.toList := by
    simp [String.toList_append]
  have hspan : (toString generation ++ "_" ++ digest).toList.span (· ≠ '_') =
      ((toString generation).toList, '_' :: digest.toList) := by
    rw [htext, List.span_eq_takeWhile_dropWhile, List.takeWhile_append_of_pos hdigits,
      List.dropWhile_append_of_pos hdigits]
    simp
  rw [splitOnce, hspan]
  simp only [String.ofList_toList]

theorem marker_inj {kind : String} {generation generation' : ℕ} {digest digest' : String}
    (h : markerName kind generation digest = markerName kind generation' digest') :
    generation = generation' ∧ digest = digest' := by
  have hrest : toString generation ++ "_" ++ digest = toString generation' ++ "_" ++ digest' := by
    rw [← String.toList_inj] at h ⊢
    simpa [markerName, String.toList_append] using h
  have hsplit := congrArg (splitOnce '_') hrest
  rw [splitOnce_marker, splitOnce_marker, Option.some.injEq, Prod.mk.injEq] at hsplit
  exact ⟨Nat.repr_injective hsplit.1, hsplit.2⟩

theorem selection_inj {f f' : IpFamily} {mark mark' : ℕ} (hm : mark < 2 ^ 32)
    (hm' : mark' < 2 ^ 32) (h : selectionName f mark = selectionName f' mark') :
    f = f' ∧ mark = mark' := by
  have hfamily : f = f' := by
    have htake := congrArg (fun text : String => text.toList[6]?) h
    cases f <;> cases f' <;>
      simp [selectionName, suffix, String.toList_append] at htake ⊢
  subst hfamily
  have htext : hexText mark = hexText mark' := by
    rw [← String.toList_inj] at h ⊢
    simpa [selectionName, String.toList_append] using h
  have hread := congrArg (u32FromStrRadix 16) htext
  rw [u32FromStrRadix_hexText hm, u32FromStrRadix_hexText hm', Option.some.injEq] at hread
  exact ⟨rfl, hread⟩

/-- Names are told apart by their texts. -/
theorem text_inj {a b : ChainName} (ha : a.Fits) (hb : b.Fits) (h : a.text = b.text) : a = b := by
  have hlead : a.lead = b.lead := by rw [← take_text, ← take_text, h]
  cases a with
  | «seal» d =>
    cases b with
    | «seal» d' =>
      have hstrip := congrArg (stripPrefix policySealPrefix) h
      rw [stripPrefix_text, stripPrefix_text] at hstrip
      rw [Option.some.inj hstrip]
    | _ => simp [ChainName.lead] at hlead
  | state g d =>
    cases b with
    | state g' d' =>
      obtain ⟨rfl, rfl⟩ := marker_inj h
      rfl
    | _ => simp [ChainName.lead] at hlead
  | transaction g d =>
    cases b with
    | transaction g' d' =>
      obtain ⟨rfl, rfl⟩ := marker_inj h
      rfl
    | _ => simp [ChainName.lead] at hlead
  | restore f =>
    cases b with
    | restore f' => cases f <;> cases f' <;> first | rfl | exact absurd h (by decide)
    | _ => simp [ChainName.lead] at hlead
  | select f mark =>
    cases b with
    | select f' mark' =>
      obtain ⟨rfl, rfl⟩ := selection_inj ha hb h
      rfl
    | _ => simp [ChainName.lead] at hlead
  | output => cases b <;> first | rfl | simp [ChainName.lead] at hlead
  | prerouting => cases b <;> first | rfl | simp [ChainName.lead] at hlead
  | egressGuard => cases b <;> first | rfl | simp [ChainName.lead] at hlead
  | sourceNat => cases b <;> first | rfl | simp [ChainName.lead] at hlead
  | guard => cases b <;> first | rfl | simp [ChainName.lead] at hlead

/-- Only the marker of an active plan is read as one. -/
theorem validStateChainName_text (name : ChainName) : validStateChainName name.text =
    match name with
    | .state generation digest =>
      (u64FromStr (toString generation)).any (fun value => decide (0 < value)) &&
        isLowerHex 16 digest
    | _ => false := by
  have hforeign : name.lead ≠ ['s', 't', 'a'] → stripPrefix "state_g" name.text = none := by
    intro hlead
    refine if_neg fun hstart => hlead ?_
    have htake := (hstart.take 3).eq_of_length_le (by
      rw [take_text]
      cases name <;> simp [ChainName.lead])
    rw [← take_text, ← htake]
    rfl
  unfold validStateChainName
  cases name with
  | state generation digest =>
    have hname : (ChainName.state generation digest).text =
        "state_g" ++ (toString generation ++ "_" ++ digest) := by
      rw [← String.toList_inj]
      simp [ChainName.text, markerName, String.toList_append]
    rw [hname, stripPrefix_append, Option.bind_some, splitOnce_marker]
  | _ => rw [hforeign (by simp [ChainName.lead])]; rfl

/-- The digests are those of BLAKE3, in hexadecimal: sixteen digits in a marker, and all of
them in a seal. -/
structure JsonDigests.Hex (digests : JsonDigests) : Prop where
  marker : ∀ hash, isLowerHex 16 (digests.markerDigest hash) = true
  value : ∀ value, isLowerHex 64 (digests.valueDigest value) = true

/-- The names of the chains of a committed document. -/
def CommittedName (plan : KernelPlan) : ChainName → Prop
  | .seal digest => isLowerHex 64 digest = true
  | .state generation digest => generation = plan.generation ∧ isLowerHex 16 digest = true
  | .transaction _ _ => False
  | .restore _ => True
  | .select _ mark => ∃ lane ∈ plan.lanes, lane.mark = mark
  | .output | .prerouting | .egressGuard | .sourceNat => True
  | .guard => False

/-- The hook of a chain with this name, if it is a base chain. -/
def Nft.ChainName.hook : ChainName → Option BaseHook
  | .output => some ⟨"route", "output", -150⟩
  | .prerouting => some ⟨"filter", "prerouting", -150⟩
  | .egressGuard => some ⟨"filter", "postrouting", 99⟩
  | .sourceNat => some ⟨"nat", "postrouting", 100⟩
  | .guard => some ⟨"route", "output", -149⟩
  | _ => none

section Names

variable {plan : KernelPlan} {name : ChainName}

theorem CommittedName.fits (hplan : plan.WellFormed) (h : CommittedName plan name) : name.Fits := by
  cases name with
  | select f mark =>
    obtain ⟨lane, hlane, rfl⟩ := h
    exact lt_of_le_of_lt (hplan.inRange lane hlane).mark_mem.2 (by decide)
  | _ => trivial

theorem validStateChainName_of_committed {generation : ℕ} {digest : String}
    (hplan : plan.WellFormed) (hgeneration : plan.generation < 2 ^ 64)
    (h : CommittedName plan (.state generation digest)) :
    validStateChainName (ChainName.state generation digest).text = true := by
  obtain ⟨rfl, hdigest⟩ := h
  have hpositive : 0 < plan.generation := Nat.pos_of_ne_zero hplan.generation_ne_zero
  rw [validStateChainName_text]
  dsimp only
  rw [u64FromStr_toString hgeneration, Option.any_some, hdigest, decide_eq_true hpositive]
  rfl

theorem expectedHook_text (hfits : name.Fits) : expectedHook name.text = name.hook := by
  have hother (other : ChainName) (hother : other.Fits) (hne : name ≠ other) :
      name.text ≠ other.text := fun h => hne (text_inj hfits hother h)
  have hregular (houtput : name ≠ .output) (hprerouting : name ≠ .prerouting)
      (hegress : name ≠ .egressGuard) (hnat : name ≠ .sourceNat) (hguard : name ≠ .guard) :
      expectedHook name.text = none := by
    have houtput : name.text ≠ "output" := hother .output trivial houtput
    have hprerouting : name.text ≠ "prerouting" := hother .prerouting trivial hprerouting
    have hegress : name.text ≠ "egress_guard" := hother .egressGuard trivial hegress
    have hnat : name.text ≠ "source_nat" := hother .sourceNat trivial hnat
    have hguard : name.text ≠ "guard" := hother .guard trivial hguard
    unfold expectedHook
    rw [if_neg houtput, if_neg hprerouting, if_neg hegress, if_neg hnat, if_neg hguard]
  cases name with
  | output | prerouting | egressGuard | sourceNat | guard => decide
  | _ => exact hregular (by simp) (by simp) (by simp) (by simp) (by simp)

theorem isRegularName_text (hplan : plan.WellFormed) (hgeneration : plan.generation < 2 ^ 64)
    (h : CommittedName plan name) (hhook : name.hook = none) : isRegularName name.text = true := by
  unfold isRegularName
  cases name with
  | «seal» digest =>
    have hdigest : isLowerHex 64 digest = true := h
    simp [stripPrefix_text, hdigest]
  | state generation digest =>
    have hvalid := validStateChainName_of_committed hplan hgeneration h
    rw [hvalid, Bool.or_true]
    rfl
  | transaction generation digest => exact absurd h id
  | restore f => cases f <;> simp [ChainName.text, restoreName, suffix]
  | select f mark =>
    obtain ⟨lane, hlane, rfl⟩ := h
    have hrange := (hplan.inRange lane hlane).mark_mem
    have hread := u32FromStrRadix_hexText (lt_of_le_of_lt hrange.2 (by decide))
    have hlength : (hexText lane.mark).length = 8 := by
      rw [hexText, String.length_ofList, length_hexDigits]
    have hselect : (["select4_", "select6_"].any fun start =>
        (stripPrefix start (ChainName.select f lane.mark).text).any fun mark => mark.length == 8 &&
          (u32FromStrRadix 16 mark).any fun m => decide (markBase ≤ m ∧ m ≤ markMax)) = true := by
      refine List.any_eq_true.2 ⟨"select" ++ suffix f ++ "_", by cases f <;> decide, ?_⟩
      rw [ChainName.text, selectionName, stripPrefix_append, Option.any_some, hlength, hread]
      simp [hrange]
    rw [hselect, Bool.or_true]
  | output | prerouting | egressGuard | sourceNat | guard => cases hhook

end Names

/-! ## Scanning a committed document -/

section Loops

variable {σ α ε : Type} {f : σ → α → Except ε σ} {s s' : σ}

theorem foldlM_cons_ok {a : α} (h : f s a = .ok s') (l : List α) :
    (a :: l).foldlM f s = l.foldlM f s' := by
  rw [List.foldlM_cons, h]
  rfl

theorem foldlM_append_ok {l : List α} (h : l.foldlM f s = .ok s') (l' : List α) :
    (l ++ l').foldlM f s = l'.foldlM f s' := by
  rw [List.foldlM_append, h]
  rfl

end Loops

theorem isInteger_integer (i : ℤ) : (integer i).isInteger i = true := by
  cases i with
  | ofNat n => simp [integer, isInteger]
  | negSucc n =>
    simp only [integer, isInteger, Int.negSucc_lt_zero, decide_true, Bool.true_and]
    exact beq_iff_eq.2 rfl

/-- The scan once it has seen a chain of the layout. -/
def OrphanScan.see (scan : OrphanScan) (name : ChainName) : OrphanScan :=
  { tables := scan.tables
    outputs := scan.outputs + if name = .output then 1 else 0
    markers := scan.markers + if validStateChainName name.text then 1 else 0
    chains := name.text :: scan.chains }

section Scan

variable (t : AddressText) {plan : KernelPlan} {name : ChainName} {scan : OrphanScan}

theorem modernOwnedChain_committed (hplan : plan.WellFormed) (hgeneration : plan.generation < 2 ^ 64)
    (h : CommittedName plan name) :
    modernOwnedChain (.object (chainFields name name.hook none)) = true := by
  have hhook := expectedHook_text (h.fits hplan)
  have hregular := isRegularName_text hplan hgeneration h
  cases hbase : name.hook with
  | none =>
    have hname : ((JsonValue.object (chainFields name none none)).index "name").asStr =
        some name.text := rfl
    rw [modernOwnedChain, hname]
    dsimp only
    rw [hhook, hbase]
    dsimp only
    rw [hregular hbase]
    rfl
  | some base =>
    have hname : ((JsonValue.object (chainFields name (some base) none)).index "name").asStr =
        some name.text := rfl
    have hkind : ((JsonValue.object (chainFields name (some base) none)).index "type").asStr =
        some base.kind := rfl
    have hpoint : ((JsonValue.object (chainFields name (some base) none)).index "hook").asStr =
        some base.hook := rfl
    have hprio : (JsonValue.object (chainFields name (some base) none)).index "prio" =
        integer base.prio := rfl
    have hpolicy : ((JsonValue.object (chainFields name (some base) none)).index "policy").asStr =
        some "accept" := rfl
    rw [modernOwnedChain, hname]
    dsimp only
    rw [hhook, hbase]
    dsimp only
    rw [hkind, hpoint, hprio, hpolicy, isInteger_integer]
    simp

/-- A new chain of the layout is seen. -/
theorem scanObject_chain (hplan : plan.WellFormed) (hgeneration : plan.generation < 2 ^ 64)
    (h : CommittedName plan name) (hfresh : name.text ∉ scan.chains) :
    scan.scanObject true (Object.json t (.chain name name.hook none)) = .ok (scan.see name) := by
  have howned := modernOwnedChain_committed hplan hgeneration h
  have hname : (JsonValue.object (chainFields name name.hook none)).textAt "name" =
      some name.text := by cases name.hook <;> rfl
  have hinside : crossesBoundary .chain (.object (chainFields name name.hook none)) = false := by
    cases name.hook <;> rfl
  have hobject : ownedObject (Object.json t (.chain name name.hook none)) =
      some (.chain, .object (chainFields name name.hook none)) := rfl
  have hheader : ((Object.json t (.chain name name.hook none)).get "metainfo").isSome = false := rfl
  have houtput : name.text = "output" ↔ name = .output :=
    ⟨fun htext => text_inj (h.fits hplan) trivial htext, fun heq => heq ▸ rfl⟩
  rw [OrphanScan.scanObject, hheader, if_neg Bool.false_ne_true, hobject]
  dsimp only
  rw [hinside, if_neg Bool.false_ne_true]
  rw [OrphanScan.scanChain, hname]
  dsimp only
  rw [if_neg hfresh, howned]
  rw [if_neg (by decide)]
  simp only [houtput, OrphanScan.see]
  by_cases hout : name = .output
  · subst hout
    simp [validStateChainName_text]
  · rw [if_neg hout, if_neg hout]
    cases validStateChainName name.text <;> simp

/-- The names of a document are seen one after the other. -/
theorem foldlM_scanChains (hplan : plan.WellFormed) (hgeneration : plan.generation < 2 ^ 64)
    {chains : List Chain} (h : ∀ chain ∈ chains, CommittedName plan chain.name)
    (hhook : ∀ chain ∈ chains, chain.base = chain.name.hook)
    (hnodup : (chains.map Chain.name).Nodup)
    (hfresh : ∀ chain ∈ chains, chain.name.text ∉ scan.chains) :
    ((chains.map Chain.object).map (Object.json t)).foldlM (OrphanScan.scanObject true) scan =
      .ok ((chains.map Chain.name).foldl OrphanScan.see scan) := by
  induction chains generalizing scan with
  | nil => rfl
  | cons chain chains ih =>
    obtain ⟨hchain, hchains⟩ := List.forall_mem_cons.1 h
    obtain ⟨hbase, hbases⟩ := List.forall_mem_cons.1 hhook
    obtain ⟨hnew, hnodup⟩ := List.nodup_cons.1 hnodup
    obtain ⟨hunseen, hfresh⟩ := List.forall_mem_cons.1 hfresh
    have hobject : chain.object = .chain chain.name chain.name.hook none := by
      rw [Chain.object, hbase]
    rw [List.map_cons, List.map_cons, List.map_cons, hobject,
      foldlM_cons_ok (scanObject_chain t hplan hgeneration hchain hunseen)]
    refine ih hchains hbases hnodup fun other hother hseen => ?_
    rcases List.mem_cons.1 hseen with hsame | hseen
    · have heq := text_inj ((hchains other hother).fits hplan) (hchain.fits hplan) hsame
      exact hnew (heq ▸ List.mem_map_of_mem hother)
    · exact hfresh other hother hseen

/-- A rule of a chain that was seen, and may have rules, passes. -/
theorem scanObject_rule {expr : List Expr} (hseen : name.text ∈ scan.chains)
    (hstate : validStateChainName name.text = false)
    (hseal : startsWith name.text policySealPrefix = false) :
    scan.scanObject true (Object.json t (.rule name expr none)) = .ok scan := by
  have hobject : ownedObject (Object.json t (.rule name expr none)) = some (.rule, .object
      [("chain", .string name.text), ("expr", .array (expr.map (Expr.json t))),
        ("family", .string "inet"), ("table", .string "routelane")]) := rfl
  have hheader : ((Object.json t (.rule name expr none)).get "metainfo").isSome = false := rfl
  rw [OrphanScan.scanObject, hheader, if_neg Bool.false_ne_true, hobject]
  dsimp only
  rw [if_neg (by exact Bool.false_ne_true)]
  have hname : (JsonValue.object [("chain", .string name.text),
      ("expr", .array (expr.map (Expr.json t))), ("family", .string "inet"),
      ("table", .string "routelane")]).textAt "chain" = some name.text := rfl
  rw [OrphanScan.scanRule, hname]
  simp [hseen, hstate, hseal]

end Scan

/-! ## The documents -/

/-- A document as nft prints it: with a header where a batch has an empty object. -/
def printedDocument (t : AddressText) (header : JsonValue) (document : Document) : JsonValue :=
  single "nftables" (.array (single "metainfo" header :: document.tail.map (Object.json t)))

/-- The guard chain and its rules. -/
def ofGuard (object : JsonValue) : Bool :=
  decide (object.chainText? = some "guard") || decide (object.ruleText? = some "guard")

section Documents

variable (t : AddressText) (digests : JsonDigests) {plan : KernelPlan}

theorem ofGuard_json (o : Object) : ofGuard (o.json t) =
    match o with
    | .chain name _ _ => decide (name = .guard)
    | .rule owner _ _ => decide (owner = .guard)
    | _ => false := by
  rw [ofGuard, chainText_json, ruleText_json]
  cases o with
  | empty | metainfo => rfl
  | table handle => rfl
  | chain name base handle => simp [Object.chainName?, text_eq_guard]
  | rule owner expr handle => simp [Object.chainName?, text_eq_guard]

/-- The header makes no difference to the seal. -/
theorem hasValidPolicySeal_printed (header : JsonValue) (document : Document) :
    (printedDocument t header (.empty :: document)).hasValidPolicySeal digests.valueDigest =
      (documentJson t (.empty :: document)).hasValidPolicySeal digests.valueDigest := by
  have hprinted : (printedDocument t header (.empty :: document)).objects? =
      some (single "metainfo" header :: document.map (Object.json t)) := rfl
  have hrendered : (documentJson t (.empty :: document)).objects? =
      some (.object [] :: document.map (Object.json t)) := rfl
  unfold JsonValue.hasValidPolicySeal
  rw [hprinted, hrendered]
  dsimp only
  have hsealed : JsonValue.contentSeal digests.valueDigest
      (single "metainfo" header :: document.map (Object.json t)) =
      JsonValue.contentSeal digests.valueDigest (.object [] :: document.map (Object.json t)) :=
    contentSeal_filter digests.valueDigest rfl
  rw [hsealed]
  rfl

/-- What the guard adds is all that is left out without it. -/
theorem render_unguarded (blake3 : Blake3) (active pending : Option KernelPlan) :
    ((renderNftDocument blake3 active pending true).map (Object.json t)).filter
        (fun o => !ofGuard o) =
      (renderNftDocument blake3 active pending false).map (Object.json t) := by
  rw [← filter_ofGuard_render, List.filter_map]
  congr 1
  refine List.filter_congr fun o _ => ?_
  rw [Function.comp_apply, ofGuard_json]
  cases o with
  | empty | metainfo | table _ => rfl
  | chain name base handle => cases name <;> rfl
  | rule owner expr handle => cases owner <;> rfl

/-- The chains of a committed document, its seal apart. -/
theorem renderChains_committed (blake3 : Blake3) (plan : KernelPlan) :
    renderChains blake3 (some plan) none false =
      Chain.regular (stateChainName blake3 plan) [] :: policyChains plan := by
  simp [renderChains]

theorem mem_names_policyChains {name : ChainName}
    (h : name ∈ (policyChains plan).map Chain.name) :
    CommittedName plan name ∧ (∀ digest, name ≠ .seal digest) ∧
      validStateChainName name.text = false := by
  rw [names_policyChains] at h
  simp only [List.mem_append, List.mem_cons, List.mem_map, List.not_mem_nil, or_false] at h
  rcases h with ((rfl | ⟨lane, hlane, rfl⟩) | rfl | ⟨lane, hlane, rfl⟩) | rfl | rfl | rfl | rfl
  · exact ⟨trivial, by simp, validStateChainName_text _⟩
  · exact ⟨⟨lane, hlane, rfl⟩, by simp, validStateChainName_text _⟩
  · exact ⟨trivial, by simp, validStateChainName_text _⟩
  · exact ⟨⟨lane, hlane, rfl⟩, by simp, validStateChainName_text _⟩
  · exact ⟨trivial, by simp, validStateChainName_text _⟩
  · exact ⟨trivial, by simp, validStateChainName_text _⟩
  · exact ⟨trivial, by simp, validStateChainName_text _⟩
  · exact ⟨trivial, by simp, validStateChainName_text _⟩

theorem base_policyChains {chain : Chain} (h : chain ∈ policyChains plan) :
    chain.base = chain.name.hook := by
  simp only [policyChains, families, List.flatMap_cons, List.flatMap_nil, List.append_nil,
    List.mem_append, List.mem_cons, List.mem_map, List.not_mem_nil, or_false] at h
  rcases h with ((rfl | ⟨lane, -, rfl⟩) | rfl | ⟨lane, -, rfl⟩) | rfl | rfl | rfl | rfl <;> rfl

/-- What the names of a document add up to. -/
theorem foldl_see (names : List ChainName) (scan : OrphanScan) :
    names.foldl OrphanScan.see scan =
      { tables := scan.tables
        outputs := scan.outputs + names.count .output
        markers := scan.markers + names.countP fun name => validStateChainName name.text
        chains := (names.map ChainName.text).reverse ++ scan.chains } := by
  induction names generalizing scan with
  | nil => simp
  | cons name names ih =>
    rw [List.foldl_cons, ih, OrphanScan.see, List.count_cons, List.countP_cons, List.map_cons,
      List.reverse_cons, List.append_assoc, List.singleton_append, OrphanScan.mk.injEq]
    refine ⟨rfl, ?_, ?_, rfl⟩
    · simp only [beq_iff_eq]
      omega
    · dsimp only
      omega

theorem foldlM_scanRules {scan : OrphanScan} {chains : List Chain}
    (h : ∀ chain ∈ chains, chain.rules ≠ [] → chain.name.text ∈ scan.chains ∧
      validStateChainName chain.name.text = false ∧
      startsWith chain.name.text policySealPrefix = false) :
    ((chains.flatMap Chain.ruleObjects).map (Object.json t)).foldlM (OrphanScan.scanObject true)
      scan = .ok scan := by
  have hall : ∀ o ∈ chains.flatMap Chain.ruleObjects,
      scan.scanObject true (o.json t) = .ok scan := by
    intro o ho
    obtain ⟨chain, hchain, ho⟩ := List.mem_flatMap.1 ho
    obtain ⟨expr, hexpr, rfl⟩ := List.mem_map.1 ho
    obtain ⟨hseen, hstate, hseal⟩ := h chain hchain (List.ne_nil_of_mem hexpr)
    exact scanObject_rule t hseen hstate hseal
  generalize chains.flatMap Chain.ruleObjects = objects at hall
  induction objects with
  | nil => rfl
  | cons o objects ih =>
    obtain ⟨hhead, hrest⟩ := List.forall_mem_cons.1 hall
    rw [List.map_cons, foldlM_cons_ok hhead]
    exact ih hrest

end Documents

/-! ## Committed documents -/

section Committed

variable (t : AddressText) (digests : JsonDigests) (header : JsonValue) {plan : KernelPlan}

/-- The chains of a committed document, with its seal. -/
def sealedChains (t : AddressText) (digests : JsonDigests) (plan : KernelPlan) : List Chain :=
  Chain.regular (.seal (contentSeal (digests.blake3 t)
      (unsealedDocument (renderChains (digests.blake3 t) (some plan) none false)))) [] ::
    Chain.regular (stateChainName (digests.blake3 t) plan) [] :: policyChains plan

/-- A committed document is its table, its chains and their rules. -/
theorem render_sealedChains :
    renderNftDocument (digests.blake3 t) (some plan) none false =
      .empty :: .table none :: ((sealedChains t digests plan).map Chain.object ++
        (sealedChains t digests plan).flatMap Chain.ruleObjects) := by
  rw [renderNftDocument, renderChains_committed, sealedChains, renderChains_committed]
  rfl

theorem sealedChains_committed (hdigests : digests.Hex) {chain : Chain}
    (h : chain ∈ sealedChains t digests plan) :
    CommittedName plan chain.name ∧ chain.base = chain.name.hook := by
  rcases List.mem_cons.1 h with rfl | h
  · exact ⟨hdigests.value _, rfl⟩
  rcases List.mem_cons.1 h with rfl | h
  · exact ⟨⟨rfl, hdigests.marker _⟩, rfl⟩
  · exact ⟨(mem_names_policyChains (List.mem_map_of_mem h)).1, base_policyChains h⟩

theorem nodup_sealedChains (hplan : plan.WellFormed) :
    ((sealedChains t digests plan).map Chain.name).Nodup := by
  have hnodup : ((renderChains (digests.blake3 t) (some plan) none false).map Chain.name).Nodup :=
    nodup_names_renderChains fun other hother => Option.some.inj hother ▸ hplan
  rw [renderChains_committed] at hnodup
  rw [sealedChains, List.map_cons, List.nodup_cons]
  refine ⟨fun hmem => ?_, hnodup⟩
  rcases List.mem_cons.1 hmem with hstate | hmem
  · cases hstate
  · exact (mem_names_policyChains hmem).2.1 _ rfl

/-- Of all names one is the output chain's and one is a marker. -/
theorem count_sealedChains (hdigests : digests.Hex) (hplan : plan.WellFormed)
    (hgeneration : plan.generation < 2 ^ 64) :
    ((sealedChains t digests plan).map Chain.name).count .output = 1 ∧
      ((sealedChains t digests plan).map Chain.name).countP
        (fun name => validStateChainName name.text) = 1 := by
  have hmarker : validStateChainName (stateChainName (digests.blake3 t) plan).text = true :=
    validStateChainName_of_committed hplan hgeneration ⟨rfl, hdigests.marker _⟩
  have hpolicy : ((policyChains plan).map Chain.name).countP
      (fun name => validStateChainName name.text) = 0 := by
    rw [List.countP_eq_zero]
    intro name hname
    rw [(mem_names_policyChains hname).2.2]
    exact Bool.false_ne_true
  constructor
  · refine List.count_eq_one_of_mem (nodup_sealedChains t digests hplan) ?_
    rw [sealedChains, List.map_cons, List.map_cons, names_policyChains]
    simp
  · rw [sealedChains, List.map_cons, List.map_cons, List.countP_cons_of_neg, List.countP_cons_of_pos,
      hpolicy]
    · exact hmarker
    · simp [Chain.regular, validStateChainName_text]

/-- The rules of a committed document are those of its policy. -/
theorem foldlM_sealedRules {scan : OrphanScan}
    (h : ∀ chain ∈ sealedChains t digests plan, chain.name.text ∈ scan.chains) :
    (((sealedChains t digests plan).flatMap Chain.ruleObjects).map (Object.json t)).foldlM
      (OrphanScan.scanObject true) scan = .ok scan := by
  refine foldlM_scanRules t fun chain hchain hrules => ?_
  have hpolicy : chain ∈ policyChains plan := by
    rcases List.mem_cons.1 hchain with rfl | hmem
    · exact absurd rfl hrules
    rcases List.mem_cons.1 hmem with rfl | hmem
    · exact absurd rfl hrules
    · exact hmem
  obtain ⟨-, hseal, hstate⟩ := mem_names_policyChains (List.mem_map_of_mem hpolicy)
  refine ⟨h chain hchain, hstate, ?_⟩
  rw [startsWith_text]
  cases hname : chain.name with
  | «seal» digest => exact absurd hname (hseal digest)
  | _ => rfl

/-- The scan of a committed document. -/
theorem foldlM_committed (hdigests : digests.Hex) (hplan : plan.WellFormed)
    (hgeneration : plan.generation < 2 ^ 64) :
    (single "metainfo" header ::
        (renderNftDocument (digests.blake3 t) (some plan) none false).tail.map
          (Object.json t)).foldlM (OrphanScan.scanObject true) {} =
      .ok { tables := 1, outputs := 1, markers := 1,
            chains := ((sealedChains t digests plan).map fun chain => chain.name.text).reverse } := by
  have hheader : OrphanScan.scanObject true {} (single "metainfo" header) = .ok {} := rfl
  have htable : OrphanScan.scanObject true {} (Object.json t (.table none)) =
      .ok { tables := 1 } := rfl
  have hchains : (((sealedChains t digests plan).map Chain.object).map (Object.json t)).foldlM
      (OrphanScan.scanObject true) { tables := 1 } =
        .ok (((sealedChains t digests plan).map Chain.name).foldl OrphanScan.see { tables := 1 }) :=
    foldlM_scanChains t hplan hgeneration
      (fun chain hchain => (sealedChains_committed t digests hdigests hchain).1)
      (fun chain hchain => (sealedChains_committed t digests hdigests hchain).2)
      (nodup_sealedChains t digests hplan) fun _ _ => List.not_mem_nil
  obtain ⟨houtputs, hmarkers⟩ := count_sealedChains t digests hdigests hplan hgeneration
  have hseen : ((sealedChains t digests plan).map Chain.name).foldl OrphanScan.see { tables := 1 } =
      { tables := 1, outputs := 1, markers := 1,
        chains := ((sealedChains t digests plan).map fun chain => chain.name.text).reverse } := by
    rw [foldl_see, houtputs, hmarkers, List.map_map, List.append_nil]
    rfl
  rw [hseen] at hchains
  rw [render_sealedChains, List.tail_cons, List.map_cons, List.map_append, foldlM_cons_ok hheader,
    foldlM_cons_ok htable, foldlM_append_ok hchains]
  exact foldlM_sealedRules t digests fun chain hchain =>
    List.mem_reverse.2 (List.mem_map_of_mem hchain)

theorem objects_printed (document : Document) : (printedDocument t header document).objects? =
    some (single "metainfo" header :: document.tail.map (Object.json t)) := rfl

/-- Every document of the renderer's has a seal, and so the layout is asked of it. -/
theorem modern_printed (active pending : Option KernelPlan) (guard : Bool) :
    ((single "metainfo" header :: (renderNftDocument (digests.blake3 t) active pending
        guard).tail.map (Object.json t)).any fun o =>
      o.chainText?.any fun name => startsWith name policySealPrefix) = true := by
  refine List.any_eq_true.2 ⟨Object.json t (Chain.regular (.seal (contentSeal (digests.blake3 t)
    (unsealedDocument (renderChains (digests.blake3 t) active pending guard)))) []).object,
    ?_, ?_⟩
  · exact List.mem_cons_of_mem _ (List.mem_map_of_mem (by simp [renderNftDocument]))
  · rw [chainText_json]
    exact startsWith_text _

theorem sealed_printed (active pending : Option KernelPlan) (guard : Bool) :
    (printedDocument t header (renderNftDocument (digests.blake3 t) active pending
      guard)).hasValidPolicySeal digests.valueDigest = true := by
  have hrender := hasValidPolicySeal_render t digests active pending guard
  rw [renderNftDocument] at hrender ⊢
  rw [List.cons_append, List.cons_append] at hrender ⊢
  rw [hasValidPolicySeal_printed, hrender]

/-- A document with the guard is refused for it. -/
theorem validate_guarded (active pending : Option KernelPlan) :
    validateOrphanNftDocument digests.valueDigest (printedDocument t header
      (renderNftDocument (digests.blake3 t) active pending true)) =
      .error "RouteLane temporary guard requires its exact transaction journal for recovery" := by
  have hguard : ∃ o ∈ single "metainfo" header :: (renderNftDocument (digests.blake3 t) active
      pending true).tail.map (Object.json t), o.chainText? = some "guard" := by
    refine ⟨Object.json t (guardChain active pending).object, ?_, ?_⟩
    · refine List.mem_cons_of_mem _ (List.mem_map_of_mem ?_)
      simp [renderNftDocument, renderChains]
    · rw [chainText_json]
      rfl
  rw [validateOrphanNftDocument, objects_printed]
  dsimp only
  rw [modern_printed, sealed_printed, failIf, if_neg (by simp), failIf, if_pos ⟨rfl, hguard⟩]
  rfl

/-- A committed document is accepted, whatever header it is printed with. -/
theorem validate_committed (hdigests : digests.Hex) (hplan : plan.WellFormed)
    (hgeneration : plan.generation < 2 ^ 64) :
    validateOrphanNftDocument digests.valueDigest (printedDocument t header
      (renderNftDocument (digests.blake3 t) (some plan) none false)) = .ok () := by
  have hunguarded : ¬ ∃ o ∈ single "metainfo" header :: (renderNftDocument (digests.blake3 t)
      (some plan) none false).tail.map (Object.json t), o.chainText? = some "guard" := by
    rintro ⟨o, ho, hguard⟩
    rcases List.mem_cons.1 ho with rfl | ho
    · cases hguard
    obtain ⟨o, hmem, rfl⟩ := List.mem_map.1 ho
    rw [chainText_json, Option.map_eq_some_iff] at hguard
    obtain ⟨name, hname, htext⟩ := hguard
    rw [text_eq_guard] at htext
    have hchain : ChainName.guard ∈ chainNames
        (renderNftDocument (digests.blake3 t) (some plan) none false) :=
      List.mem_filterMap.2 ⟨o, List.mem_of_mem_tail hmem, htext ▸ hname⟩
    exact Bool.false_ne_true ((guard_mem_chainNames _ _ _ _).1 hchain)
  have hrequired : ¬ ∃ name ∈ requiredChains,
      name ∉ ((sealedChains t digests plan).map fun chain => chain.name.text).reverse := by
    rintro ⟨name, hname, hmissing⟩
    refine hmissing (List.mem_reverse.2 ?_)
    have htexts : ((sealedChains t digests plan).map fun chain => chain.name.text) =
        ((sealedChains t digests plan).map Chain.name).map ChainName.text := by
      rw [List.map_map]
      rfl
    rw [htexts, sealedChains, List.map_cons, List.map_cons, List.map_cons, names_policyChains]
    simp only [requiredChains, List.mem_cons, List.not_mem_nil, or_false] at hname
    rcases hname with rfl | rfl | rfl | rfl | rfl <;>
      simp [ChainName.text, restoreName, suffix]
  rw [validateOrphanNftDocument, objects_printed]
  dsimp only
  rw [modern_printed, sealed_printed, foldlM_committed t digests header hdigests hplan hgeneration]
  rw [failIf, if_neg (by simp), failIf, if_neg fun h => hunguarded h.2]
  dsimp only [bind, Except.bind]
  rw [failIf, if_neg (by simp)]
  dsimp only
  rw [failIf, if_neg fun h => hrequired h.2]

end Committed

/-! ## Fingerprints -/

/-- The fingerprint of a document is that of its JSON. -/
theorem fingerprint_documentJson (t : AddressText) (digests : JsonDigests) (document : Document) :
    (documentJson t document).nftDocumentFingerprint digests.valueDigest =
      RouteLane.nftDocumentFingerprint (digests.blake3 t) document :=
  congrArg digests.valueDigest (normalize_documentJson t document)

/-- Two prints of one document have one fingerprint. -/
theorem fingerprint_reprinted (digest : JsonValue → String) {value value' : JsonValue}
    (h : Reprinted value value') :
    value.nftDocumentFingerprint digest = value'.nftDocumentFingerprint digest :=
  congrArg digest h.normalize_eq

/-- Every document is sealed; without the guard it is the document that never had one; its
normal form is its own, and the same for every print; and only the committed document of a
plan, under any header, is taken for an orphan. -/
theorem documents_keep_their_laws (t : AddressText) (digests : JsonDigests)
    (hdigests : digests.Hex) :
    (∀ active pending guard,
      (documentJson t (renderNftDocument (digests.blake3 t) active pending
        guard)).hasValidPolicySeal digests.valueDigest = true) ∧
    (∀ active pending,
      ((renderNftDocument (digests.blake3 t) active pending true).map (Object.json t)).filter
          (fun o => !ofGuard o) =
        (renderNftDocument (digests.blake3 t) active pending false).map (Object.json t)) ∧
    (∀ value : JsonValue,
      value.normalizeNftDocument.normalizeNftDocument = value.normalizeNftDocument) ∧
    (∀ value value', Reprinted value value' →
      value.nftDocumentFingerprint digests.valueDigest =
        value'.nftDocumentFingerprint digests.valueDigest) ∧
    (∀ plan header, validatePrivilegedPlan plan = .ok () → plan.generation < 2 ^ 64 →
      validateOrphanNftDocument digests.valueDigest (printedDocument t header
        (renderNftDocument (digests.blake3 t) (some plan) none false)) = .ok () ∧
      ∀ pending, validateOrphanNftDocument digests.valueDigest (printedDocument t header
        (renderNftDocument (digests.blake3 t) (some plan) pending true)) ≠ .ok ()) := by
  refine ⟨hasValidPolicySeal_render t digests, render_unguarded t (digests.blake3 t),
    normalize_normalize, fun _ _ => fingerprint_reprinted digests.valueDigest,
    fun plan header hplan hgeneration => ⟨?_, fun pending h => ?_⟩⟩
  · exact validate_committed t digests header hdigests (validatePrivilegedPlan_eq_ok.1 hplan)
      hgeneration
  · rw [validate_guarded] at h
    cases h

/-- Digests of the right lengths. -/
def zeroDigests : JsonDigests where
  contentHash _ := "0000000000000000"
  markerDigest _ := "0000000000000000"
  valueDigest _ := "0000000000000000000000000000000000000000000000000000000000000000"

theorem zeroDigests_hex : zeroDigests.Hex where
  marker hash := by
    have hdigits : isLowerHex 16 "0000000000000000" = true := by decide
    exact hdigits
  value document := by
    have hdigits : isLowerHex 64
        "0000000000000000000000000000000000000000000000000000000000000000" = true := by decide
    exact hdigits

theorem documents_keep_their_laws_zeroDigests :
    validateOrphanNftDocument zeroDigests.valueDigest (printedDocument .numbers .null
      (renderNftDocument (zeroDigests.blake3 .numbers) (some standInPlan) none false)) = .ok () :=
  ((documents_keep_their_laws .numbers zeroDigests zeroDigests_hex).2.2.2.2 standInPlan .null
    (by decide) (by decide)).1

end RouteLane
