import RouteLane.Domain.Profile
import RouteLane.Net.NetworkText

/-!
# Reading and printing rule targets

The rule editor shows a target as text and reads it back on every edit.  Four grammars are
tried on the same text: the star, an address, a network, a domain.  The main results are
which texts each of them takes, and that the editor reads back the target it printed.
-/

namespace RouteLane

inductive TargetInputError where
  | empty
  | invalid
  | unsupported
  deriving DecidableEq, Repr

/-- The texts of addresses and networks, and the `Debug` text of a service pack id. -/
structure TargetText extends NetworkText where
  debugServicePack : ServicePackId → List Char

/-- `str::len`, in bytes. -/
def byteLength (s : List Char) : ℕ := (s.map Char.utf8Size).sum

/-- What a label of a domain must not be. -/
def badLabel (label : List Char) : Bool :=
  label.isEmpty || decide (63 < byteLength label) || label.head? == some '-' ||
    label.getLast? == some '-' || !label.all fun c => c.isAlphanum || c == '-'

/-- What a domain must not be. -/
def badDomain (domain : List Char) : Bool :=
  decide (253 < byteLength domain) || domain.isEmpty ||
    domain.all (fun c => c.isDigit || c == '.') || (domain.splitOn '.').any badLabel

/-- `strip_suffix('.')`, or the text as it is. -/
def stripDot (value : List Char) : List Char :=
  if value.getLast? = some '.' then value.dropLast else value

/-- `parse_rule_target`. -/
def parseRuleTarget (text : TargetText) (input : String) : Except TargetInputError RuleTarget :=
  let value := trim input.toList
  if value.isEmpty then .error .empty
  else if value = ['*'] then .ok .any
  else if '*' ∈ value then .error .unsupported
  else
    match text.parseAddress value with
    | some address => .ok (.ip address)
    | none =>
      match text.parseNetwork value with
      | some network => .ok (.cidr network.trunc)
      | none =>
        if badDomain (stripDot value) then .error .invalid
        else .ok (.domain (String.ofList ((stripDot value).map Char.toLower)))

/-- `target_text`. -/
def targetText (text : TargetText) : RuleTarget → String
  | .any => "*"
  | .domain value | .wildcardDomain value => value
  | .ip value => String.ofList (text.printAddress value)
  | .cidr value => String.ofList (text.printNetwork value)
  | .servicePack value => String.ofList (text.debugServicePack value)

/-! ## Domains -/

/-- A label: 1 to 63 letters, digits or inner hyphens. -/
structure IsLabel (label : List Char) : Prop where
  length_pos : 1 ≤ label.length
  length_le : label.length ≤ 63
  chars : ∀ c ∈ label, c.isAlphanum = true ∨ c = '-'
  head : label.head? ≠ some '-'
  last : label.getLast? ≠ some '-'

/-- A domain: at most 253 characters of labels between dots, and not only digits. -/
structure IsDomain (domain : List Char) : Prop where
  length_le : domain.length ≤ 253
  labels : ∀ label ∈ domain.splitOn '.', IsLabel label
  named : ∃ c ∈ domain, c.isDigit = false ∧ c ≠ '.'

/-- A label takes as many bytes as it has characters. -/
theorem byteLength_eq_length {s : List Char} (h : ∀ c ∈ s, c.utf8Size = 1) :
    byteLength s = s.length := by
  rw [byteLength, List.map_congr_left h]
  simp

theorem utf8Size_of_isAlphanum {c : Char} (h : c.isAlphanum = true) : c.utf8Size = 1 := by
  have hle : c.val ≤ 127 := by
    simp only [Char.isAlphanum, Char.isAlpha, Char.isUpper, Char.isLower, Char.isDigit,
      Bool.or_eq_true, Bool.and_eq_true, decide_eq_true_eq, ge_iff_le, UInt32.le_iff_toNat_le] at h ⊢
    rcases h with (⟨_, h⟩ | ⟨_, h⟩) | ⟨_, h⟩
    · exact h.trans (by decide)
    · exact h.trans (by decide)
    · exact h.trans (by decide)
  rw [Char.utf8Size]
  exact if_pos hle

theorem badLabel_eq_false {label : List Char} : badLabel label = false ↔ IsLabel label := by
  have hlength (h : ∀ c ∈ label, c.isAlphanum = true ∨ c = '-') :
      byteLength label = label.length := by
    refine byteLength_eq_length fun c hc => ?_
    rcases h c hc with h | rfl
    · exact utf8Size_of_isAlphanum h
    · rfl
  simp only [badLabel, Bool.or_eq_false_iff, List.isEmpty_eq_false_iff, decide_eq_false_iff_not,
    not_lt, beq_eq_false_iff_ne, Bool.not_eq_false', List.all_eq_true, Bool.or_eq_true, beq_iff_eq]
  constructor
  · rintro ⟨⟨⟨⟨hne, hle⟩, hhead⟩, hlast⟩, hchars⟩
    exact ⟨List.length_pos_iff.2 hne, hlength hchars ▸ hle, hchars, hhead, hlast⟩
  · intro h
    exact ⟨⟨⟨⟨List.length_pos_iff.1 h.length_pos, (hlength h.chars).le.trans h.length_le⟩, h.head⟩,
      h.last⟩, h.chars⟩

/-- A map that leaves the separators where they are maps the labels. -/
theorem splitOn_map {separator : Char} {f : Char → Char} (hf : ∀ c, f c = separator ↔ c = separator)
    (s : List Char) : (s.map f).splitOn separator = (s.splitOn separator).map (List.map f) := by
  induction s with
  | nil => rfl
  | cons c rest ih =>
    rw [List.map_cons, List.splitOn_cons_eq_if_modifyHead, List.splitOn_cons_eq_if_modifyHead, ih]
    by_cases hc : c = separator
    · rw [if_pos (by simpa using (hf c).2 hc), if_pos (by simpa using hc)]
      rfl
    · rw [if_neg (by simpa using fun h => hc ((hf c).1 h)), if_neg (by simpa using hc)]
      cases rest.splitOn separator <;> rfl

section Domains

variable {domain : List Char}

theorem chars_of_labels (h : ∀ label ∈ domain.splitOn '.', IsLabel label) :
    ∀ c ∈ domain, c = '.' ∨ c.isAlphanum = true ∨ c = '-' := by
  intro c hc
  refine (mem_splitOn hc).imp_right ?_
  rintro ⟨label, hlabel, hc⟩
  exact (h label hlabel).chars c hc

theorem badDomain_eq_false : badDomain domain = false ↔ IsDomain domain := by
  have hlength (h : ∀ label ∈ domain.splitOn '.', IsLabel label) :
      byteLength domain = domain.length := by
    refine byteLength_eq_length fun c hc => ?_
    rcases chars_of_labels h c hc with rfl | h | rfl
    · rfl
    · exact utf8Size_of_isAlphanum h
    · rfl
  have hlabels : (domain.splitOn '.').any badLabel = false ↔
      ∀ label ∈ domain.splitOn '.', IsLabel label := by
    simp [List.any_eq_false, badLabel_eq_false]
  have hnamed : domain.all (fun c => c.isDigit || c == '.') = false ↔
      ∃ c ∈ domain, c.isDigit = false ∧ c ≠ '.' := by
    simp [List.all_eq_false]
  simp only [badDomain, Bool.or_eq_false_iff, hlabels, hnamed, decide_eq_false_iff_not, not_lt]
  constructor
  · rintro ⟨⟨⟨hle, -⟩, hnamed⟩, hlabels⟩
    exact ⟨hlength hlabels ▸ hle, hlabels, hnamed⟩
  · intro h
    obtain ⟨c, hc, -⟩ := h.named
    refine ⟨⟨⟨(hlength h.labels).le.trans h.length_le, ?_⟩, h.named⟩, h.labels⟩
    cases domain with
    | nil => exact absurd hc List.not_mem_nil
    | cons => rfl

/-- A domain does not end in a dot. -/
theorem IsDomain.last (h : IsDomain domain) : domain.getLast? ≠ some '.' := by
  intro hlast
  obtain ⟨before, rfl⟩ := List.getLast?_eq_some_iff.1 hlast
  have hempty : ([] : List Char) ∈ (before ++ ['.']).splitOn '.' := by
    rw [List.splitOn_append_cons_self]
    simp
  exact absurd (h.labels [] hempty).length_pos (by simp)

theorem IsDomain.stripDot (h : IsDomain domain) : RouteLane.stripDot domain = domain :=
  if_neg h.last

/-- One trailing dot goes. -/
theorem stripDot_append (s : List Char) : stripDot (s ++ ['.']) = s := by
  rw [stripDot, if_pos (by simp), List.dropLast_concat]

/-- What is left without its trailing dot is the text itself or the text but for a dot. -/
theorem eq_stripDot (s : List Char) : s = stripDot s ∨ s = stripDot s ++ ['.'] := by
  rw [stripDot]
  split
  · next hlast =>
    obtain ⟨before, rfl⟩ := List.getLast?_eq_some_iff.1 hlast
    rw [List.dropLast_concat]
    exact Or.inr rfl
  · exact Or.inl rfl

end Domains

/-! ## Lowercase -/

theorem isDigit_toLower (c : Char) : c.toLower.isDigit = c.isDigit := by
  by_cases hc : c.isUpper = true
  · simp only [Char.isDigit, Char.toLower]
    split <;> grind [UInt32.toNat_add, Char.toNat_val]
  · rw [Char.toLower_eq_of_not_isUpper hc]

theorem isAlphanum_toLower (c : Char) : c.toLower.isAlphanum = c.isAlphanum := by
  rw [Char.isAlphanum, Char.isAlphanum, Char.isAlpha_toLower_eq_isAlpha, isDigit_toLower]

/-- A character that is no letter is the lowercase of itself only. -/
theorem toLower_eq_iff {c d : Char} (hd : d.isAlpha = false) : c.toLower = d ↔ c = d := by
  have hfixed {c : Char} (hc : c.isAlpha = false) : c.toLower = c := by
    refine Char.toLower_eq_of_not_isUpper ?_
    rw [Char.isAlpha, Bool.or_eq_false_iff] at hc
    simp [hc.1]
  constructor
  · intro h
    have hc : c.isAlpha = false := by rw [← Char.isAlpha_toLower_eq_isAlpha, h, hd]
    rw [← h, hfixed hc]
  · rintro rfl
    exact hfixed hd

theorem IsLabel.map_toLower {label : List Char} (h : IsLabel label) :
    IsLabel (label.map Char.toLower) where
  length_pos := by simpa using h.length_pos
  length_le := by simpa using h.length_le
  chars := by
    intro c hc
    obtain ⟨d, hd, rfl⟩ := List.mem_map.1 hc
    rw [isAlphanum_toLower, toLower_eq_iff rfl]
    exact h.chars d hd
  head := by
    intro hhead
    rw [List.head?_map, Option.map_eq_some_iff] at hhead
    obtain ⟨c, hc, heq⟩ := hhead
    exact h.head (hc.trans (congrArg some ((toLower_eq_iff rfl).1 heq)))
  last := by
    intro hlast
    rw [List.getLast?_map, Option.map_eq_some_iff] at hlast
    obtain ⟨c, hc, heq⟩ := hlast
    exact h.last (hc.trans (congrArg some ((toLower_eq_iff rfl).1 heq)))

/-- A domain in lowercase is a domain. -/
theorem IsDomain.map_toLower {domain : List Char} (h : IsDomain domain) :
    IsDomain (domain.map Char.toLower) where
  length_le := by simpa using h.length_le
  labels := by
    intro label hlabel
    rw [splitOn_map fun c => toLower_eq_iff rfl] at hlabel
    obtain ⟨original, horiginal, rfl⟩ := List.mem_map.1 hlabel
    exact (h.labels original horiginal).map_toLower
  named := by
    obtain ⟨c, hc, hdigit, hdot⟩ := h.named
    refine ⟨c.toLower, List.mem_map_of_mem hc, ?_, ?_⟩
    · rw [isDigit_toLower, hdigit]
    · rwa [Ne, toLower_eq_iff rfl]

/-! ## Whitespace -/

theorem isWhitespace_of_range {c : Char} (h : 33 ≤ c.toNat) (h' : c.toNat ≤ 126) :
    isWhitespace c = false := by
  simp only [isWhitespace, Bool.or_eq_false_iff, Bool.and_eq_false_iff, decide_eq_false_iff_not,
    beq_eq_false_iff_ne]
  omega

theorem isWhitespace_of_isAlphanum {c : Char} (h : c.isAlphanum = true) :
    isWhitespace c = false := by
  simp only [Char.isAlphanum, Char.isAlpha, Char.isUpper, Char.isLower, Char.isDigit,
    Bool.or_eq_true, Bool.and_eq_true, decide_eq_true_eq, ge_iff_le, UInt32.le_iff_toNat_le] at h
  have hrange : 48 ≤ c.val.toNat ∧ c.val.toNat ≤ 122 := by
    rcases h with (⟨h, h'⟩ | ⟨h, h'⟩) | ⟨h, h'⟩
    · have : 'A'.val.toNat = 65 ∧ 'Z'.val.toNat = 90 := by decide
      exact ⟨by omega, by omega⟩
    · have : 'a'.val.toNat = 97 ∧ 'z'.val.toNat = 122 := by decide
      exact ⟨by omega, by omega⟩
    · have : '0'.val.toNat = 48 ∧ '9'.val.toNat = 57 := by decide
      exact ⟨by omega, by omega⟩
  exact isWhitespace_of_range (le_trans (by decide) hrange.1) (le_trans hrange.2 (by decide))

theorem isAlphanum_of_isHexDigit {c : Char} (h : c.isHexDigit = true) : c.isAlphanum = true := by
  simp only [Char.isHexDigit, Char.isAlphanum, Char.isAlpha, Char.isUpper, Char.isLower,
    Bool.or_eq_true, Bool.and_eq_true, decide_eq_true_eq, ge_iff_le] at h ⊢
  rcases h with (h | ⟨h, h'⟩) | ⟨h, h'⟩
  · exact Or.inr h
  · exact Or.inl (Or.inr ⟨h, UInt32.le_trans h' (by decide)⟩)
  · exact Or.inl (Or.inl ⟨h, UInt32.le_trans h' (by decide)⟩)

theorem isWhitespace_of_isAddressChar {c : Char} (h : isAddressChar c = true) :
    isWhitespace c = false := by
  rw [isAddressChar, Bool.or_eq_true, Bool.or_eq_true, beq_iff_eq, beq_iff_eq] at h
  rcases h with (h | rfl) | rfl
  · exact isWhitespace_of_isAlphanum (isAlphanum_of_isHexDigit h)
  · rfl
  · rfl

/-! ## Networks without host bits -/

theorem NetOf.trunc_trunc {w : ℕ} (n : NetOf w) : n.trunc.trunc = n.trunc := by
  have hbits : n.trunc.bits n.trunc.addr = n.bits n.addr := by
    show n.network.toNat / 2 ^ (w - n.prefixLen) = n.bits n.addr
    rw [NetOf.toNat_network, Nat.mul_div_cancel _ (by positivity)]
  have hnetwork : n.trunc.network = n.network := by
    rw [NetOf.network, hbits]
    rfl
  show ({ n with addr := n.trunc.network } : NetOf w) = { n with addr := n.network }
  rw [hnetwork]

theorem IpNet.trunc_trunc (network : IpNet) : network.trunc.trunc = network.trunc := by
  cases network with
  | v4 n => exact congrArg IpNet.v4 n.trunc_trunc
  | v6 n => exact congrArg IpNet.v6 n.trunc_trunc

/-! ## What the editor reads -/

/-- A text and the target it stands for. -/
inductive Reads (text : TargetText) : List Char → RuleTarget → Prop
  | any : Reads text ['*'] .any
  | ip {s : List Char} {address : IpAddr} (h : text.parseAddress s = some address) :
      Reads text s (.ip address)
  | cidr {s : List Char} {network : IpNet} (h : text.parseNetwork s = some network) :
      Reads text s (.cidr network.trunc)
  | domain {s : List Char} (h : IsDomain s) :
      Reads text s (.domain (String.ofList (s.map Char.toLower)))
  | dotted {s : List Char} (h : IsDomain s) :
      Reads text (s ++ ['.']) (.domain (String.ofList (s.map Char.toLower)))

section Reading

variable {text : TargetText} {s : List Char} {t : RuleTarget}

theorem IsDomain.chars (h : IsDomain s) : ∀ c ∈ s ++ ['.'], c = '.' ∨ c.isAlphanum = true ∨ c = '-' := by
  intro c hc
  rcases List.mem_append.1 hc with hc | hc
  · exact chars_of_labels h.labels c hc
  · exact Or.inl (List.mem_singleton.1 hc)

theorem IsDomain.not_whitespace (h : IsDomain s) : ∀ c ∈ s, isWhitespace c = false := by
  intro c hc
  rcases chars_of_labels h.labels c hc with rfl | h | rfl
  · rfl
  · exact isWhitespace_of_isAlphanum h
  · rfl

/-- A domain, with its trailing dot or without, is neither an address nor a network. -/
theorem IsDomain.not_network (text : TargetText) {value : List Char} (h : IsDomain s)
    (hvalue : value = s ∨ value = s ++ ['.']) :
    value ≠ [] ∧ '*' ∉ value ∧ text.parseAddress value = none ∧ text.parseNetwork value = none := by
  have hsub : ∀ c ∈ s, c ∈ value := by
    intro c hc
    rcases hvalue with rfl | rfl
    · exact hc
    · exact List.mem_append_left _ hc
  have hchars : ∀ c ∈ value, c = '.' ∨ c.isAlphanum = true ∨ c = '-' := by
    intro c hc
    rcases hvalue with rfl | rfl
    · exact h.chars c (List.mem_append_left _ hc)
    · exact h.chars c hc
  have hother : ∀ c ∈ value, c ≠ '*' ∧ c ≠ ':' ∧ c ≠ '/' := by
    intro c hc
    rcases hchars c hc with rfl | h | rfl
    · decide
    · refine ⟨?_, ?_, ?_⟩ <;> rintro rfl <;> exact absurd h (by decide)
    · decide
  obtain ⟨named, hnamed, hdigit, hdot⟩ := h.named
  refine ⟨List.ne_nil_of_mem (hsub named hnamed), fun hstar => (hother '*' hstar).1 rfl, ?_, ?_⟩
  · cases haddress : text.parseAddress value with
    | none => rfl
    | some address =>
      rcases text.kind_of_address haddress with hv4 | hv6
      · rcases hv4 named (hsub named hnamed) with hd | hd
        · exact absurd hd (by simp [hdigit])
        · exact absurd hd hdot
      · exact absurd rfl (hother ':' hv6).2.1
  · cases hnetwork : text.parseNetwork value with
    | none => rfl
    | some network => exact absurd rfl (hother '/' (text.slash_of_network hnetwork)).2.2

/-- The four grammars take no text in common. -/
theorem parseRuleTarget_eq_ok {input : String} :
    parseRuleTarget text input = .ok t ↔ Reads text (trim input.toList) t := by
  generalize hvalue : trim input.toList = value
  simp only [parseRuleTarget, hvalue]
  constructor
  · intro h
    split at h
    · cases h
    split at h
    · next hstar => cases h; rw [hstar]; exact .any
    split at h
    · cases h
    split at h
    · next haddress => cases h; exact .ip haddress
    split at h
    · next hnetwork => cases h; exact .cidr hnetwork
    split at h
    · cases h
    · next hbad =>
      cases h
      have hdomain := badDomain_eq_false.1 (Bool.not_eq_true _ ▸ hbad)
      rcases eq_stripDot value with heq | heq
      · rw [← heq] at hdomain ⊢
        exact .domain hdomain
      · rw [heq, stripDot_append]
        exact .dotted hdomain
  · intro h
    cases h with
    | any => rfl
    | @ip _ address haddress =>
      have hne : value ≠ [] := by
        rintro rfl
        rw [text.parseAddress_nil] at haddress
        cases haddress
      have hstar : '*' ∉ value := fun hc => absurd (text.chars_of_address haddress _ hc) (by decide)
      rw [if_neg (by simp [hne]), if_neg (fun heq => hstar (by simp [heq])), if_neg hstar,
        haddress]
    | @cidr _ network hnetwork =>
      have hslash := text.slash_of_network hnetwork
      have hstar : '*' ∉ value :=
        fun hc => absurd (text.chars_of_network hnetwork _ hc) (by decide)
      have haddress : text.parseAddress value = none := by
        cases haddress : text.parseAddress value with
        | none => rfl
        | some address => exact absurd (text.chars_of_address haddress _ hslash) (by decide)
      rw [if_neg (by simp [List.ne_nil_of_mem hslash]),
        if_neg (fun heq => hstar (by simp [heq])), if_neg hstar, haddress, hnetwork]
    | domain hdomain =>
      obtain ⟨hne, hstar, haddress, hnetwork⟩ := hdomain.not_network text (Or.inl rfl)
      rw [if_neg (by simpa using hne), if_neg (fun heq => hstar (by simp [heq])), if_neg hstar,
        haddress, hnetwork, hdomain.stripDot, badDomain_eq_false.2 hdomain]
      rfl
    | @dotted s hdomain =>
      obtain ⟨hne, hstar, haddress, hnetwork⟩ := hdomain.not_network text (Or.inr rfl)
      rw [if_neg (by simp), if_neg (fun heq => hstar (by simp [heq])), if_neg hstar,
        haddress, hnetwork, stripDot_append, badDomain_eq_false.2 hdomain]
      rfl

theorem Reads.normalized (h : Reads text s t) : t.normalized = t := by
  have hdomain {s : List Char} (h : IsDomain s) :
      RuleTarget.normalized (.domain (String.ofList (s.map Char.toLower))) =
        .domain (String.ofList (s.map Char.toLower)) := by
    have hlower := h.map_toLower
    have hdots : trimEndMatches (· == '.') (s.map Char.toLower) = s.map Char.toLower :=
      trimEndMatches_of_last fun c hc => by
        have hne : c ≠ '.' := fun heq => hlower.last (heq ▸ hc)
        simpa using hne
    rw [RuleTarget.normalized, String.toList_ofList, trim_eq_self (hlower.not_whitespace), hdots,
      List.map_map]
    simp [Function.comp_def]
  cases h with
  | any => rfl
  | ip => rfl
  | cidr => rw [RuleTarget.normalized, IpNet.trunc_trunc]
  | domain h => exact hdomain h
  | dotted h => exact hdomain h

/-- What is printed stands for the target it was printed from, untrimmed. -/
theorem Reads.printed (h : Reads text s t) : Reads text (trim (targetText text t).toList) t := by
  have hdomain {s : List Char} (h : IsDomain s) :
      Reads text (trim (String.ofList (s.map Char.toLower)).toList)
        (.domain (String.ofList (s.map Char.toLower))) := by
    have hlower := h.map_toLower
    have hreads : Reads text _ _ := .domain hlower
    rw [String.toList_ofList, trim_eq_self hlower.not_whitespace]
    simpa [Function.comp_def] using hreads
  cases h with
  | any =>
    have hstar : trim (targetText text .any).toList = ['*'] := by rw [targetText]; decide
    rw [hstar]
    exact .any
  | @ip _ address haddress =>
    have hprinted := text.parse_printAddress address
    have htrim : trim (text.printAddress address) = text.printAddress address :=
      trim_eq_self fun c hc => isWhitespace_of_isAddressChar (text.chars_of_address hprinted c hc)
    rw [targetText, String.toList_ofList, htrim]
    exact .ip hprinted
  | @cidr _ network hnetwork =>
    have hprinted := text.parse_printNetwork network.trunc
    have htrim : trim (text.printNetwork network.trunc) = text.printNetwork network.trunc := by
      refine trim_eq_self fun c hc => ?_
      rcases text.chars_of_network hprinted c hc with h | rfl
      · exact isWhitespace_of_isAddressChar h
      · rfl
    rw [targetText, String.toList_ofList, htrim]
    have hreads := Reads.cidr hprinted
    rwa [IpNet.trunc_trunc] at hreads
  | domain h => exact hdomain h
  | dotted h => exact hdomain h

end Reading

/-- A target the editor reads is in normal form and is read back from its own text; and
what the editor reads is, but for surrounding whitespace, a star, an address, a network or a
domain. -/
theorem parseRuleTarget_roundTrip (text : TargetText) :
    (∀ input t, parseRuleTarget text input = .ok t →
      parseRuleTarget text (targetText text t) = .ok t ∧ t.normalized = t) ∧
    ∀ input, (∃ t, parseRuleTarget text input = .ok t) ↔
      trim input.toList = ['*'] ∨
      (∃ address, text.parseAddress (trim input.toList) = some address) ∨
      (∃ network, text.parseNetwork (trim input.toList) = some network) ∨
      ∃ domain, IsDomain domain ∧
        (trim input.toList = domain ∨ trim input.toList = domain ++ ['.']) := by
  refine ⟨?_, ?_⟩
  · intro input t h
    have hreads := parseRuleTarget_eq_ok.1 h
    exact ⟨parseRuleTarget_eq_ok.2 hreads.printed, hreads.normalized⟩
  · intro input
    simp only [parseRuleTarget_eq_ok]
    generalize trim input.toList = value
    constructor
    · rintro ⟨t, h⟩
      cases h with
      | any => exact Or.inl rfl
      | ip h => exact Or.inr (Or.inl ⟨_, h⟩)
      | cidr h => exact Or.inr (Or.inr (Or.inl ⟨_, h⟩))
      | domain h => exact Or.inr (Or.inr (Or.inr ⟨_, h, Or.inl rfl⟩))
      | dotted h => exact Or.inr (Or.inr (Or.inr ⟨_, h, Or.inr rfl⟩))
    · rintro (rfl | ⟨address, h⟩ | ⟨network, h⟩ | ⟨domain, h, rfl | rfl⟩)
      · exact ⟨_, .any⟩
      · exact ⟨_, .ip h⟩
      · exact ⟨_, .cidr h⟩
      · exact ⟨_, .domain h⟩
      · exact ⟨_, .dotted h⟩

/-- Addresses printed as numbers: enough for texts without addresses. -/
def TargetText.numbers : TargetText where
  toNetworkText := .numbers
  debugServicePack id := ("ServicePackId(\"" ++ id ++ "\")").toList

/-- A domain is read in lowercase and without its trailing dot, and so read back. -/
theorem parseRuleTarget_roundTrip_domain :
    parseRuleTarget .numbers " Claude.AI. " = .ok (.domain "claude.ai") ∧
      parseRuleTarget .numbers (targetText .numbers (.domain "claude.ai")) =
        .ok (.domain "claude.ai") ∧
      RuleTarget.normalized (.domain "claude.ai") = .domain "claude.ai" := by
  have hread : parseRuleTarget .numbers " Claude.AI. " = .ok (.domain "claude.ai") := by decide
  exact ⟨hread, (parseRuleTarget_roundTrip .numbers).1 _ _ hread⟩

end RouteLane
