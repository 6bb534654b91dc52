import RouteLane.Net.Address

/-!
# Addresses and networks as text

The standard library and `ipnet` read and print addresses and networks.  What the rest relies
on is that they read back what they print, and which characters tell the texts apart.
-/

namespace RouteLane

/-- The characters of an address. -/
def isAddressChar (c : Char) : Bool := c.isHexDigit || c == '.' || c == ':'

/-- How the standard library and `ipnet` read and print addresses and networks.  What is
printed is read back; an IPv4 address is made of digits and dots, an IPv6 address has a
colon, a network a slash. -/
structure NetworkText where
  parseAddress : List Char → Option IpAddr
  printAddress : IpAddr → List Char
  parseNetwork : List Char → Option IpNet
  printNetwork : IpNet → List Char
  parse_printAddress : ∀ address, parseAddress (printAddress address) = some address
  parse_printNetwork : ∀ network, parseNetwork (printNetwork network) = some network
  parseAddress_nil : parseAddress [] = none
  chars_of_address : ∀ {s address}, parseAddress s = some address →
    ∀ c ∈ s, isAddressChar c = true
  kind_of_address : ∀ {s address}, parseAddress s = some address →
    (∀ c ∈ s, c.isDigit = true ∨ c = '.') ∨ ':' ∈ s
  slash_of_network : ∀ {s network}, parseNetwork s = some network → '/' ∈ s
  chars_of_network : ∀ {s network}, parseNetwork s = some network →
    ∀ c ∈ s, isAddressChar c = true ∨ c = '/'

/-! ## Separators -/

/-- Every character is a separator or belongs to a label. -/
theorem mem_splitOn {separator c : Char} {s : List Char} (h : c ∈ s) :
    c = separator ∨ ∃ label ∈ s.splitOn separator, c ∈ label := by
  induction s with
  | nil => exact absurd h List.not_mem_nil
  | cons d rest ih =>
    rw [List.splitOn_cons_eq_if_modifyHead]
    by_cases hd : d = separator
    · subst hd
      rw [if_pos (by simp)]
      rcases List.mem_cons.1 h with rfl | h
      · exact Or.inl rfl
      · refine (ih h).imp_right ?_
        rintro ⟨label, hlabel, hc⟩
        exact ⟨label, List.mem_cons_of_mem _ hlabel, hc⟩
    · rw [if_neg (by simpa using hd)]
      obtain ⟨first, others, hsplit⟩ := List.exists_cons_of_ne_nil (List.splitOn_ne_nil separator rest)
      rw [hsplit] at ih ⊢
      rcases List.mem_cons.1 h with rfl | h
      · exact Or.inr ⟨c :: first, List.mem_cons_self, List.mem_cons_self⟩
      · refine (ih h).imp_right ?_
        rintro ⟨label, hlabel, hc⟩
        rcases List.mem_cons.1 hlabel with rfl | hlabel
        · exact ⟨d :: label, List.mem_cons_self, List.mem_cons_of_mem _ hc⟩
        · exact ⟨label, List.mem_cons_of_mem _ hlabel, hc⟩

/-! ## Addresses as numbers -/

/-- A number in decimal. -/
def readNumber (digits : List Char) : Option ℕ :=
  if digits ≠ [] ∧ digits.all Char.isDigit then (String.ofList digits).toNat? else none

theorem readNumber_repr (n : ℕ) : readNumber n.repr.toList = some n := by
  have hdigits : n.repr.toList.all Char.isDigit = true := by
    rw [List.all_eq_true, Nat.toList_repr]
    exact fun c hc => Nat.isDigit_of_mem_toDigits (by decide) (by decide) hc
  have hne : n.repr.toList ≠ [] := by
    rw [Nat.toList_repr]
    exact Nat.toDigits_ne_nil
  rw [readNumber, if_pos ⟨hne, hdigits⟩, String.ofList_toList, Nat.toNat?_repr]

theorem isDigit_of_readNumber {digits : List Char} {n : ℕ} (h : readNumber digits = some n) :
    ∀ c ∈ digits, c.isDigit = true := by
  rw [readNumber] at h
  split at h
  · next hdigits => exact List.all_eq_true.1 hdigits.2
  · cases h

namespace Numbers

def printAddress : IpAddr → List Char
  | .v4 address => address.toNat.repr.toList
  | .v6 address => ':' :: address.toNat.repr.toList

def parseAddress : List Char → Option IpAddr
  | ':' :: digits => (readNumber digits).map fun n => .v6 (.ofNat 128 n)
  | digits => (readNumber digits).map fun n => .v4 (.ofNat 32 n)

def printNetwork : IpNet → List Char
  | .v4 n => printAddress (.v4 n.addr) ++ '/' :: n.prefixLen.repr.toList
  | .v6 n => printAddress (.v6 n.addr) ++ '/' :: n.prefixLen.repr.toList

def network (n : ℕ) : IpAddr → Option IpNet
  | .v4 address => if h : n ≤ 32 then some (.v4 ⟨address, n, h⟩) else none
  | .v6 address => if h : n ≤ 128 then some (.v6 ⟨address, n, h⟩) else none

def parseNetwork (s : List Char) : Option IpNet :=
  match s.splitOn '/' with
  | [address, digits] => (parseAddress address).bind fun a => (readNumber digits).bind (network · a)
  | _ => none

theorem parseAddress_eq_some {s : List Char} {address : IpAddr}
    (h : parseAddress s = some address) :
    (∀ c ∈ s, c.isDigit = true) ∨ ∃ digits, s = ':' :: digits ∧ ∀ c ∈ digits, c.isDigit = true := by
  rw [parseAddress.eq_def] at h
  split at h
  · obtain ⟨n, hn, -⟩ := Option.map_eq_some_iff.1 h
    exact Or.inr ⟨_, rfl, isDigit_of_readNumber hn⟩
  · obtain ⟨n, hn, -⟩ := Option.map_eq_some_iff.1 h
    exact Or.inl (isDigit_of_readNumber hn)

theorem parse_printAddress (address : IpAddr) : parseAddress (printAddress address) = some address := by
  cases address with
  | v4 address =>
    have hdigit : ∀ digits, address.toNat.repr.toList ≠ ':' :: digits := by
      intro digits heq
      have hcolon := isDigit_of_readNumber (readNumber_repr address.toNat) ':' (by rw [heq]; simp)
      exact absurd hcolon (by decide)
    rw [printAddress, parseAddress.eq_def]
    split
    · next heq => exact absurd heq (hdigit _)
    · rw [readNumber_repr]
      simp
  | v6 address =>
    rw [printAddress, parseAddress, readNumber_repr]
    simp

theorem isAddressChar_of_isDigit {c : Char} (h : c.isDigit = true) : isAddressChar c = true := by
  simp [isAddressChar, Char.isHexDigit, h]

theorem chars_of_address {s : List Char} {address : IpAddr} (h : parseAddress s = some address) :
    ∀ c ∈ s, isAddressChar c = true := by
  intro c hc
  rcases parseAddress_eq_some h with hdigits | ⟨digits, rfl, hdigits⟩
  · exact isAddressChar_of_isDigit (hdigits c hc)
  · rcases List.mem_cons.1 hc with rfl | hc
    · rfl
    · exact isAddressChar_of_isDigit (hdigits c hc)

theorem parseNetwork_eq_some {s : List Char} {net : IpNet} (h : parseNetwork s = some net) :
    ∃ address digits, s.splitOn '/' = [address, digits] ∧
      (∀ c ∈ address, isAddressChar c = true) ∧ ∀ c ∈ digits, c.isDigit = true := by
  rw [parseNetwork] at h
  split at h
  · next address digits hsplit =>
    obtain ⟨a, ha, h⟩ := Option.bind_eq_some_iff.1 h
    obtain ⟨n, hn, -⟩ := Option.bind_eq_some_iff.1 h
    exact ⟨address, digits, hsplit, chars_of_address ha, isDigit_of_readNumber hn⟩
  · cases h

theorem splitOn_network {address digits : List Char} (ha : ∀ c ∈ address, isAddressChar c = true)
    (hd : ∀ c ∈ digits, c.isDigit = true) :
    (address ++ '/' :: digits).splitOn '/' = [address, digits] := by
  rw [List.splitOn_append_cons_self,
    List.splitOn_eq_singleton fun hc => absurd (ha '/' hc) (by decide),
    List.splitOn_eq_singleton fun hc => absurd (hd '/' hc) (by decide)]
  rfl

theorem parse_printNetwork (net : IpNet) : parseNetwork (printNetwork net) = some net := by
  have hread (address : IpAddr) (n : ℕ) :
      parseNetwork (printAddress address ++ '/' :: n.repr.toList) = network n address := by
    rw [parseNetwork, splitOn_network (chars_of_address (parse_printAddress address))
      (isDigit_of_readNumber (readNumber_repr n))]
    simp only [parse_printAddress, readNumber_repr, Option.bind_some]
  cases net with
  | v4 n =>
    rw [printNetwork, hread]
    exact dif_pos n.prefixLen_le
  | v6 n =>
    rw [printNetwork, hread]
    exact dif_pos n.prefixLen_le

end Numbers

/-- Addresses printed as numbers: enough for texts without addresses. -/
def NetworkText.numbers : NetworkText where
  parseAddress := Numbers.parseAddress
  printAddress := Numbers.printAddress
  parseNetwork := Numbers.parseNetwork
  printNetwork := Numbers.printNetwork
  parse_printAddress := Numbers.parse_printAddress
  parse_printNetwork := Numbers.parse_printNetwork
  parseAddress_nil := by decide
  chars_of_address := Numbers.chars_of_address
  kind_of_address h := by
    rcases Numbers.parseAddress_eq_some h with hdigits | ⟨digits, rfl, -⟩
    · exact Or.inl fun c hc => Or.inl (hdigits c hc)
    · exact Or.inr List.mem_cons_self
  slash_of_network {s net} h := by
    obtain ⟨address, digits, hsplit, -⟩ := Numbers.parseNetwork_eq_some h
    by_contra hslash
    rw [List.splitOn_eq_singleton hslash] at hsplit
    simp at hsplit
  chars_of_network {s net} h := by
    obtain ⟨address, digits, hsplit, haddress, hdigits⟩ := Numbers.parseNetwork_eq_some h
    intro c hc
    have hslash : c = '/' ∨ ∃ label ∈ s.splitOn '/', c ∈ label := mem_splitOn hc
    rcases hslash with rfl | ⟨label, hlabel, hc⟩
    · exact Or.inr rfl
    · rw [hsplit] at hlabel
      simp only [List.mem_cons, List.not_mem_nil, or_false] at hlabel
      rcases hlabel with rfl | rfl
      · exact Or.inl (haddress c hc)
      · exact Or.inl (Numbers.isAddressChar_of_isDigit (hdigits c hc))

end RouteLane
