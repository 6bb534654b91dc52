import Mathlib

/-!
# Addresses and networks

The two address families, addresses of either family, and the CIDR networks the
planner and the nft document are written in.  A network keeps its host bits, as
`ipnet` does: `trunc` is the operation that clears them, and `contains` ignores
them.
-/

namespace RouteLane

/-- An address family, in the order the code iterates over them. -/
inductive IpFamily where
  | v4
  | v6
  deriving DecidableEq, Repr, Ord

/-- `FAMILIES`: every lane owns resources in both families, IPv4 first. -/
def families : List IpFamily := [.v4, .v6]

theorem mem_families (f : IpFamily) : f ∈ families := by cases f <;> decide

abbrev Ipv4Addr := BitVec 32

abbrev Ipv6Addr := BitVec 128

/-- An address of either family. -/
inductive IpAddr where
  | v4 (addr : Ipv4Addr)
  | v6 (addr : Ipv6Addr)
  deriving DecidableEq, Repr, Ord

/-- The family an address belongs to. -/
def IpAddr.family : IpAddr → IpFamily
  | .v4 _ => .v4
  | .v6 _ => .v6

/-! ## Networks -/

/-- A network over `w`-bit addresses: an address, host bits included, and a
prefix length that fits the address. -/
structure NetOf (w : ℕ) where
  addr : BitVec w
  prefixLen : ℕ
  prefixLen_le : prefixLen ≤ w
  deriving DecidableEq, Repr, Ord

namespace NetOf

variable {w : ℕ}

/-- The part of an address a network compares: everything above the host bits. -/
def bits (n : NetOf w) (a : BitVec w) : ℕ := a.toNat / 2 ^ (w - n.prefixLen)

/-- `Ipv4Net::contains` and `Ipv6Net::contains` for an address. -/
def contains (n : NetOf w) (a : BitVec w) : Bool := n.bits a == n.bits n.addr

/-- `network()`: the address with its host bits cleared. -/
def network (n : NetOf w) : BitVec w := BitVec.ofNat w (n.bits n.addr * 2 ^ (w - n.prefixLen))

/-- `trunc()`: the same network written with cleared host bits. -/
def trunc (n : NetOf w) : NetOf w := { n with addr := n.network }

/-- The network of one host. -/
def host (a : BitVec w) : NetOf w := ⟨a, w, le_refl w⟩

theorem toNat_network (n : NetOf w) :
    n.network.toNat = n.bits n.addr * 2 ^ (w - n.prefixLen) := by
  have hle : n.bits n.addr * 2 ^ (w - n.prefixLen) ≤ n.addr.toNat := Nat.div_mul_le_self _ _
  rw [network, BitVec.toNat_ofNat]
  exact Nat.mod_eq_of_lt (lt_of_le_of_lt hle n.addr.isLt)

/-- Clearing the host bits does not change which addresses are inside. -/
@[simp] theorem contains_trunc (n : NetOf w) (a : BitVec w) :
    n.trunc.contains a = n.contains a := by
  have hbits : n.trunc.bits n.trunc.addr = n.bits n.addr := by
    show n.network.toNat / 2 ^ (w - n.prefixLen) = n.bits n.addr
    rw [toNat_network, Nat.mul_div_cancel _ (by positivity)]
  simp only [contains, hbits]
  rfl

@[simp] theorem contains_host (a b : BitVec w) : (host a).contains b = (b == a) := by
  have h : ∀ c : BitVec w, (host a).bits c = c.toNat := fun c => by simp [bits, host]
  rw [contains, h, h, Bool.eq_iff_iff]
  simp [host, BitVec.toNat_inj]

/-- A network that covers the whole address contains only that address. -/
theorem contains_of_full {n : NetOf w} (h : n.prefixLen = w) (a : BitVec w) :
    n.contains a = (a == n.addr) := by
  obtain ⟨addr, len, hle⟩ := n
  obtain rfl : len = w := h
  exact contains_host addr a

end NetOf

/-- `IpNet`: a network of either family. -/
inductive IpNet where
  | v4 (net : NetOf 32)
  | v6 (net : NetOf 128)
  deriving DecidableEq, Repr, Ord

namespace IpNet

/-- The family of a network's addresses. -/
def family : IpNet → IpFamily
  | .v4 _ => .v4
  | .v6 _ => .v6

/-- `prefix_len()`. -/
def prefixLen : IpNet → ℕ
  | .v4 n => n.prefixLen
  | .v6 n => n.prefixLen

/-- `IpNet::trunc`. -/
def trunc : IpNet → IpNet
  | .v4 n => .v4 n.trunc
  | .v6 n => .v6 n.trunc

/-- An address is inside a network when the families agree and the prefix does. -/
def contains : IpNet → IpAddr → Bool
  | .v4 n, .v4 a => n.contains a
  | .v6 n, .v6 a => n.contains a
  | _, _ => false

/-- `IpNet::from(address)`: the network of one host. -/
def ofAddr : IpAddr → IpNet
  | .v4 a => .v4 (.host a)
  | .v6 a => .v6 (.host a)

/-- The derived order of networks: family, then address, then prefix length. -/
def le (a b : IpNet) : Prop := (compare a b).isLE

instance : DecidableRel IpNet.le := fun a b => inferInstanceAs (Decidable ((compare a b).isLE = true))

@[simp] theorem family_trunc (n : IpNet) : n.trunc.family = n.family := by cases n <;> rfl

@[simp] theorem contains_trunc (n : IpNet) (a : IpAddr) : n.trunc.contains a = n.contains a := by
  cases n <;> cases a <;> simp [trunc, contains]

@[simp] theorem contains_ofAddr (a b : IpAddr) : (ofAddr a).contains b = (b == a) := by
  rw [Bool.eq_iff_iff]
  cases a <;> cases b <;> simp [ofAddr, contains]

@[simp] theorem family_ofAddr (a : IpAddr) : (ofAddr a).family = a.family := by cases a <;> rfl

/-- Only addresses of the network's family are inside it. -/
theorem family_of_contains {n : IpNet} {a : IpAddr} (h : n.contains a = true) :
    n.family = a.family := by
  cases n <;> cases a <;> simp_all [contains, family, IpAddr.family]

end IpNet

/-- The derived order of addresses: family, then value. -/
def IpAddr.le (a b : IpAddr) : Prop := (compare a b).isLE

instance : DecidableRel IpAddr.le := fun a b => inferInstanceAs (Decidable ((compare a b).isLE = true))

/-! ## The order of addresses -/

theorem compare_bitVec {w : ℕ} (a b : BitVec w) : compare a b = compare a.toNat b.toNat := by
  rw [Nat.compare_eq_ite_lt]
  show compareOfLessAndEq a b = _
  unfold compareOfLessAndEq
  by_cases hlt : a < b
  · rw [if_pos hlt, if_pos (BitVec.lt_def.1 hlt)]
  · rw [if_neg hlt, if_neg fun h => hlt (BitVec.lt_def.2 h)]
    by_cases heq : a = b
    · simp [heq]
    · have hne : a.toNat ≠ b.toNat := fun h => heq (BitVec.eq_of_toNat_eq h)
      have hgt : b.toNat < a.toNat := by
        have hge : ¬a.toNat < b.toNat := fun h => hlt (BitVec.lt_def.2 h)
        omega
      rw [if_neg heq, if_pos hgt]

/-- What the derived order of addresses compares. -/
def IpAddr.key : IpAddr → ℕ ×ₗ ℕ
  | .v4 a => toLex (0, a.toNat)
  | .v6 a => toLex (1, a.toNat)

theorem IpAddr.le_iff_key {a b : IpAddr} : a.le b ↔ a.key ≤ b.key := by
  cases a with
  | v4 a =>
    cases b with
    | v4 b =>
      show ((compare a b).then .eq).isLE = true ↔ _
      simp [compare_bitVec, Nat.isLE_compare, IpAddr.key, Prod.Lex.toLex_le_toLex]
    | v6 b => simp [IpAddr.key, Prod.Lex.toLex_le_toLex, IpAddr.le, compare, instOrdIpAddr.ord]
  | v6 a =>
    cases b with
    | v4 b => simp [IpAddr.key, Prod.Lex.toLex_le_toLex, IpAddr.le, compare, instOrdIpAddr.ord]
    | v6 b =>
      show ((compare a b).then .eq).isLE = true ↔ _
      simp [compare_bitVec, Nat.isLE_compare, IpAddr.key, Prod.Lex.toLex_le_toLex]

theorem IpAddr.key_injective : Function.Injective IpAddr.key := by
  intro a b h
  cases a <;> cases b <;> simp [IpAddr.key, BitVec.toNat_inj] at h ⊢ <;> exact h

/-- What the derived order of networks compares. -/
def NetOf.key {w : ℕ} (n : NetOf w) : ℕ ×ₗ ℕ := toLex (n.addr.toNat, n.prefixLen)

theorem NetOf.isLE_compare {w : ℕ} (a b : NetOf w) :
    (compare a b).isLE = true ↔ a.key ≤ b.key := by
  show ((compare a.addr b.addr).then ((compare a.prefixLen b.prefixLen).then .eq)).isLE = true ↔ _
  rw [NetOf.key, NetOf.key, Prod.Lex.toLex_le_toLex, compare_bitVec, Ordering.then_eq,
    Ordering.isLE_then_iff_or, Nat.compare_eq_lt, Nat.compare_eq_eq, Nat.isLE_compare]

theorem NetOf.key_injective {w : ℕ} : Function.Injective (NetOf.key (w := w)) := by
  intro a b h
  obtain ⟨a, len, hlen⟩ := a
  obtain ⟨b, len', hlen'⟩ := b
  simp [NetOf.key, BitVec.toNat_inj] at h
  simp [h]

/-- What the derived order of networks compares: family, address, prefix length. -/
def IpNet.key : IpNet → ℕ ×ₗ (ℕ ×ₗ ℕ)
  | .v4 n => toLex (0, n.key)
  | .v6 n => toLex (1, n.key)

theorem IpNet.le_iff_key {a b : IpNet} : a.le b ↔ a.key ≤ b.key := by
  cases a with
  | v4 a =>
    cases b with
    | v4 b =>
      show ((compare a b).then .eq).isLE = true ↔ _
      simp [NetOf.isLE_compare, IpNet.key, Prod.Lex.toLex_le_toLex]
    | v6 b => simp [IpNet.key, Prod.Lex.toLex_le_toLex, IpNet.le, compare, instOrdIpNet.ord]
  | v6 a =>
    cases b with
    | v4 b => simp [IpNet.key, Prod.Lex.toLex_le_toLex, IpNet.le, compare, instOrdIpNet.ord]
    | v6 b =>
      show ((compare a b).then .eq).isLE = true ↔ _
      simp [NetOf.isLE_compare, IpNet.key, Prod.Lex.toLex_le_toLex]

theorem IpNet.key_injective : Function.Injective IpNet.key := by
  intro a b h
  cases a <;> cases b <;> simp [IpNet.key, NetOf.key_injective.eq_iff] at h ⊢ <;> exact h

/-- A value for each family, as `FamilyPair` and the two-element arrays of the
code are. -/
structure FamilyPair (α : Type) where
  v4 : α
  v6 : α
  deriving DecidableEq, Repr

/-- The member of a pair that belongs to a family. -/
def FamilyPair.get {α : Type} (p : FamilyPair α) : IpFamily → α
  | .v4 => p.v4
  | .v6 => p.v6

end RouteLane
