import Mathlib.Data.List.Nodup
import Mathlib.Data.List.Perm.Basic

/-!
# Records with keys

A list of records is edited by key: the first record with a key is changed, or a record
takes the place of the one with its key.  Where no key comes twice, the one is a map and the
other leaves the records with other keys as they are.
-/

namespace Records

variable {α κ : Type} [DecidableEq κ] {key : α → κ}

/-! ## Changing one record -/

/-- The first record with the key is changed. -/
def modifyFirst (key : α → κ) (k : κ) (f : α → α) : List α → List α
  | [] => []
  | a :: rest => if key a = k then f a :: rest else a :: modifyFirst key k f rest

/-- The one record with the key is changed. -/
theorem modifyFirst_eq_map {l : List α} (h : (l.map key).Nodup) (k : κ) (f : α → α) :
    modifyFirst key k f l = l.map fun a => if key a = k then f a else a := by
  induction l with
  | nil => rfl
  | cons a rest ih =>
    rw [List.map_cons, List.nodup_cons] at h
    rw [modifyFirst, List.map_cons]
    by_cases ha : key a = k
    · have hrest : rest.map (fun b => if key b = k then f b else b) = rest := by
        refine (List.map_congr_left fun b hb => if_neg ?_).trans (List.map_id' rest)
        intro heq
        exact h.1 (List.mem_map.2 ⟨b, hb, heq.trans ha.symm⟩)
      rw [if_pos ha, if_pos ha, hrest]
    · rw [if_neg ha, if_neg ha, ih h.2]

/-- What a change leaves alone in each record it leaves alone in the list. -/
theorem map_modifyFirst {β : Type} {g : α → β} {f : α → α} (hf : ∀ a, g (f a) = g a) (k : κ)
    (l : List α) : (modifyFirst key k f l).map g = l.map g := by
  induction l with
  | nil => rfl
  | cons a rest ih =>
    rw [modifyFirst]
    split
    · rw [List.map_cons, List.map_cons, hf]
    · rw [List.map_cons, List.map_cons, ih]

/-! ## Putting one record -/

/-- The record takes the place of the first with its key, or else the last. -/
def upsert (key : α → κ) (a : α) : List α → List α
  | [] => [a]
  | b :: rest => if key b = key a then a :: rest else b :: upsert key a rest

variable {a b : α} {l : List α}

/-- The record and the records with other keys, in some order. -/
theorem upsert_perm (h : (l.map key).Nodup) :
    (upsert key a l).Perm (a :: l.filter fun b => key b ≠ key a) := by
  induction l with
  | nil => exact List.Perm.refl _
  | cons b rest ih =>
    rw [List.map_cons, List.nodup_cons] at h
    rw [upsert]
    by_cases hkey : key b = key a
    · have hrest : rest.filter (fun c => key c ≠ key a) = rest := by
        rw [List.filter_eq_self]
        intro c hc
        have hne : key c ≠ key a := fun heq =>
          h.1 (List.mem_map.2 ⟨c, hc, heq.trans hkey.symm⟩)
        simpa using hne
      rw [if_pos hkey, List.filter_cons_of_neg (by simpa using hkey), hrest]
    · rw [if_neg hkey, List.filter_cons_of_pos (by simpa using hkey)]
      exact ((ih h.2).cons b).trans (List.Perm.swap a b _)

theorem length_upsert_le : (upsert key a l).length ≤ l.length + 1 := by
  induction l with
  | nil => simp [upsert]
  | cons b rest ih =>
    rw [upsert]
    split
    · simp
    · simpa using ih

theorem mem_upsert (h : (l.map key).Nodup) : b ∈ upsert key a l ↔ b = a ∨ b ∈ l ∧ key b ≠ key a := by
  rw [(upsert_perm h).mem_iff, List.mem_cons, List.mem_filter, decide_eq_true_eq]

theorem nodup_map_key_upsert (h : (l.map key).Nodup) : ((upsert key a l).map key).Nodup := by
  rw [((upsert_perm h).map key).nodup_iff, List.map_cons, List.nodup_cons]
  refine ⟨?_, (List.filter_sublist.map key).nodup h⟩
  intro hmem
  obtain ⟨b, hb, heq⟩ := List.mem_map.1 hmem
  exact absurd heq (by simpa using (List.mem_filter.1 hb).2)

/-- Another column stays without repeats when no record with another key has the new
record's value in it. -/
theorem nodup_map_upsert_iff {β : Type} {g : α → β} (h : (l.map key).Nodup)
    (hg : (l.map g).Nodup) :
    ((upsert key a l).map g).Nodup ↔ ∀ b ∈ l, key b ≠ key a → g b ≠ g a := by
  rw [((upsert_perm h).map g).nodup_iff, List.map_cons, List.nodup_cons,
    and_iff_left ((List.filter_sublist.map g).nodup hg)]
  constructor
  · intro hnew b hb hne heq
    refine hnew (List.mem_map.2 ⟨b, List.mem_filter.2 ⟨hb, ?_⟩, heq⟩)
    simpa using hne
  · intro hnew hmem
    obtain ⟨b, hb, heq⟩ := List.mem_map.1 hmem
    obtain ⟨hb, hne⟩ := List.mem_filter.1 hb
    exact hnew b hb (by simpa using hne) heq

end Records
