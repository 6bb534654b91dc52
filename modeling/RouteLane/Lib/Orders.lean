import RouteLane.Lib.FirstMatch

/-!
# Orders written as numbers

A list whose elements are sorted by a number is put into another order by numbering its
elements anew.  Two places of an order can be swapped, and swapped back.
-/

namespace Orders

variable {α κ : Type}

/-! ## Swapping two places -/

/-- `slice::swap` of two places of the list. -/
def swapAt (l : List α) (i j : ℕ) : List α :=
  if h : i < l.length ∧ j < l.length then (l.set i l[j]).set j l[i] else l

theorem swapAt_of_lt {l : List α} {i j : ℕ} (hi : i < l.length) (hj : j < l.length) :
    swapAt l i j = (l.set i l[j]).set j l[i] :=
  dif_pos ⟨hi, hj⟩

theorem swapAt_perm (l : List α) (i j : ℕ) : (swapAt l i j).Perm l := by
  by_cases h : i < l.length ∧ j < l.length
  · rw [swapAt_of_lt h.1 h.2]
    exact List.set_set_perm h.1 h.2
  · rw [swapAt, dif_neg h]

@[simp] theorem length_swapAt (l : List α) (i j : ℕ) : (swapAt l i j).length = l.length :=
  (swapAt_perm l i j).length_eq

theorem getElem?_swapAt {l : List α} {i j : ℕ} (hi : i < l.length) (hj : j < l.length) (k : ℕ) :
    (swapAt l i j)[k]? = if j = k then l[i]? else if i = k then l[j]? else l[k]? := by
  rw [swapAt_of_lt hi hj, List.getElem?_set, List.getElem?_set, List.length_set]
  by_cases hjk : j = k
  · subst hjk
    simp [hi, hj]
  · by_cases hik : i = k
    · subst hik
      simp [hjk, hi, hj]
    · simp [hjk, hik]

/-- What was at the one place is at the other. -/
theorem getElem?_swapAt_right {l : List α} {i j : ℕ} (hi : i < l.length) (hj : j < l.length) :
    (swapAt l i j)[j]? = l[i]? := by
  rw [getElem?_swapAt hi hj, if_pos rfl]

/-- Swapping back restores the list. -/
theorem swapAt_swapAt {l : List α} {i j : ℕ} (hi : i < l.length) (hj : j < l.length) :
    swapAt (swapAt l i j) j i = l := by
  refine List.ext_getElem? fun k => ?_
  rw [getElem?_swapAt (by simpa using hj) (by simpa using hi), getElem?_swapAt hi hj,
    getElem?_swapAt hi hj, getElem?_swapAt hi hj]
  by_cases hik : i = k
  · subst hik
    simp
  · by_cases hjk : j = k
    · subst hjk
      simp [hik, Ne.symm hik]
    · simp [hik, hjk]

theorem map_swapAt {β : Type} (f : α → β) (l : List α) (i j : ℕ) :
    (swapAt l i j).map f = swapAt (l.map f) i j := by
  by_cases h : i < l.length ∧ j < l.length
  · rw [swapAt_of_lt h.1 h.2, swapAt_of_lt (by simpa using h.1) (by simpa using h.2)]
    simp
  · rw [swapAt, dif_neg h, swapAt, dif_neg (by simpa using h)]

/-! ## Numbering -/

/-- In a list without repeats the first place of a value is its only one. -/
theorem findIdx?_eq_some_iff [DecidableEq κ] {order : List κ} (h : order.Nodup) {k : κ} {i : ℕ} :
    order.findIdx? (fun other => other == k) = some i ↔ order[i]? = some k := by
  rw [List.findIdx?_eq_some_iff_getElem, List.getElem?_eq_some_iff]
  constructor
  · rintro ⟨hi, hk, -⟩
    exact ⟨hi, by simpa using hk⟩
  · rintro ⟨hi, hk⟩
    refine ⟨hi, by simp [hk], ?_⟩
    intro j hji hj
    have heq : order[j] = order[i] := by simpa [hk] using hj
    exact absurd ((h.getElem_inj_iff).1 heq) (by omega)

/-- The places of the elements of a list without repeats rise along the list. -/
theorem pairwise_idxOf [DecidableEq κ] {order : List κ} (h : order.Nodup) :
    order.Pairwise fun a b => order.idxOf a < order.idxOf b := by
  rw [List.pairwise_iff_getElem]
  intro i j hi hj hij
  rw [h.idxOf_getElem i hi, h.idxOf_getElem j hj]
  exact hij

/-- A list sorted by the places of its keys in an order comes out in that order. -/
theorem map_insertionSort_eq [DecidableEq κ] {r : α → α → Prop} [DecidableRel r] [Std.Total r]
    [IsTrans α r] {key : α → κ} {l : List α} {order : List κ} (horder : order.Nodup)
    (hkeys : (l.map key).Perm order)
    (hr : ∀ a ∈ l, ∀ b ∈ l, r a b → order.idxOf (key a) ≤ order.idxOf (key b)) :
    (l.insertionSort r).map key = order := by
  have hperm : ((l.insertionSort r).map key).Perm order :=
    ((List.perm_insertionSort r l).map key).trans hkeys
  have hle : ((l.insertionSort r).map key).Pairwise
      fun a b => order.idxOf a ≤ order.idxOf b := by
    rw [List.pairwise_map]
    refine (List.pairwise_insertionSort r l).imp_of_mem ?_
    intro a b ha hb hab
    exact hr a ((List.mem_insertionSort r).1 ha) b ((List.mem_insertionSort r).1 hb) hab
  have hlt : ((l.insertionSort r).map key).Pairwise
      fun a b => order.idxOf a < order.idxOf b := by
    have hne : ((l.insertionSort r).map key).Pairwise (· ≠ ·) := hperm.nodup_iff.2 horder
    refine (hle.and hne).imp_of_mem ?_
    rintro a b ha - ⟨hab, hne⟩
    refine lt_of_le_of_ne hab fun heq => hne ?_
    exact (List.idxOf_inj (hperm.mem_iff.1 ha)).1 heq
  exact FirstMatch.eq_of_rising hlt (pairwise_idxOf horder) fun a => hperm.mem_iff

end Orders
