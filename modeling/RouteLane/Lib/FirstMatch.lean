import Mathlib

/-!
# First-match lists

A list read from the front until an entry matches.  The lemmas say what may be
dropped from such a list, or how it may be expanded, without changing which entry
is found: repeats of a key that decides whether an entry matches, adjacent
repeats, and entries spelled out as several.
-/

namespace FirstMatch

variable {α β κ : Type}

/-! ## Dropping repeats -/

/-- Keep an entry when its key has not been seen before: `retain` with a set of
keys that grows as it is asked. -/
def retainNew [DecidableEq κ] (key : α → κ) : List κ → List α → List α
  | _, [] => []
  | seen, a :: rest =>
    if key a ∈ seen then retainNew key seen rest
    else a :: retainNew key (key a :: seen) rest

theorem mem_of_mem_retainNew [DecidableEq κ] {key : α → κ} {a : α} :
    ∀ {l : List α} {seen : List κ}, a ∈ retainNew key seen l → a ∈ l := by
  intro l
  induction l with
  | nil => intro seen h; simp [retainNew] at h
  | cons b rest ih =>
    intro seen h
    rw [retainNew] at h
    split at h
    · exact List.mem_cons_of_mem _ (ih h)
    · rcases List.mem_cons.1 h with rfl | h
      · exact List.mem_cons_self
      · exact List.mem_cons_of_mem _ (ih h)

/-- Kept entries have fresh keys. -/
theorem key_notMem_of_mem_retainNew [DecidableEq κ] {key : α → κ} {a : α} :
    ∀ {l : List α} {seen : List κ}, a ∈ retainNew key seen l → key a ∉ seen := by
  intro l
  induction l with
  | nil => intro seen h; simp [retainNew] at h
  | cons b rest ih =>
    intro seen h
    rw [retainNew] at h
    split at h
    · exact ih h
    · rename_i hb
      rcases List.mem_cons.1 h with rfl | h
      · exact hb
      · exact fun hc => ih h (List.mem_cons_of_mem _ hc)

/-- The kept entries have each key once. -/
theorem nodup_retainNew [DecidableEq κ] {key : α → κ} :
    ∀ {l : List α} {seen : List κ}, ((retainNew key seen l).map key).Nodup := by
  intro l
  induction l with
  | nil => intro seen; simp [retainNew]
  | cons b rest ih =>
    intro seen
    rw [retainNew]
    split
    · exact ih
    · rw [List.map_cons, List.nodup_cons]
      refine ⟨?_, ih⟩
      intro hmem
      obtain ⟨a, ha, heq⟩ := List.mem_map.1 hmem
      exact key_notMem_of_mem_retainNew ha (by simp [heq])

/-- Every key that was not seen before is kept once. -/
theorem mem_map_retainNew [DecidableEq κ] {key : α → κ} {k : κ} :
    ∀ {l : List α} {seen : List κ},
      k ∈ (retainNew key seen l).map key ↔ k ∈ l.map key ∧ k ∉ seen := by
  intro l
  induction l with
  | nil => intro seen; simp [retainNew]
  | cons b rest ih =>
    intro seen
    rw [retainNew]
    by_cases hb : key b ∈ seen
    · rw [if_pos hb, ih, List.map_cons, List.mem_cons]
      refine and_congr_left fun hk => ?_
      have hne : k ≠ key b := fun heq => hk (heq ▸ hb)
      simp [hne]
    · rw [if_neg hb, List.map_cons, List.mem_cons, ih, List.map_cons, List.mem_cons,
        List.mem_cons, not_or]
      by_cases hk : k = key b
      · simp [hk, hb]
      · simp [hk]

/-- As many entries are kept as there are keys. -/
theorem length_retainNew [DecidableEq κ] (key : α → κ) (l : List α) :
    (retainNew key [] l).length = (l.map key).toFinset.card := by
  have hkeys : ((retainNew key [] l).map key).toFinset = (l.map key).toFinset := by
    ext k
    rw [List.mem_toFinset, List.mem_toFinset, mem_map_retainNew]
    simp
  rw [← hkeys, List.toFinset_card_of_nodup nodup_retainNew, List.length_map]

/-- Nothing is lost but repeats. -/
theorem mem_retainNew_id [DecidableEq α] {a : α} :
    ∀ {l : List α} {seen : List α}, a ∈ retainNew id seen l ↔ a ∈ l ∧ a ∉ seen := by
  intro l
  induction l with
  | nil => intro seen; simp [retainNew]
  | cons b rest ih =>
    intro seen
    rw [retainNew, id_eq]
    split
    · next hb =>
      rw [ih, List.mem_cons]
      constructor
      · rintro ⟨ha, hseen⟩
        exact ⟨Or.inr ha, hseen⟩
      · rintro ⟨rfl | ha, hseen⟩
        · exact absurd hb hseen
        · exact ⟨ha, hseen⟩
    · next hb =>
      rw [List.mem_cons, ih, List.mem_cons, List.mem_cons, not_or]
      constructor
      · rintro (rfl | ⟨ha, -, hseen⟩)
        · exact ⟨Or.inl rfl, hb⟩
        · exact ⟨Or.inr ha, hseen⟩
      · rintro ⟨rfl | ha, hseen⟩
        · exact Or.inl rfl
        · by_cases heq : a = b
          · exact Or.inl heq
          · exact Or.inr ⟨ha, heq, hseen⟩

/-- Dropping entries whose key occurred earlier never changes the first match,
when the key decides whether an entry matches and no seen key matches. -/
theorem find?_retainNew [DecidableEq κ] {key : α → κ} {p : α → Bool}
    (hkey : ∀ a b, key a = key b → p a = p b) :
    ∀ {l : List α} {seen : List κ}, (∀ a, key a ∈ seen → p a = false) →
      (retainNew key seen l).find? p = l.find? p := by
  intro l
  induction l with
  | nil => intro seen _; rfl
  | cons b rest ih =>
    intro seen hseen
    rw [retainNew]
    split
    · rename_i hb
      rw [ih hseen, List.find?_cons_of_neg (by simp [hseen b hb])]
    · cases hp : p b with
      | true => rw [List.find?_cons_of_pos hp, List.find?_cons_of_pos hp]
      | false =>
        rw [List.find?_cons_of_neg (by simp [hp]), List.find?_cons_of_neg (by simp [hp])]
        refine ih ?_
        intro a ha
        rcases List.mem_cons.1 ha with heq | ha
        · rw [hkey a b heq, hp]
        · exact hseen a ha

/-- `dedup` of a vector: of neighbours that are equal only the first stays. -/
def dedupAdjacent [DecidableEq α] : List α → List α
  | [] => []
  | [a] => [a]
  | a :: b :: rest => if a = b then dedupAdjacent (b :: rest) else a :: dedupAdjacent (b :: rest)

@[simp] theorem mem_dedupAdjacent [DecidableEq α] {a : α} {l : List α} :
    a ∈ dedupAdjacent l ↔ a ∈ l := by
  induction l using dedupAdjacent.induct with
  | case1 => simp [dedupAdjacent]
  | case2 b => simp [dedupAdjacent]
  | case3 b rest ih => rw [dedupAdjacent, if_pos rfl, ih]; simp
  | case4 b c rest hne ih => rw [dedupAdjacent, if_neg hne, List.mem_cons, ih, ← List.mem_cons]

/-- A sorted vector without its repeats has the same members as the vector. -/
theorem mem_sorted_dedup [DecidableEq α] {r : α → α → Prop} [DecidableRel r] {a : α}
    {l : List α} : a ∈ dedupAdjacent (l.insertionSort r) ↔ a ∈ l := by
  rw [mem_dedupAdjacent, List.mem_insertionSort]

/-! ## Sorting by an injective key -/

section Sorting

variable [LinearOrder κ] {key : α → κ}

/-- Without its repeats a sorted list rises with every element. -/
theorem pairwise_dedupAdjacent [DecidableEq α] (hkey : Function.Injective key) {l : List α}
    (h : l.Pairwise fun a b => key a ≤ key b) :
    (dedupAdjacent l).Pairwise fun a b => key a < key b := by
  induction l using dedupAdjacent.induct with
  | case1 => exact List.Pairwise.nil
  | case2 a => exact List.pairwise_singleton _ a
  | case3 a rest ih =>
    rw [dedupAdjacent, if_pos rfl]
    exact ih (List.pairwise_cons.1 h).2
  | case4 a b rest hne ih =>
    obtain ⟨hhead, htail⟩ := List.pairwise_cons.1 h
    have hlt : key a < key b :=
      lt_of_le_of_ne (hhead b List.mem_cons_self) fun heq => hne (hkey heq)
    rw [dedupAdjacent, if_neg hne]
    refine List.pairwise_cons.2 ⟨?_, ih htail⟩
    intro c hc
    rcases List.mem_cons.1 (mem_dedupAdjacent.1 hc) with rfl | hc
    · exact hlt
    · exact lt_of_lt_of_le hlt ((List.pairwise_cons.1 htail).1 c hc)

/-- Two rising lists with the same members are the same list. -/
theorem eq_of_rising {l l' : List α} (hl : l.Pairwise fun a b => key a < key b)
    (hl' : l'.Pairwise fun a b => key a < key b) (h : ∀ a, a ∈ l ↔ a ∈ l') : l = l' := by
  have hnodup {l : List α} (hl : l.Pairwise fun a b => key a < key b) : l.Nodup :=
    hl.imp fun {a b} hlt heq => (heq ▸ hlt).false
  have hperm : l.Perm l' := (List.perm_ext_iff_of_nodup (hnodup hl) (hnodup hl')).2 h
  exact hperm.eq_of_pairwise (fun a b _ _ hab hba => absurd hab hba.asymm) hl hl'

/-- Sorting by an injective key and dropping repeats leaves nothing of a list but its members. -/
theorem sorted_dedup_congr [DecidableEq α] (hkey : Function.Injective key) {r : α → α → Prop}
    [DecidableRel r] (hr : ∀ {a b}, r a b ↔ key a ≤ key b) {l l' : List α} (h : ∀ a, a ∈ l ↔ a ∈ l') :
    dedupAdjacent (l.insertionSort r) = dedupAdjacent (l'.insertionSort r) := by
  have htotal : Std.Total r := ⟨fun a b => by simpa [hr] using le_total (key a) (key b)⟩
  have htrans : IsTrans α r := ⟨fun a b c hab hbc => hr.2 ((hr.1 hab).trans (hr.1 hbc))⟩
  have hrising (l : List α) :
      (dedupAdjacent (l.insertionSort r)).Pairwise fun a b => key a < key b :=
    pairwise_dedupAdjacent hkey ((List.pairwise_insertionSort r l).imp hr.1)
  exact eq_of_rising (hrising l) (hrising l') fun a => by
    rw [mem_sorted_dedup, mem_sorted_dedup, h]

end Sorting

/-! ## Finding by key -/

/-- With distinct keys, a search for the key of a member finds that member. -/
theorem find?_key_of_mem [DecidableEq κ] {key : α → κ} {l : List α} (hnd : (l.map key).Nodup)
    {a : α} (ha : a ∈ l) : l.find? (fun b => key b == key a) = some a := by
  induction l with
  | nil => exact absurd ha List.not_mem_nil
  | cons b rest ih =>
    rw [List.map_cons, List.nodup_cons] at hnd
    rcases List.mem_cons.1 ha with rfl | ha
    · rw [List.find?_cons_of_pos (by simp)]
    · have hne : key b ≠ key a := by
        intro heq
        exact hnd.1 (List.mem_map.2 ⟨a, ha, heq.symm⟩)
      rw [List.find?_cons_of_neg (by simpa using hne)]
      exact ih hnd.2 ha

/-- With distinct keys, a search for a key and more finds the entry with that key or
nothing. -/
theorem find?_key_and [DecidableEq κ] {key : α → κ} {l : List α} (hnd : (l.map key).Nodup)
    (k : κ) (q : α → Bool) :
    l.find? (fun a => key a == k && q a) = (l.find? fun a => key a == k).filter q := by
  induction l with
  | nil => rfl
  | cons b rest ih =>
    rw [List.map_cons, List.nodup_cons] at hnd
    by_cases hb : key b = k
    · have hrest : rest.find? (fun a => key a == k && q a) = none := by
        rw [List.find?_eq_none]
        intro a ha
        have hne : key a ≠ k := fun heq => hnd.1 (List.mem_map.2 ⟨a, ha, heq.trans hb.symm⟩)
        simp [hne]
      cases hq : q b <;> simp [hb, hq, hrest, Option.filter]
    · have hne : (key b == k) = false := by simpa using hb
      simp only [List.find?_cons, hne, Bool.false_and]
      exact ih hnd.2

/-! ## Expanding entries -/

/-- When every entry expands to nothing that matches or to a matching entry whose
value is known, the first match of the expansion has the value of the first entry
with one. -/
theorem find?_flatMap_value {γ : Type} (f : α → List β) (p : β → Bool) (value : β → γ)
    (spec : α → Option γ) (l : List α)
    (h : ∀ a ∈ l, ((f a).find? p).map value = spec a) :
    ((l.flatMap f).find? p).map value = l.findSome? spec := by
  rw [List.find?_flatMap]
  induction l with
  | nil => rfl
  | cons a rest ih =>
    have ha := h a List.mem_cons_self
    have ih' := ih fun b hb => h b (List.mem_cons_of_mem _ hb)
    rw [List.findSome?_cons, List.findSome?_cons, ← ha]
    cases hf : (f a).find? p with
    | none => simpa using ih'
    | some b => simp

/-- Entries that all have the same value when they match have it together. -/
theorem findSome?_if {γ : Type} (p : α → Bool) (v : Option γ) (l : List α) :
    (l.findSome? fun a => if p a then v else none) = if l.any p then v else none := by
  induction l with
  | nil => rfl
  | cons a rest ih =>
    rw [List.findSome?_cons, ih, List.any_cons]
    cases p a <;> cases v <;> simp

end FirstMatch
