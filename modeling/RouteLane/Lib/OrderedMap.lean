import Mathlib

/-!
# Ordered maps

A finite map as the sorted list of its entries, the way a B-tree map iterates
over itself.  Sortedness is a field, so two maps with the same entries are the
same map, and a lookup can never meet a key twice.
-/

/-- A finite map whose entries are listed in increasing key order. -/
structure OrderedMap (κ α : Type) [LinearOrder κ] where
  entries : List (κ × α)
  sorted : entries.Pairwise fun a b => a.1 < b.1

namespace OrderedMap

variable {κ α : Type} [LinearOrder κ]

instance [DecidableEq α] : DecidableEq (OrderedMap κ α) := fun a b =>
  decidable_of_iff (a.entries = b.entries) (by cases a; cases b; simp)

/-- The map without entries. -/
def empty : OrderedMap κ α := ⟨[], List.Pairwise.nil⟩

/-- The value stored under a key. -/
def find? (m : OrderedMap κ α) (k : κ) : Option α := m.entries.lookup k

/-- The values in key order. -/
def values (m : OrderedMap κ α) : List α := m.entries.map Prod.snd

/-- Insertion into a sorted list of entries, replacing the entry under the key. -/
def insertEntry (k : κ) (v : α) : List (κ × α) → List (κ × α)
  | [] => [(k, v)]
  | (k', v') :: rest =>
    if k < k' then (k, v) :: (k', v') :: rest
    else if k = k' then (k, v) :: rest
    else (k', v') :: insertEntry k v rest

theorem mem_insertEntry {k : κ} {v : α} {l : List (κ × α)} {p : κ × α}
    (h : p ∈ insertEntry k v l) : p = (k, v) ∨ p ∈ l := by
  induction l with
  | nil => simpa [insertEntry] using h
  | cons q rest ih =>
    obtain ⟨k', v'⟩ := q
    rw [insertEntry] at h
    split at h
    · simpa using h
    · split at h
      · rcases List.mem_cons.1 h with h | h
        · exact Or.inl h
        · exact Or.inr (List.mem_cons_of_mem _ h)
      · rcases List.mem_cons.1 h with h | h
        · exact Or.inr (by simp [h])
        · rcases ih h with h | h
          · exact Or.inl h
          · exact Or.inr (List.mem_cons_of_mem _ h)

theorem sorted_insertEntry {k : κ} {v : α} {l : List (κ × α)}
    (h : l.Pairwise fun a b => a.1 < b.1) :
    (insertEntry k v l).Pairwise fun a b => a.1 < b.1 := by
  induction l with
  | nil => simp [insertEntry]
  | cons q rest ih =>
    obtain ⟨k', v'⟩ := q
    obtain ⟨hhead, hrest⟩ := List.pairwise_cons.1 h
    rw [insertEntry]
    split
    · rename_i hlt
      refine List.pairwise_cons.2 ⟨?_, h⟩
      intro p hp
      rcases List.mem_cons.1 hp with rfl | hp
      · exact hlt
      · exact lt_trans hlt (hhead p hp)
    · rename_i hnlt
      split
      · rename_i heq
        exact List.pairwise_cons.2 ⟨fun p hp => heq ▸ hhead p hp, hrest⟩
      · rename_i hne
        refine List.pairwise_cons.2 ⟨?_, ih hrest⟩
        intro p hp
        rcases mem_insertEntry hp with rfl | hp
        · exact lt_of_le_of_ne (not_lt.1 hnlt) (Ne.symm hne)
        · exact hhead p hp

/-- Store a value under a key, replacing what was there. -/
def insert (m : OrderedMap κ α) (k : κ) (v : α) : OrderedMap κ α :=
  ⟨insertEntry k v m.entries, sorted_insertEntry m.sorted⟩

/-- Keep the entries that satisfy a test. -/
def retain (m : OrderedMap κ α) (p : κ → α → Bool) : OrderedMap κ α :=
  ⟨m.entries.filter fun e => p e.1 e.2, m.sorted.sublist List.filter_sublist⟩

/-- Change every value, whatever its key. -/
def mapValues {β : Type} (m : OrderedMap κ α) (f : α → β) : OrderedMap κ β :=
  ⟨m.entries.map fun e => (e.1, f e.2), m.sorted.map _ fun _ _ h => h⟩

/-- The map of a list of entries; the last entry under a key wins. -/
def ofList (l : List (κ × α)) : OrderedMap κ α := l.foldl (fun m e => m.insert e.1 e.2) empty

@[simp] theorem find?_empty (k : κ) : (empty : OrderedMap κ α).find? k = none := rfl

theorem lookup_cons_entry (x : κ) (e : κ × α) (l : List (κ × α)) :
    (e :: l).lookup x = if x = e.1 then some e.2 else l.lookup x := by
  obtain ⟨k, v⟩ := e
  rw [List.lookup_cons]
  by_cases hx : x = k
  · simp [hx]
  · simp [hx, beq_eq_false_iff_ne.2 hx]

theorem lookup_insertEntry (k : κ) (v : α) (l : List (κ × α)) (x : κ) :
    (insertEntry k v l).lookup x = if x = k then some v else l.lookup x := by
  induction l with
  | nil => rw [insertEntry, lookup_cons_entry]
  | cons q rest ih =>
    obtain ⟨k', v'⟩ := q
    rw [insertEntry]
    split
    · rw [lookup_cons_entry]
    · split
      · rename_i heq
        subst heq
        rw [lookup_cons_entry, lookup_cons_entry]
        by_cases hx : x = k <;> simp [hx]
      · rename_i hne
        rw [lookup_cons_entry, lookup_cons_entry, ih]
        by_cases hk : x = k'
        · subst hk
          simp [Ne.symm hne]
        · simp [hk]

/-- A lookup sees the last value stored under its key and nothing else. -/
theorem find?_insert (m : OrderedMap κ α) (k : κ) (v : α) (x : κ) :
    (m.insert k v).find? x = if x = k then some v else m.find? x :=
  lookup_insertEntry k v m.entries x

theorem lookup_map_snd {β : Type} (f : α → β) (l : List (κ × α)) (x : κ) :
    (l.map fun e => (e.1, f e.2)).lookup x = (l.lookup x).map f := by
  induction l with
  | nil => rfl
  | cons e rest ih =>
    rw [List.map_cons, lookup_cons_entry, lookup_cons_entry, ih]
    by_cases hx : x = e.1 <;> simp [hx]

@[simp] theorem find?_mapValues {β : Type} (m : OrderedMap κ α) (f : α → β) (x : κ) :
    (m.mapValues f).find? x = (m.find? x).map f :=
  lookup_map_snd f m.entries x

theorem lookup_eq_none_of_lt {l : List (κ × α)} {k : κ} (h : ∀ e ∈ l, k < e.1) :
    l.lookup k = none := by
  rw [List.lookup_eq_none_iff]
  intro e he
  rw [bne_iff_ne]
  exact (h e he).ne

theorem lookup_filter (p : κ → α → Bool) {l : List (κ × α)}
    (hsorted : l.Pairwise fun a b => a.1 < b.1) (k : κ) :
    (l.filter fun e => p e.1 e.2).lookup k = (l.lookup k).filter (p k) := by
  induction l with
  | nil => rfl
  | cons e rest ih =>
    obtain ⟨hhead, hrest⟩ := List.pairwise_cons.1 hsorted
    rw [List.filter_cons, lookup_cons_entry]
    by_cases hk : k = e.1
    · subst hk
      -- an entry dropped leaves no other under its key
      have hnone : rest.lookup e.1 = none := lookup_eq_none_of_lt hhead
      cases hp : p e.1 e.2 with
      | true => simp [lookup_cons_entry, Option.filter, hp]
      | false => simp [ih hrest, hnone, Option.filter, hp]
    · cases hp : p e.1 e.2 with
      | true => simp [lookup_cons_entry, hk, ih hrest]
      | false => simp [hk, ih hrest]

/-- What is found among the entries kept is what was there before, if it was kept. -/
theorem find?_retain (m : OrderedMap κ α) (p : κ → α → Bool) (k : κ) :
    (m.retain p).find? k = (m.find? k).filter (p k) := lookup_filter p m.sorted k

theorem length_insertEntry {k : κ} (v : α) {l : List (κ × α)} (h : l.lookup k = none) :
    (insertEntry k v l).length = l.length + 1 := by
  induction l with
  | nil => rfl
  | cons q rest ih =>
    obtain ⟨k', v'⟩ := q
    rw [lookup_cons_entry] at h
    split at h
    · exact absurd h (by simp)
    · rename_i hne
      rw [insertEntry]
      split
      · rfl
      · rw [List.length_cons, ih h, List.length_cons]

theorem find?_foldl_insert (l : List (κ × α)) (m : OrderedMap κ α) (x : κ)
    (hnd : (l.map Prod.fst).Nodup) :
    (l.foldl (fun m e => m.insert e.1 e.2) m).find? x = (l.lookup x).or (m.find? x) := by
  induction l generalizing m with
  | nil => rfl
  | cons e rest ih =>
    obtain ⟨k, v⟩ := e
    rw [List.map_cons, List.nodup_cons] at hnd
    rw [List.foldl_cons, ih _ hnd.2, find?_insert, lookup_cons_entry]
    by_cases hx : x = k
    · subst hx
      have hnone : rest.lookup x = none := by
        rw [List.lookup_eq_none_iff]
        rintro ⟨k', v'⟩ hp
        rw [bne_iff_ne]
        rintro rfl
        exact hnd.1 (List.mem_map.2 ⟨_, hp, rfl⟩)
      simp [hnone]
    · simp [hx]

/-- With distinct keys, the map of a list looks keys up as the list does. -/
theorem find?_ofList {l : List (κ × α)} (hnd : (l.map Prod.fst).Nodup) (x : κ) :
    (ofList l).find? x = l.lookup x := by
  rw [ofList, find?_foldl_insert l empty x hnd]
  simp

theorem mem_of_find?_foldl_insert {x : κ} {v : α} :
    ∀ {l : List (κ × α)} {m : OrderedMap κ α},
      (l.foldl (fun m e => m.insert e.1 e.2) m).find? x = some v →
      (x, v) ∈ l ∨ m.find? x = some v := by
  intro l
  induction l with
  | nil => intro m h; exact Or.inr h
  | cons e rest ih =>
    intro m h
    rcases ih h with hmem | hfind
    · exact Or.inl (List.mem_cons_of_mem _ hmem)
    · rw [find?_insert] at hfind
      split at hfind
      · rename_i hx
        obtain rfl := Option.some.inj hfind
        exact Or.inl (by rw [hx]; exact List.mem_cons_self)
      · exact Or.inr hfind

/-- What the map of a list holds is in the list. -/
theorem mem_of_find?_ofList {l : List (κ × α)} {x : κ} {v : α} (h : (ofList l).find? x = some v) :
    (x, v) ∈ l :=
  (mem_of_find?_foldl_insert h).resolve_right (by simp)

theorem length_foldl_insert (l : List (κ × α)) (m : OrderedMap κ α)
    (hnd : (l.map Prod.fst).Nodup) (hfresh : ∀ e ∈ l, m.find? e.1 = none) :
    (l.foldl (fun m e => m.insert e.1 e.2) m).entries.length = m.entries.length + l.length := by
  induction l generalizing m with
  | nil => rfl
  | cons e rest ih =>
    rw [List.map_cons, List.nodup_cons] at hnd
    have hlen : (m.insert e.1 e.2).entries.length = m.entries.length + 1 :=
      length_insertEntry e.2 (hfresh e List.mem_cons_self)
    rw [List.foldl_cons, ih _ hnd.2, hlen, List.length_cons]
    · omega
    · intro e' he'
      have hne : e'.1 ≠ e.1 := by
        intro heq
        exact hnd.1 (List.mem_map.2 ⟨e', he', heq⟩)
      rw [find?_insert, if_neg hne]
      exact hfresh e' (List.mem_cons_of_mem _ he')

/-- With distinct keys, the map of a list has as many entries as the list. -/
theorem length_ofList {l : List (κ × α)} (hnd : (l.map Prod.fst).Nodup) :
    (ofList l).entries.length = l.length := by
  rw [ofList, length_foldl_insert l empty hnd (fun e _ => find?_empty e.1)]
  simp [empty]

/-- With distinct keys, the map of a list of keyed values looks a key up as a search
of the list for the value with that key does. -/
theorem find?_ofList_keyed {key : α → κ} {l : List α} (hnd : (l.map key).Nodup) (x : κ) :
    (ofList (l.map fun a => (key a, a))).find? x = l.find? fun a => key a == x := by
  rw [find?_ofList (by simpa [Function.comp_def] using hnd)]
  clear hnd
  induction l with
  | nil => rfl
  | cons a rest ih =>
    rw [List.map_cons, lookup_cons_entry, ih, List.find?_cons]
    by_cases hx : x = key a
    · simp [hx]
    · simp [hx, beq_eq_false_iff_ne.2 (Ne.symm hx)]

/-! ## Equal lookups -/

theorem lookup_eq_some_iff {l : List (κ × α)} (h : l.Pairwise fun a b => a.1 < b.1) {k : κ}
    {v : α} : l.lookup k = some v ↔ (k, v) ∈ l := by
  induction l with
  | nil => simp
  | cons e rest ih =>
    obtain ⟨hhead, hrest⟩ := List.pairwise_cons.1 h
    obtain ⟨k', v'⟩ := e
    rw [lookup_cons_entry, List.mem_cons, Prod.mk.injEq]
    by_cases hk : k = k'
    · subst hk
      have hfresh : (k, v) ∉ rest := fun hmem => (hhead _ hmem).false
      simp [hfresh, eq_comm]
    · simp [hk, ih hrest]

theorem find?_eq_some_iff {m : OrderedMap κ α} {k : κ} {v : α} :
    m.find? k = some v ↔ (k, v) ∈ m.entries := lookup_eq_some_iff m.sorted

theorem mem_values_iff {m : OrderedMap κ α} {v : α} : v ∈ m.values ↔ ∃ k, m.find? k = some v := by
  simp only [values, find?_eq_some_iff, List.mem_map]
  constructor
  · rintro ⟨⟨k, v'⟩, hmem, rfl⟩
    exact ⟨k, hmem⟩
  · intro ⟨k, hmem⟩
    exact ⟨(k, v), hmem, rfl⟩

/-- Maps that find the same under every key are the same. -/
theorem ext_find? {m m' : OrderedMap κ α} (h : ∀ k, m.find? k = m'.find? k) : m = m' := by
  have hnodup {l : List (κ × α)} (hsorted : l.Pairwise fun a b => a.1 < b.1) : l.Nodup := by
    refine List.Pairwise.imp ?_ hsorted
    rintro a _ hab rfl
    exact hab.false
  have hperm : m.entries.Perm m'.entries := by
    refine (List.perm_ext_iff_of_nodup (hnodup m.sorted) (hnodup m'.sorted)).2 ?_
    rintro ⟨k, v⟩
    rw [← find?_eq_some_iff, ← find?_eq_some_iff, h]
  have hentries : m.entries = m'.entries :=
    hperm.eq_of_pairwise (fun a b _ _ hab hba => absurd hab hba.asymm) m.sorted m'.sorted
  cases m
  cases m'
  simpa using hentries

end OrderedMap
