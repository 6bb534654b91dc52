import RouteLane.Lib.Fallible

/-!
# Places in a document

A place of a document is something that may be there, and that can be replaced without
touching the rest.  What is done at a place, or at every element of a list found there, can
fail, can be undone, can be done twice: each of these is a fact about the elements.
-/

/-- A part of `σ` that may be there.  What is put there is found there, and nothing else
changes. -/
structure Place (σ α : Type) where
  get? : σ → Option α
  put : σ → α → σ
  get?_put : ∀ {s a} b, get? s = some a → get? (put s b) = some b
  put_get? : ∀ {s a}, get? s = some a → put s a = s
  put_put : ∀ {s a} b c, get? s = some a → put (put s b) c = put s c

namespace Place

open Fallible

variable {σ α β ε : Type}

/-- A place of what is at a place. -/
def comp (p : Place σ α) (q : Place α β) : Place σ β where
  get? s := (p.get? s).bind q.get?
  put s b :=
    match p.get? s with
    | some a => p.put s (q.put a b)
    | none => s
  get?_put {s b} b' h := by
    obtain ⟨a, ha, hb⟩ := Option.bind_eq_some_iff.1 h
    simp only [ha]
    rw [p.get?_put _ ha, Option.bind_some, q.get?_put b' hb]
  put_get? {s b} h := by
    obtain ⟨a, ha, hb⟩ := Option.bind_eq_some_iff.1 h
    simp only [ha]
    rw [q.put_get? hb, p.put_get? ha]
  put_put {s b} b' c h := by
    obtain ⟨a, ha, hb⟩ := Option.bind_eq_some_iff.1 h
    simp only [ha]
    rw [p.get?_put _ ha]
    simp only
    rw [p.put_put _ _ ha, q.put_put b' c hb]

/-- Change what is at a place. -/
def map (p : Place σ α) (f : α → α) (s : σ) : σ :=
  match p.get? s with
  | some a => p.put s (f a)
  | none => s

/-- Change what is at a place, or fail. -/
def mapM (p : Place σ α) (f : α → Except ε α) (s : σ) : Except ε σ :=
  match p.get? s with
  | some a => (f a).map (p.put s)
  | none => .ok s

variable {p : Place σ α} {f : α → Except ε α} {g : α → α} {s s' : σ} {a : α}

theorem map_eq (h : p.get? s = some a) : p.map g s = p.put s (g a) := by
  unfold map
  rw [h]

theorem map_eq_self (h : p.get? s = none) : p.map g s = s := by
  unfold map
  rw [h]

theorem mapM_eq_ok : p.mapM f s = .ok s' ↔
    (p.get? s = none ∧ s' = s) ∨ ∃ a b, p.get? s = some a ∧ f a = .ok b ∧ s' = p.put s b := by
  unfold mapM
  cases hs : p.get? s with
  | none => simp [eq_comm]
  | some a =>
    cases hf : f a with
    | error e => simp [Except.map, hf]
    | ok b => simp [Except.map, hf, eq_comm]

/-- What is undone at the place is undone. -/
theorem mapM_map (h : ∀ a, p.get? s = some a → f (g a) = .ok a) :
    p.mapM f (p.map g s) = .ok s := by
  rw [mapM_eq_ok]
  cases hs : p.get? s with
  | none => exact Or.inl ⟨by rw [map_eq_self hs, hs], (map_eq_self hs).symm⟩
  | some a =>
    rw [map_eq hs]
    refine Or.inr ⟨g a, a, p.get?_put _ hs, h a hs, ?_⟩
    rw [p.put_put _ _ hs, p.put_get? hs]

/-- What is the same at the place before and after is the same. -/
theorem map_of_mapM (hs' : p.mapM f s = .ok s')
    (h : ∀ a b, p.get? s = some a → f a = .ok b → g b = g a) : p.map g s' = p.map g s := by
  rcases mapM_eq_ok.1 hs' with ⟨-, rfl⟩ | ⟨a, b, hs, hb, rfl⟩
  · rfl
  · rw [map_eq (p.get?_put b hs), map_eq hs, p.put_put _ _ hs, h a b hs hb]

/-- What changes nothing any more at the place changes nothing any more. -/
theorem mapM_of_mapM (hs' : p.mapM f s = .ok s')
    (h : ∀ a b, p.get? s = some a → f a = .ok b → f b = .ok b) : p.mapM f s' = .ok s' := by
  rw [mapM_eq_ok]
  rcases mapM_eq_ok.1 hs' with ⟨hs, rfl⟩ | ⟨a, b, hs, hb, rfl⟩
  · exact Or.inl ⟨hs, rfl⟩
  · exact Or.inr ⟨b, b, p.get?_put b hs, h a b hs hb, (p.put_put _ _ hs).symm⟩

/-- It works at all only if it works at the place. -/
theorem ok_of_mapM (hs' : p.mapM f s = .ok s') (hs : p.get? s = some a) : ∃ b, f a = .ok b := by
  rcases mapM_eq_ok.1 hs' with ⟨hnone, -⟩ | ⟨a', b, hs', hb, -⟩
  · rw [hs] at hnone
    cases hnone
  · rw [hs] at hs'
    exact ⟨b, Option.some.inj hs' ▸ hb⟩

theorem ok_mapM (h : ∀ a, p.get? s = some a → ∃ b, f a = .ok b) : ∃ s', p.mapM f s = .ok s' := by
  cases hs : p.get? s with
  | none => exact ⟨s, mapM_eq_ok.2 (Or.inl ⟨hs, rfl⟩)⟩
  | some a =>
    obtain ⟨b, hb⟩ := h a hs
    exact ⟨p.put s b, mapM_eq_ok.2 (Or.inr ⟨a, b, hs, hb, rfl⟩)⟩

end Place

/-! ## Every element of a list -/

namespace Fallible

section Elements

variable {α β ε : Type} {f : α → Except ε β} {l : List α} {l' : List β}

theorem mapM_cons_eq_ok {a : α} : (a :: l).mapM f = .ok l' ↔
    ∃ b bs, f a = .ok b ∧ l.mapM f = .ok bs ∧ l' = b :: bs := by
  rw [List.mapM_cons, bind_eq_ok]
  simp only [bind_eq_ok]
  constructor
  · rintro ⟨b, hb, bs, hbs, hl'⟩
    exact ⟨b, bs, hb, hbs, (Except.ok.inj hl').symm⟩
  · rintro ⟨b, bs, hb, hbs, rfl⟩
    exact ⟨b, hb, bs, hbs, rfl⟩

theorem mapM_nil_eq_ok : ([] : List α).mapM f = .ok l' ↔ l' = [] := by
  rw [List.mapM_nil]
  exact ⟨fun h => (Except.ok.inj h).symm, fun h => h ▸ rfl⟩

theorem ok_of_mapM (hl' : l.mapM f = .ok l') {a : α} (ha : a ∈ l) : ∃ b, f a = .ok b := by
  induction l generalizing l' with
  | nil => exact absurd ha List.not_mem_nil
  | cons a' l ih =>
    obtain ⟨b, bs, hb, hbs, -⟩ := mapM_cons_eq_ok.1 hl'
    rcases List.mem_cons.1 ha with rfl | ha
    · exact ⟨b, hb⟩
    · exact ih hbs ha

theorem ok_mapM (h : ∀ a ∈ l, ∃ b, f a = .ok b) : ∃ l', l.mapM f = .ok l' := by
  induction l with
  | nil => exact ⟨[], mapM_nil_eq_ok.2 rfl⟩
  | cons a l ih =>
    obtain ⟨b, hb⟩ := h a List.mem_cons_self
    obtain ⟨bs, hbs⟩ := ih fun a ha => h a (List.mem_cons_of_mem _ ha)
    exact ⟨b :: bs, mapM_cons_eq_ok.2 ⟨b, bs, hb, hbs, rfl⟩⟩

theorem forall_of_mapM {P : β → Prop} (hl' : l.mapM f = .ok l')
    (h : ∀ a ∈ l, ∀ b, f a = .ok b → P b) : ∀ b ∈ l', P b := by
  induction l generalizing l' with
  | nil =>
    rw [mapM_nil_eq_ok.1 hl']
    exact fun b hb => absurd hb List.not_mem_nil
  | cons a l ih =>
    obtain ⟨b, bs, hb, hbs, rfl⟩ := mapM_cons_eq_ok.1 hl'
    exact List.forall_mem_cons.2 ⟨h a List.mem_cons_self b hb,
      ih hbs fun a ha => h a (List.mem_cons_of_mem _ ha)⟩

/-- Elements that are checked and then mapped. -/
theorem mapM_eq_ok_iff {P : α → Prop} {g : α → β}
    (h : ∀ a b, f a = .ok b ↔ P a ∧ b = g a) :
    l.mapM f = .ok l' ↔ (∀ a ∈ l, P a) ∧ l' = l.map g := by
  induction l generalizing l' with
  | nil =>
    rw [mapM_nil_eq_ok]
    simp
  | cons a l ih =>
    rw [mapM_cons_eq_ok, List.forall_mem_cons, List.map_cons]
    constructor
    · rintro ⟨b, bs, hb, hbs, rfl⟩
      obtain ⟨ha, rfl⟩ := (h a b).1 hb
      obtain ⟨hl, rfl⟩ := ih.1 hbs
      exact ⟨⟨ha, hl⟩, rfl⟩
    · rintro ⟨⟨ha, hl⟩, rfl⟩
      exact ⟨_, _, (h a _).2 ⟨ha, rfl⟩, ih.2 ⟨hl, rfl⟩, rfl⟩

/-- What the elements become, one by one. -/
theorem forall₂_of_mapM (h : l.mapM f = .ok l') : List.Forall₂ (fun a b => f a = .ok b) l l' := by
  induction l generalizing l' with
  | nil =>
    rw [mapM_nil_eq_ok.1 h]
    exact .nil
  | cons a l ih =>
    obtain ⟨b, bs, hb, hbs, rfl⟩ := mapM_cons_eq_ok.1 h
    exact .cons hb (ih hbs)

end Elements

variable {α ε : Type} {f : α → Except ε α} {g : α → α} {l l' : List α}

theorem mapM_map (h : ∀ a ∈ l, f (g a) = .ok a) : (l.map g).mapM f = .ok l := by
  induction l with
  | nil => rw [List.map_nil, mapM_nil_eq_ok]
  | cons a l ih =>
    rw [List.map_cons, mapM_cons_eq_ok]
    exact ⟨a, l, h a List.mem_cons_self, ih fun b hb => h b (List.mem_cons_of_mem _ hb), rfl⟩

theorem map_of_mapM (hl' : l.mapM f = .ok l')
    (h : ∀ a ∈ l, ∀ b, f a = .ok b → g b = g a) : l'.map g = l.map g := by
  induction l generalizing l' with
  | nil => rw [mapM_nil_eq_ok.1 hl']
  | cons a l ih =>
    obtain ⟨b, bs, hb, hbs, rfl⟩ := mapM_cons_eq_ok.1 hl'
    rw [List.map_cons, List.map_cons, h a List.mem_cons_self b hb,
      ih hbs fun a ha => h a (List.mem_cons_of_mem _ ha)]

theorem mapM_of_mapM (hl' : l.mapM f = .ok l')
    (h : ∀ a ∈ l, ∀ b, f a = .ok b → f b = .ok b) : l'.mapM f = .ok l' := by
  induction l generalizing l' with
  | nil => rw [mapM_nil_eq_ok.1 hl', mapM_nil_eq_ok]
  | cons a l ih =>
    obtain ⟨b, bs, hb, hbs, rfl⟩ := mapM_cons_eq_ok.1 hl'
    rw [mapM_cons_eq_ok]
    exact ⟨b, bs, h a List.mem_cons_self b hb,
      ih hbs fun a ha => h a (List.mem_cons_of_mem _ ha), rfl⟩

end Fallible
