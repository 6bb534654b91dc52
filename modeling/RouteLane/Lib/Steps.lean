import Mathlib

/-!
# Runs of step lists

A machine that executes a list of steps can stop after any of them.  The states it
can be found in are those of the prefixes of the list.  Steps that only take things
away can be run again from any such state: what was taken away already makes no
difference.
-/

namespace Steps

variable {σ α β : Type} (apply : σ → α → σ)

/-- The state a list of steps ends in. -/
def run (s : σ) (l : List α) : σ := l.foldl apply s

@[simp] theorem run_nil (s : σ) : run apply s [] = s := rfl

@[simp] theorem run_cons (s : σ) (x : α) (l : List α) :
    run apply s (x :: l) = run apply (apply s x) l := rfl

@[simp] theorem run_append (s : σ) (l l' : List α) :
    run apply s (l ++ l') = run apply (run apply s l) l' := List.foldl_append

/-- The states before, between and after the steps of a list. -/
def states (s : σ) : List α → List σ
  | [] => [s]
  | x :: l => s :: states (apply s x) l

/-- The states of a list of steps are the ends of its prefixes. -/
theorem mem_states {t : σ} {l : List α} :
    ∀ {s : σ}, t ∈ states apply s l ↔ ∃ pre, pre <+: l ∧ t = run apply s pre := by
  induction l with
  | nil =>
    intro s
    simp [states]
  | cons x l ih =>
    intro s
    rw [states, List.mem_cons, ih]
    constructor
    · rintro (rfl | ⟨pre, hpre, rfl⟩)
      · exact ⟨[], List.nil_prefix, rfl⟩
      · exact ⟨x :: pre, (List.cons_prefix_cons).2 ⟨rfl, hpre⟩, rfl⟩
    · rintro ⟨pre, hpre, rfl⟩
      cases pre with
      | nil => exact Or.inl rfl
      | cons y pre =>
        obtain ⟨rfl, htail⟩ := List.cons_prefix_cons.1 hpre
        exact Or.inr ⟨pre, htail, rfl⟩

/-- The state after one more step is one of the states. -/
theorem run_snoc (s : σ) (l : List α) (x : α) :
    run apply s (l ++ [x]) = apply (run apply s l) x := by
  rw [run_append, run_cons, run_nil]

/-- What no step of a list touches is as it was. -/
theorem run_frame {v : σ → β} {l : List α} :
    ∀ {s : σ}, (∀ x ∈ l, ∀ s, v (apply s x) = v s) → v (run apply s l) = v s := by
  induction l with
  | nil => intro s _; rfl
  | cons x l ih =>
    intro s h
    rw [run_cons, ih fun y hy => h y (List.mem_cons_of_mem _ hy)]
    exact h x List.mem_cons_self s

/-- What every step of a list keeps holds at its end. -/
theorem run_invariant {Inv : σ → Prop} {l : List α} :
    ∀ {s : σ}, (∀ x ∈ l, ∀ s, Inv s → Inv (apply s x)) → Inv s → Inv (run apply s l) := by
  induction l with
  | nil => intro s _ hs; exact hs
  | cons x l ih =>
    intro s h hs
    exact ih (fun y hy => h y (List.mem_cons_of_mem _ hy)) (h x List.mem_cons_self s hs)

/-- What each step extends to one more step holds of the whole list. -/
theorem run_history {I : List α → σ → Prop} {s : σ} (hnil : I [] s)
    (hstep : ∀ pre x s, I pre s → I (pre ++ [x]) (apply s x)) (l : List α) :
    I l (run apply s l) := by
  induction l using List.reverseRecOn with
  | nil => exact hnil
  | append_singleton pre x ih =>
    rw [run_snoc]
    exact hstep pre x _ ih

/-! ## Steps that change something -/

/-- Some step of the list changes the state, and changes it to `t`. -/
def changesTo [DecidableEq σ] (t : σ) : σ → List α → Bool
  | _, [] => false
  | s, x :: l => (apply s x != s && apply s x == t) || changesTo t (apply s x) l

/-- A state is reached by a prefix exactly when it is the first one or the result of a
step that changes something. -/
theorem eq_or_changesTo [DecidableEq σ] {t : σ} {l : List α} :
    ∀ {s : σ}, (s = t ∨ changesTo apply t s l = true) ↔ ∃ pre, pre <+: l ∧ t = run apply s pre := by
  induction l with
  | nil =>
    intro s
    simp [changesTo, eq_comm]
  | cons x l ih =>
    intro s
    have hrest := @ih (apply s x)
    rw [changesTo, Bool.or_eq_true, Bool.and_eq_true, bne_iff_ne, beq_iff_eq]
    constructor
    · rintro (rfl | ⟨-, heq⟩ | hlater)
      · exact ⟨[], List.nil_prefix, rfl⟩
      · exact ⟨[x], ⟨l, rfl⟩, heq.symm⟩
      · obtain ⟨pre, hpre, rfl⟩ := hrest.1 (Or.inr hlater)
        exact ⟨x :: pre, List.cons_prefix_cons.2 ⟨rfl, hpre⟩, rfl⟩
    · rintro ⟨pre, hpre, rfl⟩
      cases pre with
      | nil => exact Or.inl rfl
      | cons y pre =>
        obtain ⟨rfl, htail⟩ := List.cons_prefix_cons.1 hpre
        rw [run_cons]
        rcases hrest.2 ⟨pre, htail, rfl⟩ with hhere | hlater
        · by_cases hsame : apply s y = s
          · exact Or.inl (hsame.symm.trans hhere)
          · exact Or.inr (Or.inl ⟨hsame, hhere⟩)
        · exact Or.inr (Or.inr hlater)

/-! ## Steps that are not always possible -/

section Replay

variable (step : σ → α → Option σ)

/-- The state a list of steps ends in, if each of them was possible. -/
def replay (s : σ) : List α → Option σ
  | [] => some s
  | x :: l => (step s x).bind fun t => replay t l

/-- Every step of a list is taken where it meets the condition. -/
def Along (P : σ → α → Prop) (s : σ) : List α → Prop
  | [] => True
  | x :: l => P s x ∧ ∀ t, step s x = some t → Along P t l

variable {step} {s t : σ} {x : α} {l : List α} {P : σ → α → Prop}

instance decidableAlong [∀ s x, Decidable (P s x)] (s : σ) : ∀ l, Decidable (Along step P s l)
  | [] => isTrue trivial
  | x :: l =>
    match hx : step s x with
    | none => decidable_of_iff (P s x) (by simp [Along, hx])
    | some t =>
      have := decidableAlong t l
      decidable_of_iff (P s x ∧ Along step P t l) (by simp [Along, hx])

theorem replay_cons :
    replay step s (x :: l) = some t ↔ ∃ u, step s x = some u ∧ replay step u l = some t := by
  rw [replay, Option.bind_eq_some_iff]

/-- What every step of the right kind keeps holds at the end of the list. -/
theorem replay_invariant {I : σ → Prop}
    (hstep : ∀ s x t, I s → P s x → step s x = some t → I t) :
    ∀ {s : σ}, I s → Along step P s l → replay step s l = some t → I t := by
  induction l with
  | nil =>
    intro s hs _ hrun
    obtain rfl := Option.some.inj hrun
    exact hs
  | cons x l ih =>
    intro s hs halong hrun
    obtain ⟨u, hu, hrest⟩ := replay_cons.1 hrun
    exact ih (hstep s x u hs halong.1 hu) (halong.2 u hu) hrest

/-- What every step keeps holds at the end of the list. -/
theorem replay_keeps {I : σ → Prop} (hstep : ∀ s x t, I s → step s x = some t → I t)
    (hs : I s) (hrun : replay step s l = some t) : I t := by
  have halong : Along step (fun _ _ => True) s l := by
    clear hs hrun
    induction l generalizing s with
    | nil => trivial
    | cons x l ih => exact ⟨trivial, fun u _ => ih⟩
  exact replay_invariant (fun s x t hs _ => hstep s x t hs) hs halong hrun

/-- Once a step of the wrong kind was taken, what it brings about and every step keeps
holds at the end of the list. -/
theorem replay_of_not_along {I B : σ → Prop}
    (hkeep : ∀ s x t, I s → step s x = some t → I t)
    (hbreak : ∀ s x t, I s → ¬P s x → step s x = some t → B t)
    (hbroken : ∀ s x t, B s → step s x = some t → B t) :
    ∀ {s : σ}, I s → ¬Along step P s l → replay step s l = some t → B t := by
  induction l with
  | nil => exact fun _ halong _ => absurd trivial halong
  | cons x l ih =>
    intro s hs halong hrun
    obtain ⟨u, hu, hrest⟩ := replay_cons.1 hrun
    by_cases hP : P s x
    · have hlater : ¬Along step P u l := by
        intro hall
        apply halong
        refine ⟨hP, ?_⟩
        intro v hv
        obtain rfl := Option.some.inj (hu.symm.trans hv)
        exact hall
      exact ih (hkeep s x u hs hu) hlater hrest
    · exact replay_keeps hbroken (hbreak s x u hs hP hu) hrest

end Replay

/-! ## Steps that can be run again -/

/-- Steps that may be repeated and reordered: removals, for instance. -/
structure Repeatable (l : List α) : Prop where
  idem : ∀ x ∈ l, ∀ s, apply (apply s x) x = apply s x
  comm : ∀ x ∈ l, ∀ y ∈ l, ∀ s, apply (apply s x) y = apply (apply s y) x

namespace Repeatable

variable {apply} {l : List α}

theorem of_subset (h : Repeatable apply l) {l' : List α} (hsub : l' ⊆ l) :
    Repeatable apply l' where
  idem x hx := h.idem x (hsub hx)
  comm x hx y hy := h.comm x (hsub hx) y (hsub hy)

/-- A step commutes with a list of steps. -/
theorem apply_run (h : Repeatable apply l) {x : α} (hx : x ∈ l) {l' : List α} :
    ∀ {s : σ}, l' ⊆ l → apply (run apply s l') x = run apply (apply s x) l' := by
  induction l' with
  | nil => intro s _; rfl
  | cons y l' ih =>
    intro s hsub
    have hy : y ∈ l := hsub List.mem_cons_self
    rw [run_cons, run_cons, ih fun z hz => hsub (List.mem_cons_of_mem _ hz), h.comm y hy x hx]

/-- A step that has been run makes no difference. -/
theorem apply_run_of_mem (h : Repeatable apply l) {x : α} (hx : x ∈ l) {s : σ} :
    apply (run apply s l) x = run apply s l := by
  obtain ⟨before, after, rfl⟩ := List.append_of_mem hx
  have hbefore : before ⊆ before ++ x :: after := List.subset_append_left _ _
  have hafter : after ⊆ before ++ x :: after := fun y hy => by simp [hy]
  rw [run_append, run_cons, h.apply_run hx hafter, h.idem x hx]

/-- Steps that have been run make no difference. -/
theorem run_run_of_subset (h : Repeatable apply l) {l' : List α} :
    ∀ {s : σ}, l' ⊆ l → run apply (run apply s l) l' = run apply s l := by
  induction l' with
  | nil => intro s _; rfl
  | cons x l' ih =>
    intro s hsub
    have hx : x ∈ l := hsub List.mem_cons_self
    rw [run_cons, h.apply_run_of_mem hx, ih fun y hy => hsub (List.mem_cons_of_mem _ hy)]

/-- A run that stopped after a prefix and is started again from there, up to another
prefix, is where the longer of the two ends. -/
theorem run_run_stopped (h : Repeatable apply l) {pre pre' : List α} (hpre : pre <+: l)
    (hpre' : pre' <+: l) (s : σ) :
    ∃ longer, longer <+: l ∧ run apply (run apply s pre) pre' = run apply s longer := by
  rcases List.prefix_or_prefix_of_prefix hpre hpre' with ⟨rest, rfl⟩ | hshort
  · refine ⟨pre ++ rest, hpre', ?_⟩
    have hrep := h.of_subset hpre.subset
    rw [run_append, hrep.run_run_of_subset (List.Subset.refl _), run_append]
  · refine ⟨pre, hpre, ?_⟩
    exact (h.of_subset hpre.subset).run_run_of_subset hshort.subset

/-- A run that stopped after a prefix and is started again from there ends where the
undisturbed run does. -/
theorem run_prefix_run (h : Repeatable apply l) {pre : List α} (hpre : pre <+: l) (s : σ) :
    run apply (run apply s pre) l = run apply s l := by
  obtain ⟨rest, rfl⟩ := hpre
  have hrep := h.of_subset (List.subset_append_left pre rest)
  rw [run_append, hrep.run_run_of_subset (List.Subset.refl _), run_append]

end Repeatable

end Steps
