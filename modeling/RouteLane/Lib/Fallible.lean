import Mathlib

/-!
# Fallible computations

The rules that take a sequence of fallible steps apart: a sequence succeeds
exactly when each step of it does.  `collect` is the loop that runs a fallible
step on every element and concatenates what the steps produce.
-/

namespace Fallible

variable {ε α β : Type}

/-- A sequence succeeds exactly when both of its steps do. -/
theorem bind_eq_ok {x : Except ε α} {f : α → Except ε β} {b : β} :
    (x >>= f) = .ok b ↔ ∃ a, x = .ok a ∧ f a = .ok b := by
  cases x with
  | error e => simp [bind, Except.bind]
  | ok a => simp [bind, Except.bind]

/-- A check in front of a computation that then succeeds was passed. -/
theorem check_eq_ok {x : Except ε Unit} {y : Except ε β} {b : β} :
    (x >>= fun _ => y) = .ok b ↔ x = .ok () ∧ y = .ok b := by
  cases x with
  | error e => simp [bind, Except.bind]
  | ok u => simp [bind, Except.bind]

/-- A guard in front of a computation that then succeeds was passed. -/
theorem guard_eq_ok {c : Prop} [Decidable c] {e : ε} {x : Except ε β} {b : β} :
    (if c then .error e else x) = .ok b ↔ ¬ c ∧ x = .ok b := by
  by_cases h : c <;> simp [h]

/-- A step that only fails, and only when its condition holds. -/
def failIf (c : Prop) [Decidable c] (e : ε) : Except ε Unit := if c then .error e else .ok ()

theorem failIf_eq_ok {c : Prop} [Decidable c] {e : ε} {u : Unit} :
    failIf c e = .ok u ↔ ¬ c := by
  by_cases h : c <;> simp [failIf, h]

theorem mapError_eq_ok {δ : Type} {f : ε → δ} {x : Except ε α} {a : α} :
    x.mapError f = .ok a ↔ x = .ok a := by
  cases x with
  | error e => simp [Except.mapError]
  | ok b => simp [Except.mapError]

/-- A failing check fails itself, or the computation behind it does. -/
theorem check_eq_error {x : Except ε Unit} {y : Except ε β} {e : ε} :
    (x >>= fun _ => y) = .error e ↔ x = .error e ∨ x = .ok () ∧ y = .error e := by
  cases x with
  | error e' => simp [bind, Except.bind]
  | ok u => simp [bind, Except.bind]

theorem failIf_eq_error {c : Prop} [Decidable c] {e e' : ε} :
    failIf c e = .error e' ↔ c ∧ e = e' := by
  by_cases h : c <;> simp [failIf, h]

/-- Run a fallible step on every element and concatenate the results. -/
def collect (f : α → Except ε (List β)) : List α → Except ε (List β)
  | [] => .ok []
  | a :: as => do
    let b ← f a
    let bs ← collect f as
    return b ++ bs

@[simp] theorem collect_nil (f : α → Except ε (List β)) : collect f [] = .ok [] := rfl

theorem collect_cons_eq_ok {f : α → Except ε (List β)} {a : α} {as : List α} {out : List β} :
    collect f (a :: as) = .ok out ↔
      ∃ b bs, f a = .ok b ∧ collect f as = .ok bs ∧ out = b ++ bs := by
  rw [collect, bind_eq_ok]
  constructor
  · rintro ⟨b, hb, h⟩
    obtain ⟨bs, hbs, h⟩ := bind_eq_ok.1 h
    exact ⟨b, bs, hb, hbs, (Except.ok.inj h).symm⟩
  · rintro ⟨b, bs, hb, hbs, rfl⟩
    exact ⟨b, hb, bind_eq_ok.2 ⟨bs, hbs, rfl⟩⟩

/-- A loop whose steps all succeed concatenates what they produce. -/
theorem collect_eq_flatMap {f : α → Except ε (List β)} {g : α → List β} :
    ∀ {l : List α}, (∀ a ∈ l, f a = .ok (g a)) → collect f l = .ok (l.flatMap g) := by
  intro l
  induction l with
  | nil => intro _; rfl
  | cons a rest ih =>
    intro h
    refine collect_cons_eq_ok.2 ⟨g a, rest.flatMap g, h a List.mem_cons_self, ?_, rfl⟩
    exact ih fun b hb => h b (List.mem_cons_of_mem _ hb)

/-- The first match among everything a loop produces is the first match of the first
step that produces one. -/
theorem collect_find? {γ : Type} {f : α → Except ε (List β)} {p : β → Bool} {value : β → γ}
    {spec : α → Option γ} :
    ∀ {l : List α} {out : List β}, collect f l = .ok out →
      (∀ a ∈ l, ∀ bs, f a = .ok bs → (bs.find? p).map value = spec a) →
      (out.find? p).map value = l.findSome? spec := by
  intro l
  induction l with
  | nil =>
    intro out h _
    obtain rfl := Except.ok.inj h
    rfl
  | cons a rest ih =>
    intro out h hspec
    obtain ⟨bs, out', hbs, hout', rfl⟩ := collect_cons_eq_ok.1 h
    have ha := hspec a List.mem_cons_self bs hbs
    have hrest := ih hout' fun b hb => hspec b (List.mem_cons_of_mem _ hb)
    rw [List.findSome?_cons, ← ha, List.find?_append]
    cases bs.find? p with
    | none => simpa using hrest
    | some b => simp

/-- Everything a loop produces comes from one of its steps. -/
theorem mem_collect {f : α → Except ε (List β)} {b : β} :
    ∀ {l : List α} {out : List β}, collect f l = .ok out → b ∈ out →
      ∃ a ∈ l, ∃ bs, f a = .ok bs ∧ b ∈ bs := by
  intro l
  induction l with
  | nil =>
    intro out h hb
    obtain rfl := Except.ok.inj h
    exact absurd hb List.not_mem_nil
  | cons a rest ih =>
    intro out h hb
    obtain ⟨bs, out', hbs, hout', rfl⟩ := collect_cons_eq_ok.1 h
    rcases List.mem_append.1 hb with hb | hb
    · exact ⟨a, List.mem_cons_self, bs, hbs, hb⟩
    · obtain ⟨a', ha', bs', hbs', hb'⟩ := ih hout' hb
      exact ⟨a', List.mem_cons_of_mem _ ha', bs', hbs', hb'⟩

/-- The error of a loop is that of one of its steps. -/
theorem error_of_collect {f : α → Except ε (List β)} {e : ε} :
    ∀ {l : List α}, collect f l = .error e → ∃ a ∈ l, f a = .error e := by
  intro l
  induction l with
  | nil => intro h; cases h
  | cons a rest ih =>
    intro h
    rw [collect] at h
    cases ha : f a with
    | error e' =>
      rw [ha] at h
      exact ⟨a, List.mem_cons_self, ha.trans h⟩
    | ok bs =>
      rw [ha] at h
      cases hrest : collect f rest with
      | error e' =>
        rw [hrest] at h
        obtain ⟨b, hb, hfb⟩ := ih (hrest.trans h)
        exact ⟨b, List.mem_cons_of_mem _ hb, hfb⟩
      | ok out =>
        rw [hrest] at h
        cases h

/-- What every step of a fallible fold keeps holds of its result. -/
theorem foldlM_invariant {σ : Type} {f : σ → α → Except ε σ} {I : σ → Prop} {l : List α} :
    ∀ {s s' : σ}, (∀ a ∈ l, ∀ s s', I s → f s a = .ok s' → I s') → I s →
      l.foldlM f s = .ok s' → I s' := by
  induction l with
  | nil =>
    intro s s' _ hs h
    obtain rfl := Except.ok.inj h
    exact hs
  | cons a rest ih =>
    intro s s' hstep hs h
    rw [List.foldlM_cons] at h
    obtain ⟨mid, hmid, h⟩ := bind_eq_ok.1 h
    exact ih (fun b hb => hstep b (List.mem_cons_of_mem _ hb))
      (hstep a List.mem_cons_self s mid hs hmid) h

/-- A fallible fold that is told, by what it has seen so far, whether its next step succeeds:
what is known after each step is known of the whole list. -/
theorem foldlM_history {σ : Type} {f : σ → α → Except ε σ} {A : List α → Prop}
    {I : List α → σ → Prop}
    (hshorter : ∀ pre a, A (pre ++ [a]) → A pre)
    (hstep : ∀ pre a s, I pre s → A (pre ++ [a]) → ∃ s', f s a = .ok s' ∧ I (pre ++ [a]) s')
    (hfail : ∀ pre a s s', A pre → I pre s → f s a = .ok s' → A (pre ++ [a]))
    {s : σ} (hnil : A []) (hs : I [] s) (l : List α) :
    (A l → ∃ s', l.foldlM f s = .ok s') ∧
      ∀ s', l.foldlM f s = .ok s' → A l ∧ I l s' := by
  induction l using List.reverseRecOn with
  | nil =>
    refine ⟨fun _ => ⟨s, rfl⟩, ?_⟩
    intro s' h
    obtain rfl := Except.ok.inj h
    exact ⟨hnil, hs⟩
  | append_singleton pre a ih =>
    have hsnoc (mid : σ) (hmid : pre.foldlM f s = .ok mid) :
        (pre ++ [a]).foldlM f s = f mid a := by
      simp [List.foldlM_append, hmid, bind, Except.bind, pure, Except.pure]
      cases f mid a <;> rfl
    constructor
    · intro haccepts
      obtain ⟨mid, hmid⟩ := ih.1 (hshorter pre a haccepts)
      obtain ⟨s', hs', -⟩ := hstep pre a mid (ih.2 mid hmid).2 haccepts
      exact ⟨s', (hsnoc mid hmid).trans hs'⟩
    · intro s' h
      rw [List.foldlM_append] at h
      obtain ⟨mid, hmid, -⟩ := bind_eq_ok.1 h
      have hlast : f mid a = .ok s' := (hsnoc mid hmid).symm.trans (by rw [List.foldlM_append, h])
      obtain ⟨hbefore, hI⟩ := ih.2 mid hmid
      have haccepts := hfail pre a mid s' hbefore hI hlast
      obtain ⟨t, ht, hIt⟩ := hstep pre a mid hI haccepts
      obtain rfl := Except.ok.inj (hlast.symm.trans ht)
      exact ⟨haccepts, hIt⟩

/-- Every step of a loop that succeeds does, and what it produces is in the result. -/
theorem step_of_collect {f : α → Except ε (List β)} {a : α} :
    ∀ {l : List α} {out : List β}, collect f l = .ok out → a ∈ l →
      ∃ bs, f a = .ok bs ∧ bs ⊆ out := by
  intro l
  induction l with
  | nil => intro out _ ha; exact absurd ha List.not_mem_nil
  | cons c rest ih =>
    intro out h ha
    obtain ⟨cs, out', hcs, hout', rfl⟩ := collect_cons_eq_ok.1 h
    rcases List.mem_cons.1 ha with rfl | ha
    · exact ⟨cs, hcs, List.subset_append_left cs out'⟩
    · obtain ⟨bs, hbs, hsub⟩ := ih hout' ha
      exact ⟨bs, hbs, fun b hb => List.mem_append_right _ (hsub hb)⟩

end Fallible
