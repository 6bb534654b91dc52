import RouteLane.Lib.Tasks

/-!
# Tasks that wait for leave

Some of what a task does needs leave: an answer it has to have heard before, whatever the
other tasks do and whatever it finds.  A task heeds this if it has the answer on every path
to such a thing, and to every result that is not free of it.
-/

namespace Tasks

variable {σ L Q : Type} {A : Q → Type} {α β ε : Type}

/-- What needs leave, and which answers give it. -/
structure Leave (L Q : Type) (A : Q → Type) where
  gives : (q : Q) → A q → Prop
  step : L → Prop
  question : Q → Prop

/-- With leave or without it, the task takes no step, asks no question and has no result that
needs leave before it has it. -/
def Heeds (leave : Leave L Q A) (free : α → Prop) : Prop → Task σ L Q A α → Prop
  | given, .done a => free a ∨ given
  | _, .panicked => True
  | given, .act l next => (leave.step l → given) ∧ ∀ s, Heeds leave free given (next s)
  | given, .ask q next =>
    (leave.question q → given) ∧ ∀ a, Heeds leave free (given ∨ leave.gives q a) (next a)

namespace Heeds

variable {leave : Leave L Q A} {free : α → Prop} {free' : β → Prop} {given given' : Prop}
  {task : Task σ L Q A α} {f : α → Task σ L Q A β}

/-- With leave everything goes. -/
theorem of_given (h : given) : Heeds leave free given task := by
  induction task generalizing given with
  | done a => exact Or.inr h
  | panicked => trivial
  | act l next ih => exact ⟨fun _ => h, fun s => ih s h⟩
  | ask q next ih => exact ⟨fun _ => h, fun a => ih a (Or.inl h)⟩

theorem mono (h : Heeds leave free given task) (hmore : given → given') :
    Heeds leave free given' task := by
  induction task generalizing given given' with
  | done a => exact h.imp_right hmore
  | panicked => trivial
  | act l next ih => exact ⟨hmore ∘ h.1, fun s => ih s (h.2 s) hmore⟩
  | ask q next ih => exact ⟨hmore ∘ h.1, fun a => ih a (h.2 a) (Or.imp_left hmore)⟩

/-- A task that heeds much heeds less. -/
theorem of_leave {leave' : Leave L Q A} (h : Heeds leave free given task)
    (hstep : ∀ l, leave'.step l → leave.step l)
    (hquestion : ∀ q, leave'.question q → leave.question q)
    (hgives : ∀ q a, leave.gives q a → leave'.gives q a) : Heeds leave' free given task := by
  induction task generalizing given with
  | done a => exact h
  | panicked => trivial
  | act l next ih => exact ⟨h.1 ∘ hstep l, fun s => ih s (h.2 s)⟩
  | ask q next ih =>
    exact ⟨h.1 ∘ hquestion q, fun a => ih a ((h.2 a).mono (Or.imp_right (hgives q a)))⟩

theorem weaken {free' : α → Prop} (h : Heeds leave free given task) (hfree : ∀ a, free a → free' a) :
    Heeds leave free' given task := by
  induction task generalizing given with
  | done a => exact Or.imp_left (hfree a) h
  | panicked => trivial
  | act l next ih => exact ⟨h.1, fun s => ih s (h.2 s)⟩
  | ask q next ih => exact ⟨h.1, fun a => ih a (h.2 a)⟩

theorem pure {a : α} (h : free a) :
    Heeds leave free given (Pure.pure a : Task σ L Q A α) := Or.inl h

/-- Only what comes of a free result has to heed anything. -/
theorem bind (h : Heeds leave free given task)
    (hf : ∀ a, free a → Heeds leave free' given (f a)) : Heeds leave free' given (task >>= f) := by
  induction task generalizing given with
  | done a =>
    rcases h with hfree | hgiven
    · exact hf a hfree
    · exact of_given hgiven
  | panicked => trivial
  | act l next ih => exact ⟨h.1, fun s => ih s (h.2 s) hf⟩
  | ask q next ih =>
    exact ⟨h.1, fun a => ih a (h.2 a) fun b hb => (hf b hb).mono Or.inl⟩

theorem step {l : L} (h : ¬leave.step l) :
    Heeds leave (fun _ => True) given (Task.step l : Task σ L Q A σ) :=
  ⟨fun hl => absurd hl h, fun _ => Or.inl trivial⟩

theorem question {q : Q} (h : ¬leave.question q) :
    Heeds leave (fun _ => True) given (Task.question q : Task σ L Q A (A q)) :=
  ⟨fun hq => absurd hq h, fun _ => Or.inl trivial⟩

/-- The answer is there for what comes next. -/
theorem question_bind {q : Q} {f : A q → Task σ L Q A β} (h : ¬leave.question q)
    (hf : ∀ a, Heeds leave free' (given ∨ leave.gives q a) (f a)) :
    Heeds leave free' given (Task.question q >>= f) := ⟨fun hq => absurd hq h, hf⟩

/-- A question that may give leave. -/
theorem asking {q : Q} (h : ¬leave.question q) :
    Heeds leave (fun a => ¬leave.gives q a) given (Task.question q : Task σ L Q A (A q)) := by
  refine ⟨fun hq => absurd hq h, fun a => ?_⟩
  by_cases hgives : leave.gives q a
  · exact Or.inr (Or.inr hgives)
  · exact Or.inl hgives

end Heeds

/-! ## Tasks that may fail -/

/-- Goes on with a value, and ends with an error. -/
def Task.andThen (task : Task σ L Q A (Except ε α)) (f : α → Task σ L Q A (Except ε β)) :
    Task σ L Q A (Except ε β) := do
  match ← task with
  | .error e => return .error e
  | .ok a => f a

/-- Ends with another error. -/
def Task.mapError {ε' : Type} (task : Task σ L Q A (Except ε α)) (f : ε → ε') :
    Task σ L Q A (Except ε' α) := do
  return (← task).mapError f

/-- A result whose value is free. -/
def FreeValue (free : α → Prop) (result : Except ε α) : Prop := ∀ a, result = .ok a → free a

namespace Heeds

variable {leave : Leave L Q A} {given : Prop} {task : Task σ L Q A (Except ε α)}
  {f : α → Task σ L Q A (Except ε β)} {free : α → Prop} {free' : β → Prop}

theorem andThen (h : Heeds leave (FreeValue free) given task)
    (hf : ∀ a, free a → Heeds leave (FreeValue free') given (f a)) :
    Heeds leave (FreeValue free') given (task.andThen f) := by
  refine h.bind fun result hfree => ?_
  cases result with
  | error e => exact Heeds.pure fun a ha => by cases ha
  | ok a => exact hf a (hfree a rfl)

theorem mapError {ε' : Type} {f : ε → ε'} {free : α → Prop}
    (h : Heeds leave (FreeValue free) given task) :
    Heeds leave (FreeValue free) given (task.mapError f) := by
  refine h.bind fun result hfree => Heeds.pure fun a ha => ?_
  cases result with
  | error e => cases ha
  | ok b =>
    obtain rfl := Except.ok.inj ha
    exact hfree b rfl

/-- Where every value needs leave, whatever comes after it has it. -/
theorem gate (h : Heeds leave (FreeValue fun _ => False) given task) :
    Heeds leave (FreeValue free') given (task.andThen f) := h.andThen fun _ h => h.elim

end Heeds

/-! ## What a task that heeds does -/

/-- The deed needs leave. -/
def Leave.Needed (leave : Leave L Q A) : Deed σ L Q A → Prop
  | .did l _ => leave.step l
  | .asked q _ => leave.question q

/-- The deed gives leave. -/
def Leave.Given (leave : Leave L Q A) : Deed σ L Q A → Prop
  | .did _ _ => False
  | .asked q a => leave.gives q a

/-- Everything that needs leave, the result included, comes after something that gives it. -/
theorem Heeds.ends {leave : Leave L Q A} {free : α → Prop} {task : Task σ L Q A α}
    {deeds : List (Deed σ L Q A)} {a : α} {given : Prop} (h : Heeds leave free given task)
    (hends : Ends task deeds a) :
    (∀ before deed after, deeds = before ++ deed :: after → leave.Needed deed →
      given ∨ ∃ earlier ∈ before, leave.Given earlier) ∧
    (free a ∨ given ∨ ∃ earlier ∈ deeds, leave.Given earlier) := by
  induction hends generalizing given with
  | done a =>
    refine ⟨fun before deed after hdeeds => ?_, h.imp_right Or.inl⟩
    exact absurd hdeeds.symm (by simp)
  | @act l next deeds a found _ ih =>
    obtain ⟨hdeeds, hresult⟩ := ih (h.2 found)
    refine ⟨?_, ?_⟩
    · intro before deed after heq hneeded
      cases before with
      | nil =>
        obtain ⟨rfl, -⟩ := List.cons.inj heq
        exact Or.inl (h.1 hneeded)
      | cons first before =>
        obtain ⟨rfl, hrest⟩ := List.cons.inj heq
        refine (hdeeds before deed after hrest hneeded).imp_right ?_
        rintro ⟨earlier, hmem, hgiven⟩
        exact ⟨earlier, List.mem_cons_of_mem _ hmem, hgiven⟩
    · refine hresult.imp_right (Or.imp_right ?_)
      rintro ⟨earlier, hmem, hgiven⟩
      exact ⟨earlier, List.mem_cons_of_mem _ hmem, hgiven⟩
  | @ask q next deeds a answer _ ih =>
    obtain ⟨hdeeds, hresult⟩ := ih (h.2 answer)
    -- leave is there, or the question gives it, or a later one does
    have hfirst : ∀ {rest : List (Deed σ L Q A)},
        ((given ∨ leave.gives q answer) ∨ ∃ earlier ∈ rest, leave.Given earlier) →
          given ∨ ∃ earlier ∈ .asked q answer :: rest, leave.Given earlier := by
      rintro rest ((hgiven | hgives) | ⟨earlier, hmem, hgiven⟩)
      · exact Or.inl hgiven
      · exact Or.inr ⟨_, List.mem_cons_self, hgives⟩
      · exact Or.inr ⟨earlier, List.mem_cons_of_mem _ hmem, hgiven⟩
    refine ⟨?_, hresult.imp_right hfirst⟩
    intro before deed after heq hneeded
    cases before with
    | nil =>
      obtain ⟨rfl, -⟩ := List.cons.inj heq
      exact Or.inl (h.1 hneeded)
    | cons first before =>
      obtain ⟨rfl, hrest⟩ := List.cons.inj heq
      exact hfirst (hdeeds before deed after hrest hneeded)

/-! ## Contracts of tasks that may fail -/

namespace Contract

variable {K : Contract σ L} {M : Machine σ L Q A} {s : σ} {post : α → σ → Prop}
  {post' : β → σ → Prop} {task : Task σ L Q A (Except ε α)} {f : α → Task σ L Q A (Except ε β)}

/-- What is made of the result of a safe task. -/
theorem Safe.map {γ δ : Type} {task : Task σ L Q A γ} {g : γ → δ} {post : γ → σ → Prop}
    {post' : δ → σ → Prop} (h : K.Safe M post task s)
    (hpost : ∀ c t, K.inv t → post c t → post' (g c) t) :
    K.Safe M post' (task >>= fun c => Pure.pure (g c)) s := by
  induction task generalizing s with
  | done c => exact fun t hlater hinv => hpost c t hinv (h t hlater hinv)
  | panicked => trivial
  | act l next ih =>
    intro t hlater hinv hready hallowed
    obtain ⟨hkeeps, hrest⟩ := h t hlater hinv hready hallowed
    exact ⟨hkeeps, ih t hrest⟩
  | ask q next ih =>
    intro t hlater hinv a
    obtain ⟨hkeeps, hrest⟩ := h t hlater hinv a
    exact ⟨hkeeps, ih a hrest⟩

/-- A task keeps the contract, and a value it ends with is in `post`. -/
def Yields (K : Contract σ L) (M : Machine σ L Q A) (post : α → σ → Prop)
    (task : Task σ L Q A (Except ε α)) (s : σ) : Prop :=
  K.Safe M (fun result t => ∀ a, result = .ok a → post a t) task s

theorem yields_error {e : ε} : K.Yields M post (Pure.pure (.error e) : Task σ L Q A _) s :=
  safe_pure fun _ _ _ a ha => by cases ha

theorem yields_ok {a : α} (h : ∀ t, K.later s t → K.inv t → post a t) :
    K.Yields M post (Pure.pure (.ok a) : Task σ L Q A (Except ε α)) s :=
  safe_pure fun t hlater hinv b hb => by cases hb; exact h t hlater hinv

theorem Yields.andThen (h : K.Yields M post task s)
    (hf : ∀ a t, K.later s t → K.inv t → post a t → K.Yields M post' (f a) t) :
    K.Yields M post' (task.andThen f) s := by
  refine Safe.bind h fun result t hlater hinv hpost => ?_
  cases result with
  | error e => exact yields_error
  | ok a => exact hf a t hlater hinv (hpost a rfl)

theorem Yields.mapError {ε' : Type} {g : ε → ε'} (h : K.Yields M post task s) :
    K.Yields M post (task.mapError g) s := by
  refine Safe.map h fun result t hinv hpost a ha => ?_
  cases result with
  | error e => cases ha
  | ok b => exact hpost a (by rw [← Except.ok.inj ha])

/-- A task that takes no step keeps what hearing answers keeps. -/
theorem Safe.of_asking {task : Task σ L Q A α}
    (hhear : ∀ q a t, K.inv t → K.Keeps t (M.hear q a t))
    (h : Heeds ⟨fun _ _ => False, fun _ => True, fun _ => False⟩ (fun _ => True) False task) :
    K.Safe M (fun _ _ => True) task s := by
  induction task generalizing s with
  | done a => exact fun _ _ _ => trivial
  | panicked => trivial
  | act l next ih => exact (h.1 trivial).elim
  | ask q next ih =>
    intro t _ hinv a
    exact ⟨hhear q a t hinv, ih a ((h.2 a).mono (by simp))⟩

end Contract

end Tasks
