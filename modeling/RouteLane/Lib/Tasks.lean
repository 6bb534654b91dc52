import Mathlib

/-!
# Tasks that run side by side

A task takes steps on a state it shares with other tasks and asks questions of the world
outside.  A step is atomic; between two of its steps, and while it waits for an answer,
the other tasks go on.

* `Task` is the program, `Machine` says when a step is possible and what it does, and
  `Runs` interleaves any number of tasks, started at any time, with any answers.
* `Contract` is what the tasks promise one another: an invariant of the state, and an
  order the state only ever moves up in.  `Contract.Safe` says of one task that it keeps
  the contract as long as the others do; its rules follow the shape of the task.
* `Contract.runs` puts the tasks together: if each of them is safe, every run keeps the
  contract and every result is what its task promises.
* `Ends` is what one task does in any such run: its steps with the states they found, its
  questions with their answers, and its result.
* `exec` runs one task with nothing in between, which is a run like any other.
-/

namespace Tasks

/-- A program over a shared state: steps, questions, and how it goes on after each. -/
inductive Task (σ L Q : Type) (A : Q → Type) (α : Type) : Type where
  | done (a : α)
  /-- It broke off, without a result. -/
  | panicked
  /-- Takes a step, and goes on with the state the step found. -/
  | act (step : L) (next : σ → Task σ L Q A α)
  | ask (question : Q) (next : A question → Task σ L Q A α)

namespace Task

variable {σ L Q : Type} {A : Q → Type} {α β : Type}

/-- First one task, then what comes of its result. -/
def bind (task : Task σ L Q A α) (f : α → Task σ L Q A β) : Task σ L Q A β :=
  match task with
  | done a => f a
  | panicked => panicked
  | act step next => act step fun s => (next s).bind f
  | ask question next => ask question fun a => (next a).bind f

instance : Monad (Task σ L Q A) where
  pure := done
  bind := bind

/-- A task of one step. -/
def step (l : L) : Task σ L Q A σ := act l done

/-- A task of one question. -/
def question (q : Q) : Task σ L Q A (A q) := ask q done

/-- A last step whatever comes of the task, as a guard takes when it is dropped. -/
def guarded (release : L) : Task σ L Q A α → Task σ L Q A α
  | done a => act release fun _ => done a
  | panicked => act release fun _ => panicked
  | act step next => act step fun s => (next s).guarded release
  | ask question next => ask question fun a => (next a).guarded release

@[simp] theorem pure_eq (a : α) : (pure a : Task σ L Q A α) = done a := rfl

@[simp] theorem done_bind (a : α) (f : α → Task σ L Q A β) : (done a >>= f) = f a := rfl

@[simp] theorem panicked_bind (f : α → Task σ L Q A β) :
    ((panicked : Task σ L Q A α) >>= f) = panicked := rfl

@[simp] theorem act_bind (l : L) (next : σ → Task σ L Q A α) (f : α → Task σ L Q A β) :
    (act l next >>= f) = act l fun s => next s >>= f := rfl

@[simp] theorem ask_bind (q : Q) (next : A q → Task σ L Q A α) (f : α → Task σ L Q A β) :
    (ask q next >>= f) = ask q fun a => next a >>= f := rfl

@[simp] theorem step_bind (l : L) (f : σ → Task σ L Q A β) : (step l >>= f) = act l f := rfl

@[simp] theorem question_bind (q : Q) (f : A q → Task σ L Q A β) :
    (question q >>= f) = ask q f := rfl

@[simp] theorem guarded_done (release : L) (a : α) :
    (done a : Task σ L Q A α).guarded release = act release fun _ => done a := rfl

@[simp] theorem guarded_panicked (release : L) :
    (panicked : Task σ L Q A α).guarded release = act release fun _ => panicked := rfl

@[simp] theorem guarded_act (release l : L) (next : σ → Task σ L Q A α) :
    (act l next).guarded release = act l fun s => (next s).guarded release := rfl

@[simp] theorem guarded_ask (release : L) (q : Q) (next : A q → Task σ L Q A α) :
    (ask q next).guarded release = ask q fun a => (next a).guarded release := rfl

end Task

/-- When a step is possible and what it does, and what hearing an answer does. -/
structure Machine (σ L Q : Type) (A : Q → Type) where
  ready : L → σ → Bool
  perform : L → σ → σ
  hear : (q : Q) → A q → σ → σ

/-! ## Interleaved runs -/

/-- The shared state, the tasks that are under way, and the results of those that ended. -/
structure Config (σ L Q : Type) (A : Q → Type) (α : Type) where
  state : σ
  running : List (Task σ L Q A α)
  results : List α

section Runs

variable {σ L Q : Type} {A : Q → Type} {α : Type} (M : Machine σ L Q A)
  (starts : Task σ L Q A α → Prop) (allowed : L → σ → Prop)

/-- A task is started, takes a step, hears an answer, or ends. -/
inductive Move : Config σ L Q A α → Config σ L Q A α → Prop where
  | start {c : Config σ L Q A α} {task : Task σ L Q A α} : starts task →
      Move c { c with running := task :: c.running }
  | act {s : σ} {before after : List (Task σ L Q A α)} {results : List α} {l : L}
      {next : σ → Task σ L Q A α} : M.ready l s = true → allowed l s →
      Move ⟨s, before ++ .act l next :: after, results⟩
        ⟨M.perform l s, before ++ next s :: after, results⟩
  | hear {s : σ} {before after : List (Task σ L Q A α)} {results : List α} {q : Q}
      {next : A q → Task σ L Q A α} (a : A q) :
      Move ⟨s, before ++ .ask q next :: after, results⟩
        ⟨M.hear q a s, before ++ next a :: after, results⟩
  | leave {s : σ} {before after : List (Task σ L Q A α)} {results : List α} {a : α} :
      Move ⟨s, before ++ .done a :: after, results⟩ ⟨s, before ++ after, a :: results⟩

/-- Any number of moves. -/
def Runs : Config σ L Q A α → Config σ L Q A α → Prop :=
  Relation.ReflTransGen (Move M starts allowed)

variable {M starts allowed}

/-- What every step and every answer relates, a run relates. -/
theorem Runs.relates {R : σ → σ → Prop} (hrefl : ∀ s, R s s)
    (htrans : ∀ {s t u}, R s t → R t u → R s u)
    (hact : ∀ l s, M.ready l s = true → allowed l s → R s (M.perform l s))
    (hhear : ∀ q a s, R s (M.hear q a s)) {c c' : Config σ L Q A α}
    (h : Runs M starts allowed c c') : R c.state c'.state := by
  induction h with
  | refl => exact hrefl _
  | tail _ hmove ih =>
    apply htrans ih
    cases hmove with
    | start _ => exact hrefl _
    | act hready hallowed => exact hact _ _ hready hallowed
    | hear a => exact hhear _ a _
    | leave => exact hrefl _

end Runs

/-! ## Contracts -/

/-- What the tasks of a machine promise one another. -/
structure Contract (σ L : Type) where
  inv : σ → Prop
  /-- How the state may move on. -/
  later : σ → σ → Prop
  /-- The steps that are promised to keep it. -/
  allowed : L → σ → Prop
  later_refl : ∀ s, later s s
  later_trans : ∀ {s t u}, later s t → later t u → later s u

namespace Contract

variable {σ L Q : Type} {A : Q → Type} {α β : Type} (K : Contract σ L) (M : Machine σ L Q A)

/-- A step that is kept to: it keeps the invariant and moves the state on. -/
def Keeps (s t : σ) : Prop := K.inv t ∧ K.later s t

/-- A task keeps the contract from a state on, whatever the other tasks do meanwhile as
long as they keep it, and ends in `post`. -/
def Safe (post : α → σ → Prop) : Task σ L Q A α → σ → Prop
  | .done a, s => ∀ t, K.later s t → K.inv t → post a t
  | .panicked, _ => True
  | .act l next, s => ∀ t, K.later s t → K.inv t → M.ready l t = true → K.allowed l t →
      K.Keeps t (M.perform l t) ∧ Safe post (next t) (M.perform l t)
  | .ask q next, s => ∀ t, K.later s t → K.inv t → ∀ a,
      K.Keeps t (M.hear q a t) ∧ Safe post (next a) (M.hear q a t)

variable {K M} {post : α → σ → Prop} {post' : β → σ → Prop} {s t : σ}

/-- A task is safe from a state if it is from every later one. -/
theorem safe_of_later {task : Task σ L Q A α}
    (h : ∀ t, K.later s t → K.inv t → K.Safe M post task t) : K.Safe M post task s := by
  cases task with
  | done a => exact fun t hlater hinv => h t hlater hinv t (K.later_refl t) hinv
  | panicked => trivial
  | act l next => exact fun t hlater hinv => h t hlater hinv t (K.later_refl t) hinv
  | ask q next => exact fun t hlater hinv => h t hlater hinv t (K.later_refl t) hinv

/-- What is safe stays safe. -/
theorem Safe.mono {task : Task σ L Q A α} (h : K.Safe M post task s) (hlater : K.later s t) :
    K.Safe M post task t := by
  cases task with
  | done a => exact fun u hu => h u (K.later_trans hlater hu)
  | panicked => trivial
  | act l next => exact fun u hu => h u (K.later_trans hlater hu)
  | ask q next => exact fun u hu => h u (K.later_trans hlater hu)

/-- A task may promise less. -/
theorem Safe.weaken {task : Task σ L Q A α} {weaker : α → σ → Prop}
    (hpost : ∀ a t, K.inv t → post a t → weaker a t) :
    ∀ {s : σ}, K.Safe M post task s → K.Safe M weaker task s := by
  induction task with
  | done a => exact fun h t hlater hinv => hpost a t hinv (h t hlater hinv)
  | panicked => exact fun _ => trivial
  | act l next ih =>
    intro s h t hlater hinv hready hallowed
    obtain ⟨hkeeps, hrest⟩ := h t hlater hinv hready hallowed
    exact ⟨hkeeps, ih t hrest⟩
  | ask q next ih =>
    intro s h t hlater hinv a
    obtain ⟨hkeeps, hrest⟩ := h t hlater hinv a
    exact ⟨hkeeps, ih a hrest⟩

theorem safe_pure {a : α} (h : ∀ t, K.later s t → K.inv t → post a t) :
    K.Safe M post (pure a) s := h

/-- One task after another: what the first promises is what the second starts from. -/
theorem Safe.bind {task : Task σ L Q A α} {f : α → Task σ L Q A β} :
    ∀ {s : σ}, K.Safe M post task s →
      (∀ a t, K.later s t → K.inv t → post a t → K.Safe M post' (f a) t) →
      K.Safe M post' (task >>= f) s := by
  induction task with
  | done a =>
    intro s h hnext
    exact safe_of_later fun t hlater hinv => hnext a t hlater hinv (h t hlater hinv)
  | panicked => exact fun _ _ => trivial
  | act l next ih =>
    intro s h hnext t hlater hinv hready hallowed
    obtain ⟨hkeeps, hrest⟩ := h t hlater hinv hready hallowed
    refine ⟨hkeeps, ih t hrest fun a u hu => hnext a u ?_⟩
    exact K.later_trans hlater (K.later_trans hkeeps.2 hu)
  | ask q next ih =>
    intro s h hnext t hlater hinv a
    obtain ⟨hkeeps, hrest⟩ := h t hlater hinv a
    refine ⟨hkeeps, ih a hrest fun b u hu => hnext b u ?_⟩
    exact K.later_trans hlater (K.later_trans hkeeps.2 hu)

/-- A step, told with the state it found. -/
theorem safe_step {l : L} {post : σ → σ → Prop}
    (hkeeps : ∀ t, K.later s t → K.inv t → M.ready l t = true → K.allowed l t →
      K.Keeps t (M.perform l t))
    (hpost : ∀ t u, K.later s t → K.inv t → K.later (M.perform l t) u → K.inv u → post t u) :
    K.Safe M post (Task.step l) s := fun t hlater hinv hready hallowed =>
  ⟨hkeeps t hlater hinv hready hallowed, fun u hu huinv => hpost t u hlater hinv hu huinv⟩

/-- A question, told with its answer. -/
theorem safe_question {q : Q} {post : A q → σ → Prop}
    (hkeeps : ∀ t, K.later s t → K.inv t → ∀ a, K.Keeps t (M.hear q a t))
    (hpost : ∀ t a u, K.later (M.hear q a t) u → K.inv u → post a u) :
    K.Safe M post (Task.question q) s := fun t hlater hinv a =>
  ⟨hkeeps t hlater hinv a, fun u hu huinv => hpost t a u hu huinv⟩

/-- A guard keeps a safe task safe if giving it back does. -/
theorem Safe.guarded {release : L} {task : Task σ L Q A α}
    (hrelease : ∀ t, K.inv t → K.Keeps t (M.perform release t)) :
    ∀ {s : σ}, K.Safe M post task s → K.Safe M post (task.guarded release) s := by
  induction task with
  | done a =>
    intro s h t hlater hinv _ _
    have hkeeps := hrelease t hinv
    refine ⟨hkeeps, fun u hu huinv => h u ?_ huinv⟩
    exact K.later_trans hlater (K.later_trans hkeeps.2 hu)
  | panicked => exact fun _ t _ hinv _ _ => ⟨hrelease t hinv, trivial⟩
  | act l next ih =>
    intro s h t hlater hinv hready hallowed
    obtain ⟨hkeeps, hrest⟩ := h t hlater hinv hready hallowed
    exact ⟨hkeeps, ih t hrest⟩
  | ask q next ih =>
    intro s h t hlater hinv a
    obtain ⟨hkeeps, hrest⟩ := h t hlater hinv a
    exact ⟨hkeeps, ih a hrest⟩

/-- What holds of a configuration whose tasks all keep the contract. -/
structure Kept (K : Contract σ L) (M : Machine σ L Q A) (post : α → σ → Prop)
    (c : Config σ L Q A α) : Prop where
  inv : K.inv c.state
  running : ∀ task ∈ c.running, K.Safe M post task c.state
  results : ∀ a ∈ c.results, ∀ t, K.later c.state t → K.inv t → post a t

/-- The tasks that did not move stay safe. -/
theorem Kept.moved {before after : List (Task σ L Q A α)} {results : List α}
    {task task' : Task σ L Q A α} (h : Kept K M post ⟨s, before ++ task :: after, results⟩)
    (hkeeps : K.Keeps s t) (htask : K.Safe M post task' t) :
    Kept K M post ⟨t, before ++ task' :: after, results⟩ where
  inv := hkeeps.1
  running := by
    intro other hother
    rcases List.mem_append.1 hother with hbefore | hafter
    · exact (h.running other (List.mem_append_left _ hbefore)).mono hkeeps.2
    · rcases List.mem_cons.1 hafter with rfl | hafter
      · exact htask
      · have hmem := List.mem_append_right before (List.mem_cons_of_mem task hafter)
        exact (h.running other hmem).mono hkeeps.2
  results := fun a ha u hu => h.results a ha u (K.later_trans hkeeps.2 hu)

/-- If every task that may be started is safe, a run keeps the contract. -/
theorem Kept.runs {starts : Task σ L Q A α → Prop}
    (hstarts : ∀ task, starts task → ∀ s, K.inv s → K.Safe M post task s)
    {c c' : Config σ L Q A α} (h : Kept K M post c) (hruns : Runs M starts K.allowed c c') :
    Kept K M post c' ∧ K.later c.state c'.state := by
  induction hruns with
  | refl => exact ⟨h, K.later_refl _⟩
  | tail _ hmove ih =>
    obtain ⟨hkept, hlater⟩ := ih
    cases hmove with
    | start hstart =>
      refine ⟨⟨hkept.inv, ?_, hkept.results⟩, hlater⟩
      intro task htask
      rcases List.mem_cons.1 htask with rfl | hold
      · exact hstarts _ hstart _ hkept.inv
      · exact hkept.running task hold
    | @act s before after results l next hready hallowed =>
      have hsafe := hkept.running (.act l next) (by simp)
      obtain ⟨hkeeps, hrest⟩ := hsafe s (K.later_refl s) hkept.inv hready hallowed
      exact ⟨hkept.moved hkeeps hrest, K.later_trans hlater hkeeps.2⟩
    | @hear s before after results q next a =>
      have hsafe := hkept.running (.ask q next) (by simp)
      obtain ⟨hkeeps, hrest⟩ := hsafe s (K.later_refl s) hkept.inv a
      exact ⟨hkept.moved hkeeps hrest, K.later_trans hlater hkeeps.2⟩
    | @leave s before after results a =>
      refine ⟨⟨hkept.inv, ?_, ?_⟩, hlater⟩
      · intro task htask
        apply hkept.running task
        rcases List.mem_append.1 htask with hbefore | hafter
        · exact List.mem_append_left _ hbefore
        · exact List.mem_append_right _ (List.mem_cons_of_mem _ hafter)
      · intro b hb
        rcases List.mem_cons.1 hb with rfl | hold
        · exact hkept.running (.done b) (by simp)
        · exact hkept.results b hold

end Contract

/-! ## What one task does -/

/-- A step with the state it found, or a question with its answer. -/
inductive Deed (σ L Q : Type) (A : Q → Type) : Type where
  | did (step : L) (found : σ)
  | asked (question : Q) (answer : A question)

section Ends

variable {σ L Q : Type} {A : Q → Type} {α β : Type}

/-- A task can do these things in this order, whatever others do meanwhile, and end with
this result. -/
inductive Ends : Task σ L Q A α → List (Deed σ L Q A) → α → Prop where
  | done (a : α) : Ends (.done a) [] a
  | act {l : L} {next : σ → Task σ L Q A α} {deeds : List (Deed σ L Q A)} {a : α} (found : σ) :
      Ends (next found) deeds a → Ends (.act l next) (.did l found :: deeds) a
  | ask {q : Q} {next : A q → Task σ L Q A α} {deeds : List (Deed σ L Q A)} {a : α}
      (answer : A q) : Ends (next answer) deeds a → Ends (.ask q next) (.asked q answer :: deeds) a

variable {task : Task σ L Q A α} {deeds : List (Deed σ L Q A)} {a : α}

theorem ends_done {b : α} : Ends (.done a : Task σ L Q A α) deeds b ↔ deeds = [] ∧ b = a := by
  constructor
  · rintro ⟨⟩
    exact ⟨rfl, rfl⟩
  · rintro ⟨rfl, rfl⟩
    exact .done b

theorem not_ends_panicked : ¬Ends (.panicked : Task σ L Q A α) deeds a := nofun

theorem ends_act {l : L} {next : σ → Task σ L Q A α} : Ends (.act l next) deeds a ↔
    ∃ found rest, deeds = .did l found :: rest ∧ Ends (next found) rest a := by
  constructor
  · rintro (_ | ⟨found, hrest⟩)
    exact ⟨found, _, rfl, hrest⟩
  · rintro ⟨found, rest, rfl, hrest⟩
    exact .act found hrest

theorem ends_ask {q : Q} {next : A q → Task σ L Q A α} : Ends (.ask q next) deeds a ↔
    ∃ answer rest, deeds = .asked q answer :: rest ∧ Ends (next answer) rest a := by
  constructor
  · rintro (_ | _ | ⟨answer, hrest⟩)
    exact ⟨answer, _, rfl, hrest⟩
  · rintro ⟨answer, rest, rfl, hrest⟩
    exact .ask answer hrest

/-- What a sequence does is what its parts do. -/
theorem ends_bind {f : α → Task σ L Q A β} {b : β} : Ends (task >>= f) deeds b ↔
    ∃ first a rest, deeds = first ++ rest ∧ Ends task first a ∧ Ends (f a) rest b := by
  induction task generalizing deeds with
  | done a =>
    rw [Task.done_bind]
    constructor
    · exact fun h => ⟨[], a, deeds, rfl, .done a, h⟩
    · rintro ⟨first, a', rest, rfl, hfirst, hrest⟩
      obtain ⟨rfl, rfl⟩ := ends_done.1 hfirst
      exact hrest
  | panicked =>
    rw [Task.panicked_bind]
    constructor
    · exact fun h => absurd h not_ends_panicked
    · rintro ⟨_, _, _, _, hfirst, _⟩
      exact absurd hfirst not_ends_panicked
  | act l next ih =>
    rw [Task.act_bind, ends_act]
    simp only [ih]
    constructor
    · rintro ⟨found, _, rfl, first, a, rest, rfl, hfirst, hrest⟩
      exact ⟨.did l found :: first, a, rest, rfl, .act found hfirst, hrest⟩
    · rintro ⟨_, a, rest, rfl, hfirst, hrest⟩
      obtain ⟨found, first, rfl, hnext⟩ := ends_act.1 hfirst
      exact ⟨found, first ++ rest, rfl, first, a, rest, rfl, hnext, hrest⟩
  | ask q next ih =>
    rw [Task.ask_bind, ends_ask]
    simp only [ih]
    constructor
    · rintro ⟨answer, _, rfl, first, a, rest, rfl, hfirst, hrest⟩
      exact ⟨.asked q answer :: first, a, rest, rfl, .ask answer hfirst, hrest⟩
    · rintro ⟨_, a, rest, rfl, hfirst, hrest⟩
      obtain ⟨answer, first, rfl, hnext⟩ := ends_ask.1 hfirst
      exact ⟨answer, first ++ rest, rfl, first, a, rest, rfl, hnext, hrest⟩

end Ends

/-! ## One task alone -/

section Exec

variable {σ L Q : Type} {A : Q → Type} {α β : Type} (M : Machine σ L Q A)
  (answers : ℕ → (q : Q) → A q)

/-- How a task ended that ran alone. -/
inductive Outcome (σ α : Type) where
  | returned (a : α) (s : σ)
  | panicked (s : σ)
  /-- A step it waits for is not possible. -/
  | blocked (s : σ)

/-- The state a task was left in. -/
def Outcome.state : Outcome σ α → σ
  | returned _ s => s
  | panicked s => s
  | blocked s => s

/-- The result of a task that returned. -/
def Outcome.result : Outcome σ α → Option α
  | returned a _ => some a
  | _ => none

/-- Runs one task with nothing in between; the answer to its `n`-th question is that of
`answers n`. -/
def exec : ℕ → Task σ L Q A α → σ → Outcome σ α
  | _, .done a, s => .returned a s
  | _, .panicked, s => .panicked s
  | n, .act l next, s => if M.ready l s then exec n (next s) (M.perform l s) else .blocked s
  | n, .ask q next, s => exec (n + 1) (next (answers n q)) (M.hear q (answers n q) s)

@[simp] theorem exec_done (n : ℕ) (a : α) (s : σ) :
    exec M answers n (.done a : Task σ L Q A α) s = .returned a s := rfl

@[simp] theorem exec_panicked (n : ℕ) (s : σ) :
    exec M answers n (.panicked : Task σ L Q A α) s = .panicked s := rfl

@[simp] theorem exec_ask (n : ℕ) (q : Q) (next : A q → Task σ L Q A α) (s : σ) :
    exec M answers n (.ask q next) s =
      exec M answers (n + 1) (next (answers n q)) (M.hear q (answers n q) s) := rfl

/-- What a task does that runs alone. -/
def history : ℕ → Task σ L Q A α → σ → List (Deed σ L Q A)
  | _, .done _, _ => []
  | _, .panicked, _ => []
  | n, .act l next, s => .did l s :: history n (next s) (M.perform l s)
  | n, .ask q next, s =>
    .asked q (answers n q) :: history (n + 1) (next (answers n q)) (M.hear q (answers n q) s)

/-- Every step the task takes, run alone, is an allowed one. -/
def Obeys (allowed : L → σ → Prop) : ℕ → Task σ L Q A α → σ → Prop
  | _, .done _, _ => True
  | _, .panicked, _ => True
  | n, .act l next, s => allowed l s ∧ Obeys allowed n (next s) (M.perform l s)
  | n, .ask q next, s =>
    Obeys allowed (n + 1) (next (answers n q)) (M.hear q (answers n q) s)

instance decidableObeys (allowed : L → σ → Prop) [∀ l s, Decidable (allowed l s)] :
    ∀ (n : ℕ) (task : Task σ L Q A α) (s : σ), Decidable (Obeys M answers allowed n task s)
  | _, .done _, _ => isTrue trivial
  | _, .panicked, _ => isTrue trivial
  | n, .act l next, s =>
    have : Decidable (Obeys M answers allowed n (next s) (M.perform l s)) :=
      decidableObeys allowed n (next s) (M.perform l s)
    inferInstanceAs (Decidable (_ ∧ _))
  | n, .ask q next, s =>
    decidableObeys allowed (n + 1) (next (answers n q)) (M.hear q (answers n q) s)

variable {M answers}

theorem exec_act {n : ℕ} {l : L} {next : σ → Task σ L Q A α} {s : σ} (h : M.ready l s = true) :
    exec M answers n (.act l next) s = exec M answers n (next s) (M.perform l s) := if_pos h

/-- A task that runs alone does what any run of it may do. -/
theorem ends_history {task : Task σ L Q A α} {a : α} :
    ∀ {n : ℕ} {s : σ}, (exec M answers n task s).result = some a →
      Ends task (history M answers n task s) a := by
  induction task with
  | done b =>
    intro n s h
    obtain rfl := Option.some.inj h
    exact .done b
  | panicked => exact fun h => nomatch h
  | act l next ih =>
    intro n s h
    rw [exec] at h
    split at h
    · exact .act s (ih s h)
    · exact nomatch h
  | ask q next ih => exact fun h => .ask _ (ih _ h)

/-- Where everything is allowed, every task obeys. -/
theorem obeys_true {task : Task σ L Q A α} :
    ∀ {n : ℕ} {s : σ}, Obeys M answers (fun _ _ => True) n task s := by
  induction task with
  | done a => exact trivial
  | panicked => exact trivial
  | act l next ih => exact fun {n s} => ⟨trivial, ih s⟩
  | ask q next ih => exact fun {n s} => ih (answers n q)

/-- A task that runs alone takes part in a run of many. -/
theorem runs_of_exec {starts : Task σ L Q A α → Prop} {allowed : L → σ → Prop}
    {task : Task σ L Q A α} {rest : List (Task σ L Q A α)} {results : List α} {a : α} {t : σ} :
    ∀ {n : ℕ} {s : σ}, Obeys M answers allowed n task s →
      exec M answers n task s = .returned a t →
      Runs M starts allowed ⟨s, task :: rest, results⟩ ⟨t, rest, a :: results⟩ := by
  induction task with
  | done b =>
    intro n s _ h
    obtain ⟨rfl, rfl⟩ := Outcome.returned.inj h
    have hleave : Move M starts allowed ⟨s, [] ++ .done b :: rest, results⟩
        ⟨s, [] ++ rest, b :: results⟩ := .leave
    exact Relation.ReflTransGen.single hleave
  | panicked => exact fun _ h => nomatch h
  | act l next ih =>
    intro n s hobeys h
    rw [exec] at h
    split at h
    · rename_i hready
      have hact : Move M starts allowed ⟨s, [] ++ .act l next :: rest, results⟩
          ⟨M.perform l s, [] ++ next s :: rest, results⟩ := .act hready hobeys.1
      exact Relation.ReflTransGen.head hact (ih s hobeys.2 h)
    · exact nomatch h
  | ask q next ih =>
    intro n s hobeys h
    have hhear : Move M starts allowed ⟨s, [] ++ .ask q next :: rest, results⟩
        ⟨M.hear q (answers n q) s, [] ++ next (answers n q) :: rest, results⟩ := .hear _
    exact Relation.ReflTransGen.head hhear (ih _ hobeys h)

/-- A task that is started, runs alone and returns is a run of its own. -/
theorem runs_of_start {starts : Task σ L Q A α → Prop} {allowed : L → σ → Prop}
    {task : Task σ L Q A α} {results : List α} {n : ℕ} {s : σ} (hstart : starts task)
    (hobeys : Obeys M answers allowed n task s)
    (h : (exec M answers n task s).result.isSome = true) :
    ∃ a, (exec M answers n task s).result = some a ∧
      Runs M starts allowed ⟨s, [], results⟩
        ⟨(exec M answers n task s).state, [], a :: results⟩ := by
  cases hexec : exec M answers n task s with
  | returned a t =>
    exact ⟨a, rfl, Relation.ReflTransGen.head (Move.start hstart) (runs_of_exec hobeys hexec)⟩
  | panicked t => simp [hexec, Outcome.result] at h
  | blocked t => simp [hexec, Outcome.result] at h

end Exec

end Tasks
