import Mathlib

/-!
# Commands that can fail

A process sends commands to a machine.  Any command can fail, which leaves the machine
as it was and is an error for the process; and the process can be killed between any two
commands, so every state the machine passes through matters.  A run of an action
therefore has three parts: its result, the world it leaves, and the events it left
behind.  The rules at the end prove what holds at every event of every run.
-/

namespace Faults

variable {κ μ ε δ α β : Type}

/-- What a command left behind: the state of the machine, and whether the command failed. -/
structure Event (κ : Type) where
  state : κ
  failed : Bool
  deriving DecidableEq

/-- The machine, the memory of the process, and which of the coming commands will fail. -/
structure World (κ μ : Type) where
  machine : κ
  memory : μ
  faults : ℕ → Bool

structure Outcome (κ μ ε α : Type) where
  result : Except ε α
  world : World κ μ
  events : List (Event κ)

/-- A program of the process. -/
def Program (κ μ ε α : Type) := World κ μ → Outcome κ μ ε α

namespace World

/-- The world after one more command was sent. -/
def tick (w : World κ μ) : World κ μ := { w with faults := fun i => w.faults (i + 1) }

end World

namespace Program

protected def pure (a : α) : Program κ μ ε α := fun w => ⟨.ok a, w, []⟩

protected def bind (p : Program κ μ ε α) (f : α → Program κ μ ε β) : Program κ μ ε β := fun w =>
  match p w with
  | ⟨.error e, w', events⟩ => ⟨.error e, w', events⟩
  | ⟨.ok a, w', events⟩ =>
    let rest := f a w'
    ⟨rest.result, rest.world, events ++ rest.events⟩

instance : Monad (Program κ μ ε) where
  pure := Program.pure
  bind := Program.bind

/-- Give up. -/
def fail (e : ε) : Program κ μ ε α := fun w => ⟨.error e, w, []⟩

/-- Read the memory of the process. -/
def get : Program κ μ ε μ := fun w => ⟨.ok w.memory, w, []⟩

/-- Change the memory of the process. -/
def modify (f : μ → μ) : Program κ μ ε Unit := fun w => ⟨.ok (), { w with memory := f w.memory }, []⟩

/-- Run an action and take its error as a value. -/
def attempt (p : Program κ μ ε α) : Program κ μ δ (Except ε α) := fun w =>
  let o := p w
  ⟨.ok o.result, o.world, o.events⟩

/-- Send a command: it fails, or the machine refuses it, or the machine carries it out. -/
def command (e : ε) (act : κ → Option κ) : Program κ μ ε Unit := fun w =>
  match w.faults 0, act w.machine with
  | false, some s => ⟨.ok (), { w.tick with machine := s }, [⟨s, false⟩]⟩
  | _, _ => ⟨.error e, w.tick, [⟨w.machine, true⟩]⟩

/-- Send a command that only reads. -/
def inspect (e : ε) (read : κ → α) : Program κ μ ε α := fun w =>
  if w.faults 0 then ⟨.error e, w.tick, [⟨w.machine, true⟩]⟩
  else ⟨.ok (read w.machine), w.tick, [⟨w.machine, false⟩]⟩

theorem command_failed {e : ε} {act : κ → Option κ} {s : κ} {m : μ} {faults : ℕ → Bool}
    (h : faults 0 = true ∨ act s = none) :
    command e act ⟨s, m, faults⟩ =
      ⟨.error e, ⟨s, m, fun i => faults (i + 1)⟩, [⟨s, true⟩]⟩ := by
  rcases h with h | h
  · simp [command, h, World.tick]
  · cases hfault : faults 0 <;> simp [command, h, hfault, World.tick]

theorem command_done {e : ε} {act : κ → Option κ} {s s' : κ} {m : μ} {faults : ℕ → Bool}
    (h : faults 0 = false) (hact : act s = some s') :
    command e act ⟨s, m, faults⟩ =
      ⟨.ok (), ⟨s', m, fun i => faults (i + 1)⟩, [⟨s', false⟩]⟩ := by
  simp [command, h, hact, World.tick]

/-- A sequence goes on from where its first part returned. -/
theorem bind_of_ok {p : Program κ μ ε α} {f : α → Program κ μ ε β} {w : World κ μ} {a : α}
    (h : (p w).result = .ok a) :
    (p >>= f) w = ⟨(f a (p w).world).result, (f a (p w).world).world,
      (p w).events ++ (f a (p w).world).events⟩ := by
  have hbind : (p >>= f) w = Program.bind p f w := rfl
  rw [hbind, Program.bind]
  rcases hrun : p w with ⟨_ | b, w', events⟩
  · rw [hrun] at h
    cases h
  · rw [hrun] at h
    cases h
    rfl

/-- A sequence ends where its first part gave up. -/
theorem bind_of_error {p : Program κ μ ε α} {f : α → Program κ μ ε β} {w : World κ μ} {e : ε}
    (h : (p w).result = .error e) : (p >>= f) w = ⟨.error e, (p w).world, (p w).events⟩ := by
  have hbind : (p >>= f) w = Program.bind p f w := rfl
  rw [hbind, Program.bind]
  rcases hrun : p w with ⟨_ | b, w', events⟩
  · rw [hrun] at h
    cases h
    rfl
  · rw [hrun] at h
    cases h

/-- An attempt always goes on. -/
theorem attempt_bind {p : Program κ μ ε α} {f : Except ε α → Program κ μ δ β} {w : World κ μ} :
    (attempt p >>= f) w = ⟨(f (p w).result (p w).world).result,
      (f (p w).result (p w).world).world, (p w).events ++ (f (p w).result (p w).world).events⟩ :=
  rfl

theorem get_bind {f : μ → Program κ μ ε β} {w : World κ μ} : (get >>= f) w = f w.memory w := rfl

theorem modify_bind {g : μ → μ} {f : Unit → Program κ μ ε β} {w : World κ μ} :
    (modify g >>= f) w = f () { w with memory := g w.memory } := rfl

theorem world_bind_pure {p : Program κ μ ε α} {g : α → β} {w : World κ μ} :
    ((p >>= fun a => pure (g a)) w).world = (p w).world := by
  cases hresult : (p w).result with
  | error e => rw [bind_of_error hresult]
  | ok a =>
    rw [bind_of_ok hresult]
    rfl

/-- Run an action on every element, in order. -/
def forEach (f : α → Program κ μ ε Unit) : List α → Program κ μ ε Unit
  | [] => pure ()
  | a :: l => do
    f a
    forEach f l

/-- Ask the machine for something it grants or refuses by itself. -/
def ask (e : ε) (act : κ → Bool × κ) : Program κ μ ε Unit := fun w =>
  let (granted, s) := act w.machine
  ⟨if granted then .ok () else .error e, { w with machine := s }, [⟨s, !granted⟩]⟩

/-- Read something of the machine that may not be there. -/
def inspectSome (e missing : ε) (read : κ → Option α) : Program κ μ ε α := do
  match ← inspect e read with
  | some a => pure a
  | none => fail missing

/-- Run an action of a part of the machine, with a memory of its own that is handed back.
An event of the part is an event of the machine. -/
def within {κ' μ' : Type} (part : κ → κ') (put : κ → κ' → κ) (m : μ') (p : Program κ' μ' ε α) :
    Program κ μ δ (Except ε α × μ') := fun w =>
  let o := p ⟨part w.machine, m, w.faults⟩
  ⟨.ok (o.result, o.world.memory), ⟨put w.machine o.world.machine, w.memory, o.world.faults⟩,
    o.events.map fun e => ⟨put w.machine e.state, e.failed⟩⟩

end Program

/-! ## Values -/

/-- Whatever happens, a value the program returns satisfies `P`. -/
def Returns (P : α → Prop) (p : Program κ μ ε α) : Prop := ∀ w a, (p w).result = .ok a → P a

namespace Returns

theorem pure {P : α → Prop} {a : α} (h : P a) : Returns P (Pure.pure a : Program κ μ ε α) := by
  intro w b hb
  obtain rfl := Except.ok.inj hb
  exact h

theorem fail {P : α → Prop} {e : ε} : Returns P (Program.fail e : Program κ μ ε α) := by
  intro w b hb
  exact absurd hb (by simp [Program.fail])

/-- The value of a sequence is that of its last part. -/
theorem bind {P : β → Prop} {p : Program κ μ ε α} {f : α → Program κ μ ε β}
    (hf : ∀ a, Returns P (f a)) : Returns P (p >>= f) := by
  intro w b hb
  have hbind : (p >>= f) w = Program.bind p f w := rfl
  rw [hbind, Program.bind] at hb
  rcases hrun : p w with ⟨_ | a, w', events⟩
  · rw [hrun] at hb
    exact absurd hb (by simp)
  · rw [hrun] at hb
    exact hf a w' b hb

/-- The result of a program of a part of the machine is handed back as it is. -/
theorem within {κ' μ' : Type} {part : κ → κ'} {put : κ → κ' → κ} {m : μ'} {P : α → Prop}
    {p : Program κ' μ' δ α} (hp : Returns P p) :
    Returns (fun res => ∀ a, res.1 = .ok a → P a) (Program.within part put m p :
      Program κ μ ε (Except δ α × μ')) := by
  intro w res hres a ha
  obtain rfl := Except.ok.inj hres
  exact hp _ a ha

end Returns

/-! ## Rules -/

/-- What the environment may do, what is known of the events of a run, and what they are
to satisfy. -/
structure Regime (κ : Type) where
  mayFail : Prop
  known : Event κ → Prop
  keeps : Event κ → Prop

/-- Every event is to satisfy `keeps`, whatever fails. -/
def always (keeps : Event κ → Prop) : Regime κ := ⟨True, fun _ => True, keeps⟩

/-- Whatever the environment can make of a command in this state is fine. -/
def Regime.Fine (r : Regime κ) (s : κ) : Prop :=
  ∀ failed, r.known ⟨s, failed⟩ → r.keeps ⟨s, failed⟩

variable {r : Regime κ} {s : κ} {m : μ} {p : Program κ μ ε α} {f : α → Program κ μ ε β}

/-- From this machine and memory, every run of the action keeps the regime and ends in
`Q` or, when it gives up, in `E`. -/
def Ensures (r : Regime κ) (s : κ) (m : μ) (p : Program κ μ ε α) (Q : α → κ → μ → Prop)
    (E : κ → μ → Prop) : Prop :=
  ∀ faults : ℕ → Bool, (∀ i, faults i = true → r.mayFail) →
    (∀ e ∈ (p ⟨s, m, faults⟩).events, r.known e) →
    (∀ e ∈ (p ⟨s, m, faults⟩).events, r.keeps e) ∧
    (∀ i, (p ⟨s, m, faults⟩).world.faults i = true → r.mayFail) ∧
    match (p ⟨s, m, faults⟩).result with
    | .ok a => Q a (p ⟨s, m, faults⟩).world.machine (p ⟨s, m, faults⟩).world.memory
    | .error _ => E (p ⟨s, m, faults⟩).world.machine (p ⟨s, m, faults⟩).world.memory

namespace Ensures

open Program (command_failed command_done)

variable {Q Q' : α → κ → μ → Prop} {E E' : κ → μ → Prop}

theorem pure {a : α} (h : Q a s m) :
    Ensures r s m (Pure.pure a : Program κ μ ε α) Q E := by
  intro faults hfaults _
  exact ⟨fun e he => absurd he List.not_mem_nil, hfaults, h⟩

theorem fail {e : ε} (h : E s m) : Ensures r s m (Program.fail e : Program κ μ ε α) Q E := by
  intro faults hfaults _
  exact ⟨fun e he => absurd he List.not_mem_nil, hfaults, h⟩

theorem get {Q : μ → κ → μ → Prop} (h : Q m s m) :
    Ensures r s m (Program.get : Program κ μ ε μ) Q E := by
  intro faults hfaults _
  exact ⟨fun e he => absurd he List.not_mem_nil, hfaults, h⟩

theorem modify {g : μ → μ} {Q : Unit → κ → μ → Prop} (h : Q () s (g m)) :
    Ensures r s m (Program.modify g : Program κ μ ε Unit) Q E := by
  intro faults hfaults _
  exact ⟨fun e he => absurd he List.not_mem_nil, hfaults, h⟩

theorem conseq (h : Ensures r s m p Q E) (hQ : ∀ a s' m', Q a s' m' → Q' a s' m')
    (hE : ∀ s' m', E s' m' → E' s' m') : Ensures r s m p Q' E' := by
  intro faults hfaults hknown
  obtain ⟨hkeeps, hrest, hpost⟩ := h faults hfaults hknown
  refine ⟨hkeeps, hrest, ?_⟩
  cases hresult : (p ⟨s, m, faults⟩).result with
  | ok a =>
    rw [hresult] at hpost
    exact hQ _ _ _ hpost
  | error e =>
    rw [hresult] at hpost
    exact hE _ _ hpost

theorem bind {R : β → κ → μ → Prop} (hp : Ensures r s m p Q E)
    (hf : ∀ a s' m', Q a s' m' → Ensures r s' m' (f a) R E) :
    Ensures r s m (p >>= f) R E := by
  intro faults hfaults
  have hbind : (p >>= f) ⟨s, m, faults⟩ = Program.bind p f ⟨s, m, faults⟩ := rfl
  have hp := hp faults hfaults
  rw [hbind, Program.bind]
  rcases hrun : p ⟨s, m, faults⟩ with ⟨_ | a, ⟨s', m', faults'⟩, events⟩
  · rw [hrun] at hp
    exact hp
  · rw [hrun] at hp
    intro hknown
    obtain ⟨hkeeps, hfaults', hpost⟩ := hp fun e he => hknown e (List.mem_append_left _ he)
    obtain ⟨hkeeps', hrest⟩ := hf a s' m' hpost faults' hfaults' fun e he =>
      hknown e (List.mem_append_right _ he)
    refine ⟨?_, hrest⟩
    intro e he
    rcases List.mem_append.1 he with he | he
    · exact hkeeps e he
    · exact hkeeps' e he

theorem attempt (h : Ensures r s m p Q E) :
    Ensures r s m (Program.attempt p : Program κ μ δ (Except ε α)) (fun result s' m' => match result with
      | .ok a => Q a s' m'
      | .error _ => E s' m') E' := by
  intro faults hfaults hknown
  exact h faults hfaults hknown

/-- A command that fails leaves the machine; one that does not is an event of its own. -/
theorem command {e : ε} {act : κ → Option κ} {Q : Unit → κ → μ → Prop}
    (hfail : r.mayFail ∨ act s = none → r.known ⟨s, true⟩ → r.keeps ⟨s, true⟩ ∧ E s m)
    (hdone : ∀ s', act s = some s' → r.known ⟨s', false⟩ → r.keeps ⟨s', false⟩ ∧ Q () s' m) :
    Ensures r s m (Program.command e act) Q E := by
  intro faults hfaults
  have hfaults' : ∀ i, faults (i + 1) = true → r.mayFail := fun i => hfaults (i + 1)
  by_cases hfailed : faults 0 = true ∨ act s = none
  · have hmay : r.mayFail ∨ act s = none := hfailed.imp_left (hfaults 0)
    rw [command_failed hfailed]
    intro hknown
    obtain ⟨hkeeps, hE⟩ := hfail hmay (hknown _ List.mem_cons_self)
    exact ⟨fun e he => by rwa [List.mem_singleton.1 he], hfaults', hE⟩
  · obtain ⟨hfault, hact⟩ := not_or.1 hfailed
    obtain ⟨s', hact⟩ := Option.ne_none_iff_exists'.1 hact
    rw [command_done (Bool.eq_false_of_not_eq_true hfault) hact]
    intro hknown
    obtain ⟨hkeeps, hQ⟩ := hdone s' hact (hknown _ List.mem_cons_self)
    exact ⟨fun e he => by rwa [List.mem_singleton.1 he], hfaults', hQ⟩

theorem inspect {e : ε} {read : κ → α}
    (hfail : r.mayFail → r.known ⟨s, true⟩ → r.keeps ⟨s, true⟩ ∧ E s m)
    (hdone : r.known ⟨s, false⟩ → r.keeps ⟨s, false⟩ ∧ Q (read s) s m) :
    Ensures r s m (Program.inspect e read) Q E := by
  intro faults hfaults
  have hfaults' : ∀ i, faults (i + 1) = true → r.mayFail := fun i => hfaults (i + 1)
  by_cases hfault : faults 0 = true
  · have hrun : Program.inspect e read (⟨s, m, faults⟩ : World κ μ) =
        ⟨.error e, ⟨s, m, fun i => faults (i + 1)⟩, [⟨s, true⟩]⟩ := if_pos hfault
    rw [hrun]
    intro hknown
    obtain ⟨hkeeps, hE⟩ := hfail (hfaults 0 hfault) (hknown _ List.mem_cons_self)
    exact ⟨fun e he => by rwa [List.mem_singleton.1 he], hfaults', hE⟩
  · have hrun : Program.inspect e read (⟨s, m, faults⟩ : World κ μ) =
        ⟨.ok (read s), ⟨s, m, fun i => faults (i + 1)⟩, [⟨s, false⟩]⟩ := if_neg hfault
    rw [hrun]
    intro hknown
    obtain ⟨hkeeps, hQ⟩ := hdone (hknown _ List.mem_cons_self)
    exact ⟨fun e he => by rwa [List.mem_singleton.1 he], hfaults', hQ⟩

/-- A read fails or returns, and changes nothing. -/
theorem read {e : ε} {read : κ → α} (hfine : r.Fine s) :
    Ensures r s m (Program.inspect e read) (fun a s' m' => a = read s ∧ s' = s ∧ m' = m)
      (fun s' m' => s' = s ∧ m' = m ∧ r.mayFail ∧ r.known ⟨s, true⟩) := by
  apply inspect
  · intro hmay hknown
    exact ⟨hfine _ hknown, rfl, rfl, hmay, hknown⟩
  · intro hknown
    exact ⟨hfine _ hknown, rfl, rfl, rfl⟩

/-- A loop keeps an invariant of the elements it is done with. -/
theorem forEach {f : α → Program κ μ ε Unit} {J : List α → κ → μ → Prop} {l : List α}
    (hstep : ∀ done a rest, done ++ a :: rest = l → ∀ s m, J done s m →
      Ensures r s m (f a) (fun _ => J (done ++ [a])) E) (hstart : J [] s m) :
    Ensures r s m (Program.forEach f l) (fun _ => J l) E := by
  suffices h : ∀ rest done, done ++ rest = l → ∀ s m, J done s m →
      Ensures r s m (Program.forEach f rest) (fun _ => J l) E from h l [] rfl s m hstart
  intro rest
  induction rest with
  | nil =>
    intro done hl s m hdone
    rw [List.append_nil] at hl
    subst hl
    exact pure hdone
  | cons a rest ih =>
    intro done hl s m hdone
    refine bind (hstep done a rest hl s m hdone) fun _ s' m' h => ?_
    exact ih (done ++ [a]) (by rw [List.append_assoc]; exact hl) s' m' h

theorem ask {e : ε} {act : κ → Bool × κ} {Q : Unit → κ → μ → Prop}
    (hrefused : (act s).1 = false → r.known ⟨(act s).2, true⟩ →
      r.keeps ⟨(act s).2, true⟩ ∧ E (act s).2 m)
    (hgranted : (act s).1 = true → r.known ⟨(act s).2, false⟩ →
      r.keeps ⟨(act s).2, false⟩ ∧ Q () (act s).2 m) :
    Ensures r s m (Program.ask e act) Q E := by
  intro faults hfaults
  have hrun : Program.ask e act ⟨s, m, faults⟩ =
      (⟨if (act s).1 then .ok () else .error e, ⟨(act s).2, m, faults⟩,
        [⟨(act s).2, !(act s).1⟩]⟩ : Outcome κ μ ε Unit) := rfl
  rw [hrun]
  intro hknown
  cases hanswer : (act s).1 with
  | false =>
    rw [hanswer] at hknown
    obtain ⟨hkeeps, hE⟩ := hrefused hanswer (hknown _ List.mem_cons_self)
    exact ⟨fun e he => by rwa [List.mem_singleton.1 he], hfaults, hE⟩
  | true =>
    rw [hanswer] at hknown
    obtain ⟨hkeeps, hQ⟩ := hgranted hanswer (hknown _ List.mem_cons_self)
    exact ⟨fun e he => by rwa [List.mem_singleton.1 he], hfaults, hQ⟩

theorem inspectSome {e missing : ε} {read : κ → Option α}
    (hfail : r.mayFail → r.known ⟨s, true⟩ → r.keeps ⟨s, true⟩ ∧ E s m)
    (hnone : read s = none → r.known ⟨s, false⟩ → r.keeps ⟨s, false⟩ ∧ E s m)
    (hsome : ∀ a, read s = some a → r.known ⟨s, false⟩ → r.keeps ⟨s, false⟩ ∧ Q a s m) :
    Ensures r s m (Program.inspectSome e missing read) Q E := by
  have hread : Ensures r s m (Program.inspect e read : Program κ μ ε (Option α))
      (fun found s' m' => s' = s ∧ m' = m ∧ match found with
        | some a => Q a s m
        | none => E s m) E := by
    refine inspect hfail ?_
    intro hknown
    cases hfound : read s with
    | none => exact ⟨(hnone hfound hknown).1, rfl, rfl, (hnone hfound hknown).2⟩
    | some a => exact ⟨(hsome a hfound hknown).1, rfl, rfl, (hsome a hfound hknown).2⟩
  refine bind hread ?_
  rintro (_ | a) s' m' ⟨rfl, rfl, hpost⟩
  · exact fail hpost
  · exact pure hpost

/-- Of an action of a part of the machine only this is known: it leaves the rest of the
machine, and the memory, alone. -/
theorem within {κ' μ' : Type} {part : κ → κ'} {put : κ → κ' → κ} {m' : μ'} {γ : Type}
    {p : Program κ' μ' δ γ} {Q : Except δ γ × μ' → κ → μ → Prop} {keeps : Event κ → Prop}
    (hkeeps : ∀ k failed, keeps ⟨put s k, failed⟩) (hpost : ∀ res k, Q res (put s k) m) :
    Ensures (always keeps) s m (Program.within part put m' p : Program κ μ ε _) Q E := by
  intro faults _ _
  refine ⟨?_, fun _ _ => trivial, hpost _ _⟩
  intro e he
  obtain ⟨e', -, rfl⟩ := List.mem_map.1 he
  exact hkeeps _ _

end Ensures

end Faults
