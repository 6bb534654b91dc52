import RouteLane.Lib.Completion

/-!
# Programs that change nothing

A program that only reads leaves machine and memory as they are.  Where no command fails of
itself its run leaves the very world it started from, so whatever comes after it runs as if
it had not been there.
-/

namespace Faults

variable {κ κ' μ μ' ε δ α β : Type}

/-- A world in which no command fails of itself. -/
def quiet (s : κ) (m : μ) : World κ μ := ⟨s, m, fun _ => false⟩

/-- A program that only reads. -/
abbrev ReadOnly (p : Program κ μ ε α) : Prop := Aside id p

theorem Calm.get : Calm (Program.get : Program κ μ ε μ) := fun _ h => h

theorem Calm.forEach {f : α → Program κ μ ε Unit} {l : List α} (hf : ∀ a, Calm (f a)) :
    Calm (Program.forEach f l) := by
  induction l with
  | nil => exact Calm.pure ()
  | cons a l ih => exact Calm.bind (hf a) fun _ => ih

theorem Calm.within {part : κ → κ'} {put : κ → κ' → κ} {m' : μ'} {q : Program κ' μ' δ α}
    (hq : Calm q) : Calm (Program.within part put m' q : Program κ μ ε _) :=
  fun w hw => hq ⟨part w.machine, m', w.faults⟩ hw

namespace ReadOnly

variable {p : Program κ μ ε α} {s : κ} {m : μ}

theorem get : ReadOnly (Program.get : Program κ μ ε μ) := ⟨Quiet.get, Calm.get⟩

theorem inspect (e : ε) (read : κ → α) : ReadOnly (Program.inspect e read : Program κ μ ε α) :=
  ⟨Quiet.inspect e read, Calm.inspect e read⟩

theorem forEach {f : α → Program κ μ ε Unit} {l : List α} (hf : ∀ a, ReadOnly (f a)) :
    ReadOnly (Program.forEach f l) := by
  induction l with
  | nil => exact Aside.pure ()
  | cons a l ih => exact Aside.bind (hf a) fun _ => ih

/-- Reading a part of the machine. -/
theorem within {part : κ → κ'} {put : κ → κ' → κ} {m' : μ'} {q : Program κ' μ' δ α}
    (hput : ∀ s, put s (part s) = s) (hq : ReadOnly q) :
    ReadOnly (Program.within part put m' q : Program κ μ ε _) := by
  refine ⟨fun w => ?_, Calm.within hq.calm⟩
  obtain ⟨hmachine, -, hevents⟩ := hq.quiet ⟨part w.machine, m', w.faults⟩
  refine ⟨?_, rfl, ?_⟩
  · show put w.machine (q ⟨part w.machine, m', w.faults⟩).world.machine = w.machine
    rw [show (q ⟨part w.machine, m', w.faults⟩).world.machine = part w.machine from hmachine]
    exact hput _
  · intro e he
    obtain ⟨e', he', rfl⟩ := List.mem_map.1 he
    show put w.machine e'.state = w.machine
    rw [show e'.state = part w.machine from hevents e' he']
    exact hput _

/-- Undisturbed, a program that only reads leaves the world it started from. -/
theorem world_eq (h : ReadOnly p) : (p (quiet s m)).world = quiet s m := by
  obtain ⟨hmachine, hmemory, -⟩ := h.quiet (quiet s m)
  have hfaults := h.calm (quiet s m) fun _ => rfl
  rcases hworld : (p (quiet s m)).world with ⟨s', m', faults⟩
  rw [hworld] at hmachine hmemory hfaults
  obtain rfl : s' = s := hmachine
  obtain rfl : m' = m := hmemory
  obtain rfl : faults = fun _ => false := funext hfaults
  rfl

end ReadOnly

namespace Program

variable {s : κ} {m : μ}

/-- Programs that run alike can be exchanged. -/
theorem bind_congr_apply {p q : Program κ μ ε α} {f : α → Program κ μ ε β} {w : World κ μ}
    (h : p w = q w) : (p >>= f) w = (q >>= f) w := by
  show Program.bind p f w = Program.bind q f w
  rw [Program.bind, Program.bind, h]

/-- What follows a read that returned runs in the same world. -/
theorem bind_of_read {p : Program κ μ ε α} {f : α → Program κ μ ε β} {a : α} (hp : ReadOnly p)
    (h : (p (quiet s m)).result = .ok a) :
    ((p >>= f) (quiet s m)).result = (f a (quiet s m)).result ∧
      ((p >>= f) (quiet s m)).world = (f a (quiet s m)).world := by
  rw [bind_of_ok h, hp.world_eq]
  exact ⟨rfl, rfl⟩

theorem inspectSome_quiet {e missing : ε} {read : κ → Option α} {a : α}
    (h : read s = some a) :
    (inspectSome e missing read (quiet s m) : Outcome κ μ ε α).result = .ok a := by
  have hread : (inspect e read (quiet s m) : Outcome κ μ ε (Option α)).result =
      .ok (read s) := rfl
  rw [inspectSome, (bind_of_read (.inspect e read) hread).1, h]
  rfl

theorem inspectSome_quiet_none {e missing : ε} {read : κ → Option α} (h : read s = none) :
    (inspectSome e missing read (quiet s m) : Outcome κ μ ε α).result = .error missing := by
  have hread : (inspect e read (quiet s m) : Outcome κ μ ε (Option α)).result =
      .ok (read s) := rfl
  rw [inspectSome, (bind_of_read (.inspect e read) hread).1, h]
  rfl

end Program

end Faults
