import RouteLane.Lib.Checks

/-!
# Calls that may be interrupted

A process sends calls to a machine, one after another.  Each may fail or be killed on its way,
and between them things happen to the machine.  What every call leaves behind, interrupted or
not, and what happens leaves behind is so in every run.
-/

namespace Faults

variable {ε : Type}

/-- Calls on a machine, and what is known of it: once a call was begun, and once it returned.
What happens to the machine may change what is known of it. -/
structure Sessions (κ ε ι β ω : Type) where
  call : ι → Program κ Unit ε β
  admitted : ι → Prop
  begun : ι → κ → ω → ω
  done : ι → κ → ω → ω
  happens : κ → ω → κ → ω → Prop
  fresh : κ → ω → Prop

namespace Sessions

variable {κ ι β ω : Type}

/-- The machine after any calls, some of which failed or were killed on their way, with what is
known of it. -/
inductive Reaches (S : Sessions κ ε ι β ω) : κ → ω → Prop where
  | fresh {s w} : S.fresh s w → Reaches S s w
  | returned {s w} (i : ι) (faults : ℕ → Bool) {b : β} : Reaches S s w → S.admitted i →
    (S.call i ⟨s, (), faults⟩).result = .ok b →
    Reaches S (S.call i ⟨s, (), faults⟩).world.machine (S.done i s w)
  | failed {s w} (i : ι) (faults : ℕ → Bool) {e : ε} : Reaches S s w → S.admitted i →
    (S.call i ⟨s, (), faults⟩).result = .error e →
    Reaches S (S.call i ⟨s, (), faults⟩).world.machine (S.begun i s w)
  /-- The process is killed after a command. -/
  | killed {s w} (i : ι) (faults : ℕ → Bool) {e : Event κ} : Reaches S s w → S.admitted i →
    e ∈ (S.call i ⟨s, (), faults⟩).events → Reaches S e.state (S.begun i s w)
  | happened {s w s' w'} : Reaches S s w → S.happens s w s' w' → Reaches S s' w'

theorem Reaches.does {S : Sessions κ ε ι β ω} {i : ι} {b : β} {s s' : κ} {w : ω}
    (h : S.Reaches s w) (hi : S.admitted i) (hdoes : Does (S.call i) s () b s') :
    S.Reaches s' (S.done i s w) := by
  have hreturned := h.returned i (fun _ => false) hi hdoes.1
  have hmachine : (S.call i ⟨s, (), fun _ => false⟩).world.machine = s' :=
    congrArg World.machine hdoes.2
  rwa [hmachine] at hreturned

theorem Reaches.passes {S : Sessions κ ε ι β ω} {i : ι} {s s' : κ} {w : ω}
    (h : S.Reaches s w) (hi : S.admitted i) (hpasses : Passes (S.call i) s () s') :
    S.Reaches s' (S.begun i s w) := h.killed i (fun _ => false) hi hpasses

/-- What every call leaves, interrupted or not, and what happens leaves, is so in every run. -/
theorem Reaches.invariant {S : Sessions κ ε ι β ω} {I : κ → ω → Prop}
    (hfresh : ∀ s w, S.fresh s w → I s w)
    (hcall : ∀ i s w, S.admitted i → I s w →
      Ensures (always fun e => I e.state (S.begun i s w)) s () (S.call i)
        (fun _ s' _ => I s' (S.done i s w)) (fun s' _ => I s' (S.begun i s w)))
    (hhappens : ∀ s w s' w', I s w → S.happens s w s' w' → I s' w') {s : κ} {w : ω} (h : S.Reaches s w) :
    I s w := by
  induction h with
  | fresh hstart => exact hfresh _ _ hstart
  | @returned s w i faults b _ hi hb ih =>
    obtain ⟨-, -, hpost⟩ := hcall i s w hi ih faults (fun _ _ => trivial) fun _ _ => trivial
    rw [hb] at hpost
    exact hpost
  | @failed s w i faults e _ hi he ih =>
    obtain ⟨-, -, hpost⟩ := hcall i s w hi ih faults (fun _ _ => trivial) fun _ _ => trivial
    rw [he] at hpost
    exact hpost
  | @killed s w i faults e _ hi he ih =>
    exact (hcall i s w hi ih faults (fun _ _ => trivial) fun _ _ => trivial).1 e he
  | happened _ hstep ih => exact hhappens _ _ _ _ ih hstep

end Sessions

end Faults
