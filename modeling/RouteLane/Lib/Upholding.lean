import RouteLane.Lib.Views

/-!
# Programs that uphold an invariant

An invariant of what a machine shows and of the memory beside it.  A program upholds it if,
whatever fails, it shows nothing else on its way and ends with both, whether it returns or
gives up.
-/

namespace Faults

variable {κ μ ε δ ν α β : Type}

/-- From this view and memory every run of the program shows only what `J` allows, and ends
with a view in `J` and a memory in `K`. -/
def Upholds (view : κ → ν) (J : ν → Prop) (K : μ → Prop) (v : ν) (m : μ) (p : Program κ μ ε α) :
    Prop :=
  Shows view J (fun _ => false) v m p (fun _ _ v' m' => J v' ∧ K m') (fun _ v' m' => J v' ∧ K m')

namespace Upholds

variable {view : κ → ν} {J : ν → Prop} {K : μ → Prop} {v : ν} {m : μ} {p : Program κ μ ε α}
  {f : α → Program κ μ ε β}

theorem pure {a : α} (hv : J v) (hm : K m) :
    Upholds view J K v m (Pure.pure a : Program κ μ ε α) := Shows.pure ⟨hv, hm⟩

theorem fail {e : ε} (hv : J v) (hm : K m) :
    Upholds view J K v m (Program.fail e : Program κ μ ε α) := Shows.fail ⟨hv, hm⟩

theorem modify {g : μ → μ} (hv : J v) (hm : K (g m)) :
    Upholds view J K v m (Program.modify g : Program κ μ ε Unit) := Shows.modify ⟨hv, hm⟩

/-- What a program is known to leave is enough. -/
theorem of_shows {Q : Bool → α → ν → μ → Prop} {E : Bool → ν → μ → Prop}
    (h : Shows view J (fun _ => false) v m p Q E)
    (hQ : ∀ b a v' m', Q b a v' m' → J v' ∧ K m') (hE : ∀ b v' m', E b v' m' → J v' ∧ K m') :
    Upholds view J K v m p := Shows.conseq h hQ hE

theorem quiet (hp : Quiet view p) (hv : J v) (hm : K m) : Upholds view J K v m p := by
  refine of_shows (Shows.quiet hp hv) ?_ ?_
  · rintro b a v' m' ⟨rfl, rfl, -⟩
    exact ⟨hv, hm⟩
  · rintro b v' m' ⟨rfl, rfl, -⟩
    exact ⟨hv, hm⟩

theorem bind (hp : Upholds view J K v m p)
    (hf : ∀ a v' m', J v' → K m' → Upholds view J K v' m' (f a)) :
    Upholds view J K v m (p >>= f) :=
  Shows.bind hp fun _ a v' m' ⟨hv', hm'⟩ => hf a v' m' hv' hm'

/-- A program of which more is known comes first. -/
theorem shows_bind {Q : Bool → α → ν → μ → Prop} {E : Bool → ν → μ → Prop}
    (h : Shows view J (fun _ => false) v m p Q E) (hE : ∀ b v' m', E b v' m' → J v' ∧ K m')
    (hf : ∀ b a v' m', Q b a v' m' → Upholds view J K v' m' (f a)) :
    Upholds view J K v m (p >>= f) :=
  Shows.bind (Shows.conseq h (fun _ _ _ _ h => h) hE) hf

theorem get_bind {f : μ → Program κ μ ε β} (h : Upholds view J K v m (f m)) :
    Upholds view J K v m (Program.get >>= f) := Shows.get_bind h

theorem modify_bind {g : μ → μ} {f : Unit → Program κ μ ε β}
    (h : Upholds view J K v (g m) (f ())) : Upholds view J K v m (Program.modify g >>= f) :=
  Shows.modify_bind h

theorem quiet_bind (hp : Quiet view p) (hv : J v) (hm : K m)
    (hf : ∀ a, Upholds view J K v m (f a)) : Upholds view J K v m (p >>= f) :=
  Shows.quiet_bind hp hv (fun _ _ => ⟨hv, hm⟩) fun _ a _ => hf a

/-- Every state on the way of a run, and what it ends with. -/
theorem run {w : World κ μ} (h : Upholds view J K (view w.machine) w.memory p) :
    (∀ e ∈ (p w).events, J (view e.state)) ∧ J (view (p w).world.machine) ∧
      K (p w).world.memory := by
  obtain ⟨hevents, hend⟩ := h w.machine w.faults rfl
  refine ⟨hevents, ?_⟩
  split at hend
  · exact hend
  · exact hend

end Upholds

end Faults
