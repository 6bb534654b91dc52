import RouteLane.Lib.Faults

/-!
# Views of a machine

Often only a part of the machine matters: what it shows to someone who cannot see the
rest.  A judgement about a program then starts from what is shown, says what is shown at
every event, and ends in what is shown, whatever the rest of the machine is and whatever
fails.  It also tells whether something in particular was shown on the way.
-/

namespace Faults

variable {κ μ ε δ ν α β : Type}

/-- From this view and memory every run of the program shows only what `J` allows, and
ends in `Q`, or in `E` when it gives up; the first argument of both tells whether `flag`
was shown on the way. -/
def Shows (view : κ → ν) (J : ν → Prop) (flag : ν → Bool) (v : ν) (m : μ)
    (p : Program κ μ ε α) (Q : Bool → α → ν → μ → Prop) (E : Bool → ν → μ → Prop) : Prop :=
  ∀ (s : κ) (faults : ℕ → Bool), view s = v →
    (∀ e ∈ (p ⟨s, m, faults⟩).events, J (view e.state)) ∧
    match (p ⟨s, m, faults⟩).result with
    | .ok a => Q ((p ⟨s, m, faults⟩).events.any fun e => flag (view e.state)) a
        (view (p ⟨s, m, faults⟩).world.machine) (p ⟨s, m, faults⟩).world.memory
    | .error _ => E ((p ⟨s, m, faults⟩).events.any fun e => flag (view e.state))
        (view (p ⟨s, m, faults⟩).world.machine) (p ⟨s, m, faults⟩).world.memory

/-- A program that shows nothing new and leaves the memory alone. -/
def Quiet (view : κ → ν) (p : Program κ μ ε α) : Prop :=
  ∀ w, view (p w).world.machine = view w.machine ∧ (p w).world.memory = w.memory ∧
    ∀ e ∈ (p w).events, view e.state = view w.machine

namespace Quiet

variable {view : κ → ν} {p : Program κ μ ε α} {f : α → Program κ μ ε β}

theorem pure (a : α) : Quiet view (Pure.pure a : Program κ μ ε α) :=
  fun _ => ⟨rfl, rfl, fun _ he => absurd he List.not_mem_nil⟩

theorem fail (e : ε) : Quiet view (Program.fail e : Program κ μ ε α) :=
  fun _ => ⟨rfl, rfl, fun _ he => absurd he List.not_mem_nil⟩

theorem get : Quiet view (Program.get : Program κ μ ε μ) :=
  fun _ => ⟨rfl, rfl, fun _ he => absurd he List.not_mem_nil⟩

theorem bind (hp : Quiet view p) (hf : ∀ a, Quiet view (f a)) : Quiet view (p >>= f) := by
  intro w
  have hbind : (p >>= f) w = Program.bind p f w := rfl
  obtain ⟨hview, hmemory, hevents⟩ := hp w
  rw [hbind, Program.bind]
  rcases hrun : p w with ⟨_ | a, w', events⟩
  · rw [hrun] at hview hmemory hevents
    exact ⟨hview, hmemory, hevents⟩
  · rw [hrun] at hview hmemory hevents
    obtain ⟨hview', hmemory', hevents'⟩ := hf a w'
    refine ⟨hview'.trans hview, hmemory'.trans hmemory, ?_⟩
    intro e he
    rcases List.mem_append.1 he with he | he
    · exact hevents e he
    · exact (hevents' e he).trans hview

theorem attempt (hp : Quiet view p) :
    Quiet view (Program.attempt p : Program κ μ δ (Except ε α)) := hp

theorem inspect (e : ε) (read : κ → α) :
    Quiet view (Program.inspect e read : Program κ μ ε α) := by
  intro w
  unfold Program.inspect
  split
  · refine ⟨rfl, rfl, ?_⟩
    intro event he
    rw [List.mem_singleton.1 he]
  · refine ⟨rfl, rfl, ?_⟩
    intro event he
    rw [List.mem_singleton.1 he]

theorem inspectSome (e missing : ε) (read : κ → Option α) :
    Quiet view (Program.inspectSome e missing read : Program κ μ ε α) := by
  refine bind (inspect e read) ?_
  rintro (_ | a)
  · exact fail missing
  · exact pure a

/-- A command that changes nothing that is shown. -/
theorem command {e : ε} {act : κ → Option κ}
    (hact : ∀ s s', act s = some s' → view s' = view s) :
    Quiet view (Program.command e act : Program κ μ ε Unit) := by
  intro w
  unfold Program.command
  split
  · rename_i s hfault hdone
    refine ⟨hact _ _ hdone, rfl, ?_⟩
    intro event he
    rw [List.mem_singleton.1 he]
    exact hact _ _ hdone
  · refine ⟨rfl, rfl, ?_⟩
    intro event he
    rw [List.mem_singleton.1 he]

/-- An action of a part of the machine that is not shown. -/
theorem within {κ' μ' γ : Type} {part : κ → κ'} {put : κ → κ' → κ} {m' : μ'}
    {p : Program κ' μ' δ γ} (hput : ∀ s k, view (put s k) = view s) :
    Quiet view (Program.within part put m' p : Program κ μ ε _) := by
  intro w
  refine ⟨hput _ _, rfl, ?_⟩
  intro e he
  obtain ⟨e', -, rfl⟩ := List.mem_map.1 he
  exact hput _ _

end Quiet

/-- What the flag of each part entails, that of the whole does. -/
theorem flag_or {b b' : Bool} {P : Prop} (h : b = true → P) (h' : b' = true → P) :
    (b || b') = true → P := by
  intro hor
  rcases Bool.or_eq_true_iff.1 hor with hb | hb
  · exact h hb
  · exact h' hb

theorem flag_false {P : Prop} : false = true → P := fun h => absurd h Bool.false_ne_true

namespace Shows

variable {view : κ → ν} {J : ν → Prop} {flag : ν → Bool} {v : ν} {m : μ}
  {p : Program κ μ ε α} {f : α → Program κ μ ε β} {Q Q' : Bool → α → ν → μ → Prop}
  {E E' : Bool → ν → μ → Prop}

theorem pure {a : α} (h : Q false a v m) :
    Shows view J flag v m (Pure.pure a : Program κ μ ε α) Q E := by
  rintro s faults rfl
  exact ⟨fun e he => absurd he List.not_mem_nil, h⟩

theorem fail {e : ε} (h : E false v m) :
    Shows view J flag v m (Program.fail e : Program κ μ ε α) Q E := by
  rintro s faults rfl
  exact ⟨fun e he => absurd he List.not_mem_nil, h⟩

theorem get {Q : Bool → μ → ν → μ → Prop} (h : Q false m v m) :
    Shows view J flag v m (Program.get : Program κ μ ε μ) Q E := by
  rintro s faults rfl
  exact ⟨fun e he => absurd he List.not_mem_nil, h⟩

theorem modify {g : μ → μ} {Q : Bool → Unit → ν → μ → Prop} (h : Q false () v (g m)) :
    Shows view J flag v m (Program.modify g : Program κ μ ε Unit) Q E := by
  rintro s faults rfl
  exact ⟨fun e he => absurd he List.not_mem_nil, h⟩

theorem conseq (h : Shows view J flag v m p Q E) (hQ : ∀ b a v' m', Q b a v' m' → Q' b a v' m')
    (hE : ∀ b v' m', E b v' m' → E' b v' m') : Shows view J flag v m p Q' E' := by
  intro s faults hs
  obtain ⟨hevents, hpost⟩ := h s faults hs
  refine ⟨hevents, ?_⟩
  cases hresult : (p ⟨s, m, faults⟩).result with
  | ok a =>
    rw [hresult] at hpost
    exact hQ _ _ _ _ hpost
  | error e =>
    rw [hresult] at hpost
    exact hE _ _ _ hpost

/-- What is shown on the way to the result of a sequence is shown by one of its parts. -/
theorem bind {R : Bool → β → ν → μ → Prop} (hp : Shows view J flag v m p Q E)
    (hf : ∀ b a v' m', Q b a v' m' → Shows view J flag v' m' (f a) (fun b' => R (b || b'))
      (fun b' => E (b || b'))) :
    Shows view J flag v m (p >>= f) R E := by
  intro s faults hs
  have hbind : (p >>= f) ⟨s, m, faults⟩ = Program.bind p f ⟨s, m, faults⟩ := rfl
  have hp := hp s faults hs
  rw [hbind, Program.bind]
  rcases hrun : p ⟨s, m, faults⟩ with ⟨_ | a, ⟨s', m', faults'⟩, events⟩
  · rw [hrun] at hp
    exact hp
  · rw [hrun] at hp
    obtain ⟨hevents, hpost⟩ := hp
    obtain ⟨hevents', hpost'⟩ := hf _ a _ m' hpost s' faults' rfl
    refine ⟨?_, ?_⟩
    · intro e he
      rcases List.mem_append.1 he with he | he
      · exact hevents e he
      · exact hevents' e he
    · simp only [List.any_append]
      exact hpost'

theorem pure_bind {a : α} {R : Bool → β → ν → μ → Prop} (h : Shows view J flag v m (f a) R E) :
    Shows view J flag v m (Pure.pure a >>= f) R E := by
  refine bind (pure (Q := fun b a' v' m' => b = false ∧ a' = a ∧ v' = v ∧ m' = m)
    ⟨rfl, rfl, rfl, rfl⟩) ?_
  rintro b a' v' m' ⟨rfl, rfl, rfl, rfl⟩
  simpa only [Bool.false_or] using h

theorem get_bind {f : μ → Program κ μ ε β} {R : Bool → β → ν → μ → Prop}
    (h : Shows view J flag v m (f m) R E) : Shows view J flag v m (Program.get >>= f) R E := by
  refine bind (get (Q := fun b a v' m' => b = false ∧ a = m ∧ v' = v ∧ m' = m)
    ⟨rfl, rfl, rfl, rfl⟩) ?_
  rintro b a v' m' ⟨rfl, rfl, rfl, rfl⟩
  simpa only [Bool.false_or] using h

theorem modify_bind {g : μ → μ} {f : Unit → Program κ μ ε β} {R : Bool → β → ν → μ → Prop}
    (h : Shows view J flag v (g m) (f ()) R E) :
    Shows view J flag v m (Program.modify g >>= f) R E := by
  refine bind (modify (Q := fun b _ v' m' => b = false ∧ v' = v ∧ m' = g m) ⟨rfl, rfl, rfl⟩) ?_
  rintro b _ v' m' ⟨rfl, rfl, rfl⟩
  simpa only [Bool.false_or] using h

theorem attempt {Q : Bool → Except ε α → ν → μ → Prop}
    (h : Shows view J flag v m p (fun b a => Q b (.ok a)) (fun b v' m' => ∀ e, Q b (.error e) v' m')) :
    Shows view J flag v m (Program.attempt p : Program κ μ δ (Except ε α)) Q E' := by
  intro s faults hs
  obtain ⟨hevents, hpost⟩ := h s faults hs
  refine ⟨hevents, ?_⟩
  have hresult : (Program.attempt p ⟨s, m, faults⟩ : Outcome κ μ δ (Except ε α)).result =
      .ok (p ⟨s, m, faults⟩).result := rfl
  rw [hresult]
  cases hp : (p ⟨s, m, faults⟩).result with
  | ok a =>
    rw [hp] at hpost
    exact hpost
  | error e =>
    rw [hp] at hpost
    exact hpost e

theorem quiet (hp : Quiet view p) (hv : J v) :
    Shows view J flag v m p (fun b _ v' m' => v' = v ∧ m' = m ∧ (b = true → flag v = true))
      (fun b v' m' => v' = v ∧ m' = m ∧ (b = true → flag v = true)) := by
  rintro s faults rfl
  obtain ⟨hview, hmemory, hevents⟩ := hp ⟨s, m, faults⟩
  have hflag : ((p ⟨s, m, faults⟩).events.any fun e => flag (view e.state)) = true →
      flag (view s) = true := by
    intro hany
    obtain ⟨e, he, hshown⟩ := List.any_eq_true.1 hany
    rwa [hevents e he] at hshown
  refine ⟨?_, ?_⟩
  · intro e he
    rw [hevents e he]
    exact hv
  · split <;> exact ⟨hview, hmemory, hflag⟩

/-- A quiet program comes first. -/
theorem quiet_bind {R : Bool → β → ν → μ → Prop} (hp : Quiet view p) (hv : J v)
    (hE : ∀ b, (b = true → flag v = true) → E b v m)
    (hf : ∀ b a, (b = true → flag v = true) →
      Shows view J flag v m (f a) (fun b' => R (b || b')) (fun b' => E (b || b'))) :
    Shows view J flag v m (p >>= f) R E := by
  refine bind (conseq (quiet hp hv) (fun _ _ _ _ h => h) ?_) ?_
  · rintro b v' m' ⟨rfl, rfl, hb⟩
    exact hE b hb
  · rintro b a v' m' ⟨rfl, rfl, hb⟩
    exact hf b a hb

/-- An attempt at a quiet program comes first. -/
theorem quiet_attempt_bind {f : Except ε α → Program κ μ δ β} {R : Bool → β → ν → μ → Prop}
    (hp : Quiet view p) (hv : J v)
    (hf : ∀ b a, (b = true → flag v = true) →
      Shows view J flag v m (f a) (fun b' => R (b || b')) (fun b' => E (b || b'))) :
    Shows view J flag v m (Program.attempt p >>= f) R E := by
  refine bind (attempt (Q := fun b _ v' m' => v' = v ∧ m' = m ∧ (b = true → flag v = true))
    (conseq (quiet hp hv) (fun _ _ _ _ h => h) fun _ _ _ h _ => h)) ?_
  rintro b a v' m' ⟨rfl, rfl, hb⟩
  exact hf b a hb

/-- What is known of the values of a program holds of its result. -/
theorem returns {P : α → Prop} (hp : Returns P p) (h : Shows view J flag v m p Q E) :
    Shows view J flag v m p (fun b a v' m' => P a ∧ Q b a v' m') E := by
  intro s faults hs
  obtain ⟨hevents, hpost⟩ := h s faults hs
  refine ⟨hevents, ?_⟩
  cases hresult : (p ⟨s, m, faults⟩).result with
  | ok a =>
    rw [hresult] at hpost
    exact ⟨hp _ a hresult, hpost⟩
  | error e =>
    rw [hresult] at hpost
    exact hpost

/-- A read of something that is shown. -/
theorem read {e : ε} {read : κ → α} (value : ν → α) (hread : ∀ s, read s = value (view s))
    (hv : J v) :
    Shows view J flag v m (Program.inspect e read : Program κ μ ε α)
      (fun b a v' m' => a = value v ∧ v' = v ∧ m' = m ∧ (b = true → flag v = true))
      (fun b v' m' => v' = v ∧ m' = m ∧ (b = true → flag v = true)) := by
  rintro s faults rfl
  have hfailed : ∀ failed, [Event.mk s failed].any (fun e => flag (view e.state)) = true →
      flag (view s) = true := by
    intro failed hany
    simpa using hany
  unfold Program.inspect
  by_cases hfault : faults 0 = true
  · rw [if_pos hfault]
    refine ⟨?_, rfl, rfl, hfailed true⟩
    intro event he
    rw [List.mem_singleton.1 he]
    exact hv
  · rw [if_neg hfault]
    refine ⟨?_, hread s, rfl, rfl, hfailed false⟩
    intro event he
    rw [List.mem_singleton.1 he]
    exact hv

theorem readSome {e missing : ε} {read : κ → Option α} (value : ν → Option α)
    (hread : ∀ s, read s = value (view s)) (hv : J v) :
    Shows view J flag v m (Program.inspectSome e missing read : Program κ μ ε α)
      (fun b a v' m' => value v = some a ∧ v' = v ∧ m' = m ∧ (b = true → flag v = true))
      (fun b v' m' => v' = v ∧ m' = m ∧ (b = true → flag v = true)) := by
  refine bind (Shows.read value hread hv) ?_
  rintro b (_ | a) v' m' ⟨hvalue, rfl, rfl, hb⟩
  · exact fail ⟨rfl, rfl, by simpa using hb⟩
  · exact pure ⟨hvalue.symm, rfl, rfl, by simpa using hb⟩

/-- A command that shows `t` afterwards. -/
theorem command {e : ε} {act : κ → Option κ} {t : ν}
    (hact : ∀ s s', view s = v → act s = some s' → view s' = t) (hv : J v) (ht : J t) :
    Shows view J flag v m (Program.command e act : Program κ μ ε Unit)
      (fun b _ u m' => u = t ∧ m' = m ∧ b = flag t) (fun b u m' => u = v ∧ m' = m ∧ b = flag v) := by
  rintro s faults rfl
  unfold Program.command
  split
  · rename_i s' hfault hdone
    have hshown := hact s s' rfl hdone
    refine ⟨?_, hshown, rfl, ?_⟩
    · intro event he
      rw [List.mem_singleton.1 he, hshown]
      exact ht
    · simp [hshown]
  · refine ⟨?_, rfl, rfl, by simp⟩
    intro event he
    rw [List.mem_singleton.1 he]
    exact hv

/-- A question that shows `t` afterwards, whatever the answer. -/
theorem ask {e : ε} {act : κ → Bool × κ} {t : ν} {g : Bool}
    (hact : ∀ s, view s = v → (act s).1 = g ∧ view (act s).2 = t) (ht : J t) :
    Shows view J flag v m (Program.ask e act : Program κ μ ε Unit)
      (fun b _ u m' => g = true ∧ u = t ∧ m' = m ∧ b = flag t)
      (fun b u m' => g = false ∧ u = t ∧ m' = m ∧ b = flag t) := by
  intro s faults hs
  obtain ⟨hgranted, hshown⟩ := hact s hs
  have hrun : Program.ask e act ⟨s, m, faults⟩ =
      (⟨if (act s).1 then .ok () else .error e, ⟨(act s).2, m, faults⟩,
        [⟨(act s).2, !(act s).1⟩]⟩ : Outcome κ μ ε Unit) := rfl
  rw [hrun, hgranted]
  refine ⟨?_, ?_⟩
  · intro event he
    rw [List.mem_singleton.1 he, hshown]
    exact ht
  · cases g <;> simp [hshown]

end Shows

end Faults
