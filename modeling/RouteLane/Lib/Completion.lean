import RouteLane.Lib.Views

/-!
# Work that can be interrupted

A program that finishes something in several steps is judged by three things at once: what
holds at every event, so also where it may be killed; what holds when it returns; and that
it does return when nothing disturbs it.  A program that is run again after it was killed
finishes the work if its own events keep what it starts from.
-/

namespace Faults

variable {κ κ' μ μ' ε δ ν α β γ : Type}

/-! ## Calm programs -/

/-- Where no command fails, none will fail later. -/
def Calm (p : Program κ μ ε α) : Prop :=
  ∀ w, (∀ i, w.faults i = false) → ∀ i, (p w).world.faults i = false

namespace Calm

variable {p : Program κ μ ε α} {f : α → Program κ μ ε β}

theorem pure (a : α) : Calm (Pure.pure a : Program κ μ ε α) := fun _ h => h

theorem fail (e : ε) : Calm (Program.fail e : Program κ μ ε α) := fun _ h => h

theorem bind (hp : Calm p) (hf : ∀ a, Calm (f a)) : Calm (p >>= f) := by
  intro w hw
  have hbind : (p >>= f) w = Program.bind p f w := rfl
  have hafter := hp w hw
  rw [hbind, Program.bind]
  rcases hrun : p w with ⟨_ | a, w', events⟩
  · rw [hrun] at hafter
    exact hafter
  · rw [hrun] at hafter
    exact hf a w' hafter

theorem inspect (e : ε) (read : κ → α) : Calm (Program.inspect e read : Program κ μ ε α) := by
  intro w hw
  unfold Program.inspect
  split <;> exact fun i => hw (i + 1)

theorem inspectSome (e missing : ε) (read : κ → Option α) :
    Calm (Program.inspectSome e missing read : Program κ μ ε α) := by
  refine bind (inspect e read) fun found => ?_
  cases found with
  | none => exact fail missing
  | some a => exact pure a

theorem command (e : ε) (act : κ → Option κ) :
    Calm (Program.command e act : Program κ μ ε Unit) := by
  intro w hw
  unfold Program.command
  split <;> exact fun i => hw (i + 1)

theorem attempt (hp : Calm p) : Calm (Program.attempt p : Program κ μ δ (Except ε α)) := hp

end Calm

/-! ## Programs that have no part in the work -/

/-- A program that shows nothing new, leaves the memory alone and disturbs nothing. -/
structure Aside (view : κ → ν) (p : Program κ μ ε α) : Prop where
  quiet : Quiet view p
  calm : Calm p

namespace Aside

variable {view : κ → ν} {p : Program κ μ ε α} {f : α → Program κ μ ε β}

theorem pure (a : α) : Aside view (Pure.pure a : Program κ μ ε α) := ⟨.pure a, .pure a⟩

theorem fail (e : ε) : Aside view (Program.fail e : Program κ μ ε α) := ⟨.fail e, .fail e⟩

theorem bind (hp : Aside view p) (hf : ∀ a, Aside view (f a)) : Aside view (p >>= f) :=
  ⟨.bind hp.quiet fun a => (hf a).quiet, .bind hp.calm fun a => (hf a).calm⟩

theorem inspectSome (e missing : ε) (read : κ → Option α) :
    Aside view (Program.inspectSome e missing read : Program κ μ ε α) :=
  ⟨.inspectSome e missing read, .inspectSome e missing read⟩

theorem command {e : ε} {act : κ → Option κ}
    (hact : ∀ s s', act s = some s' → view s' = view s) :
    Aside view (Program.command e act : Program κ μ ε Unit) := ⟨.command hact, .command e act⟩

theorem attempt (hp : Aside view p) :
    Aside view (Program.attempt p : Program κ μ δ (Except ε α)) := ⟨hp.quiet, hp.calm⟩

end Aside

/-! ## Completion -/

/-- From this machine and memory every event of every run keeps `keeps`, what the program
returns is `Q`, and an undisturbed run from a quiet machine returns and stays undisturbed. -/
def Completes (quiet keeps : κ → Prop) (s : κ) (m : μ) (p : Program κ μ ε α)
    (Q : α → κ → μ → Prop) : Prop :=
  ∀ faults : ℕ → Bool,
    (∀ e ∈ (p ⟨s, m, faults⟩).events, keeps e.state) ∧
    (∀ a, (p ⟨s, m, faults⟩).result = .ok a →
      Q a (p ⟨s, m, faults⟩).world.machine (p ⟨s, m, faults⟩).world.memory) ∧
    ((∀ i, faults i = false) → quiet s →
      (∃ a, (p ⟨s, m, faults⟩).result = .ok a) ∧
      (∀ i, (p ⟨s, m, faults⟩).world.faults i = false) ∧
      quiet (p ⟨s, m, faults⟩).world.machine)

namespace Completes

variable {quiet keeps : κ → Prop} {s : κ} {m : μ} {p : Program κ μ ε α}
  {f : α → Program κ μ ε β} {Q Q' : α → κ → μ → Prop}

theorem pure {a : α} (h : Q a s m) :
    Completes quiet keeps s m (Pure.pure a : Program κ μ ε α) Q := by
  intro faults
  refine ⟨fun e he => absurd he List.not_mem_nil, ?_, fun hfaults hs => ⟨⟨a, rfl⟩, hfaults, hs⟩⟩
  intro b hb
  rw [← Except.ok.inj hb]
  exact h

/-- Giving up is no completion. -/
theorem fail {e : ε} (h : ¬quiet s) :
    Completes quiet keeps s m (Program.fail e : Program κ μ ε α) Q := by
  intro faults
  exact ⟨fun e he => absurd he List.not_mem_nil, by rintro _ ⟨⟩, fun _ hs => absurd hs h⟩

theorem get {Q : μ → κ → μ → Prop} (h : Q m s m) :
    Completes quiet keeps s m (Program.get : Program κ μ ε μ) Q := by
  intro faults
  refine ⟨fun e he => absurd he List.not_mem_nil, ?_, fun hfaults hs => ⟨⟨m, rfl⟩, hfaults, hs⟩⟩
  intro b hb
  rw [← Except.ok.inj hb]
  exact h

theorem modify {g : μ → μ} {Q : Unit → κ → μ → Prop} (h : Q () s (g m)) :
    Completes quiet keeps s m (Program.modify g : Program κ μ ε Unit) Q := by
  intro faults
  exact ⟨fun e he => absurd he List.not_mem_nil, fun _ _ => h,
    fun hfaults hs => ⟨⟨(), rfl⟩, hfaults, hs⟩⟩

theorem conseq (h : Completes quiet keeps s m p Q) (hQ : ∀ a s' m', Q a s' m' → Q' a s' m') :
    Completes quiet keeps s m p Q' := by
  intro faults
  obtain ⟨hevents, hpost, hdone⟩ := h faults
  exact ⟨hevents, fun a ha => hQ _ _ _ (hpost a ha), hdone⟩

theorem bind {R : β → κ → μ → Prop} (hp : Completes quiet keeps s m p Q)
    (hf : ∀ a s' m', Q a s' m' → Completes quiet keeps s' m' (f a) R) :
    Completes quiet keeps s m (p >>= f) R := by
  intro faults
  have hbind : (p >>= f) ⟨s, m, faults⟩ = Program.bind p f ⟨s, m, faults⟩ := rfl
  have hp := hp faults
  rw [hbind, Program.bind]
  rcases hrun : p ⟨s, m, faults⟩ with ⟨_ | a, ⟨s', m', faults'⟩, events⟩
  · rw [hrun] at hp
    obtain ⟨hevents, -, hdone⟩ := hp
    refine ⟨hevents, by rintro _ ⟨⟩, fun hfaults hs => ?_⟩
    obtain ⟨⟨a, ha⟩, -⟩ := hdone hfaults hs
    cases ha
  · rw [hrun] at hp
    obtain ⟨hevents, hpost, hdone⟩ := hp
    obtain ⟨hevents', hpost', hdone'⟩ := hf a s' m' (hpost a rfl) faults'
    refine ⟨?_, hpost', fun hfaults hs => ?_⟩
    · intro e he
      rcases List.mem_append.1 he with he | he
      · exact hevents e he
      · exact hevents' e he
    · obtain ⟨-, hfaults', hs'⟩ := hdone hfaults hs
      exact hdone' hfaults' hs'

/-- A command the machine carries out. -/
theorem command {e : ε} {act : κ → Option κ} {s' : κ} {Q : Unit → κ → μ → Prop}
    (hact : act s = some s') (hs : keeps s) (hs' : keeps s') (hquiet : quiet s → quiet s')
    (hQ : Q () s' m) : Completes quiet keeps s m (Program.command e act) Q := by
  intro faults
  by_cases hfault : faults 0 = true
  · rw [Program.command_failed (Or.inl hfault)]
    refine ⟨?_, by rintro _ ⟨⟩, fun hfaults _ => ?_⟩
    · intro event he
      rw [List.mem_singleton.1 he]
      exact hs
    · rw [hfaults 0] at hfault
      cases hfault
  · rw [Program.command_done (Bool.eq_false_of_not_eq_true hfault) hact]
    refine ⟨?_, fun _ _ => hQ, fun hfaults h => ⟨⟨(), rfl⟩, fun i => hfaults (i + 1), hquiet h⟩⟩
    intro event he
    rw [List.mem_singleton.1 he]
    exact hs'

/-- A command the machine refuses is no completion either. -/
theorem refused {e : ε} {act : κ → Option κ} {Q : Unit → κ → μ → Prop} (hact : act s = none)
    (hs : keeps s) (h : ¬quiet s) : Completes quiet keeps s m (Program.command e act) Q := by
  intro faults
  rw [Program.command_failed (Or.inr hact)]
  refine ⟨?_, by rintro _ ⟨⟩, fun _ hquiet => absurd hquiet h⟩
  intro event he
  rw [List.mem_singleton.1 he]
  exact hs

theorem inspect {e : ε} {read : κ → α} (hs : keeps s) (hQ : Q (read s) s m) :
    Completes quiet keeps s m (Program.inspect e read) Q := by
  intro faults
  by_cases hfault : faults 0 = true
  · have hrun : Program.inspect e read (⟨s, m, faults⟩ : World κ μ) =
        ⟨.error e, ⟨s, m, fun i => faults (i + 1)⟩, [⟨s, true⟩]⟩ := if_pos hfault
    rw [hrun]
    refine ⟨?_, by rintro _ ⟨⟩, fun hfaults _ => ?_⟩
    · intro event he
      rw [List.mem_singleton.1 he]
      exact hs
    · rw [hfaults 0] at hfault
      cases hfault
  · have hrun : Program.inspect e read (⟨s, m, faults⟩ : World κ μ) =
        ⟨.ok (read s), ⟨s, m, fun i => faults (i + 1)⟩, [⟨s, false⟩]⟩ := if_neg hfault
    rw [hrun]
    refine ⟨?_, ?_, fun hfaults h => ⟨⟨read s, rfl⟩, fun i => hfaults (i + 1), h⟩⟩
    · intro event he
      rw [List.mem_singleton.1 he]
      exact hs
    · intro a ha
      rw [← Except.ok.inj ha]
      exact hQ

/-- A question that a quiet machine grants. -/
theorem ask {e : ε} {act : κ → Bool × κ} {Q : Unit → κ → μ → Prop} (hkeeps : keeps (act s).2)
    (hquiet : quiet s → (act s).1 = true ∧ quiet (act s).2)
    (hQ : (act s).1 = true → Q () (act s).2 m) :
    Completes quiet keeps s m (Program.ask e act) Q := by
  intro faults
  have hrun : Program.ask e act ⟨s, m, faults⟩ =
      (⟨if (act s).1 then .ok () else .error e, ⟨(act s).2, m, faults⟩,
        [⟨(act s).2, !(act s).1⟩]⟩ : Outcome κ μ ε Unit) := rfl
  rw [hrun]
  refine ⟨?_, ?_, fun hfaults h => ?_⟩
  · intro event he
    rw [List.mem_singleton.1 he]
    exact hkeeps
  · intro a ha
    cases hanswer : (act s).1 with
    | false => simp [hanswer] at ha
    | true => exact hQ hanswer
  · obtain ⟨hgranted, hquiet'⟩ := hquiet h
    refine ⟨⟨(), ?_⟩, hfaults, hquiet'⟩
    simp [hgranted]

/-- A rule for every environment is one for an undisturbed run and for any other. -/
theorem ofEnsures {sure : Prop} (h : ∀ r : Regime κ, (∀ k, keeps k → r.Fine k) →
      Ensures r s m p Q fun _ _ => r.mayFail) :
    Completes (fun _ => sure) keeps s m p Q := by
  intro faults
  obtain ⟨hevents, -, hpost⟩ := h (always fun e => keeps e.state) (fun k hk _ _ => hk) faults
    (fun _ _ => trivial) fun _ _ => trivial
  refine ⟨hevents, ?_, fun hfaults hsure => ?_⟩
  · intro a ha
    rw [ha] at hpost
    exact hpost
  · obtain ⟨-, hafter, hpost'⟩ := h ⟨False, fun _ => True, fun _ => True⟩
      (fun _ _ _ _ => trivial) faults (fun i hi => Bool.false_ne_true ((hfaults i).symm.trans hi))
      fun _ _ => trivial
    refine ⟨?_, fun i => Bool.eq_false_of_not_eq_true (hafter i), hsure⟩
    cases hresult : (p ⟨s, m, faults⟩).result with
    | ok a => exact ⟨a, rfl⟩
    | error e =>
      rw [hresult] at hpost'
      exact hpost'.elim

/-- An action of a part of the machine comes first, and its error ends the program. -/
theorem within_bind {part : κ → κ'} {put : κ → κ' → κ} {m' : μ'} {q : Program κ' μ' δ γ}
    {g : Except δ γ × μ' → Program κ μ ε β} {quiet' : κ' → Prop} {P : γ → κ' → μ' → Prop}
    {R : β → κ → μ → Prop}
    (hq : Completes quiet' (fun k => keeps (put s k)) (part s) m' q P)
    (hpart : quiet s → quiet' (part s)) (hquiet : ∀ k, quiet s → quiet (put s k))
    (herror : ∀ e m', ∃ e', g (.error e, m') = Program.fail e')
    (hg : ∀ a k m', P a k m' → Completes quiet keeps (put s k) m (g (.ok a, m')) R) :
    Completes quiet keeps s m (Program.within part put m' q >>= g) R := by
  intro faults
  have hrun : (Program.within part put m' q >>= g) ⟨s, m, faults⟩ =
      Program.bind (Program.within part put m' q) g ⟨s, m, faults⟩ := rfl
  obtain ⟨hevents, hpost, hdone⟩ := hq faults
  rw [hrun, Program.bind, Program.within]
  dsimp only
  have hparts : ∀ e ∈ (q ⟨part s, m', faults⟩).events.map (fun e =>
      (⟨put s e.state, e.failed⟩ : Event κ)), keeps e.state := by
    intro e he
    obtain ⟨e', he', rfl⟩ := List.mem_map.1 he
    exact hevents e' he'
  cases hresult : (q ⟨part s, m', faults⟩).result with
  | error e =>
    obtain ⟨e', he'⟩ := herror e (q ⟨part s, m', faults⟩).world.memory
    rw [he']
    refine ⟨?_, by rintro _ ⟨⟩, fun hfaults h => ?_⟩
    · rw [show ∀ w : World κ μ, (Program.fail e' : Program κ μ ε β) w = ⟨.error e', w, []⟩ from
        fun _ => rfl, List.append_nil]
      exact hparts
    · obtain ⟨⟨a, ha⟩, -⟩ := hdone hfaults (hpart h)
      rw [hresult] at ha
      cases ha
  | ok a =>
    obtain ⟨hevents', hpost', hdone'⟩ := hg a _ _ (hpost a hresult)
      (q ⟨part s, m', faults⟩).world.faults
    refine ⟨?_, hpost', fun hfaults h => ?_⟩
    · intro e he
      rcases List.mem_append.1 he with he | he
      · exact hparts e he
      · exact hevents' e he
    · exact hdone' (hdone hfaults (hpart h)).2.1 (hquiet _ h)

theorem ofAside {view : κ → ν} {Q : α → κ → μ → Prop} (hp : Aside view p)
    (hreturns : ∀ w, ∃ a, (p w).result = .ok a) (hkeeps : ∀ s', view s' = view s → keeps s')
    (hquiet : ∀ s', view s' = view s → quiet s → quiet s')
    (hQ : ∀ a s', view s' = view s → Q a s' m) : Completes quiet keeps s m p Q := by
  intro faults
  obtain ⟨hview, hmemory, hevents⟩ := hp.quiet ⟨s, m, faults⟩
  refine ⟨fun e he => hkeeps _ (hevents e he), ?_, fun hfaults h => ?_⟩
  · intro a _
    show Q a _ (p ⟨s, m, faults⟩).world.memory
    rw [show (p ⟨s, m, faults⟩).world.memory = m from hmemory]
    exact hQ a _ hview
  · exact ⟨hreturns _, hp.calm _ hfaults, hquiet _ hview h⟩

/-- A program that only reads, where its end is not in question. -/
theorem ofReads (hp : Quiet id p) (hs : keeps s) (h : ¬quiet s) :
    Completes quiet keeps s m p fun _ s' m' => s' = s ∧ m' = m := by
  intro faults
  obtain ⟨hmachine, hmemory, hevents⟩ := hp ⟨s, m, faults⟩
  refine ⟨fun e he => ?_, fun _ _ => ⟨hmachine, hmemory⟩, fun _ hquiet => absurd hquiet h⟩
  rw [show e.state = s from hevents e he]
  exact hs

end Completes

end Faults
