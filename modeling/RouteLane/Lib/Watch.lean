import RouteLane.Lib.Faults

/-!
# What a failure leads to

A run is watched from the first state of a kind on.  It is clean when no watched command
fails and every watched state is good, and it is caught when a watched command fails and
a watched state is bad.  The rules at the end show that every run with at most one failing
command is one or the other: then its states are good exactly when nothing fails.
-/

namespace Faults

variable {κ μ ε δ α β : Type}

/-- From when on a run is watched, and for what. -/
structure Watch (κ : Type) where
  begins : κ → Bool
  good : κ → Prop

namespace Watch

variable (w : Watch κ)

/-- The watched events of a run that begins watched or unwatched. -/
def watched (begun : Bool) (events : List (Event κ)) : List (Event κ) :=
  if begun then events else events.dropWhile fun e => !w.begins e.state

/-- Whether the run is watched after these events. -/
def begun (begun : Bool) (events : List (Event κ)) : Bool :=
  begun || events.any fun e => w.begins e.state

def Clean (events : List (Event κ)) : Prop := ∀ e ∈ events, e.failed = false ∧ w.good e.state

def Caught (events : List (Event κ)) : Prop :=
  (∃ e ∈ events, e.failed = true) ∧ ∃ e ∈ events, ¬ w.good e.state

variable {w} {begun : Bool} {events events' : List (Event κ)}

theorem watched_append : w.watched begun (events ++ events') =
    w.watched begun events ++ w.watched (w.begun begun events) events' := by
  cases begun with
  | true => rfl
  | false =>
    simp only [watched, Watch.begun, Bool.false_or, Bool.false_eq_true, if_false]
    rw [List.dropWhile_append]
    cases hbegun : events.any fun e => w.begins e.state with
    | true =>
      obtain ⟨e, he, hbegins⟩ := List.any_eq_true.1 hbegun
      have hne : (events.dropWhile fun e => !w.begins e.state) ≠ [] := by
        rw [Ne, List.dropWhile_eq_nil_iff]
        intro hall
        have hnot := hall e he
        rw [hbegins] at hnot
        cases hnot
      rw [if_neg (by simpa using hne), if_pos rfl]
    | false =>
      have hnil : (events.dropWhile fun e => !w.begins e.state) = [] := by
        rw [List.dropWhile_eq_nil_iff]
        intro e he
        have hnot : ¬ w.begins e.state = true := fun hbegins =>
          Bool.false_ne_true (hbegun.symm.trans (List.any_eq_true.2 ⟨e, he, hbegins⟩))
        simp [hnot]
      rw [hnil, List.nil_append, if_neg Bool.false_ne_true]
      rfl

theorem begun_append : w.begun begun (events ++ events') =
    w.begun (w.begun begun events) events' := by
  simp [Watch.begun, Bool.or_assoc]

theorem watched_subset : w.watched begun events ⊆ events := by
  unfold watched
  split
  · exact List.Subset.refl _
  · exact (List.dropWhile_sublist _).subset

theorem Caught.append_left (h : w.Caught (w.watched begun events)) :
    w.Caught (w.watched begun (events ++ events')) := by
  obtain ⟨⟨e, he, hfailed⟩, e', he', hbad⟩ := h
  rw [watched_append]
  exact ⟨⟨e, List.mem_append_left _ he, hfailed⟩, e', List.mem_append_left _ he', hbad⟩

theorem Caught.append_right (h : w.Caught (w.watched (w.begun begun events) events')) :
    w.Caught (w.watched begun (events ++ events')) := by
  obtain ⟨⟨e, he, hfailed⟩, e', he', hbad⟩ := h
  rw [watched_append]
  exact ⟨⟨e, List.mem_append_right _ he, hfailed⟩, e', List.mem_append_right _ he', hbad⟩

theorem Clean.append (h : w.Clean (w.watched begun events))
    (h' : w.Clean (w.watched (w.begun begun events) events')) :
    w.Clean (w.watched begun (events ++ events')) := by
  rw [watched_append]
  intro e he
  rcases List.mem_append.1 he with he | he
  · exact h e he
  · exact h' e he

/-- What is clean or caught is good exactly when nothing of it failed. -/
theorem good_iff_of_clean_or_caught (h : w.Clean events ∨ w.Caught events) :
    (∀ e ∈ events, w.good e.state) ↔ ∀ e ∈ events, e.failed = false := by
  rcases h with hclean | ⟨⟨e, he, hfailed⟩, e', he', hbad⟩
  · exact iff_of_true (fun e he => (hclean e he).2) fun e he => (hclean e he).1
  · refine iff_of_false (fun hgood => hbad (hgood e' he')) fun hnone => ?_
    rw [hnone e he] at hfailed
    cases hfailed

end Watch

/-! ## Programs that give up -/

/-- A program that gives up as soon as one of its commands fails. -/
def Abortive (p : Program κ μ ε α) : Prop :=
  ∀ w a, (p w).result = .ok a → ∀ e ∈ (p w).events, e.failed = false

namespace Abortive

variable {p : Program κ μ ε α} {f : α → Program κ μ ε β}

theorem pure {a : α} : Abortive (Pure.pure a : Program κ μ ε α) :=
  fun _ _ _ _ he => absurd he List.not_mem_nil

theorem fail {e : ε} : Abortive (Program.fail e : Program κ μ ε α) := fun _ _ h => by cases h

theorem get : Abortive (Program.get : Program κ μ ε μ) :=
  fun _ _ _ _ he => absurd he List.not_mem_nil

theorem modify {g : μ → μ} : Abortive (Program.modify g : Program κ μ ε Unit) :=
  fun _ _ _ _ he => absurd he List.not_mem_nil

theorem command {e : ε} {act : κ → Option κ} :
    Abortive (Program.command e act : Program κ μ ε Unit) := by
  rintro ⟨s, m, faults⟩ a hok
  by_cases hfailed : faults 0 = true ∨ act s = none
  · rw [Program.command_failed hfailed] at hok
    cases hok
  · obtain ⟨hfault, hact⟩ := not_or.1 hfailed
    obtain ⟨s', hact⟩ := Option.ne_none_iff_exists'.1 hact
    rw [Program.command_done (Bool.eq_false_of_not_eq_true hfault) hact]
    intro event hevent
    rw [List.mem_singleton.1 hevent]

theorem inspect {e : ε} {read : κ → α} :
    Abortive (Program.inspect e read : Program κ μ ε α) := by
  intro w a hok event hevent
  unfold Program.inspect at hok hevent
  split at hok
  · cases hok
  · rw [if_neg ‹_›] at hevent
    rw [List.mem_singleton.1 hevent]

theorem bind (hp : Abortive p) (hf : ∀ a, Abortive (f a)) : Abortive (p >>= f) := by
  intro w b hok
  have hbind : (p >>= f) w = Program.bind p f w := rfl
  have hp := hp w
  rw [hbind, Program.bind] at hok ⊢
  rcases hrun : p w with ⟨_ | a, w', events⟩
  · rw [hrun] at hok
    cases hok
  · rw [hrun] at hp hok
    intro e he
    rcases List.mem_append.1 he with he | he
    · exact hp a rfl e he
    · exact hf a w' b hok e he

theorem forEach {f : α → Program κ μ ε Unit} {l : List α} (hf : ∀ a ∈ l, Abortive (f a)) :
    Abortive (Program.forEach f l) := by
  induction l with
  | nil => exact pure
  | cons a l ih =>
    refine bind (hf a List.mem_cons_self) fun _ => ?_
    exact ih fun b hb => hf b (List.mem_cons_of_mem _ hb)

end Abortive

/-! ## Rules -/

/-- A run in which at most one command fails is caught, or it is clean and ends in `Q`,
which is told whether the run is watched by then. -/
def Exposes (w : Watch κ) (begun : Bool) (s : κ) (m : μ) (p : Program κ μ ε α)
    (Q : Bool → Except ε α → κ → μ → Prop) : Prop :=
  ∀ faults, (p ⟨s, m, faults⟩).events.countP Event.failed ≤ 1 →
    w.Caught (w.watched begun (p ⟨s, m, faults⟩).events) ∨
      w.Clean (w.watched begun (p ⟨s, m, faults⟩).events) ∧
        Q (w.begun begun (p ⟨s, m, faults⟩).events) (p ⟨s, m, faults⟩).result
          (p ⟨s, m, faults⟩).world.machine (p ⟨s, m, faults⟩).world.memory

/-- A run in which no command fails passes through a bad state. -/
def Strikes (w : Watch κ) (s : κ) (m : μ) (p : Program κ μ ε α) : Prop :=
  Ensures ⟨True, fun e => e.failed = false ∧ w.good e.state, fun _ => True⟩ s m p
    (fun _ _ _ => False) (fun _ _ => False)

/-- No command fails, and every state is to be good. -/
def Watch.unfailed (w : Watch κ) : Regime κ :=
  ⟨True, fun e => e.failed = false, fun e => w.good e.state⟩

theorem Strikes.exists_bad {w : Watch κ} {s : κ} {m : μ} {p : Program κ μ ε α}
    (h : Strikes w s m p) {faults : ℕ → Bool}
    (hnone : ∀ e ∈ (p ⟨s, m, faults⟩).events, e.failed = false) :
    ∃ e ∈ (p ⟨s, m, faults⟩).events, ¬ w.good e.state := by
  by_contra hgood
  have hknown : ∀ e ∈ (p ⟨s, m, faults⟩).events, e.failed = false ∧ w.good e.state := by
    intro e he
    refine ⟨hnone e he, ?_⟩
    by_contra hbad
    exact hgood ⟨e, he, hbad⟩
  obtain ⟨-, -, hpost⟩ := h faults (fun _ _ => trivial) hknown
  split at hpost
  · exact hpost
  · exact hpost

namespace Exposes

variable {w : Watch κ} {begun : Bool} {s : κ} {m : μ} {p : Program κ μ ε α}
  {f : α → Program κ μ ε β} {Q Q' : Bool → Except ε α → κ → μ → Prop}

/-- A program that sends no command. -/
theorem silent (hevents : ∀ faults, (p ⟨s, m, faults⟩).events = [])
    (h : ∀ faults, Q begun (p ⟨s, m, faults⟩).result (p ⟨s, m, faults⟩).world.machine
      (p ⟨s, m, faults⟩).world.memory) : Exposes w begun s m p Q := by
  intro faults _
  have hbegun : w.begun begun [] = begun := by simp [Watch.begun]
  rw [hevents faults, hbegun]
  exact Or.inr ⟨fun e he => absurd (Watch.watched_subset he) List.not_mem_nil, h faults⟩

theorem pure {a : α} (h : Q begun (.ok a) s m) :
    Exposes w begun s m (Pure.pure a : Program κ μ ε α) Q :=
  silent (fun _ => rfl) fun _ => h

theorem fail {e : ε} (h : Q begun (.error e) s m) :
    Exposes w begun s m (Program.fail e : Program κ μ ε α) Q :=
  silent (fun _ => rfl) fun _ => h

theorem get {Q : Bool → Except ε μ → κ → μ → Prop} (h : Q begun (.ok m) s m) :
    Exposes w begun s m (Program.get : Program κ μ ε μ) Q :=
  silent (fun _ => rfl) fun _ => h

theorem modify {g : μ → μ} {Q : Bool → Except ε Unit → κ → μ → Prop}
    (h : Q begun (.ok ()) s (g m)) :
    Exposes w begun s m (Program.modify g : Program κ μ ε Unit) Q :=
  silent (fun _ => rfl) fun _ => h

theorem conseq (h : Exposes w begun s m p Q) (hQ : ∀ b r s' m', Q b r s' m' → Q' b r s' m') :
    Exposes w begun s m p Q' := by
  intro faults hone
  rcases h faults hone with hcaught | ⟨hclean, hpost⟩
  · exact Or.inl hcaught
  · exact Or.inr ⟨hclean, hQ _ _ _ _ hpost⟩

theorem attempt {Q : Bool → Except δ (Except ε α) → κ → μ → Prop}
    (h : Exposes w begun s m p fun b r => Q b (.ok r)) :
    Exposes w begun s m (Program.attempt p : Program κ μ δ (Except ε α)) Q := by
  intro faults hone
  exact h faults hone

theorem bind {R : Bool → Except ε β → κ → μ → Prop} (hp : Exposes w begun s m p Q)
    (hf : ∀ b a s' m', Q b (.ok a) s' m' → Exposes w b s' m' (f a) R)
    (herror : ∀ b e s' m', Q b (.error e) s' m' → R b (.error e) s' m') :
    Exposes w begun s m (p >>= f) R := by
  intro faults
  have hbind : (p >>= f) ⟨s, m, faults⟩ = Program.bind p f ⟨s, m, faults⟩ := rfl
  have hp := hp faults
  rw [hbind, Program.bind]
  rcases hrun : p ⟨s, m, faults⟩ with ⟨e | a, ⟨s', m', faults'⟩, events⟩
  · rw [hrun] at hp
    intro hone
    exact (hp hone).imp_right fun hpost => ⟨hpost.1, herror _ _ _ _ hpost.2⟩
  · rw [hrun] at hp
    intro hone
    show w.Caught (w.watched begun (events ++ (f a ⟨s', m', faults'⟩).events)) ∨ _
    have hcount : events.countP Event.failed +
        (f a ⟨s', m', faults'⟩).events.countP Event.failed ≤ 1 := by
      rw [← List.countP_append]
      exact hone
    have hfirst : events.countP Event.failed ≤ 1 := by omega
    rcases hp hfirst with hcaught | ⟨hclean, hpost⟩
    · exact Or.inl hcaught.append_left
    · rcases hf _ a s' m' hpost faults' (by omega) with hcaught | ⟨hclean', hpost'⟩
      · exact Or.inl hcaught.append_right
      · refine Or.inr ⟨hclean.append hclean', ?_⟩
        rw [Watch.begun_append]
        exact hpost'

/-- Before it is watched, a run does as it likes. -/
theorem unwatched {Q : α → κ → μ → Prop} {E : κ → μ → Prop}
    (h : Ensures (always fun e => w.begins e.state = false) s m p Q E) :
    Exposes w false s m p fun b r s' m' => b = false ∧ match r with
      | .ok a => Q a s' m'
      | .error _ => E s' m' := by
  intro faults _
  obtain ⟨hbegins, -, hpost⟩ := h faults (fun _ _ => trivial) fun _ _ => trivial
  have hwatched : w.watched false (p ⟨s, m, faults⟩).events = [] := by
    rw [Watch.watched, if_neg Bool.false_ne_true, List.dropWhile_eq_nil_iff]
    intro e he
    rw [hbegins e he]
    rfl
  refine Or.inr ⟨?_, ?_, hpost⟩
  · rw [hwatched]
    exact fun e he => absurd he List.not_mem_nil
  · rw [Watch.begun, Bool.false_or, List.any_eq_false]
    intro e he
    rw [hbegins e he]
    exact Bool.false_ne_true

/-- The command from which on a run is watched. -/
theorem begin {e : ε} {act : κ → Option κ} {s' : κ} (hact : act s = some s')
    (hunwatched : w.begins s = false) (hbegins : w.begins s' = true) (hgood : w.good s') :
    Exposes w false s m (Program.command e act : Program κ μ ε Unit) fun b r k m' => m' = m ∧
      (b = true ∧ r = .ok () ∧ k = s' ∨ b = false ∧ (∃ e, r = .error e) ∧ k = s) := by
  intro faults _
  by_cases hfault : faults 0 = true
  · rw [Program.command_failed (Or.inl hfault)]
    refine Or.inr ⟨?_, rfl, Or.inr ⟨?_, ⟨e, rfl⟩, rfl⟩⟩
    · have hnil : w.watched false [⟨s, true⟩] = [] := by
        simp [Watch.watched, hunwatched]
      rw [hnil]
      exact fun e he => absurd he List.not_mem_nil
    · simp [Watch.begun, hunwatched]
  · rw [Program.command_done (Bool.eq_false_of_not_eq_true hfault) hact]
    refine Or.inr ⟨?_, rfl, Or.inl ⟨?_, rfl, rfl⟩⟩
    · intro e he
      rw [List.mem_singleton.1 (Watch.watched_subset he)]
      exact ⟨rfl, hgood⟩
    · simp [Watch.begun, hbegins]

/-- A watched action whose failure leads to a bad state. -/
theorem attempt_bind {g : Except ε α → Program κ μ δ β} {Q : α → κ → μ → Prop}
    {E : κ → μ → Prop} {R : Bool → Except δ β → κ → μ → Prop} (hgivesUp : Abortive p)
    (hclean : Ensures w.unfailed s m p Q fun _ _ => False)
    (hfailed : Ensures (always fun _ => True) s m p (fun _ _ _ => True) E)
    (hstrikes : ∀ e s' m', E s' m' → Strikes w s' m' (g (.error e)))
    (hrest : ∀ a s' m', Q a s' m' → Exposes w true s' m' (g (.ok a)) R) :
    Exposes w true s m (Program.attempt p >>= g) R := by
  intro faults
  have hbind : (Program.attempt p >>= g) ⟨s, m, faults⟩ =
      Program.bind (Program.attempt p) g ⟨s, m, faults⟩ := rfl
  have hgivesUp := hgivesUp ⟨s, m, faults⟩
  have hclean := hclean faults fun _ _ => trivial
  obtain ⟨-, -, hfailed⟩ := hfailed faults (fun _ _ => trivial) fun _ _ => trivial
  rw [hbind, Program.bind, Program.attempt]
  rcases hrun : p ⟨s, m, faults⟩ with ⟨result, ⟨s', m', faults'⟩, events⟩
  rw [hrun] at hgivesUp hclean hfailed
  intro hone
  have hcount : events.countP Event.failed +
      (g result ⟨s', m', faults'⟩).events.countP Event.failed ≤ 1 := by
    rw [← List.countP_append]
    exact hone
  show w.Caught (w.watched true (events ++ (g result ⟨s', m', faults'⟩).events)) ∨ _
  cases result with
  | ok a =>
    have hunfailed : ∀ e ∈ events, e.failed = false := hgivesUp a rfl
    obtain ⟨hgood, -, hpost⟩ := hclean hunfailed
    rcases hrest a s' m' hpost faults' (by omega) with hcaught | ⟨hclean', hpost'⟩
    · exact Or.inl (Watch.Caught.append_right hcaught)
    · refine Or.inr ⟨Watch.Clean.append (fun e he => ⟨hunfailed e he, hgood e he⟩) hclean', ?_⟩
      rw [Watch.begun_append]
      exact hpost'
  | error err =>
    -- The action failed, so nothing fails after it.
    obtain ⟨e, he, hfail⟩ : ∃ e ∈ events, e.failed = true := by
      by_contra hnone
      refine (hclean fun e he => ?_).2.2
      exact Bool.eq_false_of_not_eq_true fun hfail => hnone ⟨e, he, hfail⟩
    have hpos : 0 < events.countP Event.failed := List.countP_pos_iff.2 ⟨e, he, hfail⟩
    have hzero : (g (.error err) ⟨s', m', faults'⟩).events.countP Event.failed = 0 := by omega
    have hnone : ∀ e ∈ (g (.error err) ⟨s', m', faults'⟩).events, e.failed = false := by
      intro e he
      exact Bool.eq_false_of_not_eq_true (List.countP_eq_zero.1 hzero e he)
    obtain ⟨e', he', hbad⟩ := (hstrikes err s' m' hfailed).exists_bad hnone
    exact Or.inl ⟨⟨e, List.mem_append_left _ he, hfail⟩, e', List.mem_append_right _ he', hbad⟩

end Exposes

end Faults
