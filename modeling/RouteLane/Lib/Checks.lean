import RouteLane.Lib.ReadOnly

/-!
# Checks

What a program does between its commands: it gives up unless a condition holds, or takes the
result of something pure.  The rules at the end say what a program returns, what it leaves and
what it passes through when nothing disturbs it.
-/

namespace Faults

open Program

variable {κ μ ε β γ : Type}

/-- What holds at every event may be said more weakly, and so may what holds at the end. -/
theorem ensures_weaken {s : κ} {m : μ} {p : Program κ μ ε β}
    {K K' : Event κ → Prop} {Q Q' : β → κ → μ → Prop} {E E' : κ → μ → Prop}
    (h : Ensures (always K) s m p Q E) (hK : ∀ e, K e → K' e)
    (hQ : ∀ b s' m', Q b s' m' → Q' b s' m') (hE : ∀ s' m', E s' m' → E' s' m') :
    Ensures (always K') s m p Q' E' := by
  intro faults hfaults hknown
  obtain ⟨hkeeps, hrest⟩ := h.conseq hQ hE faults hfaults fun _ _ => trivial
  exact ⟨fun e he => hK e (hkeeps e he), hrest⟩

/-- What is done with the value of a program at its end is all that changes. -/
theorem bind_pure_eq {p : Program κ μ ε β} (g : β → γ) (w : World κ μ) :
    (p >>= fun b => pure (g b)) w = ⟨(p w).result.map g, (p w).world, (p w).events⟩ := by
  cases hresult : (p w).result with
  | error e =>
    rw [bind_of_error hresult]
    rfl
  | ok b =>
    rw [bind_of_ok hresult]
    exact congrArg _ (List.append_nil _)

/-- Give up unless a condition holds. -/
def demand (c : Prop) [Decidable c] (e : ε) : Program κ μ ε Unit := if c then return () else fail e

/-- Take the result of something that sends no command. -/
def ofExcept : Except ε β → Program κ μ ε β
  | .ok b => return b
  | .error e => fail e

section Rules

variable {r : Regime κ} {s : κ} {m : μ} {E : κ → μ → Prop}

theorem demand_ensures {c : Prop} [Decidable c] {e : ε} {Q : Unit → κ → μ → Prop}
    (hyes : c → Q () s m) (hno : ¬c → E s m) :
    Ensures r s m (demand c e : Program κ μ ε Unit) Q E := by
  by_cases h : c
  · rw [demand, if_pos h]
    exact Ensures.pure (hyes h)
  · rw [demand, if_neg h]
    exact Ensures.fail (hno h)

theorem ofExcept_ensures {x : Except ε β} {Q : β → κ → μ → Prop}
    (hok : ∀ b, x = .ok b → Q b s m) (herror : ∀ e, x = .error e → E s m) :
    Ensures r s m (ofExcept x : Program κ μ ε β) Q E := by
  cases x with
  | ok b => exact Ensures.pure (hok b rfl)
  | error e => exact Ensures.fail (herror e rfl)

end Rules

/-! ## Undisturbed reads -/

variable {s : κ} {m : μ}

/-- Undisturbed, the program ends like this and changes nothing. -/
def Gives (p : Program κ μ ε β) (s : κ) (m : μ) (x : Except ε β) : Prop :=
  (p (quiet s m)).result = x ∧ (p (quiet s m)).world = quiet s m

theorem Gives.of_eq {p : Program κ μ ε β} {x y : Except ε β} (h : Gives p s m x) (hx : x = y) :
    Gives p s m y := hx ▸ h

theorem gives_pure (b : β) : Gives (pure b : Program κ μ ε β) s m (.ok b) := ⟨rfl, rfl⟩

theorem gives_fail (e : ε) : Gives (fail e : Program κ μ ε β) s m (.error e) := ⟨rfl, rfl⟩

theorem gives_inspect (e : ε) (read : κ → β) :
    Gives (inspect e read : Program κ μ ε β) s m (.ok (read s)) := ⟨rfl, rfl⟩

theorem gives_demand_pos {c : Prop} [Decidable c] (h : c) (e : ε) :
    Gives (demand c e : Program κ μ ε Unit) s m (.ok ()) := by
  rw [demand, if_pos h]
  exact gives_pure ()

theorem gives_demand_neg {c : Prop} [Decidable c] (h : ¬c) (e : ε) :
    Gives (demand c e : Program κ μ ε Unit) s m (.error e) := by
  rw [demand, if_neg h]
  exact gives_fail e

theorem gives_ofExcept (x : Except ε β) : Gives (ofExcept x : Program κ μ ε β) s m x := by
  cases x with
  | ok b => exact gives_pure b
  | error e => exact gives_fail e

/-- Something that may not be there. -/
def orElse (missing : ε) : Option β → Except ε β
  | some b => .ok b
  | none => .error missing

theorem Gives.bind_ok {p : Program κ μ ε β} {f : β → Program κ μ ε γ} {b : β} {y : Except ε γ}
    (hp : Gives p s m (.ok b)) (hf : Gives (f b) s m y) : Gives (p >>= f) s m y := by
  obtain ⟨hresult, hworld⟩ := hp
  refine ⟨?_, ?_⟩ <;> rw [bind_of_ok hresult, hworld]
  · exact hf.1
  · exact hf.2

theorem Gives.bind_error {p : Program κ μ ε β} {f : β → Program κ μ ε γ} {e : ε}
    (hp : Gives p s m (.error e)) : Gives (p >>= f) s m (.error e) :=
  ⟨by rw [bind_of_error hp.1], by rw [bind_of_error hp.1]; exact hp.2⟩

theorem gives_inspectSome (e missing : ε) (read : κ → Option β) :
    Gives (inspectSome e missing read : Program κ μ ε β) s m (orElse missing (read s)) := by
  refine (gives_inspect e read).bind_ok ?_
  cases read s with
  | some b => exact gives_pure b
  | none => exact gives_fail missing

theorem Gives.attempt {δ' : Type} {p : Program κ μ ε β} {x : Except ε β} (h : Gives p s m x) :
    Gives (Program.attempt p : Program κ μ δ' (Except ε β)) s m (.ok x) :=
  ⟨congrArg Except.ok h.1, h.2⟩

/-! ## Undisturbed runs -/

variable {s' s'' : κ}

/-- Undisturbed, the program returns this and leaves that machine. -/
def Does (p : Program κ μ ε β) (s : κ) (m : μ) (b : β) (s' : κ) : Prop :=
  (p (quiet s m)).result = .ok b ∧ (p (quiet s m)).world = quiet s' m

/-- Undisturbed, a command of the program leaves that machine on the way. -/
def Passes (p : Program κ μ ε β) (s : κ) (m : μ) (s' : κ) : Prop :=
  ⟨s', false⟩ ∈ (p (quiet s m)).events

theorem Gives.does {p : Program κ μ ε β} {b : β} (h : Gives p s m (.ok b)) : Does p s m b s := h

theorem does_command {act : κ → Option κ} (e : ε) (h : act s = some s') :
    Does (command e act : Program κ μ ε Unit) s m () s' := by
  have hrun : command e act (quiet s m) = _ := command_done rfl h
  exact ⟨by rw [hrun], by rw [hrun]; rfl⟩

theorem Does.bind {p : Program κ μ ε β} {f : β → Program κ μ ε γ} {b : β} {c : γ}
    (hp : Does p s m b s') (hf : Does (f b) s' m c s'') : Does (p >>= f) s m c s'' := by
  obtain ⟨hresult, hworld⟩ := hp
  refine ⟨?_, ?_⟩ <;> rw [bind_of_ok hresult, hworld]
  · exact hf.1
  · exact hf.2

theorem Does.attempt {δ' : Type} {p : Program κ μ ε β} {b : β} (h : Does p s m b s') :
    Does (Program.attempt p : Program κ μ δ' (Except ε β)) s m (.ok b) s' :=
  ⟨congrArg Except.ok h.1, h.2⟩

/-- A loop goes through a state for each of the elements it is done with. -/
theorem does_forEach {f : β → Program κ μ ε Unit} {l : List β} (state : List β → κ)
    (hstep : ∀ done b, Does (f b) (state done) m () (state (done ++ [b]))) :
    Does (forEach f l) (state []) m () (state l) := by
  suffices h : ∀ rest done, Does (forEach f rest) (state done) m () (state (done ++ rest)) from
    h l []
  intro rest
  induction rest with
  | nil =>
    intro done
    rw [List.append_nil]
    exact gives_pure ()
  | cons b rest ih =>
    intro done
    have hrest := ih (done ++ [b])
    rw [List.append_assoc] at hrest
    exact (hstep done b).bind hrest

theorem passes_command {act : κ → Option κ} (e : ε) (h : act s = some s') :
    Passes (command e act : Program κ μ ε Unit) s m s' := by
  have hrun : command e act (quiet s m) = _ := command_done rfl h
  rw [Passes, hrun]
  exact List.mem_cons_self

theorem Passes.bind {p : Program κ μ ε β} (h : Passes p s m s') (f : β → Program κ μ ε γ) :
    Passes (p >>= f) s m s' := by
  rw [Passes]
  cases hresult : (p (quiet s m)).result with
  | error e =>
    rw [bind_of_error hresult]
    exact h
  | ok b =>
    rw [bind_of_ok hresult]
    exact List.mem_append_left _ h

theorem Does.bind_passes {p : Program κ μ ε β} {f : β → Program κ μ ε γ} {b : β}
    (hp : Does p s m b s') (hf : Passes (f b) s' m s'') : Passes (p >>= f) s m s'' := by
  obtain ⟨hresult, hworld⟩ := hp
  rw [Passes, bind_of_ok hresult, hworld]
  exact List.mem_append_right _ hf

theorem Passes.attempt {δ' : Type} {p : Program κ μ ε β} (h : Passes p s m s') :
    Passes (Program.attempt p : Program κ μ δ' (Except ε β)) s m s' := h

end Faults
