import RouteLane.Lib.Steps

/-!
# Messages on their way

Two parties and a queue between them.  What a party may send depends on what it has sent
before, and the other party reads the same order some time later.  So whatever the sender
keeps to, the receiver can rely on at the message it takes, however many are still under way.
-/

namespace Channels

open Steps

variable {σ μ α : Type}

/-! ## Messages in order -/

section Order

variable (ok : σ → μ → Prop) (next : σ → μ → σ)

/-- Each message is one that those before it allow. -/
def Follows (s : σ) : List μ → Prop
  | [] => True
  | m :: l => ok s m ∧ Follows (next s m) l

instance decidableFollows [∀ s m, Decidable (ok s m)] (s : σ) : ∀ l, Decidable (Follows ok next s l)
  | [] => isTrue trivial
  | m :: l =>
    have := decidableFollows (next s m) l
    inferInstanceAs (Decidable (_ ∧ _))

variable {ok next} {s : σ} {m : μ} {l l' : List μ}

@[simp] theorem follows_nil : Follows ok next s [] := trivial

@[simp] theorem follows_cons :
    Follows ok next s (m :: l) ↔ ok s m ∧ Follows ok next (next s m) l := Iff.rfl

/-- Messages are in order exactly when those up to some point are, and the rest from there. -/
theorem follows_append :
    Follows ok next s (l ++ l') ↔ Follows ok next s l ∧ Follows ok next (run next s l) l' := by
  induction l generalizing s with
  | nil => simp
  | cons m l ih => rw [List.cons_append, follows_cons, ih, follows_cons, run_cons, and_assoc]

end Order

/-! ## A queue -/

section Queue

variable (ok : σ → μ → Prop) (next : σ → μ → σ)

/-- The queue leads from what the receiver has seen to what the sender has said. -/
structure Carries (seen : σ) (queue : List μ) (said : σ) : Prop where
  follows : Follows ok next seen queue
  leads : run next seen queue = said

variable {ok next} {seen said said' : σ} {queue sent : List μ} {m : μ}

/-- What is sent in order goes to the end of the queue. -/
theorem Carries.push (h : Carries ok next seen queue said) (hsent : Follows ok next said sent)
    (hsaid : run next said sent = said') : Carries ok next seen (queue ++ sent) said' := by
  refine ⟨follows_append.2 ⟨h.follows, ?_⟩, ?_⟩
  · rw [h.leads]
    exact hsent
  · rw [run_append, h.leads, hsaid]

/-- The message that is taken is one the receiver can expect. -/
theorem Carries.pop (h : Carries ok next seen (m :: queue) said) :
    ok seen m ∧ Carries ok next (next seen m) queue said :=
  ⟨h.follows.1, h.follows.2, h.leads⟩

end Queue

/-! ## Coming to rest -/

/-- A run of steps that each take something off a weight is no longer than the weight. -/
theorem length_le_weight {step : σ → α → Option σ} {I : σ → Prop} {P : α → Prop} {weight : σ → ℕ}
    (hkeep : ∀ s x t, I s → step s x = some t → I t)
    (hless : ∀ s x t, I s → P x → step s x = some t → weight t < weight s) {l : List α} :
    ∀ {s t : σ}, I s → (∀ x ∈ l, P x) → replay step s l = some t →
      l.length + weight t ≤ weight s := by
  induction l with
  | nil =>
    intro s t _ _ hrun
    obtain rfl := Option.some.inj hrun
    simp
  | cons x l ih =>
    intro s t hs hall hrun
    obtain ⟨u, hu, hrest⟩ := replay_cons.1 hrun
    obtain ⟨hx, hl⟩ := List.forall_mem_cons.1 hall
    have hlater := ih (hkeep s x u hs hu) hl hrest
    have hfirst := hless s x u hs hx hu
    rw [List.length_cons]
    omega

end Channels
