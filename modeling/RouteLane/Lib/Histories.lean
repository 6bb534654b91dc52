import Mathlib

/-!
# Histories

What happened, the latest first.  "Since this happened, and before it that, nothing of note
has" is a property of a history that quiet events keep.
-/

namespace Histories

variable {α : Type}

/-- `e` happened at a point where the history was as `P` says, and only quiet things since. -/
def Since (quiet : α → Prop) (e : α) (P : List α → Prop) : List α → Prop
  | [] => False
  | x :: before => x = e ∧ P before ∨ quiet x ∧ Since quiet e P before

variable {quiet : α → Prop} {e x : α} {P : List α → Prop} {h : List α}

instance decidableSince [DecidableEq α] [DecidablePred quiet] [DecidablePred P] :
    DecidablePred (Since quiet e P)
  | [] => instDecidableFalse
  | x :: before =>
    have := decidableSince before
    inferInstanceAs (Decidable (x = e ∧ P before ∨ quiet x ∧ Since quiet e P before))

theorem Since.here (h' : P h) : Since quiet e P (e :: h) := Or.inl ⟨rfl, h'⟩

theorem Since.quietly (h' : Since quiet e P h) (hx : quiet x) : Since quiet e P (x :: h) :=
  Or.inr ⟨hx, h'⟩

/-- It happened, and there is the point it happened at. -/
theorem since_iff : Since quiet e P h ↔
    ∃ after before, h = after ++ e :: before ∧ P before ∧ ∀ x ∈ after, quiet x := by
  induction h with
  | nil => simp [Since]
  | cons y h ih =>
    rw [Since, ih]
    constructor
    · rintro (⟨rfl, hP⟩ | ⟨hy, after, before, rfl, hP, hquiet⟩)
      · exact ⟨[], h, rfl, hP, by simp⟩
      · exact ⟨y :: after, before, rfl, hP, List.forall_mem_cons.2 ⟨hy, hquiet⟩⟩
    · rintro ⟨after, before, heq, hP, hquiet⟩
      cases after with
      | nil =>
        obtain ⟨rfl, rfl⟩ := List.cons.inj heq
        exact Or.inl ⟨rfl, hP⟩
      | cons z after =>
        obtain ⟨rfl, rfl⟩ := List.cons.inj heq
        rw [List.forall_mem_cons] at hquiet
        exact Or.inr ⟨hquiet.1, after, before, rfl, hP, hquiet.2⟩

end Histories
