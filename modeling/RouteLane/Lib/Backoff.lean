import Mathlib

/-!
# Waiting longer after each failure

Something that keeps failing is not tried again at once: the first failure is followed by
a wait, and each further one by a wait of twice the length, up to a limit.  A hold says when
the next attempt may be made and which wait led to it; only a success lets go of it.
-/

namespace Backoff

/-- When the next attempt may be made, and the wait before it. -/
abbrev Hold := Option (ℕ × ℕ)

variable (first limit : ℕ)

/-- The wait after another failure. -/
def next (previous : Option ℕ) : ℕ :=
  match previous with
  | none => first
  | some wait => min (wait * 2) limit

/-- The hold that a failure leaves. -/
def held (now : ℕ) (hold : Hold) : ℕ × ℕ :=
  (now + next first limit (hold.map Prod.snd), next first limit (hold.map Prod.snd))

/-- What an attempt, or something else, makes of the hold. -/
inductive Step (now : ℕ) (succeeded : Prop) (hold : Hold) : Hold → Prop
  | kept : Step now succeeded hold hold
  | released : succeeded → Step now succeeded hold none
  | failed : Step now succeeded hold (some (held first limit now hold))
  | failedAnew : succeeded → Step now succeeded hold (some (held first limit now none))

/-- A hold that was placed by now, with a wait within the limit. -/
def Placed (now : ℕ) (hold : Hold) : Prop :=
  ∀ retryAt wait, hold = some (retryAt, wait) → retryAt ≤ now + wait ∧ wait ≤ limit

/-- There is a hold until then, or for longer. -/
def Until (deadline : ℕ) (hold : Hold) : Prop :=
  ∃ retryAt wait, hold = some (retryAt, wait) ∧ deadline ≤ retryAt

variable {first limit} {now now' deadline : ℕ} {succeeded : Prop} {hold hold' : Hold}

theorem placed_none : Placed limit now none := fun _ _ h => by cases h

theorem Placed.later (h : Placed limit now hold) (hle : now ≤ now') : Placed limit now' hold := by
  intro retryAt wait hhold
  obtain ⟨hplaced, hlimit⟩ := h retryAt wait hhold
  exact ⟨by omega, hlimit⟩

theorem next_le (hfirst : first ≤ limit) (previous : Option ℕ) :
    next first limit previous ≤ limit := by
  cases previous with
  | none => exact hfirst
  | some wait => exact min_le_right _ _

theorem placed_held (hfirst : first ≤ limit) : Placed limit now (some (held first limit now hold)) := by
  rintro retryAt wait ⟨⟩
  exact ⟨le_rfl, next_le hfirst _⟩

theorem Placed.step (h : Placed limit now hold) (hfirst : first ≤ limit)
    (hstep : Step first limit now succeeded hold hold') : Placed limit now hold' := by
  cases hstep with
  | kept => exact h
  | released _ => exact placed_none
  | failed => exact placed_held hfirst
  | failedAnew _ => exact placed_held hfirst

/-- Where nothing succeeded, nothing succeeded anyhow. -/
theorem Step.of_not {other : Prop} (h : Step first limit now succeeded hold hold')
    (hnot : ¬succeeded) : Step first limit now other hold hold' := by
  cases h with
  | kept => exact .kept
  | released hdone => exact absurd hdone hnot
  | failed => exact .failed
  | failedAnew hdone => exact absurd hdone hnot

/-- No wait is shorter than the one before. -/
theorem le_next {wait : ℕ} (h : wait ≤ limit) : wait ≤ next first limit (some wait) :=
  le_min (by omega) h

/-- What does not succeed does not shorten a hold. -/
theorem Until.step (h : Until deadline hold) (hplaced : Placed limit now hold)
    (hnot : ¬succeeded) (hstep : Step first limit now succeeded hold hold') :
    Until deadline hold' := by
  cases hstep with
  | kept => exact h
  | released hdone => exact absurd hdone hnot
  | failedAnew hdone => exact absurd hdone hnot
  | failed =>
    obtain ⟨retryAt, wait, rfl, hdeadline⟩ := h
    obtain ⟨hretry, hlimit⟩ := hplaced retryAt wait rfl
    refine ⟨_, _, rfl, ?_⟩
    have hlonger : wait ≤ next first limit (some wait) := le_next hlimit
    show deadline ≤ now + next first limit (some wait)
    omega

end Backoff
