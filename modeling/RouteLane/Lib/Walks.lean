import Mathlib.Data.List.Nodup
import Mathlib.Data.List.Perm.Subperm
import Mathlib.Logic.Relation

/-!
# Walks along a partial function

Where every element has at most one next element, a walk from one of them is determined: it
ends, or it runs into a cycle.  A loop that keeps the elements it visited finds out which, and
on finitely many elements it does so in as many rounds as there are elements, and one.
-/

namespace Walks

variable {α : Type} (next : α → Option α)

/-- The next element. -/
def Next (a b : α) : Prop := next a = some b

/-- The walk from an element ends. -/
inductive Ends : α → Prop
  | stop {a : α} : next a = none → Ends a
  | step {a b : α} : next a = some b → Ends b → Ends a

/-- The walk from an element runs into a cycle. -/
def Cyclic (a : α) : Prop := ∃ c, Relation.ReflTransGen (Next next) a c ∧
  Relation.TransGen (Next next) c c

/-- The first elements of a walk. -/
def trail : ℕ → α → List α
  | 0, a => [a]
  | n + 1, a =>
    match next a with
    | none => [a]
    | some b => a :: trail n b

section Ends

variable {next} {a b : α}

theorem Ends.follow (h : Ends next a) (hab : Next next a b) : Ends next b := by
  cases h with
  | stop hnone =>
    rw [Next, hnone] at hab
    cases hab
  | step hsome h =>
    rw [Next, hsome] at hab
    exact Option.some.inj hab ▸ h

/-- A walk that takes only steps of a walk that ends, ends. -/
theorem Ends.mono {next' : α → Option α} (h : Ends next a)
    (hsub : ∀ a b, next' a = some b → next a = some b) : Ends next' a := by
  induction h with
  | @stop a hnone =>
    cases hnext : next' a with
    | none => exact .stop hnext
    | some b =>
      rw [hsub a b hnext] at hnone
      cases hnone
  | @step a b hsome _ ih =>
    cases hnext : next' a with
    | none => exact .stop hnext
    | some c =>
      obtain rfl := Option.some.inj (hsome.symm.trans (hsub a c hnext))
      exact .step hnext ih

theorem Ends.reach (h : Ends next a) (hab : Relation.ReflTransGen (Next next) a b) :
    Ends next b := by
  induction hab with
  | refl => exact h
  | tail _ hstep ih => exact ih.follow hstep

/-- A walk that ends never comes back to where it started. -/
theorem Ends.irrefl (h : Ends next a) : ¬Relation.TransGen (Next next) a a := by
  induction h with
  | stop hnone =>
    intro hcycle
    obtain ⟨c, hstep, -⟩ := Relation.TransGen.head'_iff.1 hcycle
    rw [Next, hnone] at hstep
    cases hstep
  | @step a b hsome _ ih =>
    intro hcycle
    obtain ⟨c, hstep, hback⟩ := Relation.TransGen.head'_iff.1 hcycle
    have hc : b = c := Option.some.inj (hsome.symm.trans hstep)
    subst hc
    exact ih (Relation.TransGen.tail' hback hsome)

theorem Ends.not_cyclic (h : Ends next a) : ¬Cyclic next a := by
  rintro ⟨c, hreach, hcycle⟩
  exact (h.reach hreach).irrefl hcycle

theorem reach_of_mem_trail {n : ℕ} {c : α} (h : c ∈ trail next n a) :
    Relation.ReflTransGen (Next next) a c := by
  induction n generalizing a with
  | zero => rw [List.mem_singleton.1 h]
  | succ n ih =>
    rw [trail] at h
    cases hnext : next a with
    | none =>
      rw [hnext] at h
      rw [List.mem_singleton.1 h]
    | some b =>
      rw [hnext] at h
      rcases List.mem_cons.1 h with rfl | h
      · exact .refl
      · exact .head hnext (ih h)

/-- No element is visited twice on a walk that ends. -/
theorem Ends.nodup_trail (h : Ends next a) (n : ℕ) : (trail next n a).Nodup := by
  induction n generalizing a with
  | zero => exact List.nodup_singleton a
  | succ n ih =>
    rw [trail]
    cases hnext : next a with
    | none => exact List.nodup_singleton a
    | some b =>
      refine List.nodup_cons.2 ⟨fun hmem => ?_, ih (h.follow hnext)⟩
      exact h.irrefl (Relation.TransGen.head' hnext (reach_of_mem_trail hmem))

end Ends

/-! ## The loop -/

/-- What the loop has visited when it gets to an element: the elements on the way there, the
last one first, none twice. -/
structure Visited (visited : List α) (current : α) : Prop where
  nodup : (current :: visited).Nodup
  steps : ∀ a ∈ visited, ∃ b ∈ current :: visited, Next next a b
  reach : ∀ a ∈ current :: visited, Relation.ReflTransGen (Next next) a current

section Visits

variable {next} {visited : List α} {current : α}

theorem Visited.round {b : α} (h : Visited next visited current) (hnext : next current = some b)
    (hnew : b ∉ current :: visited) : Visited next (current :: visited) b where
  nodup := List.nodup_cons.2 ⟨hnew, h.nodup⟩
  steps a ha := by
    rcases List.mem_cons.1 ha with rfl | ha
    · exact ⟨b, List.mem_cons_self, hnext⟩
    · obtain ⟨c, hc, hstep⟩ := h.steps a ha
      exact ⟨c, List.mem_cons_of_mem _ hc, hstep⟩
  reach a ha := by
    rcases List.mem_cons.1 ha with rfl | ha
    · exact .refl
    · exact (h.reach a ha).tail hnext

theorem Visited.start (a : α) : Visited next [] a where
  nodup := List.nodup_singleton a
  steps _ hb := absurd hb List.not_mem_nil
  reach b hb := by rw [List.mem_singleton.1 hb]

end Visits

variable [DecidableEq α]

/-- What the loop comes to: it goes on while there is a next element, and finds a cycle where it
has visited the element it is at, or the next one. -/
inductive Outcome : List α → α → Bool → Prop
  | done {visited : List α} {current : α} : next current = none → Outcome visited current false
  | cycle {visited : List α} {current b : α} : next current = some b →
      (current ∈ visited ∨ b ∈ current :: visited) → Outcome visited current true
  | round {visited : List α} {current b : α} {found : Bool} : next current = some b →
      ¬(current ∈ visited ∨ b ∈ current :: visited) → Outcome (current :: visited) b found →
      Outcome visited current found

/-- The loop, with a bound on its rounds. -/
def cycles : ℕ → List α → α → Bool
  | 0, _, _ => true
  | fuel + 1, visited, current =>
    match next current with
    | none => false
    | some b =>
      if current ∈ visited ∨ b ∈ current :: visited then true
      else cycles fuel (current :: visited) b

section Loop

variable {next} {visited : List α} {current : α}

/-- The loop decides in time, and decides right. -/
theorem Visited.cycles {pool : List α} (hpool : ∀ a b, next a = some b → a ∈ pool) {fuel : ℕ}
    (hfuel : pool.length + 1 ≤ fuel + visited.length) (h : Visited next visited current) :
    Outcome next visited current (cycles next fuel visited current) ∧
      (Walks.cycles next fuel visited current = false → Ends next current) ∧
      (Walks.cycles next fuel visited current = true → Cyclic next current) := by
  induction fuel generalizing visited current with
  | zero =>
    have hsub : visited ⊆ pool := by
      intro a ha
      obtain ⟨b, -, hstep⟩ := h.steps a ha
      exact hpool a b hstep
    have hlength := (List.subperm_of_subset (List.nodup_cons.1 h.nodup).2 hsub).length_le
    omega
  | succ fuel ih =>
    rw [Walks.cycles]
    cases hnext : next current with
    | none => exact ⟨.done hnext, fun _ => .stop hnext, nofun⟩
    | some b =>
      by_cases hseen : current ∈ visited ∨ b ∈ current :: visited
      · have hmem : b ∈ current :: visited := by
          rcases hseen with hseen | hseen
          · exact absurd hseen (List.nodup_cons.1 h.nodup).1
          · exact hseen
        simp only [if_pos hseen]
        exact ⟨.cycle hnext hseen, nofun, fun _ =>
          ⟨current, .refl, Relation.TransGen.head' hnext (h.reach b hmem)⟩⟩
      · have hround := h.round hnext fun hmem => hseen (Or.inr hmem)
        have hless : pool.length + 1 ≤ fuel + (current :: visited).length := by
          rw [List.length_cons]
          omega
        obtain ⟨houtcome, hends, hcyclic⟩ := ih hless hround
        simp only [if_neg hseen]
        refine ⟨.round hnext hseen houtcome, fun hfalse => .step hnext (hends hfalse), fun htrue => ?_⟩
        obtain ⟨c, hreach, hcycle⟩ := hcyclic htrue
        exact ⟨c, .head hnext hreach, hcycle⟩

variable {pool : List α} (hpool : ∀ a b, next a = some b → a ∈ pool) (a : α)

include hpool

/-- The loop ends on its own before its rounds do. -/
theorem cycles_outcome : Outcome next [] a (cycles next (pool.length + 1) [] a) :=
  ((Visited.start a).cycles hpool (Nat.le_refl (pool.length + 1))).1

theorem cycles_eq_true_iff : cycles next (pool.length + 1) [] a = true ↔ Cyclic next a := by
  have hstart : Visited next [] a := .start a
  have h := hstart.cycles hpool (Nat.le_refl (pool.length + 1))
  refine ⟨h.2.2, fun hcyclic => ?_⟩
  by_contra hfalse
  exact (h.2.1 (by simpa using hfalse)).not_cyclic hcyclic

theorem cycles_eq_false_iff : cycles next (pool.length + 1) [] a = false ↔ Ends next a := by
  have hstart : Visited next [] a := .start a
  have h := hstart.cycles hpool (Nat.le_refl (pool.length + 1))
  refine ⟨h.2.1, fun hends => ?_⟩
  by_contra htrue
  exact hends.not_cyclic (h.2.2 (by simpa using htrue))

end Loop

end Walks
