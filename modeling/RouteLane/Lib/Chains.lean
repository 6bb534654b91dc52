import Mathlib

/-!
# Rule chains

The meaning of a packet-filter program: named chains of rules, each rule a list
of statements, evaluated over a state.  A statement lets evaluation go on,
ends its rule, leaves the chain, or gives a verdict.  Leaving for another chain
never comes back, so a base chain whose evaluation ends without a verdict falls
through to its policy.

Nothing here depends on what a state, a statement or a chain name is; a
development supplies them with an `exec` function and uses the rules below to
evaluate its own chains.
-/

namespace Chains

variable {σ ν ω S : Type}

/-- What a statement does to evaluation. -/
inductive Flow (σ ν ω : Type) where
  /-- Go on, in a possibly changed state. -/
  | next (s : σ)
  /-- A failed match: go on with the next rule. -/
  | skip (s : σ)
  /-- Leave the chain. -/
  | ret (s : σ)
  /-- Continue in another chain and do not come back. -/
  | goto (target : ν) (s : σ)
  /-- A final verdict. -/
  | stop (verdict : ω) (s : σ)
  deriving DecidableEq

section Rules

variable (exec : S → σ → Flow σ ν ω)

/-- A rule runs its statements in order until one of them does not say `next`. -/
def runRule : List S → σ → Flow σ ν ω
  | [], s => .next s
  | st :: rest, s =>
    match exec st s with
    | .next s' => runRule rest s'
    | other => other

/-- A chain runs its rules in order until one of them leaves the chain. -/
def runRules : List (List S) → σ → Flow σ ν ω
  | [], s => .next s
  | r :: rs, s =>
    match runRule exec r s with
    | .next s' => runRules rs s'
    | .skip s' => runRules rs s'
    | other => other

/-- Evaluation of a base chain: `none` when it needs more than `fuel` jumps or
names an unknown chain, otherwise the verdict, if any, and the final state. -/
def evalChain (lookup : ν → Option (List (List S))) :
    ℕ → List (List S) → σ → Option (Option ω × σ)
  | fuel, rules, s =>
    match runRules exec rules s with
    | .next s' => some (none, s')
    | .skip s' => some (none, s')
    | .ret s' => some (none, s')
    | .stop v s' => some (some v, s')
    | .goto n s' =>
      match fuel, lookup n with
      | fuel + 1, some rules' => evalChain lookup fuel rules' s'
      | _, _ => none

/-! ## Running rules -/

@[simp] theorem runRule_nil (s : σ) : runRule exec [] s = .next s := rfl

theorem runRule_cons (st : S) (rest : List S) (s : σ) :
    runRule exec (st :: rest) s =
      match exec st s with
      | .next s' => runRule exec rest s'
      | other => other := rfl

@[simp] theorem runRule_singleton (st : S) (s : σ) : runRule exec [st] s = exec st s := by
  rw [runRule_cons]
  cases exec st s <;> rfl

theorem runRule_cons_next {st : S} {s s' : σ} (h : exec st s = .next s') (rest : List S) :
    runRule exec (st :: rest) s = runRule exec rest s' := by
  rw [runRule_cons, h]

theorem runRule_cons_skip {st : S} {s s' : σ} (h : exec st s = .skip s') (rest : List S) :
    runRule exec (st :: rest) s = .skip s' := by
  rw [runRule_cons, h]

@[simp] theorem runRules_nil (s : σ) : runRules exec [] s = .next s := rfl

theorem runRules_cons (r : List S) (rs : List (List S)) (s : σ) :
    runRules exec (r :: rs) s =
      match runRule exec r s with
      | .next s' => runRules exec rs s'
      | .skip s' => runRules exec rs s'
      | other => other := rfl

theorem runRules_cons_skip {r : List S} {s s' : σ} (h : runRule exec r s = .skip s')
    (rs : List (List S)) : runRules exec (r :: rs) s = runRules exec rs s' := by
  rw [runRules_cons, h]

/-- A chain is evaluated piece by piece: what runs off the end of the first
piece goes on with the second. -/
theorem runRules_append (as bs : List (List S)) (s : σ) :
    runRules exec (as ++ bs) s =
      match runRules exec as s with
      | .next s' => runRules exec bs s'
      | .skip s' => runRules exec bs s'
      | other => other := by
  induction as generalizing s with
  | nil => rfl
  | cons r rs ih =>
    rw [List.cons_append, runRules_cons, runRules_cons]
    cases runRule exec r s with
    | next s' => exact ih s'
    | skip s' => exact ih s'
    | ret s' => rfl
    | goto n s' => rfl
    | stop v s' => rfl

/-- A chain whose rules all fail to match changes nothing. -/
theorem runRules_of_forall_skip {rs : List (List S)} {s : σ}
    (h : ∀ r ∈ rs, runRule exec r s = .skip s) : runRules exec rs s = .next s := by
  induction rs with
  | nil => rfl
  | cons r rs ih =>
    rw [runRules_cons_skip exec (h r (by simp))]
    exact ih fun r' hr' => h r' (by simp [hr'])

/-- A block of rules of which each either fails to match or does something of its
own: the first that matches decides. -/
theorem runRules_find {α : Type} (rule : α → List S) (hit : α → Bool)
    (out : α → Flow σ ν ω) (hout : ∀ a s', out a ≠ .next s' ∧ out a ≠ .skip s') {s : σ}
    (l : List α)
    (h : ∀ a ∈ l, runRule exec (rule a) s = if hit a then out a else .skip s) :
    runRules exec (l.map rule) s =
      match l.find? hit with
      | some a => out a
      | none => .next s := by
  induction l with
  | nil => rfl
  | cons a l ih =>
    rw [List.map_cons, runRules_cons, h a (by simp), List.find?_cons]
    have ih' := ih fun b hb => h b (by simp [hb])
    cases hit a with
    | true =>
      have hne := hout a
      cases hoa : out a with
      | next s' => exact absurd hoa (hne s').1
      | skip s' => exact absurd hoa (hne s').2
      | ret s' => simp [hoa]
      | goto n s' => simp [hoa]
      | stop v s' => simp [hoa]
    | false => simpa using ih'

/-- A block of rules that all do the same thing when they match does that thing
exactly when one of them matches. -/
theorem runRules_any {α : Type} (rule : α → List S) (hit : α → Bool) {s : σ}
    {out : Flow σ ν ω} (hout : ∀ s', out ≠ .next s' ∧ out ≠ .skip s') (l : List α)
    (h : ∀ a ∈ l, runRule exec (rule a) s = if hit a then out else .skip s) :
    runRules exec (l.map rule) s = if l.any hit then out else .next s := by
  rw [runRules_find exec rule hit (fun _ => out) (fun _ => hout) l h, ← List.isSome_find?]
  cases l.find? hit <;> rfl

/-! ## Evaluating chains -/

variable {lookup : ν → Option (List (List S))}

theorem evalChain_of_ret {fuel : ℕ} {rules : List (List S)} {s s' : σ}
    (h : runRules exec rules s = .ret s') :
    evalChain exec lookup fuel rules s = some (none, s') := by
  unfold evalChain
  rw [h]

theorem evalChain_of_next {fuel : ℕ} {rules : List (List S)} {s s' : σ}
    (h : runRules exec rules s = .next s') :
    evalChain exec lookup fuel rules s = some (none, s') := by
  unfold evalChain
  rw [h]

theorem evalChain_of_stop {fuel : ℕ} {rules : List (List S)} {s s' : σ} {v : ω}
    (h : runRules exec rules s = .stop v s') :
    evalChain exec lookup fuel rules s = some (some v, s') := by
  unfold evalChain
  rw [h]

theorem evalChain_of_goto {fuel : ℕ} {rules rules' : List (List S)} {s s' : σ} {n : ν}
    (h : runRules exec rules s = .goto n s') (hn : lookup n = some rules') :
    evalChain exec lookup (fuel + 1) rules s = evalChain exec lookup fuel rules' s' := by
  conv_lhs => unfold evalChain
  simp only [h, hn]

end Rules

end Chains
