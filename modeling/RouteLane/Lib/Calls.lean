import Mathlib

/-!
# Calls of an interface

A client makes calls of an interface without knowing what implements it: every call is
answered with a value or with an error, and may change the state of the implementation.
What a client did is its result, the state it left behind and the log of its calls, each
with the error that answered it.  A client that makes one call after another, and handles
the first one that fails, has one of two logs.
-/

namespace Calls

variable {σ C ε δ α β : Type} {A : C → Type}

/-- What implements the interface: the answer to a call, and the state after it. -/
structure Server (σ C : Type) (A : C → Type) (ε : Type) where
  answer : (call : C) → σ → Except ε (A call) × σ

/-- A call, and the error it was answered with. -/
structure Entry (C ε : Type) where
  call : C
  error : Option ε
  deriving DecidableEq, Repr

structure Outcome (σ C ε δ α : Type) where
  result : Except δ α
  state : σ
  log : List (Entry C ε)

/-- A client of a server with states `σ`. -/
def Client (σ C ε δ α : Type) := σ → Outcome σ C ε δ α

namespace Client

protected def pure (a : α) : Client σ C ε δ α := fun s => ⟨.ok a, s, []⟩

protected def bind (p : Client σ C ε δ α) (f : α → Client σ C ε δ β) : Client σ C ε δ β := fun s =>
  match p s with
  | ⟨.error e, s', log⟩ => ⟨.error e, s', log⟩
  | ⟨.ok a, s', log⟩ =>
    let rest := f a s'
    ⟨rest.result, rest.state, log ++ rest.log⟩

instance : Monad (Client σ C ε δ) where
  pure := Client.pure
  bind := Client.bind

/-- Give up. -/
def fail (e : δ) : Client σ C ε δ α := fun s => ⟨.error e, s, []⟩

/-- The error of an answer, if it is one. -/
def errorOf : Except ε α → Option ε
  | .ok _ => none
  | .error e => some e

@[simp] theorem errorOf_ok (a : α) : errorOf (.ok a : Except ε α) = none := rfl

@[simp] theorem errorOf_error (e : ε) : errorOf (.error e : Except ε α) = some e := rfl

/-- Make a call and look at the answer. -/
def request (server : Server σ C A ε) (call : C) : Client σ C ε δ (Except ε (A call)) := fun s =>
  let answer := server.answer call s
  ⟨.ok answer.1, answer.2, [⟨call, errorOf answer.1⟩]⟩

variable (server : Server σ C A ε)

theorem pure_apply (a : α) (s : σ) :
    (pure a : Client σ C ε δ α) s = ⟨.ok a, s, []⟩ := rfl

theorem fail_apply (e : δ) (s : σ) : (fail e : Client σ C ε δ α) s = ⟨.error e, s, []⟩ := rfl

theorem request_bind (call : C) (f : Except ε (A call) → Client σ C ε δ β) (s : σ) :
    (request server call >>= f) s =
      ⟨(f (server.answer call s).1 (server.answer call s).2).result,
        (f (server.answer call s).1 (server.answer call s).2).state,
        ⟨call, errorOf (server.answer call s).1⟩ ::
          (f (server.answer call s).1 (server.answer call s).2).log⟩ := rfl

theorem bind_of_ok {p : Client σ C ε δ α} {f : α → Client σ C ε δ β} {s : σ} {a : α}
    (h : (p s).result = .ok a) :
    (p >>= f) s = ⟨(f a (p s).state).result, (f a (p s).state).state,
      (p s).log ++ (f a (p s).state).log⟩ := by
  show Client.bind p f s = _
  rw [Client.bind]
  cases hrun : p s with
  | mk result s' log =>
    rw [hrun] at h
    obtain rfl : result = .ok a := h
    rfl

theorem bind_of_error {p : Client σ C ε δ α} {f : α → Client σ C ε δ β} {s : σ} {e : δ}
    (h : (p s).result = .error e) : (p >>= f) s = ⟨.error e, (p s).state, (p s).log⟩ := by
  show Client.bind p f s = _
  rw [Client.bind]
  cases hrun : p s with
  | mk result s' log =>
    rw [hrun] at h
    obtain rfl : result = .error e := h
    rfl

end Client

open Client

/-! ## One call after another -/

/-- The calls were all answered with a value. -/
def answered (calls : List C) : List (Entry C ε) := calls.map fun call => ⟨call, none⟩

/-- A client that makes these calls, in order, or gives up at the first that fails after
what it does then: `Handled call e result log` is what may be logged of that, and the error
it gives up with. -/
def Sequence (Handled : C → ε → δ → List (Entry C ε) → Prop) (calls : List C)
    (p : Client σ C ε δ Unit) : Prop :=
  ∀ s, ((p s).result = .ok () ∧ (p s).log = answered calls) ∨
    ∃ before call after e failure handling, calls = before ++ call :: after ∧
      Handled call e failure handling ∧ (p s).result = .error failure ∧
      (p s).log = answered before ++ ⟨call, some e⟩ :: handling

namespace Sequence

variable {Handled : C → ε → δ → List (Entry C ε) → Prop} {calls calls' : List C}
  {p q : Client σ C ε δ Unit}

theorem nil : Sequence Handled [] (pure () : Client σ C ε δ Unit) := fun _ => Or.inl ⟨rfl, rfl⟩

/-- Calls that come after others. -/
theorem append (hp : Sequence Handled calls p) (hq : Sequence Handled calls' q) :
    Sequence Handled (calls ++ calls') (do p; q) := by
  intro s
  have hseq : (do p; q : Client σ C ε δ Unit) s = (p >>= fun _ => q) s := rfl
  rw [hseq]
  rcases hp s with ⟨hok, hlog⟩ | ⟨before, call, after, e, failure, handling, hcalls, hhandled,
    herror, hlog⟩
  · rw [bind_of_ok hok, hlog]
    rcases hq (p s).state with ⟨hok', hlog'⟩ | ⟨before, call, after, e, failure, handling, hcalls,
      hhandled, herror, hlog'⟩
    · left
      exact ⟨hok', by simp [hlog', answered]⟩
    · right
      refine ⟨calls ++ before, call, after, e, failure, handling, ?_, hhandled, herror, ?_⟩
      · rw [hcalls, List.append_assoc]
      · simp [hlog', answered]
  · right
    rw [bind_of_error herror]
    refine ⟨before, call, after ++ calls', e, failure, handling, ?_, hhandled, rfl, hlog⟩
    rw [hcalls, List.append_assoc, List.cons_append]

end Sequence

end Calls
