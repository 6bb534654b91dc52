import Mathlib.Data.List.Basic

/-!
# Streams that arrive in pieces

A reader sees a stream piece by piece, with failures of its own in between, and then the end.
An exact read waits for as many units as it was asked for; how the stream was cut into pieces
makes no difference to what it reads.  A sink takes what is written until it fails.
-/

namespace Streams

variable {α : Type}

/-- What a reader sees next. -/
inductive Arrival (α : Type) where
  | piece (units : List α)
  | failure (message : String)

/-- How a read fails: at the end of the stream, or with the reader's own error. -/
inductive ReadError where
  | unexpectedEof
  | other (message : String)
  deriving DecidableEq, Repr

/-- Read exactly as many units as asked for; what is left of the stream in any case. -/
def readExact : ℕ → List (Arrival α) → Except ReadError (List α) × List (Arrival α)
  | 0, stream => (.ok [], stream)
  | _ + 1, [] => (.error .unexpectedEof, [])
  | _ + 1, .failure message :: rest => (.error (.other message), rest)
  | need + 1, .piece units :: rest =>
    if need + 1 ≤ units.length then
      (.ok (units.take (need + 1)), .piece (units.drop (need + 1)) :: rest)
    else
      match readExact (need + 1 - units.length) rest with
      | (.ok more, rest) => (.ok (units ++ more), rest)
      | (.error e, rest) => (.error e, rest)

/-- A stream without failures, in these pieces. -/
def ofPieces (pieces : List (List α)) : List (Arrival α) := pieces.map .piece

/-- A read of no more than there is succeeds, and leaves the rest. -/
theorem readExact_of_le {need : ℕ} {pieces : List (List α)} (h : need ≤ pieces.flatten.length) :
    ∃ rest, readExact need (ofPieces pieces) = (.ok (pieces.flatten.take need), ofPieces rest) ∧
      rest.flatten = pieces.flatten.drop need := by
  induction pieces generalizing need with
  | nil =>
    obtain rfl : need = 0 := by simpa using h
    exact ⟨[], rfl, rfl⟩
  | cons units pieces ih =>
    cases need with
    | zero => exact ⟨units :: pieces, rfl, rfl⟩
    | succ need =>
      rw [List.flatten_cons, List.length_append] at h
      show ∃ rest, readExact (need + 1) (.piece units :: ofPieces pieces) = _ ∧ _
      rw [readExact, List.flatten_cons]
      by_cases hunits : need + 1 ≤ units.length
      · rw [if_pos hunits, List.take_append_of_le_length hunits,
          List.drop_append_of_le_length hunits]
        exact ⟨units.drop (need + 1) :: pieces, rfl, rfl⟩
      · obtain ⟨rest, hread, hrest⟩ := ih
          (show need + 1 - units.length ≤ pieces.flatten.length by omega)
        have htake : (units ++ pieces.flatten).take (need + 1) =
            units ++ pieces.flatten.take (need + 1 - units.length) := by
          rw [List.take_append, List.take_of_length_le (by omega)]
        have hdrop : (units ++ pieces.flatten).drop (need + 1) =
            pieces.flatten.drop (need + 1 - units.length) := by
          rw [List.drop_append, List.drop_of_length_le (by omega), List.nil_append]
        rw [if_neg hunits, hread, htake, hdrop]
        exact ⟨rest, rfl, hrest⟩

/-- A read of more than there is fails at the end of the stream. -/
theorem readExact_of_lt {need : ℕ} {pieces : List (List α)} (h : pieces.flatten.length < need) :
    (readExact need (ofPieces pieces)).1 = .error .unexpectedEof := by
  induction pieces generalizing need with
  | nil =>
    cases need with
    | zero => exact absurd h (by simp)
    | succ need => rfl
  | cons units pieces ih =>
    rw [List.flatten_cons, List.length_append] at h
    cases need with
    | zero => omega
    | succ need =>
      have hrest := ih (show pieces.flatten.length < need + 1 - units.length by omega)
      show (readExact (need + 1) (.piece units :: ofPieces pieces)).1 = _
      rw [readExact, if_neg (by omega)]
      cases hread : readExact (need + 1 - units.length) (ofPieces pieces) with
      | mk outcome rest =>
        rw [hread] at hrest
        obtain rfl : outcome = .error .unexpectedEof := hrest
        rfl

/-! ## What has arrived -/

/-- The units of a stream, in order. -/
def arrived (stream : List (Arrival α)) : List α :=
  (stream.map fun arrival => match arrival with
    | .piece units => units
    | .failure _ => []).flatten

theorem arrived_piece_cons (units : List α) (rest : List (Arrival α)) :
    arrived (.piece units :: rest) = units ++ arrived rest := rfl

theorem arrived_ofPieces (pieces : List (List α)) : arrived (ofPieces pieces) = pieces.flatten := by
  induction pieces with
  | nil => rfl
  | cons units pieces ih =>
    show units ++ arrived (ofPieces pieces) = _
    rw [ih, List.flatten_cons]

/-- A read that succeeds takes what it gives off the stream. -/
theorem arrived_readExact {need : ℕ} {stream rest : List (Arrival α)} {units : List α}
    (h : readExact need stream = (.ok units, rest)) :
    units.length = need ∧ arrived stream = units ++ arrived rest := by
  induction stream generalizing need units with
  | nil =>
    cases need with
    | zero =>
      obtain ⟨hunits, rfl⟩ := Prod.mk.inj h
      obtain rfl := Except.ok.inj hunits
      exact ⟨rfl, rfl⟩
    | succ need => cases h
  | cons arrival stream ih =>
    cases need with
    | zero =>
      obtain ⟨hunits, rfl⟩ := Prod.mk.inj h
      obtain rfl := Except.ok.inj hunits
      exact ⟨rfl, rfl⟩
    | succ need =>
      cases arrival with
      | failure message => cases h
      | piece piece =>
        rw [readExact] at h
        by_cases hpiece : need + 1 ≤ piece.length
        · rw [if_pos hpiece] at h
          obtain ⟨hunits, rfl⟩ := Prod.mk.inj h
          obtain rfl := Except.ok.inj hunits
          refine ⟨List.length_take_of_le hpiece, ?_⟩
          rw [arrived_piece_cons, arrived_piece_cons, ← List.append_assoc, List.take_append_drop]
        · rw [if_neg hpiece] at h
          cases hread : readExact (need + 1 - piece.length) stream with
          | mk outcome left =>
            rw [hread] at h
            cases outcome with
            | error e => cases h
            | ok more =>
              obtain ⟨hunits, rfl⟩ := Prod.mk.inj h
              obtain rfl := Except.ok.inj hunits
              obtain ⟨hlength, hmore⟩ := ih hread
              rw [List.length_append, hlength, arrived_piece_cons, hmore, List.append_assoc]
              exact ⟨by omega, rfl⟩

/-! ## Sinks -/

/-- Where units are written to: what it has, when it fails and whether it can be flushed. -/
structure Sink (α : Type) where
  written : List α
  /-- How many more units it takes, and how it fails then; always all where there is none. -/
  room : Option (ℕ × String)
  flushFailure : Option String

/-- `write_all`: everything, or as much as there is room for. -/
def Sink.writeAll (sink : Sink α) (units : List α) : Except String Unit × Sink α :=
  match sink.room with
  | none => (.ok (), { sink with written := sink.written ++ units })
  | some (room, message) =>
    if units.length ≤ room then
      (.ok (), { sink with
        written := sink.written ++ units, room := some (room - units.length, message) })
    else
      (.error message, { sink with
        written := sink.written ++ units.take room, room := some (0, message) })

/-- Nothing but a part of the units is added, and all of them where it succeeds. -/
theorem Sink.writeAll_written (sink : Sink α) (units : List α) :
    ∃ part, part <+: units ∧ (sink.writeAll units).2.written = sink.written ++ part ∧
      ((sink.writeAll units).1 = .ok () → part = units) := by
  unfold Sink.writeAll
  split
  · exact ⟨units, List.prefix_rfl, rfl, fun _ => rfl⟩
  · split
    · exact ⟨units, List.prefix_rfl, rfl, fun _ => rfl⟩
    · exact ⟨_, List.take_prefix _ _, rfl, fun h => by cases h⟩

def Sink.flush (sink : Sink α) : Except String Unit :=
  match sink.flushFailure with
  | none => .ok ()
  | some message => .error message

end Streams
