import RouteLane.Ui.Unlocking

/-!
# One mutation at a time

An observer watches a session from outside: it keeps the mutations the session started
and still waits for, the replies that acknowledged an apply on this connection, and the
status the session accepted last.  `mutation_gate` says what holds of the session and of
these records after every run.
-/

namespace RouteLane

open Steps

/-- A reply that acknowledged an apply. -/
structure Acknowledgement where
  requestId : String
  profile : Option Profile
  generation : ℕ
  deriving DecidableEq, Repr

structure Watched where
  session : UiSession
  outstanding : List Ticket
  acknowledged : List Acknowledgement
  latest : Option DaemonStatus

namespace UiSession

/-- The input is the Applied reply to the request that is pending on this connection. -/
def acknowledgement (s : UiSession) : UiInput → Option Acknowledgement
  | .daemon (.response epoch response) =>
    match s.pending, response.result with
    | some p, some (.applied result) =>
      if epoch = s.epoch ∧ p.stage = .awaitingReply ∧ p.requestId = some response.requestId ∧
          response.Accepted then
        some ⟨response.requestId, p.candidate, result.generation⟩
      else none
    | _, _ => none
  | _ => none

/-- The session stops waiting for a mutation. -/
def releases (s t : UiSession) (k : Ticket) : Bool := s.slot == some k && t.slot != some k

end UiSession

namespace Watched

def start (profile : Profile) (writable : Bool) : Watched :=
  ⟨.new profile writable, [], [], none⟩

/-- What the observer writes down at an input. -/
def step (w : Watched) (x : UiInput) : Option Watched :=
  (w.session.react x).map fun (t, effects) =>
    { session := t
      outstanding :=
        (w.outstanding.filter fun k => !w.session.releases t k) ++ mutations effects
      acknowledged :=
        (if t.epoch = w.session.epoch then w.acknowledged else []) ++
          (w.session.acknowledgement x).toList
      latest := (w.session.accepted x).or w.latest }

/-- What may end the wait for a mutation: the result of that save; the reply to that
request, a snapshot after the reply that acknowledged it, or news of its loss, on this
connection; or another connection. -/
inductive Releases (w : Watched) : UiInput → Ticket → Prop
  | persisted {generation : ℕ} {result : Except String Unit} {id : String} :
      Releases w (.persisted generation result id) (.save generation)
  | answered {response : DaemonResponse} :
      Releases w (.daemon (.response w.session.epoch response)) (.request response.requestId)
  | confirmed {status : DaemonStatus} {profiles : List Profile} {a : Acknowledgement}
      (acknowledged : a ∈ w.acknowledged) :
      Releases w (.daemon (.snapshot w.session.epoch status profiles)) (.request a.requestId)
  | reconnected {epoch : ℕ} {id : String} (newer : w.session.epoch < epoch) :
      Releases w (.daemon (.connectionEstablished epoch)) (.request id)
  | lost {requestId : Option String} {error : IpcError} {id : String}
      (own : requestId = none ∨ requestId = some id) :
      Releases w (.daemon (.daemonUnavailable w.session.epoch requestId error)) (.request id)

end Watched

/-! ## The invariant -/

namespace Watched

/-- What the records of the observer have to do with the session. -/
structure Inv (w : Watched) : Prop where
  outstanding : w.outstanding = w.session.slot.toList
  /-- A snapshot is awaited after an acknowledgement only. -/
  awaiting : ∀ p ∈ w.session.pending, p.stage = .awaitingSnapshot →
    ∃ a ∈ w.acknowledged, p.requestId = some a.requestId
  revision : ∀ revision ∈ w.session.appliedRevision,
    ∃ a ∈ w.acknowledged, a.generation = revision.1 ∧ a.profile = some revision.2
  /-- A reply to a deactivation is all that changes the status otherwise. -/
  status : w.session.status = w.latest ∨
    ∀ status ∈ w.session.status, status.appliedProfileId = none

theorem inv_start (profile : Profile) (writable : Bool) : Inv (start profile writable) where
  outstanding := rfl
  awaiting := fun p hp => by cases hp
  revision := fun revision hrevision => by cases hrevision
  status := Or.inl rfl

end Watched

/-! ## What one input does to the records -/

namespace UiSession

section Records

variable {s t : UiSession} {x : UiInput} {issued : List Ticket}

theorem slot_of_pending {p : Pending} (h : s.pending = some p) : s.slot = p.ticket := by
  simp [slot, h]

theorem slot_of_idle (h : s.pending = none) : s.slot = none := by simp [slot, h]

theorem ticket_of_sent {p : Pending} (h : p.stage ≠ .saving) :
    p.ticket = p.requestId.map .request := by
  unfold Pending.ticket
  cases hstage : p.stage with
  | saving => exact absurd hstage h
  | _ => rfl

theorem ticket_of_saving {p : Pending} (h : p.stage = .saving) :
    p.ticket = p.saveGeneration.map .save := by
  simp [Pending.ticket, h]

/-- The mutation is waited for until the session waits for something else. -/
theorem filter_releases :
    (s.slot.toList.filter fun k => !s.releases t k) =
      if t.slot = s.slot then s.slot.toList else [] := by
  cases hslot : s.slot with
  | none => simp
  | some k => by_cases h : t.slot = some k <;> simp [releases, hslot, h]

/-- The observer's record is what the session waits for. -/
theorem outstanding_of_moved (h : Moved s t x issued) :
    (s.slot.toList.filter fun k => !s.releases t k) ++ issued = t.slot.toList := by
  rw [filter_releases]
  have hended (hslot : t.slot = none) :
      (if t.slot = s.slot then s.slot.toList else []) ++ [] = t.slot.toList := by
    rw [hslot]
    cases s.slot <;> simp
  cases h with
  | kept same =>
    have hslot : t.slot = s.slot := congrArg (·.bind Pending.ticket) same
    simp [hslot]
  | saves idle began =>
    simp [slot_of_idle idle, slot_of_pending began, Pending.ticket]
  | asks idle began =>
    simp [slot_of_idle idle, slot_of_pending began, Pending.ticket]
  | follows was saving own began =>
    have hold := slot_of_pending was
    rw [ticket_of_saving saving, own] at hold
    have hnew := slot_of_pending began
    simp [hold, hnew, Pending.ticket]
  | acknowledged was waits own accepted told goesOn =>
    have hslot : t.slot = s.slot := by
      simp [slot_of_pending was, slot_of_pending goesOn, Pending.ticket, waits]
    simp [hslot]
  | saved was saving own ended => exact hended (slot_of_idle ended)
  | answered was waits own ended => exact hended (slot_of_idle ended)
  | settled was waits ended => exact hended (slot_of_idle ended)
  | reconnected newer was sent ended => exact hended (slot_of_idle ended)
  | lost was sent own ended => exact hended (slot_of_idle ended)

theorem acknowledgement_eq_some {response : DaemonResponse} {result : ApplyProfileResult}
    {p : Pending} (was : s.pending = some p) (waits : p.stage = .awaitingReply)
    (own : p.requestId = some response.requestId) (accepted : response.Accepted)
    (told : response.result = some (.applied result)) :
    s.acknowledgement (.daemon (.response s.epoch response)) =
      some ⟨response.requestId, p.candidate, result.generation⟩ := by
  simp [acknowledgement, was, told, waits, own, accepted]

/-- The acknowledgements of the connection the session is on afterwards. -/
theorem acknowledged_of_moved {acknowledged : List Acknowledgement}
    (hs : ∀ p ∈ s.pending, p.stage = .awaitingSnapshot →
      ∃ a ∈ acknowledged, p.requestId = some a.requestId)
    (h : Moved s t x issued) (hl : Learned s t x (s.accepted x)) :
    ∀ p ∈ t.pending, p.stage = .awaitingSnapshot →
      ∃ a ∈ (if t.epoch = s.epoch then acknowledged else []) ++ (s.acknowledgement x).toList,
        p.requestId = some a.requestId := by
  intro p hp hstage
  rw [Option.mem_def] at hp
  have hended {Q : Prop} (ended : t.pending = none) : Q := by simp [ended] at hp
  cases h with
  | kept same =>
    obtain ⟨a, ha, hid⟩ := hs p (same.symm.trans hp) hstage
    have hepoch : t.epoch = s.epoch := by
      generalize s.accepted x = accepted at hl
      cases hl with
      | nothing epoch => exact epoch
      | accepted epoch => exact epoch
      | deactivated epoch => exact epoch
      | acknowledged was waits own accepted told submitted epoch => exact epoch
      | reconnected newer now status revision pending =>
        have hsaving := pending p hp
        rw [hstage] at hsaving
        cases hsaving
    exact ⟨a, by simp [hepoch, ha], hid⟩
  | saves idle began =>
    obtain rfl := Option.some.inj (began.symm.trans hp)
    cases hstage
  | asks idle began =>
    obtain rfl := Option.some.inj (began.symm.trans hp)
    cases hstage
  | follows was saving own began =>
    obtain rfl := Option.some.inj (began.symm.trans hp)
    cases hstage
  | acknowledged was waits own accepted told goesOn =>
    obtain rfl := Option.some.inj (goesOn.symm.trans hp)
    have hack := acknowledgement_eq_some was waits own accepted told
    exact ⟨_, List.mem_append_right _ (Option.mem_toList.2 hack), own⟩
  | saved was saving own ended => exact hended ended
  | answered was waits own ended => exact hended ended
  | settled was waits ended => exact hended ended
  | reconnected newer was sent ended => exact hended ended
  | lost was sent own ended => exact hended ended

theorem revision_of_learned {acknowledged : List Acknowledgement} {o : Option DaemonStatus}
    (hs : ∀ revision ∈ s.appliedRevision,
      ∃ a ∈ acknowledged, a.generation = revision.1 ∧ a.profile = some revision.2)
    (h : Learned s t x o) :
    ∀ revision ∈ t.appliedRevision,
      ∃ a ∈ (if t.epoch = s.epoch then acknowledged else []) ++ (s.acknowledgement x).toList,
        a.generation = revision.1 ∧ a.profile = some revision.2 := by
  intro revision hrevision
  rw [Option.mem_def] at hrevision
  have hkept (epoch : t.epoch = s.epoch)
      (same : t.appliedRevision = s.appliedRevision ∨ t.appliedRevision = none) :
      ∃ a ∈ (if t.epoch = s.epoch then acknowledged else []) ++ (s.acknowledgement x).toList,
        a.generation = revision.1 ∧ a.profile = some revision.2 := by
    rcases same with same | none
    · obtain ⟨a, ha, hboth⟩ := hs revision (same.symm.trans hrevision)
      exact ⟨a, by simp [epoch, ha], hboth⟩
    · simp [none] at hrevision
  cases h with
  | nothing epoch status same => exact hkept epoch same
  | accepted epoch status same => exact hkept epoch same
  | deactivated epoch status none => simp [none] at hrevision
  | reconnected newer now status none => simp [none] at hrevision
  | acknowledged was waits own accepted told submitted epoch status applied =>
    obtain rfl := Option.some.inj (applied.symm.trans hrevision)
    have hack := acknowledgement_eq_some was waits own accepted told
    exact ⟨_, List.mem_append_right _ (Option.mem_toList.2 hack), rfl, submitted⟩

theorem status_of_learned {latest : Option DaemonStatus} {o : Option DaemonStatus}
    (hs : s.status = latest ∨ ∀ status ∈ s.status, status.appliedProfileId = none)
    (h : Learned s t x o) :
    t.status = o.or latest ∨ ∀ status ∈ t.status, status.appliedProfileId = none := by
  cases h with
  | nothing epoch same => exact same ▸ hs
  | accepted epoch status => exact Or.inl status
  | deactivated epoch inactive => exact Or.inr inactive
  | reconnected newer now same => exact same ▸ hs
  | acknowledged was waits own accepted told submitted epoch same => exact same ▸ hs

end Records

end UiSession

namespace Watched

theorem inv_step {w t : Watched} {x : UiInput} (hw : Inv w) (h : w.step x = some t) : Inv t := by
  obtain ⟨⟨s, effects⟩, hreact, rfl⟩ := Option.map_eq_some_iff.1 h
  have hmoved := UiSession.moved_react hreact
  have hlearned := UiSession.learned_react hreact
  exact
    { outstanding := by
        rw [hw.outstanding]
        exact UiSession.outstanding_of_moved hmoved
      awaiting := UiSession.acknowledged_of_moved hw.awaiting hmoved hlearned
      revision := UiSession.revision_of_learned hw.revision hlearned
      status := UiSession.status_of_learned hw.status hlearned }

theorem inv_replay {profile : Profile} {writable : Bool} {inputs : List UiInput} {w : Watched}
    (h : replay step (start profile writable) inputs = some w) : Inv w :=
  replay_keeps (fun _ _ _ => inv_step) (inv_start profile writable) h

/-- A mutation the session no longer waits for was ended by one of the inputs that may. -/
theorem releases_of_step {w t : Watched} {x : UiInput} {k : Ticket} (hw : Inv w)
    (h : w.step x = some t) (hk : k ∈ w.outstanding) (hend : k ∉ t.outstanding) :
    Releases w x k := by
  have ht := inv_step hw h
  rw [hw.outstanding, Option.mem_toList] at hk
  rw [ht.outstanding, Option.mem_toList] at hend
  obtain ⟨⟨s, effects⟩, hreact, rfl⟩ := Option.map_eq_some_iff.1 h
  have hidle (idle : w.session.pending = none) : Releases w x k := by
    rw [UiSession.slot_of_idle idle] at hk
    cases hk
  have hmoved := UiSession.moved_react hreact
  generalize mutations effects = issued at hmoved
  cases hmoved with
  | kept same => exact absurd ((congrArg (·.bind Pending.ticket) same).trans hk) hend
  | saves idle began => exact hidle idle
  | asks idle began => exact hidle idle
  | saved was saving own ended =>
    rw [UiSession.slot_of_pending was, UiSession.ticket_of_saving saving, own] at hk
    obtain rfl := Option.some.inj hk
    exact .persisted
  | follows was saving own began =>
    rw [UiSession.slot_of_pending was, UiSession.ticket_of_saving saving, own] at hk
    obtain rfl := Option.some.inj hk
    exact .persisted
  | answered was waits own ended =>
    rw [UiSession.slot_of_pending was, UiSession.ticket_of_sent (by simp [waits]), own] at hk
    obtain rfl := Option.some.inj hk
    exact .answered
  | acknowledged was waits own accepted told goesOn =>
    rw [UiSession.slot_of_pending was, UiSession.ticket_of_sent (by simp [waits]), own] at hk
    obtain rfl := Option.some.inj hk
    exact .answered
  | settled was waits ended =>
    obtain ⟨a, ha, hid⟩ := hw.awaiting _ was waits
    rw [UiSession.slot_of_pending was, UiSession.ticket_of_sent (by simp [waits]), hid] at hk
    obtain rfl := Option.some.inj hk
    exact .confirmed ha
  | reconnected newer was sent ended =>
    rw [UiSession.slot_of_pending was, UiSession.ticket_of_sent sent] at hk
    obtain ⟨id, -, rfl⟩ := Option.map_eq_some_iff.1 hk
    exact .reconnected newer
  | lost was sent own ended =>
    rw [UiSession.slot_of_pending was, UiSession.ticket_of_sent sent] at hk
    obtain ⟨id, hid, rfl⟩ := Option.map_eq_some_iff.1 hk
    exact .lost (own.imp_right fun h => h.trans hid)

/-- An Applied reply of this connection stands for the profile, and both what the session
accepted last and what it saved agree with it. -/
structure Warranted (w : Watched) (profile : Profile) (a : Acknowledgement)
    (applied : Profile) (status : DaemonStatus) : Prop where
  acknowledged : a ∈ w.acknowledged
  submitted : a.profile = some applied
  same : sameProfile applied profile = true
  latest : w.latest = some status
  generation : status.generation = a.generation
  active : status.appliedProfileId = some profile.id
  saved : sameProfile w.session.savedProfile profile = true

theorem warranted_of_enabled {w : Watched} {profile : Profile} {rule : Rule} (hw : Inv w)
    (h : w.session.applicationActionsEnabled profile rule = true) :
    ∃ a applied status, Warranted w profile a applied status := by
  have hreapply : w.session.needsReapply profile = false := by
    simp only [UiSession.applicationActionsEnabled, Bool.and_eq_true, Bool.not_eq_true'] at h
    exact h.1.1.1.2
  simp only [UiSession.needsReapply, Bool.or_eq_false_iff, Bool.not_eq_false',
    Option.any_eq_true, Bool.and_eq_true, beq_iff_eq] at hreapply
  obtain ⟨-, revision, hrevision, ⟨⟨status, hstatus, hgeneration, hactive⟩, hsame⟩, hsaved⟩ :=
    hreapply
  obtain ⟨a, ha, hagrees, hsubmitted⟩ := hw.revision revision hrevision
  have hlatest : w.latest = some status := by
    rcases hw.status with hlatest | hinactive
    · exact hlatest.symm.trans hstatus
    · have hnone := hinactive status hstatus
      rw [hactive] at hnone
      cases hnone
  exact ⟨a, revision.2, status, ha, hsubmitted, hsame, hlatest, hgeneration.trans hagrees.symm,
    hactive, hsaved⟩

/-- What the gate promises. -/
structure Gated (w : Watched) : Prop where
  single : w.outstanding.length ≤ 1
  ended : ∀ x t k, w.step x = some t → k ∈ w.outstanding → k ∉ t.outstanding → Releases w x k
  enabled : ∀ profile rule, w.session.applicationActionsEnabled profile rule = true →
    ∃ a applied status, Warranted w profile a applied status

/-- **The mutation gate**, after every run of a session. -/
theorem mutation_gate {profile : Profile} {writable : Bool} {inputs : List UiInput} {w : Watched}
    (h : replay step (start profile writable) inputs = some w) : Gated w := by
  have hw := inv_replay h
  refine ⟨?_, fun x t k => releases_of_step hw, fun profile rule => warranted_of_enabled hw⟩
  rw [hw.outstanding]
  cases w.session.slot <;> simp

/-- A client that applied its profile and saw it confirmed. -/
def confirmedInputs : List UiInput :=
  UiSession.openingInputs ++ [.daemon (.response 1 UiSession.appliedReply),
    .daemon (.snapshot 1 (UiSession.sampleStatus 8 8 true) [])]

theorem mutation_gate_work :
    ∃ w, replay step (start UiSession.workProfile true) confirmedInputs = some w ∧
      w.session.pending = none ∧ Gated w := by
  have hruns : (replay step (start UiSession.workProfile true) confirmedInputs).map
      (fun w => w.session.pending) = some none := by decide +kernel
  obtain ⟨w, hw, hidle⟩ := Option.map_eq_some_iff.1 hruns
  exact ⟨w, hw, hidle, mutation_gate hw⟩

end Watched

end RouteLane
