import RouteLane.Ui.Pending

/-!
# When the client stops waiting

After the reply to an apply the client waits for a snapshot of the plan it was told of.
Two filters stand before the operation is looked at: a snapshot of a generation below the
one of the reply is taken for one from before it, and a snapshot older than a status
accepted since is dropped.  The helper's generations start again after a cleanup, so the
first filter drops every snapshot of the state another client left behind, and the client
keeps waiting (`snapshot_unlocks_iff`).
-/

namespace RouteLane

open Steps

namespace UiSession

/-- A session that took the reply to an apply in `told` and has waited ever since. -/
structure Acknowledged (profile : Profile) (writable : Bool) (before since : List UiInput)
    (reply : DaemonResponse) (result : ApplyProfileResult) (p : Pending)
    (asked told s : UiSession) : Prop where
  reached : replay step (new profile writable) before = some asked
  asking : asked.pending = some p ∧ p.stage = .awaitingReply
  applied : reply.result = some (.applied result)
  replied : asked.step (.daemon (.response asked.epoch reply)) = some told
  waits : told.stage = some .awaitingSnapshot
  waiting : Along step (fun u x => ∀ v, u.step x = some v → v.stage = some .awaitingSnapshot)
    told since
  since : replay step told since = some s

/-- The operation is over: as applied where the snapshot tells of the generation of the
reply and of the profile that was submitted, as saved but not applied otherwise. -/
def Unlocked (p : Pending) (generation : ℕ) (status : DaemonStatus) (t : UiSession) : Prop :=
  t.pending = none ∧ t.saveState =
    if status.generation = generation ∧
      p.candidate.any fun profile => status.appliedProfileId == some profile.id then .applied
    else .savedUnapplied

/-- Neither filter drops the snapshot, and an operation without a profile is not taken for
confirmed by a snapshot without one. -/
structure Heard (p : Pending) (generation : ℕ) (told s : UiSession) (status : DaemonStatus) :
    Prop where
  notBelow : generation ≤ status.generation
  notOvertaken : s.acceptedRevision ≠ told.acceptedRevision →
    ∀ revision ∈ s.acceptedRevision, ¬status.OlderThan revision.1 revision.2
  named : p.candidate = none → status.appliedProfileId = none → status.generation ≠ generation

section Waiting

variable {s t : UiSession} {p : Pending} {generation : ℕ}

theorem stage_eq_some {stage : OperationStage} :
    s.stage = some stage ↔ ∃ p, s.pending = some p ∧ p.stage = stage := by
  simp [UiSession.stage]

/-- The reply becomes part of the operation. -/
theorem pending_of_acknowledgement {reply : DaemonResponse} {result : ApplyProfileResult}
    (hp : s.pending = some p) (hstage : p.stage = .awaitingReply)
    (hresult : reply.result = some (.applied result))
    (h : s.step (.daemon (.response s.epoch reply)) = some t)
    (ht : t.stage = some .awaitingSnapshot) :
    t.pending = some { p with stage := .awaitingSnapshot,
                              expectedGeneration := some result.generation } := by
  obtain ⟨q, hq, hqstage⟩ := stage_eq_some.1 ht
  obtain ⟨issued, hmoved⟩ := moved_step h
  cases hmoved with
  | kept same =>
    obtain rfl := Option.some.inj (hp.symm.trans (same.symm.trans hq))
    rw [hstage] at hqstage
    cases hqstage
  | answered was waits own ended => exact absurd (ended.symm.trans hq) (by simp)
  | acknowledged was waits own accepted told goesOn =>
    obtain rfl := Option.some.inj (hp.symm.trans was)
    obtain rfl : _ = result := by simpa using told.symm.trans hresult
    exact goesOn

/-- While the session waits for a snapshot, it waits for the same one, on the same
connection. -/
theorem same_of_waiting {x : UiInput} (hp : s.pending = some p)
    (hstage : p.stage = .awaitingSnapshot) (h : s.step x = some t)
    (ht : t.stage = some .awaitingSnapshot) : t.pending = some p ∧ t.epoch = s.epoch := by
  obtain ⟨q, hq, hqstage⟩ := stage_eq_some.1 ht
  have hpending : t.pending = some p := by
    obtain ⟨issued, hmoved⟩ := moved_step h
    cases hmoved with
    | kept same => exact same.trans hp
    | saves idle began => exact absurd (hp.symm.trans idle) (by simp)
    | asks idle began => exact absurd (hp.symm.trans idle) (by simp)
    | follows was saving own began =>
      obtain rfl := Option.some.inj (hp.symm.trans was)
      rw [hstage] at saving
      cases saving
    | acknowledged was waits own accepted told goesOn =>
      obtain rfl := Option.some.inj (hp.symm.trans was)
      rw [hstage] at waits
      cases waits
    | saved was saving own ended => exact absurd (ended.symm.trans hq) (by simp)
    | answered was waits own ended => exact absurd (ended.symm.trans hq) (by simp)
    | settled was waits ended => exact absurd (ended.symm.trans hq) (by simp)
    | reconnected newer was sent ended => exact absurd (ended.symm.trans hq) (by simp)
    | lost was sent own ended => exact absurd (ended.symm.trans hq) (by simp)
  refine ⟨hpending, ?_⟩
  have hlearned := learned_step h
  generalize s.accepted x = accepted at hlearned
  cases hlearned with
  | nothing epoch => exact epoch
  | accepted epoch => exact epoch
  | deactivated epoch => exact epoch
  | acknowledged was waits own accepted told submitted epoch => exact epoch
  | reconnected newer now status revision pending =>
    have hsaving := pending p hpending
    rw [hstage] at hsaving
    cases hsaving

/-- What the session does with a snapshot it waits for. -/
theorem handleSnapshot_of_waiting (hp : s.pending = some p)
    (hstage : p.stage = .awaitingSnapshot) (hgeneration : p.expectedGeneration = some generation)
    (status : DaemonStatus) (profiles : List Profile) :
    if generation ≤ status.generation ∧
        ∀ revision ∈ s.acceptedRevision, ¬status.OlderThan revision.1 revision.2 then
      (s.handleSnapshot status profiles).pending = none ∧
        (s.handleSnapshot status profiles).saveState =
          if Confirms p status then .applied else .savedUnapplied
    else s.handleSnapshot status profiles = s := by
  have hpredates : s.predates status = decide (status.generation < generation) := by
    simp [predates, hp, hstage, hgeneration]
  split
  · rename_i hheard
    obtain ⟨hbelow, holder⟩ := hheard
    have haccept := acceptStatus_eq_some.2 ⟨holder, rfl⟩
    rw [handleSnapshot, hpredates, if_neg (by simpa using hbelow), haccept]
    by_cases hconfirms : Confirms p status
    · simp [settle, hp, hstage, hconfirms]
    · simp [settle, hp, hstage, hconfirms]
  · rename_i hheard
    rw [handleSnapshot, hpredates]
    by_cases hbelow : status.generation < generation
    · rw [if_pos (by simpa using hbelow)]
    · have holder : s.acceptStatus status = none := by
        cases haccept : s.acceptStatus status with
        | none => rfl
        | some t => exact absurd ⟨by omega, (acceptStatus_eq_some.1 haccept).1⟩ hheard
      rw [if_neg (by simpa using hbelow), holder]

end Waiting

/-- **When a snapshot ends the operation.**  For a session that took the reply to an apply
and waits for its snapshot, and for every later snapshot of that connection with an event
sequence above the one accepted when the reply was taken. -/
theorem snapshot_unlocks_iff {profile : Profile} {writable : Bool} {before since : List UiInput}
    {reply : DaemonResponse} {result : ApplyProfileResult} {p : Pending} {asked told s : UiSession}
    (h : Acknowledged profile writable before since reply result p asked told s)
    {status : DaemonStatus} (profiles : List Profile)
    (hnewer : ∀ revision ∈ told.acceptedRevision, revision.2 < status.eventSequence) :
    Unlocked p result.generation status
        (s.handleDaemon (.snapshot told.epoch status profiles)).1 ↔
      Heard p result.generation told s status := by
  obtain ⟨hasked, hasking⟩ := h.asking
  have htold := pending_of_acknowledgement hasked hasking h.applied h.replied h.waits
  -- the operation and the connection stay as they were when the reply was taken
  have hsame : s.pending = told.pending ∧ s.epoch = told.epoch := by
    refine replay_invariant (I := fun u => u.pending = told.pending ∧ u.epoch = told.epoch)
      (fun u x v hu hstays hstep => ?_) ⟨rfl, rfl⟩ h.waiting h.since
    obtain ⟨hpending, hepoch⟩ := same_of_waiting (hu.1.trans htold) rfl hstep (hstays v hstep)
    exact ⟨hpending.trans htold.symm, hepoch.trans hu.2⟩
  have hp := hsame.1.trans htold
  have hspec := handleSnapshot_of_waiting hp rfl rfl status profiles
  have holder : (s.acceptedRevision ≠ told.acceptedRevision →
      ∀ revision ∈ s.acceptedRevision, ¬status.OlderThan revision.1 revision.2) ↔
      ∀ revision ∈ s.acceptedRevision, ¬status.OlderThan revision.1 revision.2 := by
    refine ⟨fun hovertaken revision hrevision => ?_, fun hall _ => hall⟩
    by_cases hunchanged : s.acceptedRevision = told.acceptedRevision
    · have := hnewer revision (hunchanged ▸ hrevision)
      unfold DaemonStatus.OlderThan
      omega
    · exact hovertaken hunchanged revision hrevision
  simp only [handleDaemon, hsame.2, if_true]
  split at hspec
  · rename_i hheard
    obtain ⟨hnone, hsave⟩ := hspec
    have hconfirms : Confirms { p with stage := .awaitingSnapshot,
                                       expectedGeneration := some result.generation } status ↔
        status.generation = result.generation ∧
          status.appliedProfileId = p.candidate.map Profile.id :=
      ⟨fun hboth => ⟨(Option.some.inj hboth.1).symm, hboth.2⟩,
        fun hboth => ⟨congrArg some hboth.1.symm, hboth.2⟩⟩
    have hnamed : Heard p result.generation told s status ↔
        (p.candidate = none → status.appliedProfileId = none →
          status.generation ≠ result.generation) :=
      ⟨fun hall => hall.named, fun hall => ⟨hheard.1, fun _ => hheard.2, hall⟩⟩
    rw [hnamed]
    simp only [Unlocked, hnone, hsave, hconfirms, true_and]
    cases hcandidate : p.candidate with
    | none =>
      by_cases hgeneration : status.generation = result.generation
      · cases happlied : status.appliedProfileId <;> simp [hgeneration]
      · simp [hgeneration]
    | some candidate => simp
  · rename_i hheard
    rw [hspec, Unlocked, hp]
    refine ⟨fun hunlocked => absurd hunlocked.1 (by simp), fun hall => absurd ?_ hheard⟩
    exact ⟨hall.notBelow, holder.1 hall.notOvertaken⟩

/-! ## A cleanup by another client -/

def workProfile : Profile :=
  ⟨"work", "Work", false, [], [], ⟨.preserveSystem, .followSystemDefault, [], false⟩⟩

/-- A status of the daemon, with or without the profile applied. -/
def sampleStatus (generation eventSequence : ℕ) (active : Bool) : DaemonStatus where
  generation := generation
  eventSequence := eventSequence
  health := if active then .fromParts .healthy .empty [] else .inactive
  desiredProfileId := some "work"
  appliedProfileId := if active then some "work" else none
  lastError := none
  primary := .inactive 0

/-- The client connects, learns the state and applies its profile. -/
def openingInputs : List UiInput :=
  [.daemon (.connectionEstablished 1), .daemon (.snapshot 1 (sampleStatus 7 7 false) []),
   .request "first" (.applyProfile workProfile) (some workProfile)]

def appliedReply : DaemonResponse := .success "first" (.applied ⟨8, "plan"⟩)

def sessionAfter (inputs : List UiInput) : UiSession :=
  (replay step (new workProfile true) inputs).getD (new workProfile true)

def askedSession : UiSession := sessionAfter openingInputs

def toldSession : UiSession :=
  sessionAfter (openingInputs ++ [.daemon (.response 1 appliedReply)])

def applyOperation : Pending :=
  ⟨.apply, .awaitingReply, some "first", none, some workProfile, .none, none⟩

theorem acknowledged_toldSession :
    Acknowledged workProfile true openingInputs [] appliedReply ⟨8, "plan"⟩ applyOperation
      askedSession toldSession toldSession where
  reached := by decide +kernel
  asking := by decide +kernel
  applied := rfl
  replied := by decide +kernel
  waits := by decide +kernel
  waiting := trivial
  since := rfl

/-- The plan the reply told of is confirmed. -/
theorem snapshot_unlocks_confirmed :
    Unlocked applyOperation 8 (sampleStatus 8 8 true)
      (toldSession.handleDaemon (.snapshot toldSession.epoch (sampleStatus 8 8 true) [])).1 :=
  (snapshot_unlocks_iff acknowledged_toldSession [] (by decide +kernel)).2
    ⟨by decide, fun h => absurd rfl h, fun h => absurd h (by decide)⟩

/-- Another client deactivated the profile, and the generations start again: the snapshot
that says so is dropped, newer as it is, and the operation stays pending. -/
theorem restarted_generation_keeps_waiting :
    Acknowledged workProfile true openingInputs [] appliedReply ⟨8, "plan"⟩ applyOperation
        askedSession toldSession toldSession ∧
      (∀ revision ∈ toldSession.acceptedRevision,
        revision.2 < (sampleStatus 0 9 false).eventSequence) ∧
      ¬Unlocked applyOperation 8 (sampleStatus 0 9 false)
        (toldSession.handleDaemon (.snapshot toldSession.epoch (sampleStatus 0 9 false) [])).1 := by
  refine ⟨acknowledged_toldSession, by decide +kernel, ?_⟩
  intro h
  have hpending := h.1
  revert hpending
  decide +kernel

end UiSession

end RouteLane
