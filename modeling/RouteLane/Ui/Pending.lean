import RouteLane.Ui.Session

/-!
# The pending operation

`Moved` lists what one input can do to the operation a session waits for, and which
mutations it sends on its way.  Whatever else is proved about operations follows from it.
-/

namespace RouteLane

open Fallible

/-- A mutation under way: a save by its number, a request by its id. -/
inductive Ticket where
  | save (generation : ℕ)
  | request (id : String)
  deriving DecidableEq, Repr

/-- The mutation an effect starts. -/
def UiEffect.ticket : UiEffect → Option Ticket
  | .persist generation _ => some (.save generation)
  | .send id request => if request.mutates then some (.request id) else none
  | .refreshSnapshot | .quitApplication => none

/-- The mutations a list of effects starts. -/
def mutations (effects : List UiEffect) : List Ticket := effects.filterMap UiEffect.ticket

/-- The mutation a pending operation waits for. -/
def Pending.ticket (p : Pending) : Option Ticket :=
  match p.stage with
  | .saving => p.saveGeneration.map .save
  | _ => p.requestId.map .request

/-- A reply of this version of the protocol that reports no error. -/
def DaemonResponse.Accepted (response : DaemonResponse) : Prop :=
  response.protocolVersion = ipcProtocolVersion ∧ response.error = none

instance (response : DaemonResponse) : Decidable response.Accepted :=
  inferInstanceAs (Decidable (_ ∧ _))

namespace UiSession

/-- The mutation the session waits for. -/
def slot (s : UiSession) : Option Ticket := s.pending.bind Pending.ticket

/-! ## What the parts of a step leave -/

section Parts

variable {s t : UiSession} {status : DaemonStatus}

theorem acceptStatus_eq_some :
    s.acceptStatus status = some t ↔
      (∀ revision ∈ s.acceptedRevision, ¬status.OlderThan revision.1 revision.2) ∧
        t = { s with acceptedRevision := some (status.generation, status.eventSequence),
                     status := some status } := by
  unfold acceptStatus
  cases h : s.acceptedRevision with
  | none => simp [eq_comm]
  | some revision => simp [eq_comm]

@[simp] theorem noteStatus_pending : (s.noteStatus status).pending = s.pending := by
  unfold noteStatus
  cases h : s.acceptStatus status with
  | none => rfl
  | some t => rw [(acceptStatus_eq_some.1 h).2]; rfl

@[simp] theorem handleEvent_pending (event : DaemonEvent) :
    (s.handleEvent event).pending = s.pending := by
  unfold handleEvent
  cases s.status <;> simp

@[simp] theorem noteUnmatched_pending (response : DaemonResponse) :
    (s.noteUnmatched response).pending = s.pending := by
  unfold noteUnmatched
  split <;> simp

/-- Abandoning drops the operation, unless it is a save. -/
theorem abandon_pending :
    s.abandon.pending = s.pending ∨
      s.abandon.pending = none ∧ ∃ p, s.pending = some p ∧ p.stage ≠ .saving := by
  unfold abandon
  cases h : s.pending with
  | none => simp [h]
  | some p => by_cases hstage : p.stage = .saving <;> simp [h, hstage]

theorem pending_of_not_busy (h : ¬s.isBusy = true) : s.pending = none := by
  cases hpending : s.pending with
  | none => rfl
  | some p => exact absurd (by simp [isBusy, hpending]) h

/-- A save that is not refused counts on, and is what the session waits for. -/
theorem beginSave_eq_some {config : ConfigV4} {profile : Profile} {followUp : AfterSave}
    {effects : List UiEffect} (h : s.beginSave config profile followUp = .ok (some (t, effects))) :
    s.pending = none ∧ effects = [.persist (s.persistenceGeneration + 1) config] ∧
      ∃ kind, t.pending = some
        ⟨kind, .saving, none, some (s.persistenceGeneration + 1), some profile, followUp, none⟩ := by
  unfold beginSave at h
  split at h
  · cases h
  rename_i hidle
  split at h
  · cases h
  split at h
  · cases h
  split at h
  · cases h
  obtain ⟨rfl, rfl⟩ := Prod.mk.inj (Option.some.inj (Except.ok.inj h))
  exact ⟨pending_of_not_busy hidle, rfl, _, rfl⟩

/-- A request that is not refused either changes nothing or is what the session waits
for. -/
theorem beginRequest_eq_ok {id : String} {request : DaemonRequest} {submitted : Option Profile}
    {effects : List UiEffect} (h : s.beginRequest id request submitted = .ok (t, effects)) :
    effects = [.send id request] ∧
      (request.mutates = false ∧ t = s ∨
        request.mutates = true ∧ s.pending = none ∧
          ∃ kind, t.pending = some
            ⟨kind, .awaitingReply, some id, none, candidateOf request submitted, .none, none⟩) := by
  unfold beginRequest at h
  split at h
  · rename_i hreads
    obtain ⟨rfl, rfl⟩ := Prod.mk.inj (Except.ok.inj h)
    exact ⟨rfl, Or.inl ⟨hreads, rfl⟩⟩
  · rename_i hmutates
    obtain ⟨kind, hgate, h⟩ := bind_eq_ok.1 h
    obtain ⟨rfl, rfl⟩ := Prod.mk.inj (Except.ok.inj h)
    refine ⟨rfl, Or.inr ⟨by simpa using hmutates, ?_, kind, rfl⟩⟩
    obtain ⟨_, hidle, -⟩ := bind_eq_ok.1 hgate
    exact pending_of_not_busy (failIf_eq_ok.1 hidle)

end Parts

/-! ## What one input does -/

/-- What an input does to the pending operation, and the mutations it starts. -/
inductive Moved (s t : UiSession) : UiInput → List Ticket → Prop
  | kept {x : UiInput} (same : t.pending = s.pending) : Moved s t x []
  | saves {config : ConfigV4} {profile : Profile} {followUp : AfterSave} {kind : OperationKind}
      (idle : s.pending = none)
      (began : t.pending = some ⟨kind, .saving, none, some (s.persistenceGeneration + 1),
        some profile, followUp, none⟩) :
      Moved s t (.save config profile followUp) [.save (s.persistenceGeneration + 1)]
  | asks {id : String} {request : DaemonRequest} {submitted : Option Profile}
      {kind : OperationKind} (idle : s.pending = none)
      (began : t.pending = some ⟨kind, .awaitingReply, some id, none,
        candidateOf request submitted, .none, none⟩) :
      Moved s t (.request id request submitted) [.request id]
  | saved {generation : ℕ} {result : Except String Unit} {id : String} {p : Pending}
      (was : s.pending = some p) (saving : p.stage = .saving)
      (own : p.saveGeneration = some generation) (ended : t.pending = none) :
      Moved s t (.persisted generation result id) []
  | follows {generation : ℕ} {result : Except String Unit} {id : String} {p : Pending}
      {kind : OperationKind} {candidate : Option Profile}
      (was : s.pending = some p) (saving : p.stage = .saving)
      (own : p.saveGeneration = some generation)
      (began : t.pending = some ⟨kind, .awaitingReply, some id, none, candidate, .none, none⟩) :
      Moved s t (.persisted generation result id) [.request id]
  | answered {response : DaemonResponse} {p : Pending} (was : s.pending = some p)
      (waits : p.stage = .awaitingReply) (own : p.requestId = some response.requestId)
      (ended : t.pending = none) :
      Moved s t (.daemon (.response s.epoch response)) []
  | acknowledged {response : DaemonResponse} {result : ApplyProfileResult} {p : Pending}
      (was : s.pending = some p) (waits : p.stage = .awaitingReply)
      (own : p.requestId = some response.requestId)
      (accepted : response.Accepted)
      (told : response.result = some (.applied result))
      (goesOn : t.pending = some { p with stage := .awaitingSnapshot,
                                          expectedGeneration := some result.generation }) :
      Moved s t (.daemon (.response s.epoch response)) []
  | settled {status : DaemonStatus} {profiles : List Profile} {p : Pending}
      (was : s.pending = some p) (waits : p.stage = .awaitingSnapshot)
      (ended : t.pending = none) :
      Moved s t (.daemon (.snapshot s.epoch status profiles)) []
  | reconnected {epoch : ℕ} {p : Pending} (newer : s.epoch < epoch) (was : s.pending = some p)
      (sent : p.stage ≠ .saving) (ended : t.pending = none) :
      Moved s t (.daemon (.connectionEstablished epoch)) []
  | lost {requestId : Option String} {error : IpcError} {p : Pending}
      (was : s.pending = some p) (sent : p.stage ≠ .saving)
      (own : requestId = none ∨ requestId = p.requestId) (ended : t.pending = none) :
      Moved s t (.daemon (.daemonUnavailable s.epoch requestId error)) []

section Moves

variable {s t : UiSession} {effects : List UiEffect}

theorem moved_finishSave {p : Pending} {generation : ℕ} {result : Except String Unit}
    {id : String} (hp : s.pending = some p) (hsaving : p.stage = .saving)
    (hown : p.saveGeneration = some generation) :
    Moved s (s.finishSave p id result).1 (.persisted generation result id)
      (mutations (s.finishSave p id result).2) := by
  unfold finishSave
  cases result with
  | error e => exact .saved hp hsaving hown rfl
  | ok u =>
    simp only
    cases hfollow : p.followUp with
    | none => exact .saved hp hsaving hown rfl
    | quitApplication => exact .saved hp hsaving hown rfl
    | request request =>
      simp only
      cases hbegin : beginRequest _ id request _ with
      | error e => exact .saved hp hsaving hown rfl
      | ok begun =>
        obtain ⟨heffects, ⟨hreads, hsame⟩ | ⟨hmutates, -, kind, hpending⟩⟩ :=
          beginRequest_eq_ok hbegin
        · have hquiet : mutations begun.2 = [] := by
            simp [heffects, mutations, UiEffect.ticket, hreads]
          simp only [hquiet]
          exact .saved hp hsaving hown (by rw [hsame])
        · have hissued : mutations begun.2 = [.request id] := by
            simp [heffects, mutations, UiEffect.ticket, hmutates]
          simp only [hissued]
          exact .follows hp hsaving hown hpending

theorem moved_handlePersistence (generation : ℕ) (result : Except String Unit) (id : String) :
    Moved s (s.handlePersistence generation result id).1 (.persisted generation result id)
      (mutations (s.handlePersistence generation result id).2) := by
  unfold handlePersistence
  cases hp : s.pending with
  | none => exact .kept rfl
  | some p =>
    simp only
    split
    · rename_i hawaits
      simp only [awaitsPersistence, hp, Option.any_some, Bool.and_eq_true, beq_iff_eq] at hawaits
      exact moved_finishSave hp hawaits.1 hawaits.2
    · exact .kept rfl

theorem settle_pending (t : UiSession) (status : DaemonStatus) :
    (t.settle status).pending = t.pending ∨
      (t.settle status).pending = none ∧
        ∃ p, t.pending = some p ∧ p.stage = .awaitingSnapshot := by
  unfold settle
  cases hp : t.pending with
  | none => exact Or.inl hp
  | some p =>
    simp only
    split
    · rename_i h
      exact Or.inr ⟨rfl, p, rfl, h.1⟩
    · split
      · rename_i h
        exact Or.inr ⟨rfl, p, rfl, h⟩
      · exact Or.inl hp

theorem moved_handleSnapshot (status : DaemonStatus) (profiles : List Profile) :
    Moved s (s.handleSnapshot status profiles)
      (.daemon (.snapshot s.epoch status profiles)) [] := by
  unfold handleSnapshot
  split
  · exact .kept rfl
  · cases haccept : s.acceptStatus status with
    | none => exact .kept rfl
    | some t =>
      obtain ⟨-, rfl⟩ := acceptStatus_eq_some.1 haccept
      simp only
      rcases settle_pending _ status with hsame | ⟨hnone, p, hp, hstage⟩
      · exact .kept hsame
      · exact .settled hp hstage hnone

theorem moved_handleResult {response : DaemonResponse} {p : Pending} (hp : s.pending = some p)
    (hstage : p.stage = .awaitingReply) (hown : p.requestId = some response.requestId)
    (haccepted : response.Accepted) :
    let s' : UiSession := { s with pending := none }
    Moved s (s'.handleResult p response.result).1 (.daemon (.response s.epoch response))
      (mutations (s'.handleResult p response.result).2) := by
  intro s'
  unfold handleResult
  split
  · rename_i result hresult
    split
    · exact .acknowledged hp hstage hown haccepted hresult rfl
    · exact .answered hp hstage hown rfl
  · split <;> exact .answered hp hstage hown rfl
  · split <;> exact .answered hp hstage hown rfl
  · split <;> exact .answered hp hstage hown rfl
  · split <;> exact .answered hp hstage hown rfl
  · exact .answered hp hstage hown rfl

theorem moved_handleResponse (response : DaemonResponse) :
    Moved s (s.handleResponse response).1 (.daemon (.response s.epoch response))
      (mutations (s.handleResponse response).2) := by
  unfold handleResponse
  cases hp : s.pending with
  | none => exact .kept (by simp)
  | some p =>
    simp only
    split
    · rename_i hawaits
      simp only [awaitsReply, hp, Option.any_some, Bool.and_eq_true, beq_iff_eq] at hawaits
      split
      · exact .answered hp hawaits.1 hawaits.2 rfl
      · rename_i hversion
        split
        · exact .answered hp hawaits.1 hawaits.2 rfl
        · rename_i herror
          exact moved_handleResult hp hawaits.1 hawaits.2 ⟨not_not.1 hversion, herror⟩
    · exact .kept (by simp)

theorem moved_handleUnavailable (requestId : Option String) (error : IpcError) :
    Moved s (s.handleUnavailable requestId error).1
      (.daemon (.daemonUnavailable s.epoch requestId error))
      (mutations (s.handleUnavailable requestId error).2) := by
  unfold handleUnavailable
  split
  · exact .kept rfl
  · rename_i hother
    rcases abandon_pending with hsame | ⟨hnone, p, hp, hstage⟩
    · exact .kept hsame
    · refine .lost hp hstage ?_ hnone
      have hp' : s.pending = some p := hp
      cases requestId with
      | none => exact Or.inl rfl
      | some id =>
        simp only [otherRequest, hp', Option.any_some, bne_iff_ne, ne_eq, not_not] at hother
        exact Or.inr hother.symm

theorem moved_handleConnection (epoch : ℕ) :
    Moved s (s.handleConnection epoch) (.daemon (.connectionEstablished epoch)) [] := by
  unfold handleConnection
  split
  · exact .kept rfl
  · rcases abandon_pending with hsame | ⟨hnone, p, hp, hstage⟩
    · exact .kept hsame
    · exact .reconnected (by omega) hp hstage hnone

theorem moved_handleDaemon (message : DaemonToUi) :
    Moved s (s.handleDaemon message).1 (.daemon message)
      (mutations (s.handleDaemon message).2) := by
  cases message with
  | connectionEstablished epoch => exact moved_handleConnection epoch
  | snapshot epoch status profiles =>
    simp only [handleDaemon]
    split
    · rename_i hepoch
      subst hepoch
      exact moved_handleSnapshot status profiles
    · exact .kept rfl
  | response epoch response =>
    simp only [handleDaemon]
    split
    · rename_i hepoch
      subst hepoch
      exact moved_handleResponse response
    · exact .kept rfl
  | event epoch event =>
    simp only [handleDaemon]
    split
    · exact .kept (by simp)
    · exact .kept rfl
  | daemonUnavailable epoch requestId error =>
    simp only [handleDaemon]
    split
    · rename_i hepoch
      subst hepoch
      exact moved_handleUnavailable requestId error
    · exact .kept rfl

/-- What one input does to the pending operation. -/
theorem moved_react {x : UiInput} (h : s.react x = some (t, effects)) :
    Moved s t x (mutations effects) := by
  cases x with
  | save config profile followUp =>
    simp only [react] at h
    split at h
    · obtain ⟨rfl, rfl⟩ := Prod.mk.inj (Option.some.inj h)
      exact .kept rfl
    · rename_i begun hbegin
      subst h
      obtain ⟨hidle, rfl, kind, hpending⟩ := beginSave_eq_some hbegin
      exact .saves hidle hpending
  | request id request submitted =>
    simp only [react] at h
    split at h
    · obtain ⟨rfl, rfl⟩ := Prod.mk.inj (Option.some.inj h)
      exact .kept rfl
    · rename_i begun hbegin
      obtain rfl := Option.some.inj h
      obtain ⟨rfl, ⟨hreads, rfl⟩ | ⟨hmutates, hidle, kind, hpending⟩⟩ :=
        beginRequest_eq_ok hbegin
      · simpa [mutations, UiEffect.ticket, hreads] using Moved.kept rfl
      · simpa [mutations, UiEffect.ticket, hmutates] using Moved.asks hidle hpending
  | persisted generation result id =>
    have heq : s.handlePersistence generation result id = (t, effects) := Option.some.inj h
    simpa [heq] using moved_handlePersistence (s := s) generation result id
  | daemon message =>
    have heq : s.handleDaemon message = (t, effects) := Option.some.inj h
    simpa [heq] using moved_handleDaemon (s := s) message
  | configurationFailed error =>
    obtain ⟨rfl, rfl⟩ := Prod.mk.inj (Option.some.inj h)
    exact .kept rfl

theorem moved_step {x : UiInput} (h : s.step x = some t) : ∃ issued, Moved s t x issued := by
  obtain ⟨⟨t', effects⟩, hreact, rfl⟩ := Option.map_eq_some_iff.1 h
  exact ⟨_, moved_react hreact⟩

end Moves

/-! ## What one input teaches -/

/-- The status a message brings, where no filter of the snapshot drops it. -/
def offered (s : UiSession) : UiInput → Option DaemonStatus
  | .daemon (.snapshot epoch status _) =>
    if epoch = s.epoch ∧ s.predates status = false then some status else none
  | .daemon (.event epoch event) =>
    if epoch = s.epoch then s.status.map fun status => statusAfter status event else none
  | .daemon (.response epoch response) =>
    if epoch = s.epoch ∧ s.awaitsReply response.requestId = false then
      match response.result with
      | some (.status status) => some status
      | _ => none
    else none
  | _ => none

/-- The status an input makes the session accept. -/
def accepted (s : UiSession) (x : UiInput) : Option DaemonStatus :=
  (s.offered x).filter fun status => (s.acceptStatus status).isSome

/-- What an input does to the connection, the status and the applied revision; the index is
the status it makes the session accept. -/
inductive Learned (s t : UiSession) : UiInput → Option DaemonStatus → Prop
  | nothing {x : UiInput} (epoch : t.epoch = s.epoch) (status : t.status = s.status)
      (revision : t.appliedRevision = s.appliedRevision ∨ t.appliedRevision = none) :
      Learned s t x none
  | accepted {x : UiInput} {accepted : DaemonStatus} (epoch : t.epoch = s.epoch)
      (status : t.status = some accepted)
      (revision : t.appliedRevision = s.appliedRevision ∨ t.appliedRevision = none) :
      Learned s t x (some accepted)
  | deactivated {x : UiInput} (epoch : t.epoch = s.epoch)
      (status : ∀ status ∈ t.status, status.appliedProfileId = none)
      (revision : t.appliedRevision = none) :
      Learned s t x none
  | reconnected {epoch : ℕ} (newer : s.epoch < epoch) (now : t.epoch = epoch)
      (status : t.status = s.status) (revision : t.appliedRevision = none)
      (pending : ∀ p ∈ t.pending, p.stage = .saving) :
      Learned s t (.daemon (.connectionEstablished epoch)) none
  | acknowledged {response : DaemonResponse} {result : ApplyProfileResult} {p : Pending}
      {candidate : Profile} (was : s.pending = some p) (waits : p.stage = .awaitingReply)
      (own : p.requestId = some response.requestId) (accepted : response.Accepted)
      (told : response.result = some (.applied result)) (submitted : p.candidate = some candidate)
      (epoch : t.epoch = s.epoch) (status : t.status = s.status)
      (revision : t.appliedRevision = some (result.generation, candidate)) :
      Learned s t (.daemon (.response s.epoch response)) none

section Learning

variable {s t : UiSession} {status : DaemonStatus}

@[simp] theorem abandon_epoch : s.abandon.epoch = s.epoch := by
  unfold abandon
  split <;> rfl

@[simp] theorem abandon_status : s.abandon.status = s.status := by
  unfold abandon
  split <;> rfl

@[simp] theorem abandon_appliedRevision : s.abandon.appliedRevision = s.appliedRevision := by
  unfold abandon
  split <;> rfl

@[simp] theorem settle_epoch : (s.settle status).epoch = s.epoch := by
  unfold settle
  split
  · rfl
  · split
    · rfl
    · split <;> rfl

@[simp] theorem settle_status : (s.settle status).status = s.status := by
  unfold settle
  split
  · rfl
  · split
    · rfl
    · split <;> rfl

theorem settle_appliedRevision (s : UiSession) (status : DaemonStatus) :
    (s.settle status).appliedRevision = s.appliedRevision ∨
      (s.settle status).appliedRevision = none := by
  unfold settle
  split
  · exact Or.inl rfl
  · split
    · exact Or.inl rfl
    · split
      · exact Or.inr rfl
      · exact Or.inl rfl

/-- Noting a status accepts it, unless it is older than one accepted before. -/
theorem learned_noteStatus (x : UiInput) (status : DaemonStatus) :
    Learned s (s.noteStatus status) x
      ((some status).filter fun status => (s.acceptStatus status).isSome) := by
  unfold noteStatus
  cases haccept : s.acceptStatus status with
  | none =>
    simp only [haccept, Option.filter_some, Option.isSome_none, Bool.false_eq_true, if_false]
    exact .nothing rfl rfl (Or.inl rfl)
  | some t =>
    obtain ⟨-, rfl⟩ := acceptStatus_eq_some.1 haccept
    simp only [haccept, Option.filter_some, Option.isSome_some, if_true]
    exact .accepted rfl rfl (Or.inl rfl)

theorem learned_handleSnapshot (status : DaemonStatus) (profiles : List Profile) :
    Learned s (s.handleSnapshot status profiles) (.daemon (.snapshot s.epoch status profiles))
      (s.accepted (.daemon (.snapshot s.epoch status profiles))) := by
  cases hpredates : s.predates status with
  | true =>
    simp only [handleSnapshot, accepted, offered, hpredates, if_true, Bool.true_eq_false,
      and_false, if_false, Option.filter_none]
    exact .nothing rfl rfl (Or.inl rfl)
  | false =>
    cases haccept : s.acceptStatus status with
    | none =>
      simp only [handleSnapshot, accepted, offered, hpredates, haccept, and_self, if_true,
        Option.filter_some, Option.isSome_none, Bool.false_eq_true, if_false]
      exact .nothing rfl rfl (Or.inl rfl)
    | some t =>
      obtain ⟨-, ht⟩ := acceptStatus_eq_some.1 haccept
      simp only [handleSnapshot, accepted, offered, hpredates, haccept, and_self, if_true,
        Option.filter_some, Option.isSome_some, Bool.false_eq_true, if_false]
      refine .accepted (by simp [ht]) (by simp [ht]) ?_
      rcases settle_appliedRevision { t with
        profiles := profiles
        known := true
        appliedRevision := t.appliedRevision.filter fun revision => !supersedes status revision }
        status with hsame | hnone
      · rw [hsame]
        cases hrevision : s.appliedRevision with
        | none => simp [ht, hrevision]
        | some revision => by_cases hold : supersedes status revision = true <;>
            simp [ht, hrevision, hold, Option.filter]
      · exact Or.inr hnone

theorem learned_handleEvent (event : DaemonEvent) :
    Learned s (s.handleEvent event) (.daemon (.event s.epoch event))
      (s.accepted (.daemon (.event s.epoch event))) := by
  unfold handleEvent
  cases hstatus : s.status with
  | none =>
    simp only [accepted, offered, hstatus, if_true, Option.map_none, Option.filter_none]
    exact .nothing rfl rfl (Or.inl rfl)
  | some status =>
    simp only [accepted, offered, hstatus, if_true, Option.map_some]
    exact learned_noteStatus _ _

theorem learned_noteUnmatched {response : DaemonResponse}
    (h : s.awaitsReply response.requestId = false) :
    Learned s (s.noteUnmatched response) (.daemon (.response s.epoch response))
      (s.accepted (.daemon (.response s.epoch response))) := by
  unfold noteUnmatched
  simp only [accepted, offered, h, and_self, if_true]
  cases response.result with
  | none => exact .nothing rfl rfl (Or.inl rfl)
  | some result =>
    cases result with
    | status status => exact learned_noteStatus _ _
    | _ => exact .nothing rfl rfl (Or.inl rfl)

theorem learned_handleResult {response : DaemonResponse} {p : Pending} (hp : s.pending = some p)
    (hstage : p.stage = .awaitingReply) (hown : p.requestId = some response.requestId)
    (haccepted : response.Accepted) :
    let s' : UiSession := { s with pending := none }
    Learned s (s'.handleResult p response.result).1 (.daemon (.response s.epoch response)) none := by
  intro s'
  have hrefused : Learned s (handleResult.unexpected s').1
      (.daemon (.response s.epoch response)) none := .nothing rfl rfl (Or.inr rfl)
  unfold handleResult
  split
  · rename_i result hresult
    split
    · cases hcandidate : p.candidate with
      | none => exact .nothing rfl rfl (Or.inl rfl)
      | some candidate => exact .acknowledged hp hstage hown haccepted hresult hcandidate rfl rfl rfl
    · exact hrefused
  · split
    · refine .deactivated rfl ?_ rfl
      simp only [Option.mem_def, Option.map_eq_some_iff]
      rintro _ ⟨status, -, rfl⟩
      rfl
    · exact hrefused
  · split
    · exact .nothing rfl rfl (Or.inl rfl)
    · exact hrefused
  · split
    · exact .nothing rfl rfl (Or.inl rfl)
    · exact hrefused
  · split
    · exact .nothing rfl rfl (Or.inr rfl)
    · exact hrefused
  · exact hrefused

theorem learned_handleResponse (response : DaemonResponse) :
    Learned s (s.handleResponse response).1 (.daemon (.response s.epoch response))
      (s.accepted (.daemon (.response s.epoch response))) := by
  unfold handleResponse
  cases hp : s.pending with
  | none => exact learned_noteUnmatched (by simp [awaitsReply, hp])
  | some p =>
    simp only
    split
    · rename_i hawaits
      have hquiet : s.accepted (.daemon (.response s.epoch response)) = none := by
        simp [accepted, offered, hawaits]
      rw [hquiet]
      simp only [awaitsReply, hp, Option.any_some, Bool.and_eq_true, beq_iff_eq] at hawaits
      split
      · exact .nothing rfl rfl (Or.inl rfl)
      · rename_i hversion
        split
        · exact .nothing rfl rfl (Or.inr rfl)
        · rename_i herror
          exact learned_handleResult hp hawaits.1 hawaits.2 ⟨not_not.1 hversion, herror⟩
    · rename_i hawaits
      exact learned_noteUnmatched (by simpa using hawaits)

theorem learned_handleConnection (epoch : ℕ) :
    Learned s (s.handleConnection epoch) (.daemon (.connectionEstablished epoch)) none := by
  unfold handleConnection
  split
  · exact .nothing rfl rfl (Or.inl rfl)
  · refine .reconnected (by omega) (by simp) (by simp) (by simp) ?_
    intro p hp
    unfold abandon at hp
    split at hp
    · cases hp
    · rename_i hsaving
      have hp' : s.pending = some p := hp
      simpa [hp'] using hsaving

theorem learned_handleUnavailable (requestId : Option String) (error : IpcError) :
    Learned s (s.handleUnavailable requestId error).1
      (.daemon (.daemonUnavailable s.epoch requestId error)) none := by
  unfold handleUnavailable
  split
  · exact .nothing rfl rfl (Or.inl rfl)
  · exact .nothing (by simp) (by simp) (Or.inr (by simp))

theorem learned_handleDaemon (message : DaemonToUi) :
    Learned s (s.handleDaemon message).1 (.daemon message) (s.accepted (.daemon message)) := by
  have hstale (epoch : ℕ) (hepoch : ¬epoch = s.epoch) {x : UiInput} (hx : s.accepted x = none) :
      Learned s s x (s.accepted x) := hx ▸ .nothing rfl rfl (Or.inl rfl)
  cases message with
  | connectionEstablished epoch => exact learned_handleConnection epoch
  | snapshot epoch status profiles =>
    simp only [handleDaemon]
    split
    · rename_i hepoch
      subst hepoch
      exact learned_handleSnapshot status profiles
    · rename_i hepoch
      exact hstale epoch hepoch (by simp [accepted, offered, hepoch])
  | response epoch response =>
    simp only [handleDaemon]
    split
    · rename_i hepoch
      subst hepoch
      exact learned_handleResponse response
    · rename_i hepoch
      exact hstale epoch hepoch (by simp [accepted, offered, hepoch])
  | event epoch event =>
    simp only [handleDaemon]
    split
    · rename_i hepoch
      subst hepoch
      exact learned_handleEvent event
    · rename_i hepoch
      exact hstale epoch hepoch (by simp [accepted, offered, hepoch])
  | daemonUnavailable epoch requestId error =>
    simp only [handleDaemon]
    split
    · rename_i hepoch
      subst hepoch
      exact learned_handleUnavailable requestId error
    · rename_i hepoch
      exact hstale epoch hepoch rfl

/-- Beginning a request teaches nothing. -/
theorem learned_beginRequest {u : UiSession} {id : String} {request : DaemonRequest}
    {submitted : Option Profile} {begun : UiSession × List UiEffect}
    (h : u.beginRequest id request submitted = .ok begun) :
    begun.1.epoch = u.epoch ∧ begun.1.status = u.status ∧
      begun.1.appliedRevision = u.appliedRevision := by
  unfold beginRequest at h
  split at h
  · obtain rfl := Except.ok.inj h
    exact ⟨rfl, rfl, rfl⟩
  · obtain ⟨kind, -, h⟩ := bind_eq_ok.1 h
    obtain rfl := Except.ok.inj h
    exact ⟨rfl, rfl, rfl⟩

theorem learned_handlePersistence (generation : ℕ) (result : Except String Unit) (id : String) :
    Learned s (s.handlePersistence generation result id).1 (.persisted generation result id)
      none := by
  unfold handlePersistence
  split
  · split
    · unfold finishSave
      cases result with
      | error e => exact .nothing rfl rfl (Or.inl rfl)
      | ok u =>
        simp only
        split
        · exact .nothing rfl rfl (Or.inl rfl)
        · exact .nothing rfl rfl (Or.inl rfl)
        · split
          · rename_i begun hbegin
            obtain ⟨hepoch, hstatus, hrevision⟩ := learned_beginRequest hbegin
            exact .nothing hepoch hstatus (Or.inl hrevision)
          · exact .nothing rfl rfl (Or.inl rfl)
    · exact .nothing rfl rfl (Or.inl rfl)
  · exact .nothing rfl rfl (Or.inl rfl)

theorem learned_beginSave {config : ConfigV4} {profile : Profile} {followUp : AfterSave}
    {effects : List UiEffect} (h : s.beginSave config profile followUp = .ok (some (t, effects))) :
    t.epoch = s.epoch ∧ t.status = s.status ∧ t.appliedRevision = s.appliedRevision := by
  unfold beginSave at h
  split at h
  · cases h
  split at h
  · cases h
  split at h
  · cases h
  split at h
  · cases h
  obtain ⟨rfl, -⟩ := Prod.mk.inj (Option.some.inj (Except.ok.inj h))
  exact ⟨rfl, rfl, rfl⟩

/-- What one input teaches the session. -/
theorem learned_react {x : UiInput} {effects : List UiEffect}
    (h : s.react x = some (t, effects)) : Learned s t x (s.accepted x) := by
  cases x with
  | save config profile followUp =>
    simp only [react] at h
    split at h
    · obtain ⟨rfl, rfl⟩ := Prod.mk.inj (Option.some.inj h)
      exact .nothing rfl rfl (Or.inl rfl)
    · rename_i begun hbegin
      subst h
      obtain ⟨hepoch, hstatus, hrevision⟩ := learned_beginSave hbegin
      exact .nothing hepoch hstatus (Or.inl hrevision)
  | request id request submitted =>
    simp only [react] at h
    split at h
    · obtain ⟨rfl, rfl⟩ := Prod.mk.inj (Option.some.inj h)
      exact .nothing rfl rfl (Or.inl rfl)
    · rename_i begun hbegin
      obtain rfl := Option.some.inj h
      obtain ⟨hepoch, hstatus, hrevision⟩ := learned_beginRequest hbegin
      exact .nothing hepoch hstatus (Or.inl hrevision)
  | persisted generation result id =>
    have heq : s.handlePersistence generation result id = (t, effects) := Option.some.inj h
    have hlearned := learned_handlePersistence (s := s) generation result id
    rw [heq] at hlearned
    exact hlearned
  | daemon message =>
    have heq : s.handleDaemon message = (t, effects) := Option.some.inj h
    simpa [heq] using learned_handleDaemon (s := s) message
  | configurationFailed error =>
    obtain ⟨rfl, rfl⟩ := Prod.mk.inj (Option.some.inj h)
    exact .nothing rfl rfl (Or.inl rfl)

theorem learned_step {x : UiInput} (h : s.step x = some t) : Learned s t x (s.accepted x) := by
  obtain ⟨⟨t', effects⟩, hreact, rfl⟩ := Option.map_eq_some_iff.1 h
  exact learned_react hreact

end Learning

end UiSession

end RouteLane
