import RouteLane.Ui.Controller
import RouteLane.Ui.Pending

/-!
# Consent to a recovery

The flags of the controller stand for points of the history.  What they stand for is kept by
every input but one: a new apply of the user's resets all of them except the one that says the
daemon has recovered, and what that one stands for is then lost.
-/

namespace RouteLane

open Fallible Histories Steps

/-! ## What the pending operation leads to -/

/-- An apply, or a save that an apply follows. -/
def Pending.toApply (p : Pending) : Bool := p.kind == .apply || p.followUp.profileToApply.isSome

/-- A recovery, or a save that a recovery follows. -/
def Pending.toRecover (p : Pending) : Bool :=
  p.kind == .recover || p.followUp == .request .recoverOrphanedResources

namespace UiSession

def applying (s : UiSession) : Bool := s.pending.any Pending.toApply

def recovering (s : UiSession) : Bool := s.pending.any Pending.toRecover

section Pending

variable {s t : UiSession} {message : DaemonToUi} {kind : OperationKind}

/-- A session leads to no apply and to no recovery that another did not lead to. -/
structure LeadsToNoMore (t s : UiSession) : Prop where
  applying : t.applying = true → s.applying = true
  recovering : t.recovering = true → s.recovering = true

theorem LeadsToNoMore.of_pending (h : t.pending = s.pending) : LeadsToNoMore t s := by
  constructor
  · rw [UiSession.applying, UiSession.applying, h]
    exact id
  · rw [UiSession.recovering, UiSession.recovering, h]
    exact id

theorem LeadsToNoMore.of_idle (h : t.pending = none) : LeadsToNoMore t s := by
  constructor
  · simp [UiSession.applying, h]
  · simp [UiSession.recovering, h]

/-- A message of the daemon takes the pending operation on or ends it. -/
theorem LeadsToNoMore.of_moved {issued : List Ticket} (h : Moved s t (.daemon message) issued) :
    LeadsToNoMore t s ∧ issued = [] := by
  cases h with
  | kept same => exact ⟨.of_pending same, rfl⟩
  | answered _ _ _ ended => exact ⟨.of_idle ended, rfl⟩
  | acknowledged was _ _ _ _ goesOn =>
    refine ⟨⟨?_, ?_⟩, rfl⟩
    · simp [UiSession.applying, was, goesOn, Pending.toApply]
    · simp [UiSession.recovering, was, goesOn, Pending.toRecover]
  | settled _ _ ended => exact ⟨.of_idle ended, rfl⟩
  | reconnected _ _ _ ended => exact ⟨.of_idle ended, rfl⟩
  | lost _ _ _ ended => exact ⟨.of_idle ended, rfl⟩

/-- What a request is the beginning of. -/
theorem operationKind_eq_ok {submitted : Option Profile} {request : DaemonRequest}
    (h : s.operationKind submitted request = .ok kind) :
    (kind = .apply → request.profileToApply.isSome = true) ∧
      (kind = .recover → request = .recoverOrphanedResources) := by
  cases request with
  | applyProfile profile => obtain rfl := Except.ok.inj h; simp [DaemonRequest.profileToApply]
  | setRuleEnabled => obtain rfl := Except.ok.inj h; simp
  | launchApplication =>
    simp only [operationKind, applicationGate] at h
    split at h
    · cases h
    · split at h
      · cases h
      · obtain rfl := Except.ok.inj h
        simp
  | adoptApplicationProcesses =>
    simp only [operationKind, applicationGate] at h
    split at h
    · cases h
    · split at h
      · cases h
      · obtain rfl := Except.ok.inj h
        simp
  | recoverOrphanedResources =>
    simp only [operationKind] at h
    split at h
    · obtain rfl := Except.ok.inj h
      simp
    · cases h
  | _ =>
    simp only [operationKind] at h
    split at h
    · cases h
    · obtain rfl := Except.ok.inj h
      simp

/-- A request that is begun changes nothing, or is what the session waits for. -/
theorem beginRequest_leadsTo {id : String} {request : DaemonRequest} {submitted : Option Profile}
    {effects : List UiEffect} (h : s.beginRequest id request submitted = .ok (t, effects)) :
    t.known = s.known ∧ (t.applying = true → s.applying = true ∨ request.profileToApply.isSome = true) ∧
      (t.recovering = true → s.recovering = true ∨ request = .recoverOrphanedResources) := by
  rw [beginRequest] at h
  split at h
  · obtain ⟨rfl, -⟩ := Prod.mk.inj (Except.ok.inj h)
    exact ⟨rfl, Or.inl, Or.inl⟩
  · obtain ⟨kind, hgate, h⟩ := bind_eq_ok.1 h
    obtain ⟨rfl, -⟩ := Prod.mk.inj (Except.ok.inj h)
    obtain ⟨_, -, hgate⟩ := bind_eq_ok.1 hgate
    obtain ⟨_, -, hgate⟩ := bind_eq_ok.1 hgate
    obtain ⟨kind', hkind, hgate⟩ := bind_eq_ok.1 hgate
    obtain ⟨_, -, hgate⟩ := bind_eq_ok.1 hgate
    obtain rfl := Except.ok.inj hgate
    obtain ⟨happly, hrecover⟩ := operationKind_eq_ok hkind
    refine ⟨rfl, fun hall => Or.inr (happly ?_), fun hall => Or.inr (hrecover ?_)⟩
    · simpa [UiSession.applying, Pending.toApply, AfterSave.profileToApply] using hall
    · simpa [UiSession.recovering, Pending.toRecover] using hall

/-- What follows a save was to follow it. -/
theorem leadsToNoMore_handlePersistence (generation : ℕ) (result : Except String Unit)
    (id : String) : LeadsToNoMore (s.handlePersistence generation result id).1 s ∧
      (s.handlePersistence generation result id).1.known = s.known := by
  rw [handlePersistence]
  split
  · next p hp =>
    split
    · unfold finishSave
      split
      · exact ⟨.of_idle rfl, rfl⟩
      · simp only
        split
        · exact ⟨.of_idle rfl, rfl⟩
        · exact ⟨.of_idle rfl, rfl⟩
        · next request hfollow =>
          split
          · next begun hbegin =>
            obtain ⟨hknown, happly, hrecover⟩ := beginRequest_leadsTo hbegin
            refine ⟨⟨fun h => ?_, fun h => ?_⟩, hknown⟩
            · have hto := (happly h).resolve_left (by simp [UiSession.applying])
              simp [UiSession.applying, hp, Pending.toApply, hfollow, AfterSave.profileToApply, hto]
            · have hto := (hrecover h).resolve_left (by simp [UiSession.recovering])
              simp [UiSession.recovering, hp, Pending.toRecover, hfollow, hto]
          · exact ⟨.of_idle rfl, rfl⟩
    · exact ⟨.of_pending rfl, rfl⟩
  · exact ⟨.of_pending rfl, rfl⟩

/-- A save that is begun leads to what follows it. -/
theorem beginSave_leadsTo {config : ConfigV4} {profile : Profile} {followUp : AfterSave}
    {effects : List UiEffect} (h : s.beginSave config profile followUp = .ok (some (t, effects))) :
    t.known = s.known ∧ t.applying = followUp.profileToApply.isSome ∧
      t.recovering = (followUp == .request .recoverOrphanedResources) := by
  rw [beginSave] at h
  split at h
  · cases h
  split at h
  · cases h
  split at h
  · cases h
  split at h
  · cases h
  obtain ⟨rfl, -⟩ := Prod.mk.inj (Option.some.inj (Except.ok.inj h))
  refine ⟨rfl, ?_, ?_⟩
  · simp only [UiSession.applying, Option.any_some, Pending.toApply]
    split <;> simp
  · simp only [UiSession.recovering, Option.any_some, Pending.toRecover]
    split <;> simp

end Pending

section Known

variable {s : UiSession} {response : DaemonResponse}

@[simp] theorem noteStatus_known (status : DaemonStatus) :
    (s.noteStatus status).known = s.known := by
  rw [noteStatus]
  cases h : s.acceptStatus status with
  | none => rfl
  | some t => rw [(acceptStatus_eq_some.1 h).2]; rfl

@[simp] theorem abandon_known : s.abandon.known = s.known := by
  rw [abandon]
  split <;> rfl

/-- A reply makes nothing known. -/
theorem known_handleResult (p : Pending) (result : Option DaemonResult)
    (h : (s.handleResult p result).1.known = true) : s.known = true := by
  have hunexpected : (handleResult.unexpected s).1.known = false := rfl
  unfold handleResult at h
  split at h
  · split at h
    · exact h
    · rw [hunexpected] at h; cases h
  · split at h
    · exact h
    · rw [hunexpected] at h; cases h
  · split at h
    · exact h
    · rw [hunexpected] at h; cases h
  · split at h
    · exact h
    · rw [hunexpected] at h; cases h
  · split at h
    · cases h
    · rw [hunexpected] at h; cases h
  · rw [hunexpected] at h; cases h

theorem known_handleResponse (h : (s.handleResponse response).1.known = true) :
    s.known = true := by
  have hunmatched : (s.noteUnmatched response).known = s.known := by
    rw [noteUnmatched]
    split <;> simp
  rw [handleResponse] at h
  split at h
  · split at h
    · simp only at h
      split at h
      · cases h
      · split at h
        · cases h
        · have hknown := known_handleResult _ _ h
          exact hknown
    · rwa [hunmatched] at h
  · rwa [hunmatched] at h

/-- The daemon's state becomes known with a snapshot that is accepted. -/
theorem known_handleDaemon {message : DaemonToUi} (h : (s.handleDaemon message).1.known = true) :
    s.known = true ∨ .refreshed ∈ UiController.reported s message := by
  cases message with
  | connectionEstablished epoch =>
    simp only [handleDaemon, handleConnection] at h
    split at h
    · exact Or.inl h
    · simp at h
  | snapshot epoch status profiles =>
    simp only [handleDaemon] at h
    split at h
    · next hepoch =>
      rw [handleSnapshot] at h
      split at h
      · exact Or.inl h
      · next hpredates =>
        split at h
        · exact Or.inl h
        · next t haccept =>
          refine Or.inr ?_
          simp [UiController.reported, acceptsSnapshot, hepoch, hpredates, haccept]
    · exact Or.inl h
  | response epoch response =>
    simp only [handleDaemon] at h
    split at h
    · exact Or.inl (known_handleResponse h)
    · exact Or.inl h
  | event epoch event =>
    simp only [handleDaemon] at h
    split at h
    · refine Or.inl ?_
      simp only [handleEvent] at h
      split at h
      · exact h
      · simpa using h
    · exact Or.inl h
  | daemonUnavailable epoch requestId error =>
    simp only [handleDaemon] at h
    split at h
    · simp only [handleUnavailable] at h
      split at h
      · exact Or.inl h
      · simp at h
    · exact Or.inl h

/-- A reply that ends an apply or a recovery leaves nothing pending, and nothing known. -/
theorem idle_of_reply {epoch : ℕ} (haccepts : s.acceptsReply epoch response.requestId = true)
    (h : UiController.failsOrphaned s response = true ∨
      UiController.reportsRecovery s response = true) :
    (s.handleDaemon (.response epoch response)).1.pending = none ∧
      (s.handleDaemon (.response epoch response)).1.known = false := by
  simp only [acceptsReply, Bool.and_eq_true, beq_iff_eq] at haccepts
  obtain ⟨hepoch, hawaits⟩ := haccepts
  rw [handleDaemon, if_pos hepoch, handleResponse]
  cases hp : s.pending with
  | none => simp [awaitsReply, hp] at hawaits
  | some p =>
    simp only [if_pos hawaits]
    split
    · exact ⟨rfl, rfl⟩
    · split
      · exact ⟨rfl, rfl⟩
      · next herror =>
        rcases h with horphaned | hrecovered
        · simp [UiController.failsOrphaned, herror] at horphaned
        · simp only [UiController.reportsRecovery, operation, hp, Option.map_some, Bool.and_eq_true,
            beq_iff_eq, Option.some.injEq] at hrecovered
          obtain ⟨hkind, hresult⟩ := hrecovered
          cases hr : response.result with
          | none => simp [hr] at hresult
          | some result =>
            rw [hr, Option.any_some] at hresult
            cases result with
            | orphanedResourcesRecovered => simp [handleResult, hkind]
            | _ => cases hresult

end Known

end UiSession

/-! ## Lawful histories -/

namespace RecoveryEvent

variable {history : List RecoveryEvent} {e : RecoveryEvent} {profile : Profile}

def isReapplied : RecoveryEvent → Bool
  | .reapplied .. => true
  | _ => false

theorem Lawful.cons (h : Lawful history) (he : e.isReapplied = false) : Lawful (e :: history) := by
  intro profile session before hsuffix
  rcases List.suffix_cons_iff.1 hsuffix with heq | hsuffix
  · rw [← (List.cons.inj heq).1] at he
    cases he
  · exact h profile session before hsuffix

theorem Lawful.reapplied {session : UiSession} (h : Lawful history)
    (hrefreshed : Refreshed profile history) (hunspent : Unspent history)
    (hknown : session.known = true) (hidle : session.isBusy = false) :
    Lawful (.reapplied profile session :: history) := by
  intro profile' session' before hsuffix
  rcases List.suffix_cons_iff.1 hsuffix with heq | hsuffix
  · obtain ⟨hevent, rfl⟩ := List.cons.inj heq
    obtain ⟨rfl, rfl⟩ := RecoveryEvent.reapplied.inj hevent
    exact ⟨hrefreshed, hunspent, hknown, hidle⟩
  · exact h profile' session' before hsuffix

theorem Unspent.cons (h : Unspent history) (he : e.isReapplied = false) :
    Unspent (e :: history) := by
  cases e with
  | reapplied profile session => cases he
  | userApply => trivial
  | _ => exact h

end RecoveryEvent

/-! ## What the flags stand for -/

namespace UiController

open RecoveryEvent

/-- What the flags of a controller say of its history. -/
structure Inv (c : UiController) (history : List RecoveryEvent) : Prop where
  lawful : Lawful history
  failed : ∀ profile, c.recovery = some profile → Failed profile history
  used : c.retryUsed = true → c.recovery = none
  unspent : c.retryUsed = false → Unspent history
  confirmed : c.session.recovering = true →
    ∀ profile, c.recovery = some profile → Confirmed profile history
  recovered : c.retryAfterRefresh = true →
    ∀ profile, c.recovery = some profile → Recovered profile history
  refreshed : c.retryAfterRefresh = true → c.session.known = true →
    ∀ profile, c.recovery = some profile → RecoveryEvent.Refreshed profile history
  idle : c.retryAfterRefresh = true → c.session.applying = false
  fresh : c.session.applying = true → c.recovery = none

section Steps

variable {c c' : UiController} {history : List RecoveryEvent} {e : RecoveryEvent}

theorem inv_new (profile : Profile) (writable persistence : Bool) :
    Inv (.new (.new profile writable) persistence) [] where
  lawful _ _ _ h := by simpa using h.length_le
  failed _ h := by cases h
  used _ := rfl
  unspent _ := trivial
  confirmed _ _ h := by cases h
  recovered h := by cases h
  refreshed h := by cases h
  idle _ := rfl
  fresh _ := rfl

/-- The flags stay, and the session leads to nothing more. -/
theorem Inv.same (h : Inv c history) (hrecovery : c'.recovery = c.recovery)
    (hused : c'.retryUsed = c.retryUsed) (hflag : c'.retryAfterRefresh = c.retryAfterRefresh)
    (hleads : c'.session.LeadsToNoMore c.session)
    (hknown : c'.session.known = true → c.session.known = true) : Inv c' history where
  lawful := h.lawful
  failed := hrecovery ▸ h.failed
  used := hrecovery ▸ hused ▸ h.used
  unspent := hused ▸ h.unspent
  confirmed hrecovering := hrecovery ▸ h.confirmed (hleads.recovering hrecovering)
  recovered := hrecovery ▸ hflag ▸ h.recovered
  refreshed hset hk := hrecovery ▸ h.refreshed (hflag ▸ hset) (hknown hk)
  idle hset := by
    by_contra happlying
    have hwas := hleads.applying (Bool.not_eq_false _ ▸ happlying)
    rw [h.idle (hflag ▸ hset)] at hwas
    cases hwas
  fresh happlying := hrecovery ▸ h.fresh (hleads.applying happlying)

/-- Something quiet happens. -/
theorem Inv.quietly (h : Inv c history) (he : Quiet e) : Inv c (e :: history) := by
  have hne : e.isReapplied = false := by
    cases e <;> first | rfl | exact he.elim
  exact
    { h with
      lawful := h.lawful.cons hne
      failed := fun profile hp => (h.failed profile hp).quietly he
      unspent := fun hused => (h.unspent hused).cons hne
      confirmed := fun hr profile hp => (h.confirmed hr profile hp).quietly he
      recovered := fun hf profile hp => (h.recovered hf profile hp).quietly he
      refreshed := fun hf hk profile hp => (h.refreshed hf hk profile hp).quietly he }

/-- There is nothing to recover, and no recovery was reported. -/
theorem Inv.of_nothing (hlawful : Lawful history) (hrecovery : c.recovery = none)
    (hflag : c.retryAfterRefresh = false) (hunspent : c.retryUsed = false → Unspent history) :
    Inv c history where
  lawful := hlawful
  failed profile h := by rw [hrecovery] at h; cases h
  used _ := hrecovery
  unspent := hunspent
  confirmed _ profile h := by rw [hrecovery] at h; cases h
  recovered h := by rw [hflag] at h; cases h
  refreshed h := by rw [hflag] at h; cases h
  idle h := by rw [hflag] at h; cases h
  fresh _ := hrecovery

/-- The user begins an apply. -/
theorem Inv.newApply (h : Inv c history) (hflag : c.retryAfterRefresh = false) (profile : Profile)
    (session : UiSession) :
    Inv { c.newCycle with session := session } (.userApply profile :: history) := by
  refine .of_nothing (h.lawful.cons rfl) rfl hflag ?_
  exact fun _ => trivial

/-- A save of the user's. -/
theorem inv_save {config : ConfigV4} {profile : Profile} {followUp : AfterSave}
    {saved : UiController × List UiEffect × Bool} (hinv : Inv c history)
    (hsaved : c.save config profile followUp = some saved)
    (hflag : (c.startedApply (.save config profile followUp)).isSome = true →
      c.retryAfterRefresh = false)
    (hask : followUp ≠ .request .recoverOrphanedResources) :
    Inv saved.1 (c.observe (.save config profile followUp) ++ history) := by
  have hstarted : c.startedApply (.save config profile followUp) =
      if saved.2.2 then followUp.profileToApply else none := by
    rw [startedApply, hsaved, Option.any_some]
  rw [observe, hstarted]
  rw [hstarted] at hflag
  rw [save] at hsaved
  split at hsaved
  · obtain rfl := Option.some.inj hsaved
    exact hinv.same rfl rfl rfl (.of_pending rfl) id
  · cases hbegin : c.session.beginSave config profile followUp with
    | error e =>
      rw [hbegin] at hsaved
      obtain rfl := Option.some.inj hsaved
      exact hinv
    | ok begun? =>
      rw [hbegin] at hsaved
      cases begun? with
      | none => cases hsaved
      | some begun =>
        obtain rfl := Option.some.inj hsaved
        obtain ⟨hknown, happly, hrecover⟩ := UiSession.beginSave_leadsTo hbegin
        simp only [if_true] at hflag ⊢
        cases hto : followUp.profileToApply with
        | some applied =>
          rw [hto] at hflag
          exact hinv.newApply (hflag rfl) applied begun.1
        | none =>
          rw [hto] at happly
          have hleads : begun.1.LeadsToNoMore c.session := by
            refine ⟨fun h => ?_, fun h => ?_⟩
            · simp [happly] at h
            · simp [hrecover, hask] at h
          show Inv { c with session := begun.1 } history
          exact hinv.same rfl rfl rfl hleads fun h => hknown ▸ h

/-- A request of the user's, for anything but a recovery. -/
theorem inv_request {id : String} {request : DaemonRequest} {submitted : Option Profile}
    (hinv : Inv c history)
    (hflag : (c.startedApply (.request id request submitted)).isSome = true →
      c.retryAfterRefresh = false)
    (hask : request ≠ .recoverOrphanedResources) :
    Inv (c.request id request submitted).1
      (c.observe (.request id request submitted) ++ history) := by
  rw [observe]
  rw [startedApply] at hflag ⊢
  rw [UiController.request, submitRequest] at hflag ⊢
  cases hbegin : c.session.beginRequest id request submitted with
  | error e => exact hinv
  | ok begun =>
    obtain ⟨hknown, happly, hrecover⟩ := UiSession.beginRequest_leadsTo hbegin
    rw [hbegin] at hflag
    simp only [if_true, Bool.and_true] at hflag ⊢
    cases hto : request.profileToApply with
    | some applied =>
      rw [hto] at hflag
      exact hinv.newApply (hflag rfl) applied begun.1
    | none =>
      rw [hto] at happly
      have hleads : begun.1.LeadsToNoMore c.session :=
        ⟨fun h => (happly h).resolve_right nofun, fun h => (hrecover h).resolve_right hask⟩
      show Inv { c with session := begun.1 } history
      exact hinv.same rfl rfl rfl hleads fun h => hknown ▸ h

/-- What confirming does: nothing, or it begins the recovery that is offered. -/
theorem confirmRecovery_cases (id : String) :
    ((c.confirmRecovery id).2.2 = false ∧ ((c.confirmRecovery id).1 = c ∨
      (c.confirmRecovery id).1 = { c with recoveryStarted := false })) ∨
    ((c.confirmRecovery id).2.2 = true ∧ c.recovery.isSome = true ∧ c.retryAfterRefresh = false ∧
      ∃ begun, c.session.beginRequest id .recoverOrphanedResources none = .ok begun ∧
        (c.confirmRecovery id).1 = { c with recoveryStarted := true, session := begun.1 }) := by
  by_cases havailable : c.recoveryAvailable = false
  · rw [confirmRecovery, if_pos havailable]
    exact Or.inl ⟨rfl, Or.inl rfl⟩
  rw [confirmRecovery, if_neg havailable]
  simp only [UiController.request, submitRequest, DaemonRequest.profileToApply, Option.isSome_none,
    Bool.false_and, Bool.false_eq_true, if_false]
  simp only [recoveryAvailable, Bool.not_eq_false, Bool.and_eq_true, Bool.not_eq_true'] at havailable
  cases hbegin : c.session.beginRequest id .recoverOrphanedResources none with
  | error e => exact Or.inl ⟨rfl, Or.inr rfl⟩
  | ok begun => exact Or.inr ⟨rfl, havailable.1.1.1, havailable.2, begun, rfl, rfl⟩

/-- The user confirms the recovery that is offered. -/
theorem inv_confirmRecovery {id : String} (hinv : Inv c history) :
    Inv (c.confirmRecovery id).1 (c.observe (.confirmRecovery id) ++ history) := by
  rw [observe]
  rcases confirmRecovery_cases id with ⟨hrefused, hsame⟩ | ⟨hbegun, hsome, hflag, begun, hbegin, hc'⟩
  · rw [hrefused]
    rcases hsame with hsame | hsame
    · rw [hsame]
      exact hinv
    · rw [hsame]
      exact hinv.same rfl rfl rfl (.of_pending rfl) fun h => h
  · rw [hbegun, hc']
    obtain ⟨offered, hoffered⟩ := Option.isSome_iff_exists.1 hsome
    obtain ⟨-, happly, -⟩ := UiSession.beginRequest_leadsTo hbegin
    have hidle : c.session.applying = false := by
      by_contra happlying
      rw [hinv.fresh (Bool.not_eq_false _ ▸ happlying)] at hoffered
      cases hoffered
    have hquiet : Inv c (.confirmed :: history) := hinv.quietly trivial
    exact
      { lawful := hquiet.lawful
        failed := hquiet.failed
        used := hquiet.used
        unspent := hquiet.unspent
        confirmed := fun _ profile hp => .here (hinv.failed profile hp)
        recovered := hquiet.recovered
        refreshed := fun hset => absurd (hflag.symm.trans hset) nofun
        idle := fun hset => absurd (hflag.symm.trans hset) nofun
        fresh := fun happlying => by
          rcases happly happlying with h | h
          · rw [hidle] at h
            cases h
          · cases h }

/-- A reply to the apply that is pending: the apply failed with resources that are nobody's. -/
theorem inv_failsOrphaned {epoch : ℕ} {response : DaemonResponse} (hinv : Inv c history)
    (haccepts : c.session.acceptsReply epoch response.requestId = true)
    (horphaned : failsOrphaned c.session response = true) :
    Inv (c.handled (.response epoch response))
      (reported c.session (.response epoch response) ++ history) := by
  obtain ⟨hpending, hknown⟩ := UiSession.idle_of_reply haccepts (Or.inl horphaned)
  have hkind : c.session.operation = some .apply := by
    simp only [failsOrphaned, Bool.and_eq_true, beq_iff_eq] at horphaned
    exact horphaned.1
  have hnone : reportsRecovery c.session response = false := by
    rw [reportsRecovery, hkind]
    rfl
  have happlying : c.session.applying = true := by
    simp only [UiSession.operation, Option.map_eq_some_iff] at hkind
    obtain ⟨p, hp, happly⟩ := hkind
    simp [UiSession.applying, hp, Pending.toApply, happly]
  have hnothing := hinv.fresh happlying
  have hflag : c.retryAfterRefresh = false := by
    by_contra hset
    rw [hinv.idle (Bool.not_eq_false _ ▸ hset)] at happlying
    cases happlying
  have hreported : reported c.session (.response epoch response) =
      ((c.session.pending.bind Pending.candidate).map .applyFailed).toList := by
    simp [reported, haccepts, horphaned, hnone]
  have hnoted : c.noteReply (.response epoch response) =
      { c with
        recovery := if c.retryUsed then none else c.session.pending.bind Pending.candidate
        completedId := some response.requestId } := by
    rw [noteReply, if_pos haccepts, horphaned, hnone, hnothing]
    cases c.retryUsed <;> simp
  rw [handled, hnoted, hreported]
  cases c.session.pending.bind Pending.candidate with
  | none =>
    refine .of_nothing hinv.lawful ?_ hflag hinv.unspent
    simp
  | some profile =>
    exact
      { lawful := hinv.lawful.cons rfl
        failed := fun profile' hp => by
          cases hused : c.retryUsed with
          | true => simp [hused] at hp
          | false =>
            simp only [hused, Bool.false_eq_true, if_false] at hp
            obtain rfl := Option.some.inj hp
            exact .here trivial
        used := fun hused => if_pos hused
        unspent := fun hused => (hinv.unspent hused).cons rfl
        confirmed := fun hrecovering => by simp [UiSession.recovering, hpending] at hrecovering
        recovered := fun hset => absurd (hflag.symm.trans hset) nofun
        refreshed := fun hset => absurd (hflag.symm.trans hset) nofun
        idle := fun hset => absurd (hflag.symm.trans hset) nofun
        fresh := fun happly => by simp [UiSession.applying, hpending] at happly }

/-- A reply to the recovery that is pending: the recovery is done. -/
theorem inv_reportsRecovery {epoch : ℕ} {response : DaemonResponse} (hinv : Inv c history)
    (haccepts : c.session.acceptsReply epoch response.requestId = true)
    (hrecovered : reportsRecovery c.session response = true) :
    Inv (c.handled (.response epoch response))
      (reported c.session (.response epoch response) ++ history) := by
  obtain ⟨hpending, hknown⟩ := UiSession.idle_of_reply haccepts (Or.inr hrecovered)
  have hkind : c.session.operation = some .recover := by
    simp only [reportsRecovery, Bool.and_eq_true, beq_iff_eq] at hrecovered
    exact hrecovered.1
  have hnot : failsOrphaned c.session response = false := by
    rw [failsOrphaned, hkind]
    rfl
  have hrecovering : c.session.recovering = true := by
    simp only [UiSession.operation, Option.map_eq_some_iff] at hkind
    obtain ⟨p, hp, hrecover⟩ := hkind
    simp [UiSession.recovering, hp, Pending.toRecover, hrecover]
  have hreported : reported c.session (.response epoch response) = [.recovered] := by
    simp [reported, haccepts, hrecovered, hnot]
  have hnoted : c.noteReply (.response epoch response) =
      { c with retryAfterRefresh := true, completedId := some response.requestId } := by
    rw [noteReply, if_pos haccepts, hrecovered, hnot]
    rfl
  rw [handled, hnoted, hreported]
  have hquiet : Inv c (.recovered :: history) := hinv.quietly trivial
  exact
    { lawful := hquiet.lawful
      failed := hquiet.failed
      used := hquiet.used
      unspent := hquiet.unspent
      confirmed := fun h => by simp [UiSession.recovering, hpending] at h
      recovered := fun _ profile hp => .here (hinv.confirmed hrecovering profile hp)
      refreshed := fun _ h => absurd (hknown.symm.trans h) nofun
      idle := fun _ => by simp [UiSession.applying, hpending]
      fresh := fun h => by simp [UiSession.applying, hpending] at h }

/-- The session handles a message, of which the controller has noted what it tells. -/
theorem inv_handled {message : DaemonToUi} (hinv : Inv c history) :
    Inv (c.handled message) (reported c.session message ++ history) := by
  have hleads : (c.session.handleDaemon message).1.LeadsToNoMore c.session :=
    (UiSession.LeadsToNoMore.of_moved (UiSession.moved_handleDaemon message)).1
  have hknown : (c.session.handleDaemon message).1.known = true →
      c.session.known = true ∨ .refreshed ∈ reported c.session message :=
    UiSession.known_handleDaemon
  have hsame : c.noteReply message = c → reported c.session message = [] →
      Inv (c.handled message) (reported c.session message ++ history) := by
    intro hnoted hnothing
    rw [hnothing] at hknown ⊢
    rw [handled, hnoted]
    exact hinv.same rfl rfl rfl hleads fun h => (hknown h).resolve_right List.not_mem_nil
  cases message with
  | connectionEstablished epoch => exact hsame rfl rfl
  | event epoch event => exact hsame rfl rfl
  | daemonUnavailable epoch requestId error => exact hsame rfl rfl
  | snapshot epoch status profiles =>
    cases haccepted : c.session.acceptsSnapshot epoch status with
    | false => exact hsame rfl (by simp [reported, haccepted])
    | true =>
      have hreported : reported c.session (.snapshot epoch status profiles) = [.refreshed] := by
        simp [reported, haccepted]
      rw [hreported]
      have hnext : Inv c (.refreshed :: history) := hinv.quietly trivial
      exact
        { lawful := hnext.lawful
          failed := hnext.failed
          used := hnext.used
          unspent := hnext.unspent
          confirmed := fun h => hnext.confirmed (hleads.recovering h)
          recovered := hnext.recovered
          refreshed := fun hset _ profile hp => .here (hinv.recovered hset profile hp)
          idle := fun hset => by
            by_contra happlying
            have hwas := hleads.applying (Bool.not_eq_false _ ▸ happlying)
            rw [hinv.idle hset] at hwas
            cases hwas
          fresh := fun h => hinv.fresh (hleads.applying h) }
  | response epoch response =>
    cases haccepts : c.session.acceptsReply epoch response.requestId with
    | false => exact hsame (by simp [noteReply, haccepts]) (by simp [reported, haccepts])
    | true =>
      cases horphaned : failsOrphaned c.session response with
      | true => exact inv_failsOrphaned hinv haccepts horphaned
      | false =>
        cases hrecovered : reportsRecovery c.session response with
        | true => exact inv_reportsRecovery hinv haccepts hrecovered
        | false =>
          have hnothing : reported c.session (.response epoch response) = [] := by
            simp [reported, haccepts, horphaned, hrecovered]
          rw [hnothing] at hknown ⊢
          rw [handled, noteReply, if_pos haccepts, horphaned, hrecovered]
          exact hinv.same rfl rfl rfl hleads fun h => (hknown h).resolve_right List.not_mem_nil

/-- A session applies nothing by itself. -/
theorem applied_handleDaemon (s : UiSession) (message : DaemonToUi) :
    (s.handleDaemon message).2.filterMap applied = [] := by
  have hnone := (UiSession.LeadsToNoMore.of_moved (UiSession.moved_handleDaemon (s := s) message)).2
  rw [mutations, List.filterMap_eq_nil_iff] at hnone
  rw [List.filterMap_eq_nil_iff]
  intro effect heffect
  have hticket := hnone effect heffect
  cases effect with
  | send id request =>
    cases request with
    | applyProfile profile => simp [UiEffect.ticket, DaemonRequest.mutates] at hticket
    | _ => rfl
  | _ => rfl

/-- What is applied again, where a snapshot makes the controller try again. -/
theorem inv_retry {message : DaemonToUi} {id : String} (hinv : Inv c history)
    (hretries : c.retries message = true) :
    Inv (c.retry id).1
      (((c.retry id).2.filterMap applied).map (.reapplied · c.session) ++ history) := by
  simp only [retries, Bool.and_eq_true, Bool.not_eq_true'] at hretries
  obtain ⟨⟨⟨-, hset⟩, hknown⟩, hidle⟩ := hretries
  rw [retry]
  cases hrecovery : c.recovery with
  | none => exact .of_nothing hinv.lawful rfl rfl nofun
  | some profile =>
    simp only [submitRequest]
    cases hbegin : c.session.beginRequest id (.applyProfile profile) (some profile) with
    | error e => exact .of_nothing hinv.lawful rfl rfl nofun
    | ok begun =>
      have heffects : begun.2 = [.send id (.applyProfile profile)] :=
        (UiSession.beginRequest_eq_ok hbegin).1
      have hunused : c.retryUsed = false := by
        by_contra hused
        rw [hinv.used (Bool.not_eq_false _ ▸ hused)] at hrecovery
        cases hrecovery
      have hlawful : Lawful (.reapplied profile c.session :: history) :=
        hinv.lawful.reapplied (hinv.refreshed hset hknown profile hrecovery)
          (hinv.unspent hunused) hknown hidle
      simp only [heffects, Bool.and_false, Bool.false_eq_true, if_false]
      exact .of_nothing hlawful rfl rfl nofun

/-- A message of the daemon. -/
theorem inv_receive {message : DaemonToUi} {id : String} (hinv : Inv c history) :
    Inv (c.receive message id).1 (c.observe (.receive message id) ++ history) := by
  have hhandled : Inv (c.handled message) (reported c.session message ++ history) :=
    inv_handled hinv
  have hquiet : (if message.isUnavailable then [] else
      (c.session.handleDaemon message).2).filterMap applied = [] := by
    split
    · rfl
    · exact applied_handleDaemon c.session message
  rw [observe, receive]
  cases hretries : (c.handled message).retries message with
  | false =>
    simp only [Bool.false_eq_true, if_false, hquiet]
    exact hhandled
  | true =>
    simp only [if_true, List.filterMap_append, hquiet, List.nil_append, List.append_assoc]
    exact inv_retry hhandled hretries

end Steps

end UiController

/-! ## Every run -/

/-- The input asks for a recovery other than by confirming the one that is offered. -/
def ControllerInput.asksRecovery : ControllerInput → Bool
  | .save _ _ followUp => followUp == .request .recoverOrphanedResources
  | .request _ asked _ => asked == .recoverOrphanedResources
  | _ => false

/-- The user begins no apply while a recovery that was reported has not been followed up, and a
recovery is asked for only by confirming it. -/
structure ObservedController.Permitted (o : ObservedController) (x : ControllerInput) : Prop where
  followedUp : (o.controller.startedApply x).isSome = true → o.controller.retryAfterRefresh = false
  confirmed : x.asksRecovery = false

instance (o : ObservedController) (x : ControllerInput) : Decidable (o.Permitted x) :=
  decidable_of_iff (((o.controller.startedApply x).isSome = true →
    o.controller.retryAfterRefresh = false) ∧ x.asksRecovery = false)
    ⟨fun h => ⟨h.1, h.2⟩, fun h => ⟨h.followedUp, h.confirmed⟩⟩

section Runs

variable {o o' : ObservedController} {x : ControllerInput}

/-- What the flags stand for is kept by every permitted input. -/
theorem inv_step (hinv : o.controller.Inv o.history) (hpermitted : o.Permitted x)
    (h : o.step x = some o') : o'.controller.Inv o'.history := by
  obtain ⟨reacted, hreact, rfl⟩ := Option.map_eq_some_iff.1 h
  cases x with
  | save config profile followUp =>
    obtain ⟨saved, hsaved, rfl⟩ := Option.map_eq_some_iff.1 hreact
    exact UiController.inv_save hinv hsaved hpermitted.followedUp
      (beq_eq_false_iff_ne.1 hpermitted.confirmed)
  | request id request submitted =>
    obtain rfl := Option.some.inj hreact
    exact UiController.inv_request hinv hpermitted.followedUp
      (beq_eq_false_iff_ne.1 hpermitted.confirmed)
  | refresh =>
    obtain rfl := Option.some.inj hreact
    exact hinv
  | cancelRecovery =>
    obtain rfl := Option.some.inj hreact
    exact .of_nothing (hinv.lawful.cons rfl) rfl rfl fun hused => (hinv.unspent hused).cons rfl
  | confirmRecovery id =>
    obtain rfl := Option.some.inj hreact
    exact UiController.inv_confirmRecovery hinv
  | receive message id =>
    obtain rfl := Option.some.inj hreact
    exact UiController.inv_receive hinv
  | persisted generation result id =>
    obtain rfl := Option.some.inj hreact
    obtain ⟨hleads, hknown⟩ :=
      UiSession.leadsToNoMore_handlePersistence (s := o.controller.session) generation result id
    exact hinv.same rfl rfl rfl hleads fun hk => hknown ▸ hk

/-- In a run whose inputs are all permitted, a profile is applied again only after its apply
failed with resources that are nobody's, the user confirmed the recovery for it, the daemon
reported it done and a snapshot was accepted; once for an apply of the user's; and neither after
the recovery was cancelled nor after another apply. -/
theorem recovery_lawful {profile : Profile} {writable persistence : Bool}
    {inputs : List ControllerInput}
    (hpermitted : Along ObservedController.step ObservedController.Permitted
      (.start profile writable persistence) inputs)
    (hrun : replay ObservedController.step (.start profile writable persistence) inputs = some o) :
    RecoveryEvent.Lawful o.history := by
  have hinv : o.controller.Inv o.history :=
    replay_invariant (I := fun o : ObservedController => o.controller.Inv o.history)
      (fun _ _ _ hinv hpermitted hstep => inv_step hinv hpermitted hstep)
      (UiController.inv_new profile writable persistence) hpermitted hrun
  exact hinv.lawful

end Runs

/-! ## A flag that is left set -/

def officeProfile : Profile :=
  ⟨"office", "Office", false, [], [], ⟨.preserveSystem, .followSystemDefault, [], false⟩⟩

/-- The daemon's state, where no profile is applied. -/
def quietStatus (eventSequence : ℕ) : DaemonStatus :=
  ⟨7, eventSequence, .inactive, none, none, none, .inactive 0⟩

def orphanedReply (id : String) : DaemonToUi :=
  .response 1 (.failure id ⟨orphanedResources, "orphaned resources"⟩)

/-- An apply fails, and the recovery the user confirms is done. -/
def recoveryInputs : List ControllerInput :=
  [.receive (.connectionEstablished 1) "", .receive (.snapshot 1 (quietStatus 1) []) "",
    .request "first" (.applyProfile officeProfile) (some officeProfile),
    .receive (orphanedReply "first") "", .confirmRecovery "second",
    .receive (.response 1 (.success "second" (.orphanedResourcesRecovered ⟨true⟩))) ""]

def recoveryStart : ObservedController := .start officeProfile true true

def observedAfter (inputs : List ControllerInput) : ObservedController :=
  (replay ObservedController.step recoveryStart inputs).getD recoveryStart

/-- A snapshot that comes while a save is pending leaves the flag set, and the apply the user
begins then leaves it set too. -/
def staleInputs : List ControllerInput :=
  recoveryInputs ++
    [.save ⟨4, false, .en, []⟩ officeProfile .none,
      .receive (.snapshot 1 (quietStatus 2) []) "", .persisted 1 (.ok ()) "",
      .request "third" (.applyProfile officeProfile) (some officeProfile),
      .receive (orphanedReply "third") "", .receive (.snapshot 1 (quietStatus 3) []) "fourth"]

/-- What was known when the profile was applied by itself for the last time. -/
def sessionApplying : List RecoveryEvent → UiSession
  | .reapplied _ session :: _ => session
  | _ => .new officeProfile true

/-- The profile is applied again, and nobody has confirmed a recovery for its new apply. -/
theorem recovery_unconfirmed :
    ∃ o, replay ObservedController.step recoveryStart staleInputs = some o ∧
      ¬RecoveryEvent.Lawful o.history := by
  refine ⟨observedAfter staleInputs, by decide +kernel, ?_⟩
  intro hlawful
  have hsuffix : .reapplied officeProfile (sessionApplying (observedAfter staleInputs).history) ::
      (observedAfter staleInputs).history.tail <:+ (observedAfter staleInputs).history := by
    decide +kernel
  have hrefreshed := (hlawful _ _ _ hsuffix).1
  revert hrefreshed
  decide +kernel

/-- Without a save in between the profile is applied again, as the user has confirmed. -/
theorem recovery_lawful_confirmed :
    let inputs := recoveryInputs ++ [.receive (.snapshot 1 (quietStatus 2) []) "third"]
    (observedAfter inputs).history.any RecoveryEvent.isReapplied = true ∧
      RecoveryEvent.Lawful (observedAfter inputs).history := by
  intro inputs
  have hpermitted : Along ObservedController.step ObservedController.Permitted
      (.start officeProfile true true) inputs := by
    decide +kernel
  have hrun : replay ObservedController.step (.start officeProfile true true) inputs =
      some (observedAfter inputs) := by
    decide +kernel
  exact ⟨by decide +kernel, recovery_lawful hpermitted hrun⟩

end RouteLane
