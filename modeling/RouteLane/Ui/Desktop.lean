import RouteLane.Ui.Bridge
import RouteLane.Ui.RecoveryConsent

/-!
# The desktop as a whole

The controller, the bridge and the configuration writer run by themselves and share nothing but
four queues: what the controller asks of the bridge, what the bridge tells it, what is to be
saved, and how that went.  The steps of the three come in any order.

The results are about every run: what the controller takes from the bridge is always of the
connection it knows; whatever it waits for is still on its way; and left to itself the desktop
comes to rest, after a bounded number of steps, with nothing it waits a reply or a save for.
-/

namespace RouteLane

open Steps Channels UiSession

/-! ## The queues -/

/-- What an effect asks of the bridge. -/
def UiEffect.command : UiEffect → Option UiToDaemon
  | .send id asked => some (.request id asked)
  | .refreshSnapshot => some .refreshSnapshot
  | .persist .. | .quitApplication => none

/-- What an effect asks of the configuration writer. -/
def UiEffect.toSave : UiEffect → Option (ℕ × ConfigV4)
  | .persist generation config => some (generation, config)
  | _ => none

structure Desktop where
  controller : UiController
  /-- What the bridge is asked. -/
  inbox : List UiToDaemon
  bridge : Bridge
  /-- What the controller is told. -/
  outbox : List DaemonToUi
  saves : List (ℕ × ConfigV4)
  saved : List (ℕ × Except String Unit)

/-- What comes from the window. -/
def ControllerInput.fromUser : ControllerInput → Bool
  | .save .. | .request .. | .refresh | .cancelRecovery | .confirmRecovery _ => true
  | .receive .. | .persisted .. => false

inductive DesktopInput where
  | user (x : ControllerInput)
  /-- The controller takes the next message of the bridge. -/
  | receive (id : String)
  /-- The bridge takes a turn. -/
  | bridge (x : BridgeInput)
  /-- The configuration writer saves what is next, with this result. -/
  | write (result : Except String Unit)
  /-- The controller takes the next result of the writer. -/
  | persisted (id : String)

namespace Desktop

/-- `UiController::execute`. -/
def execute (d : Desktop) (effects : List UiEffect) : Desktop :=
  { d with
    inbox := d.inbox ++ effects.filterMap UiEffect.command
    saves := if d.controller.persistence then d.saves ++ effects.filterMap UiEffect.toSave
      else d.saves }

/-- What a controller made of an input, executed. -/
def reacted (d : Desktop) (made : UiController × List UiEffect) : Desktop :=
  { d with controller := made.1 }.execute made.2

/-- The inbox without what a turn of the bridge is about. -/
def without (inbox : List UiToDaemon) (x : BridgeInput) : List UiToDaemon :=
  match x.command with
  | none => inbox
  | some command => inbox.erase command

variable (wire : WireText)

def step (d : Desktop) : DesktopInput → Option Desktop
  | .user x => if x.fromUser then (d.controller.react x).map d.reacted else none
  | .receive id =>
    match d.outbox with
    | [] => none
    | message :: rest =>
      some ({ d with outbox := rest }.reacted (d.controller.receive message id))
  | .bridge x =>
    -- requests are sent by tasks of their own, which need not keep their order
    if ∀ command ∈ x.command, command ∈ d.inbox then
      (d.bridge.step wire x).map fun turned =>
        { d with
          bridge := turned.1
          inbox := without d.inbox x
          outbox := d.outbox ++ turned.2 }
    else none
  | .write result =>
    match d.saves with
    | [] => none
    | (generation, _) :: rest =>
      some { d with saves := rest, saved := d.saved ++ [(generation, result)] }
  | .persisted id =>
    match d.saved with
    | [] => none
    | (generation, result) :: rest =>
      (d.controller.react (.persisted generation result id)).map
        { d with saved := rest }.reacted

/-- The desktop as it starts, once the bridge is in its loop. -/
def start (startup : Startup) (controller : UiController) : Option Desktop :=
  (Bridge.start wire startup).map fun started => ⟨controller, [], started.1, started.2, [], []⟩

end Desktop

/-! ## What is on its way -/

/-- A message that ends the wait for the reply to a request. -/
def DaemonToUi.Ends (id : String) : DaemonToUi → Prop
  | .connectionEstablished _ => True
  | .response _ reply => reply.requestId = id
  | .daemonUnavailable _ requestId _ => requestId = none ∨ requestId = some id
  | .snapshot .. | .event .. => False

/-- What a pending operation waits for is still to come. -/
def Desktop.Coming (d : Desktop) : Ticket → Prop
  | .save generation => generation ∈ d.saves.map Prod.fst ∨ generation ∈ d.saved.map Prod.fst
  | .request id => (∃ asked, .request id asked ∈ d.inbox) ∨ ∃ message ∈ d.outbox, message.Ends id

namespace UiSession

variable {s t : UiSession} {P Q : Ticket → Prop}

/-- A pending operation that is not about to be confirmed by a snapshot has a ticket of a kind. -/
def Waiting (P : Ticket → Prop) (s : UiSession) : Prop :=
  ∀ p ∈ s.pending, p.stage ≠ .awaitingSnapshot → ∃ ticket, p.ticket = some ticket ∧ P ticket

theorem waiting_of_none (h : s.pending = none) : Waiting P s := by
  intro p hp
  rw [h] at hp
  cases hp

theorem Waiting.mono (h : Waiting P s) (hsub : ∀ ticket, P ticket → Q ticket) : Waiting Q s := by
  intro p hp hstage
  obtain ⟨ticket, hticket, hP⟩ := h p hp hstage
  exact ⟨ticket, hticket, hsub ticket hP⟩

theorem Waiting.of_pending (h : Waiting P s) (hsame : t.pending = s.pending) : Waiting P t := by
  intro p hp
  rw [hsame] at hp
  exact h p hp

/-- What an input begins is issued with it; else it begins nothing. -/
theorem Moved.waiting {x : UiInput} {issued : List Ticket} (h : Moved s t x issued) :
    t.pending = s.pending ∨ Waiting (· ∈ issued) t := by
  cases h with
  | kept same => exact Or.inl same
  | saves _ began | asks _ began | follows _ _ _ began =>
    right
    intro p hp _
    obtain rfl := Option.some.inj (began.symm.trans hp)
    exact ⟨_, rfl, List.mem_singleton_self _⟩
  | saved _ _ _ ended | answered _ _ _ ended | settled _ _ ended | reconnected _ _ _ ended
  | lost _ _ _ ended => exact Or.inr (waiting_of_none ended)
  | acknowledged _ _ _ _ _ goesOn =>
    right
    intro p hp hstage
    obtain rfl := Option.some.inj (goesOn.symm.trans hp)
    exact absurd rfl hstage

/-! ## What a message does -/

/-- A message the session can expect, by the connection it is of. -/
def Current (s : UiSession) : DaemonToUi → Prop
  | .connectionEstablished epoch => epoch = s.epoch + 1
  | .snapshot epoch .. | .response epoch _ | .event epoch _ | .daemonUnavailable epoch .. =>
    epoch = s.epoch

variable {message : DaemonToUi}

theorem handleResult_pending (p : Pending) (result : Option DaemonResult) (hidle : s.pending = none) :
    ∀ q ∈ (s.handleResult p result).1.pending, q.stage = .awaitingSnapshot := by
  have hnone : ∀ t : UiSession, t.pending = none →
      ∀ q ∈ t.pending, q.stage = .awaitingSnapshot := by
    intro t ht q hq
    rw [ht] at hq
    cases hq
  unfold handleResult
  split
  · split
    · intro q hq
      obtain rfl := Option.some.inj hq
      rfl
    · exact hnone _ hidle
  all_goals
    first
    | exact hnone _ hidle
    | split <;> exact hnone _ hidle

/-- What ends the wait for a reply leaves nothing that waits for one. -/
theorem handleDaemon_ends {p : Pending} {id : String} (hp : s.pending = some p)
    (hstage : p.stage = .awaitingReply) (hid : p.requestId = some id) (hends : message.Ends id)
    (hcurrent : s.Current message) :
    ∀ q ∈ (s.handleDaemon message).1.pending, q.stage = .awaitingSnapshot := by
  have hawaits : s.awaitsReply id = true := by simp [awaitsReply, hp, hstage, hid]
  have habandoned : ∀ t : UiSession, t.pending = some p →
      ∀ q ∈ t.abandon.pending, q.stage = .awaitingSnapshot := by
    intro t ht q hq
    rw [abandon, ht] at hq
    simp [hstage] at hq
  cases message with
  | connectionEstablished epoch =>
    obtain rfl : epoch = s.epoch + 1 := hcurrent
    rw [handleDaemon, handleConnection, if_neg (by omega)]
    exact habandoned _ hp
  | snapshot epoch status profiles => exact hends.elim
  | response epoch response =>
    obtain rfl : epoch = s.epoch := hcurrent
    obtain rfl : response.requestId = id := hends
    rw [handleDaemon, if_pos rfl, handleResponse, hp]
    simp only [if_pos hawaits]
    have hnone : ∀ t : UiSession, t.pending = none →
        ∀ q ∈ t.pending, q.stage = .awaitingSnapshot := by
      intro t ht q hq
      rw [ht] at hq
      cases hq
    split
    · exact hnone _ rfl
    · split
      · exact hnone _ rfl
      · exact handleResult_pending p response.result rfl
  | event epoch event => exact hends.elim
  | daemonUnavailable epoch requestId error =>
    obtain rfl : epoch = s.epoch := hcurrent
    have hown : s.otherRequest requestId = false := by
      rcases hends with rfl | rfl <;> simp [otherRequest, hp, hid]
    rw [handleDaemon, if_pos rfl, handleUnavailable, hown]
    exact habandoned _ hp

/-- The session learns of a connection when it is told so, and of no other. -/
theorem handleDaemon_epoch (hcurrent : s.Current message) {v : ConnectionView}
    (hv : v.epoch = s.epoch) : (v.after message).epoch = (s.handleDaemon message).1.epoch := by
  have hsame : ∀ x, (∀ epoch, x ≠ .connectionEstablished epoch) → ∀ t : UiSession, ∀ status,
      Learned s t (.daemon x) status → t.epoch = s.epoch := by
    intro x hx t status h
    cases h with
    | nothing epoch | accepted epoch | deactivated epoch => exact epoch
    | reconnected _ _ _ _ _ => exact absurd rfl (hx _)
    | acknowledged _ _ _ _ _ _ epoch => exact epoch
  cases message with
  | connectionEstablished epoch =>
    obtain rfl : epoch = s.epoch + 1 := hcurrent
    rw [handleDaemon, handleConnection, if_neg (by omega), abandon_epoch]
    rfl
  | snapshot epoch status profiles =>
    rw [hsame _ (by simp) _ _ (learned_handleDaemon _), ← hv]
    simp only [ConnectionView.after]
    split <;> rfl
  | response epoch response => rw [hsame _ (by simp) _ _ (learned_handleDaemon _), ← hv]; rfl
  | event epoch event => rw [hsame _ (by simp) _ _ (learned_handleDaemon _), ← hv]; rfl
  | daemonUnavailable epoch requestId error =>
    rw [hsame _ (by simp) _ _ (learned_handleDaemon _), ← hv]
    rfl

/-- A message makes the session ask for a refresh at most, and only where it is a reply, an event
or the word that the daemon is gone. -/
theorem handleDaemon_effects (s : UiSession) (message : DaemonToUi) :
    (s.handleDaemon message).2 = [] ∨
      (s.handleDaemon message).2 = [.refreshSnapshot] ∧
        ((∃ epoch response, message = .response epoch response) ∨
          (∃ epoch event, message = .event epoch event) ∨ message.isUnavailable = true) := by
  cases message with
  | connectionEstablished epoch => exact Or.inl rfl
  | snapshot epoch status profiles =>
    rw [handleDaemon]
    split <;> exact Or.inl rfl
  | response epoch response =>
    have hresult (t : UiSession) (p : Pending) (result : Option DaemonResult) :
        (t.handleResult p result).2 = [] ∨ (t.handleResult p result).2 = [.refreshSnapshot] := by
      unfold handleResult handleResult.unexpected
      split <;> (try split) <;> simp
    have hreply : (s.handleResponse response).2 = [] ∨
        (s.handleResponse response).2 = [.refreshSnapshot] := by
      unfold handleResponse
      split
      · split
        · simp only
          split
          · exact Or.inr rfl
          · split
            · exact Or.inr rfl
            · exact hresult _ _ _
        · exact Or.inl rfl
      · exact Or.inl rfl
    rw [handleDaemon]
    split
    · exact hreply.imp_right fun h => ⟨h, Or.inl ⟨epoch, response, rfl⟩⟩
    · exact Or.inl rfl
  | event epoch event =>
    rw [handleDaemon]
    split
    · exact Or.inr ⟨rfl, Or.inr (Or.inl ⟨epoch, event, rfl⟩)⟩
    · exact Or.inl rfl
  | daemonUnavailable epoch requestId error =>
    rw [handleDaemon]
    split
    · unfold handleUnavailable
      split
      · exact Or.inl rfl
      · exact Or.inr ⟨rfl, Or.inr (Or.inr rfl)⟩
    · exact Or.inl rfl

/-- The result of a save ends the wait for it. -/
theorem handlePersistence_ends {p : Pending} {generation : ℕ} (hp : s.pending = some p)
    (hstage : p.stage = .saving) (hown : p.saveGeneration = some generation)
    (result : Except String Unit) (id : String) :
    ∀ q ∈ (s.handlePersistence generation result id).1.pending, q.stage ≠ .saving := by
  have hawaits : s.awaitsPersistence generation = true := by
    simp [awaitsPersistence, hp, hstage, hown]
  have hnone : ∀ t : UiSession, t.pending = none → ∀ q ∈ t.pending, q.stage ≠ .saving := by
    intro t ht q hq
    rw [ht] at hq
    cases hq
  simp only [handlePersistence, hp, if_pos hawaits]
  unfold finishSave
  split
  · exact hnone _ rfl
  · simp only
    split
    · exact hnone _ rfl
    · exact hnone _ rfl
    · split
      · next begun hbegin =>
        obtain ⟨-, ⟨-, hsame⟩ | ⟨-, -, kind, hbegan⟩⟩ := beginRequest_eq_ok hbegin
        · exact hnone _ (by rw [hsame])
        · intro q hq
          obtain rfl := Option.some.inj (hbegan.symm.trans hq)
          simp
      · exact hnone _ rfl

end UiSession

/-! ## What the controller begins -/

namespace UiController

/-- What a controller begins it asks for, and it stays with its connection. -/
structure Begins (c : UiController) (made : UiController × List UiEffect) : Prop where
  waiting : made.1.session.pending = c.session.pending ∨
    Waiting (· ∈ mutations made.2) made.1.session
  saves : ∀ generation, .save generation ∈ mutations made.2 → made.1.persistence = true
  epoch : made.1.session.epoch = c.session.epoch

variable {c : UiController}

theorem begins_nothing (c c' : UiController) (h : c'.session = c.session) (effects : List UiEffect)
    (hnone : mutations effects = []) : Begins c (c', effects) where
  waiting := Or.inl (by rw [h])
  saves generation hsave := by
    rw [hnone] at hsave
    cases hsave
  epoch := by rw [h]

/-- A request is sent if it is begun. -/
theorem begins_submitRequest (c : UiController) (id : String) (request : DaemonRequest)
    (submitted : Option Profile) (startsCycle : Bool) :
    Begins c ((c.submitRequest id request submitted startsCycle).1,
      (c.submitRequest id request submitted startsCycle).2.1) := by
  unfold submitRequest
  cases hbegin : c.session.beginRequest id request submitted with
  | error e => exact begins_nothing c _ rfl [] rfl
  | ok begun =>
    obtain ⟨heffects, hmoved⟩ := beginRequest_eq_ok hbegin
    obtain ⟨hepoch, -⟩ := learned_beginRequest hbegin
    rcases hmoved with ⟨hreads, hsame⟩ | ⟨hmutates, -, kind, hbegan⟩
    · refine ⟨Or.inl (congrArg UiSession.pending hsame), fun generation hsave => ?_, hepoch⟩
      simp [heffects, mutations, UiEffect.ticket, hreads] at hsave
    · refine ⟨Or.inr ?_, fun generation hsave => ?_, hepoch⟩
      · intro p hp _
        obtain rfl := Option.some.inj (hbegan.symm.trans hp)
        exact ⟨.request id, rfl, by simp [heffects, mutations, UiEffect.ticket, hmutates]⟩
      · simp [heffects, mutations, UiEffect.ticket, hmutates] at hsave

/-- A save is handed to the writer if it is begun. -/
theorem begins_save {config : ConfigV4} {profile : Profile} {followUp : AfterSave}
    {saved : UiController × List UiEffect × Bool}
    (h : c.save config profile followUp = some saved) : Begins c (saved.1, saved.2.1) := by
  unfold save at h
  split at h
  · obtain rfl := Option.some.inj h
    exact ⟨Or.inl rfl, fun _ hsave => (by cases hsave), rfl⟩
  · next hwriter =>
    split at h
    · obtain rfl := Option.some.inj h
      exact begins_nothing c _ rfl [] rfl
    · cases h
    · next begun hbegin =>
      obtain rfl := Option.some.inj h
      obtain ⟨-, heffects, kind, hbegan⟩ :=
        beginSave_eq_some hbegin
      obtain ⟨hepoch, -⟩ := learned_beginSave hbegin
      refine ⟨Or.inr ?_, fun _ _ => ?_, hepoch⟩
      · intro p hp _
        obtain rfl := Option.some.inj (hbegan.symm.trans hp)
        exact ⟨_, rfl, by simp [heffects, mutations, UiEffect.ticket]⟩
      · simp only
        split <;> simpa [newCycle] using hwriter

/-- Whatever comes from the window. -/
theorem begins_react {x : ControllerInput} {made : UiController × List UiEffect}
    (hx : x.fromUser = true) (h : c.react x = some made) : Begins c made := by
  cases x with
  | save config profile followUp =>
    obtain ⟨saved, hsaved, rfl⟩ := Option.map_eq_some_iff.1 h
    exact begins_save hsaved
  | request id request submitted =>
    obtain rfl := Option.some.inj h
    exact begins_submitRequest c id request submitted true
  | refresh =>
    obtain rfl := Option.some.inj h
    exact begins_nothing c _ rfl _ rfl
  | cancelRecovery =>
    obtain rfl := Option.some.inj h
    exact begins_nothing c c.cancelRecovery rfl [] rfl
  | confirmRecovery id =>
    obtain rfl := Option.some.inj h
    have hasked := begins_submitRequest { c with recoveryStarted := true } id
      .recoverOrphanedResources none true
    unfold confirmRecovery
    split
    · exact begins_nothing c _ rfl [] rfl
    · simp only
      split
      · exact ⟨hasked.waiting, hasked.saves, hasked.epoch⟩
      · exact ⟨hasked.waiting, hasked.saves, hasked.epoch⟩
  | receive message id => cases hx
  | persisted generation result id => cases hx

/-- What follows a save is sent if it is begun. -/
theorem begins_persisted (c : UiController) (generation : ℕ) (result : Except String Unit)
    (id : String) :
    Begins c ({ c with session := (c.session.handlePersistence generation result id).1 },
      (c.session.handlePersistence generation result id).2) where
  waiting := (moved_handlePersistence generation result id).waiting
  saves generation' hsave := by
    have hmoved := moved_handlePersistence (s := c.session) generation result id
    generalize mutations (c.session.handlePersistence generation result id).2 = issued at hmoved hsave
    cases hmoved with
    | kept | saved => cases hsave
    | follows => simp at hsave
  epoch := by
    have hlearned := learned_handlePersistence (s := c.session) generation result id
    cases hlearned with
    | nothing epoch => exact epoch
    | deactivated epoch => exact epoch

/-- No message makes the controller begin anything but to try again. -/
theorem begins_receive (c : UiController) (message : DaemonToUi) (id : String) :
    Begins (c.handled message) (c.receive message id) := by
  have hquiet : mutations (if message.isUnavailable then []
      else (c.session.handleDaemon message).2) = [] := by
    split
    · rfl
    · exact (LeadsToNoMore.of_moved (moved_handleDaemon message)).2
  unfold receive
  simp only
  split
  · have hmutations : ∀ effects, mutations ((if message.isUnavailable then []
        else (c.session.handleDaemon message).2) ++ effects) = mutations effects := by
      intro effects
      rw [mutations, List.filterMap_append]
      exact congrArg (· ++ _) hquiet
    unfold retry
    split
    · exact begins_nothing (c.handled message) { c.handled message with
        retryAfterRefresh := false, retryUsed := true, recovery := none } rfl _ (hmutations [])
    · next profile hprofile =>
      have hagain := begins_submitRequest { c.handled message with
        retryAfterRefresh := false, retryUsed := true, recovery := none } id (.applyProfile profile)
        (some profile) false
      refine ⟨?_, ?_, hagain.epoch⟩
      · rw [hmutations]
        exact hagain.waiting
      · rw [hmutations]
        exact hagain.saves
  · exact begins_nothing (c.handled message) _ rfl _ hquiet

end UiController

/-! ## What holds of every run -/

namespace Desktop

variable {wire : WireText} {d d' : Desktop}

/-- The controller knows the connection the messages under way start from, whatever it waits for
is coming, and the bridge is there. -/
structure Sound (d : Desktop) : Prop where
  view : ∃ v, v.epoch = d.controller.session.epoch ∧
    Carries ConnectionView.Expects ConnectionView.after v d.outbox d.bridge.view
  waiting : Waiting d.Coming d.controller.session
  running : d.bridge.running = true
  noShutdown : .shutdown ∉ d.inbox

/-- Nothing that is coming is lost by asking for more. -/
theorem coming_reacted (made : UiController × List UiEffect) {ticket : Ticket}
    (h : d.Coming ticket) : (d.reacted made).Coming ticket := by
  cases ticket with
  | save generation =>
    refine h.imp_left fun hsave => ?_
    show generation ∈ (if made.1.persistence then d.saves ++ _ else d.saves).map Prod.fst
    split
    · rw [List.map_append]
      exact List.mem_append_left _ hsave
    · exact hsave
  | request id =>
    refine h.imp_left ?_
    rintro ⟨asked, hasked⟩
    exact ⟨asked, List.mem_append_left _ hasked⟩

/-- What is asked for is coming. -/
theorem coming_issued {made : UiController × List UiEffect} {ticket : Ticket}
    (h : ticket ∈ mutations made.2)
    (hsaves : ∀ generation, .save generation ∈ mutations made.2 → made.1.persistence = true) :
    (d.reacted made).Coming ticket := by
  obtain ⟨effect, heffect, hticket⟩ := List.mem_filterMap.1 h
  cases ticket with
  | save generation =>
    left
    show generation ∈ (if made.1.persistence then d.saves ++ _ else d.saves).map Prod.fst
    rw [if_pos (hsaves generation h), List.map_append]
    refine List.mem_append_right _ ?_
    cases effect with
    | persist generation' config =>
      obtain rfl := Ticket.save.inj (Option.some.inj hticket)
      exact List.mem_map.2 ⟨_, List.mem_filterMap.2 ⟨_, heffect, rfl⟩, rfl⟩
    | send id asked =>
      simp only [UiEffect.ticket] at hticket
      split at hticket <;> cases hticket
    | refreshSnapshot => cases hticket
    | quitApplication => cases hticket
  | request id =>
    left
    cases effect with
    | persist generation' config => cases hticket
    | send id' asked =>
      simp only [UiEffect.ticket] at hticket
      split at hticket
      · obtain rfl := Ticket.request.inj (Option.some.inj hticket)
        exact ⟨asked, List.mem_append_right _ (List.mem_filterMap.2 ⟨_, heffect, rfl⟩)⟩
      · cases hticket
    | refreshSnapshot => cases hticket
    | quitApplication => cases hticket

/-- The bridge is never asked to stop. -/
theorem noShutdown_reacted (made : UiController × List UiEffect) (h : .shutdown ∉ d.inbox) :
    .shutdown ∉ (d.reacted made).inbox := by
  intro hmem
  rcases List.mem_append.1 hmem with hold | hnew
  · exact h hold
  · obtain ⟨effect, -, heffect⟩ := List.mem_filterMap.1 hnew
    cases effect <;> cases heffect

/-- What the controller begins by itself. -/
theorem Sound.reacted (h : d.Sound) {made : UiController × List UiEffect}
    (hmade : d.controller.Begins made) : (d.reacted made).Sound where
  view := by
    obtain ⟨v, hv, hcarries⟩ := h.view
    exact ⟨v, hv.trans hmade.epoch.symm, hcarries⟩
  waiting := by
    rcases hmade.waiting with hsame | hissued
    · exact (h.waiting.of_pending hsame).mono fun _ => coming_reacted made
    · exact hissued.mono fun _ hticket => coming_issued hticket hmade.saves
  running := h.running
  noShutdown := noShutdown_reacted made h.noShutdown

/-- What the messages so far lead one to expect is of the connection the session knows. -/
theorem current_of_expects {v : ConnectionView} {s : UiSession} {message : DaemonToUi}
    (hv : v.epoch = s.epoch) (h : v.Expects message) : s.Current message := by
  cases message with
  | connectionEstablished epoch => exact h.trans (by rw [hv])
  | snapshot epoch status profiles => exact h.trans hv
  | response epoch response => exact h.1.trans hv
  | event epoch event => exact h.1.trans hv
  | daemonUnavailable epoch requestId error => exact h.trans hv

theorem Sound.current (h : d.Sound) {message : DaemonToUi} {rest : List DaemonToUi}
    (hout : d.outbox = message :: rest) : d.controller.session.Current message := by
  obtain ⟨v, hv, hcarries⟩ := h.view
  rw [hout] at hcarries
  exact current_of_expects hv hcarries.pop.1

/-- The message is taken; what it does not end is still coming. -/
theorem Sound.handled (h : d.Sound) {message : DaemonToUi} {rest : List DaemonToUi}
    (hout : d.outbox = message :: rest) :
    Sound { d with outbox := rest, controller := d.controller.handled message } where
  view := by
    obtain ⟨v, hv, hcarries⟩ := h.view
    rw [hout] at hcarries
    obtain ⟨-, hrest⟩ := hcarries.pop
    exact ⟨v.after message, handleDaemon_epoch (h.current hout) hv, hrest⟩
  waiting := by
    have hmoved := moved_handleDaemon (s := d.controller.session) message
    rcases hmoved.waiting with hsame | hissued
    · intro p hp hstage
      have hpending : d.controller.session.pending = some p := hsame.symm.trans hp
      obtain ⟨ticket, hticket, hcoming⟩ := h.waiting p hpending hstage
      refine ⟨ticket, hticket, ?_⟩
      cases ticket with
      | save generation => exact hcoming
      | request id =>
        refine hcoming.imp_right ?_
        rintro ⟨other, hother, hends⟩
        rw [hout] at hother
        rcases List.mem_cons.1 hother with rfl | hother
        · -- this message would have ended the wait
          obtain ⟨hwaits, hid⟩ : p.stage = .awaitingReply ∧ p.requestId = some id := by
            cases hp' : p.stage with
            | saving => simp [Pending.ticket, hp'] at hticket
            | awaitingReply => exact ⟨rfl, by simpa [Pending.ticket, hp'] using hticket⟩
            | awaitingSnapshot => exact absurd hp' hstage
          exact absurd (handleDaemon_ends hpending hwaits hid hends (h.current hout) p hp) hstage
        · exact ⟨other, hother, hends⟩
    · rw [(LeadsToNoMore.of_moved hmoved).2] at hissued
      exact hissued.mono fun _ hnone => by cases hnone
  running := h.running
  noShutdown := h.noShutdown

/-- A turn of the bridge answers the request it takes. -/
theorem Sound.turn (h : d.Sound) {x : BridgeInput} {turned : Bridge × List DaemonToUi}
    (hasked : ∀ command ∈ x.command, command ∈ d.inbox)
    (hturned : d.bridge.step wire x = some turned) :
    Sound { d with
      bridge := turned.1
      inbox := without d.inbox x
      outbox := d.outbox ++ turned.2 } where
  view := by
    obtain ⟨v, hv, hcarries⟩ := h.view
    obtain ⟨⟨hfollows, hleads⟩, -⟩ := Bridge.step_leads hturned
    exact ⟨v, hv, hcarries.push hfollows hleads⟩
  waiting := by
    refine h.waiting.mono fun ticket hticket => ?_
    cases ticket with
    | save generation => exact hticket
    | request id =>
      have hanswered := (Bridge.step_leads hturned).2
      rcases hticket with ⟨asked, hmem⟩ | ⟨message, hmem, hends⟩
      · by_cases htaken : Bridge.taken x = some id
        · right
          have hsent : id ∈ turned.2.filterMap DaemonToUi.answered := by
            rw [hanswered, htaken]
            exact List.mem_singleton_self id
          obtain ⟨message, hmessage, hid⟩ := List.mem_filterMap.1 hsent
          refine ⟨message, List.mem_append_right _ hmessage, ?_⟩
          cases message with
          | response epoch response => exact Option.some.inj hid
          | daemonUnavailable epoch requestId error => exact Or.inr hid
          | connectionEstablished | snapshot | event => cases hid
        · left
          refine ⟨asked, ?_⟩
          show _ ∈ without d.inbox x
          cases x with
          | request id' asked' reach now =>
            refine (List.mem_erase_of_ne ?_).2 hmem
            rintro heq
            exact htaken (congrArg some (UiToDaemon.request.inj heq).1.symm)
          | refreshSnapshot refreshing now => exact (List.mem_erase_of_ne (by simp)).2 hmem
          | shutdown => exact (List.mem_erase_of_ne (by simp)).2 hmem
          | event | reconnect => exact hmem
      · exact Or.inr ⟨message, List.mem_append_left _ hmem, hends⟩
  running := by
    refine Bridge.running_step (b := d.bridge) ?_ h.running hturned
    rintro rfl
    exact h.noShutdown (hasked .shutdown rfl)
  noShutdown := by
    have hsub : without d.inbox x ⊆ d.inbox := by
      unfold without
      split
      · exact List.Subset.refl _
      · exact List.erase_subset
    exact fun hmem => h.noShutdown (hsub hmem)

/-- The writer's result is passed on. -/
theorem Sound.wrote (h : d.Sound) {generation : ℕ} {config : ConfigV4}
    {rest : List (ℕ × ConfigV4)} (hsaves : d.saves = (generation, config) :: rest)
    (result : Except String Unit) :
    Sound { d with saves := rest, saved := d.saved ++ [(generation, result)] } where
  view := h.view
  waiting := by
    refine h.waiting.mono fun ticket hticket => ?_
    cases ticket with
    | request id => exact hticket
    | save generation' =>
      show _ ∈ rest.map Prod.fst ∨ _ ∈ (d.saved ++ [(generation, result)]).map Prod.fst
      rw [List.map_append, List.mem_append]
      rcases hticket with hmem | hmem
      · rw [hsaves, List.map_cons, List.mem_cons] at hmem
        rcases hmem with rfl | hmem
        · exact Or.inr (Or.inr (List.mem_singleton_self _))
        · exact Or.inl hmem
      · exact Or.inr (Or.inl hmem)
  running := h.running
  noShutdown := h.noShutdown

/-- The result of a save is taken. -/
theorem Sound.persisted (h : d.Sound) {generation : ℕ} {result : Except String Unit}
    {rest : List (ℕ × Except String Unit)} (hsaved : d.saved = (generation, result) :: rest)
    (id : String) :
    Sound ({ d with saved := rest }.reacted
      ({ d.controller with
          session := (d.controller.session.handlePersistence generation result id).1 },
        (d.controller.session.handlePersistence generation result id).2)) where
  view := by
    obtain ⟨v, hv, hcarries⟩ := h.view
    exact ⟨v, hv.trans (d.controller.begins_persisted generation result id).epoch.symm, hcarries⟩
  waiting := by
    have hbegins := d.controller.begins_persisted generation result id
    rcases hbegins.waiting with hsame | hissued
    · intro p hp hstage
      have hpending : d.controller.session.pending = some p := hsame.symm.trans hp
      obtain ⟨ticket, hticket, hcoming⟩ := h.waiting p hpending hstage
      refine ⟨ticket, hticket, coming_reacted _ ?_⟩
      cases ticket with
      | request id' => exact hcoming
      | save generation' =>
        refine hcoming.imp_right fun hmem => ?_
        rw [hsaved, List.map_cons, List.mem_cons] at hmem
        refine hmem.resolve_left ?_
        rintro rfl
        -- this result would have ended the wait
        obtain ⟨hsaving, hown⟩ : p.stage = .saving ∧ p.saveGeneration = some generation' := by
          cases hp' : p.stage with
          | saving => exact ⟨rfl, by simpa [Pending.ticket, hp'] using hticket⟩
          | awaitingReply => simp [Pending.ticket, hp'] at hticket
          | awaitingSnapshot => exact absurd hp' hstage
        exact handlePersistence_ends hpending hsaving hown result id p hp hsaving
    · exact hissued.mono fun _ hticket => coming_issued hticket hbegins.saves
  running := h.running
  noShutdown := noShutdown_reacted _ h.noShutdown

/-- Every step keeps it. -/
theorem Sound.step (h : d.Sound) {x : DesktopInput} (hstep : d.step wire x = some d') :
    d'.Sound := by
  cases x with
  | user x =>
    simp only [Desktop.step] at hstep
    split at hstep
    · next hx =>
      obtain ⟨made, hmade, rfl⟩ := Option.map_eq_some_iff.1 hstep
      exact h.reacted (UiController.begins_react hx hmade)
    · cases hstep
  | receive id =>
    simp only [Desktop.step] at hstep
    split at hstep
    · cases hstep
    · next message rest hout =>
      obtain rfl := Option.some.inj hstep
      exact (h.handled hout).reacted (d.controller.begins_receive message id)
  | bridge x =>
    simp only [Desktop.step] at hstep
    split at hstep
    · next hasked =>
      obtain ⟨turned, hturned, rfl⟩ := Option.map_eq_some_iff.1 hstep
      exact h.turn hasked hturned
    · cases hstep
  | write result =>
    simp only [Desktop.step] at hstep
    split at hstep
    · cases hstep
    · next hsaves =>
      obtain rfl := Option.some.inj hstep
      exact h.wrote hsaves result
  | persisted id =>
    simp only [Desktop.step] at hstep
    split at hstep
    · cases hstep
    · next hsaved =>
      obtain ⟨made, hmade, rfl⟩ := Option.map_eq_some_iff.1 hstep
      obtain rfl := Option.some.inj hmade
      exact h.persisted hsaved id

/-- The desktop starts with nothing to wait for. -/
theorem sound_start {startup : Startup} {path : String} {profile : Profile}
    {writable persistence : Bool} (hpath : startup.socketPath = .ok path)
    (h : start wire startup (.new (.new profile writable) persistence) = some d) : d.Sound := by
  obtain ⟨started, hstarted, rfl⟩ := Option.map_eq_some_iff.1 h
  have hrun : BridgeRun.start wire startup = some ⟨started.1, started.2, [], []⟩ :=
    Option.map_eq_some_iff.2 ⟨started, hstarted, rfl⟩
  obtain ⟨hfollows, hleads⟩ := (BridgeRun.kept_start hrun).leads
  refine ⟨⟨⟨0, .closed⟩, rfl, hfollows, hleads⟩, waiting_of_none rfl, ?_, List.not_mem_nil⟩
  exact Bridge.running_start hpath hstarted

/-! ## Coming to rest -/

end Desktop

/-- How many steps what is asked can lead to: a reply, and a refresh after it. -/
def UiToDaemon.weight : UiToDaemon → ℕ
  | .request .. => 4
  | .refreshSnapshot => 2
  | .shutdown => 1

/-- How many steps a message can lead to. -/
def DaemonToUi.weight : DaemonToUi → ℕ
  | .response .. | .event .. => 3
  | .connectionEstablished _ | .snapshot .. | .daemonUnavailable .. => 1

/-- The controller may apply a profile again by itself. -/
def UiController.mayRetry (c : UiController) : Bool := c.retryAfterRefresh || c.session.recovering

/-- The steps that go with trying again. -/
def UiController.bonus (c : UiController) : ℕ := if c.mayRetry then 4 else 0

/-- How many steps what is asked for can lead to. -/
def effectsWeight (effects : List UiEffect) : ℕ :=
  ((effects.filterMap UiEffect.command).map UiToDaemon.weight).sum +
    6 * (effects.filterMap UiEffect.toSave).length

namespace UiController

variable {c : UiController} {message : DaemonToUi}

theorem bonus_mono {c' : UiController} (h : c'.mayRetry = true → c.mayRetry = true) :
    c'.bonus ≤ c.bonus := by
  unfold bonus
  split
  · next hafter => rw [if_pos (h hafter)]
  · exact Nat.zero_le _

/-- A message leads to no more retries. -/
theorem bonus_handled (c : UiController) (message : DaemonToUi) :
    (c.handled message).bonus ≤ c.bonus := by
  refine bonus_mono fun hafter => ?_
  have hmoved := LeadsToNoMore.of_moved (moved_handleDaemon (s := c.session) message)
  rcases Bool.or_eq_true_iff.1 hafter with hflag | hrecovering
  · cases message with
    | response epoch response =>
      simp only [handled, noteReply] at hflag
      split at hflag
      · rcases Bool.or_eq_true_iff.1 hflag with hreports | hflag
        · -- the reply is to a recovery
          have hkind : c.session.operation = some .recover := by
            have hboth := (Bool.and_eq_true_iff.1 hreports).1
            exact beq_iff_eq.1 hboth
          obtain ⟨p, hp, hp'⟩ := Option.map_eq_some_iff.1 hkind
          simp [mayRetry, UiSession.recovering, hp, Pending.toRecover, hp']
        · exact Bool.or_eq_true_iff.2 (Or.inl hflag)
      · exact Bool.or_eq_true_iff.2 (Or.inl hflag)
    | connectionEstablished | snapshot | event | daemonUnavailable =>
      exact Bool.or_eq_true_iff.2 (Or.inl hflag)
  · exact Bool.or_eq_true_iff.2 (Or.inr (hmoved.1.recovering hrecovering))

/-- Trying again uses up what goes with it. -/
theorem retry_weight (hidle : c.session.pending = none) (id : String) :
    effectsWeight (c.retry id).2 + (c.retry id).1.bonus ≤ 4 := by
  unfold retry
  simp only
  split
  · simp [effectsWeight, bonus, mayRetry, UiSession.recovering, hidle]
  · next profile hprofile =>
    unfold submitRequest
    split
    · simp [effectsWeight, bonus, mayRetry, UiSession.recovering, hidle]
    · next begun hbegin =>
      obtain ⟨heffects, -⟩ := beginRequest_eq_ok hbegin
      obtain ⟨-, -, hrecover⟩ := beginRequest_leadsTo hbegin
      have hnone : begun.1.recovering = false := by
        rw [← Bool.not_eq_true]
        intro htrue
        rcases hrecover htrue with hbefore | hrequest
        · simp [UiSession.recovering, hidle] at hbefore
        · cases hrequest
      simp [heffects, effectsWeight, UiEffect.command, UiEffect.toSave, UiToDaemon.weight, bonus,
        mayRetry, hnone]

/-- Taking a message takes something off what is to come. -/
theorem receive_weight (c : UiController) (message : DaemonToUi) (id : String) :
    effectsWeight (c.receive message id).2 + (c.receive message id).1.bonus <
      message.weight + c.bonus := by
  have hhandled := bonus_handled c message
  have heffects : effectsWeight (if message.isUnavailable then []
      else (c.session.handleDaemon message).2) < message.weight := by
    split
    · cases message <;> exact Nat.succ_pos _
    · next havailable =>
      rcases UiSession.handleDaemon_effects c.session message with hnone | ⟨hrefresh, hkind⟩
      · rw [hnone]
        cases message <;> exact Nat.succ_pos _
      · rw [hrefresh]
        rcases hkind with ⟨epoch, response, rfl⟩ | ⟨epoch, event, rfl⟩ | hgone
        · exact Nat.lt_succ_self 2
        · exact Nat.lt_succ_self 2
        · exact absurd hgone havailable
  unfold receive
  simp only
  split
  · next hretries =>
    simp only [retries, Bool.and_eq_true, Bool.not_eq_true'] at hretries
    obtain ⟨⟨⟨hsnapshot, hflag⟩, -⟩, hidle⟩ := hretries
    obtain ⟨epoch, status, profiles, rfl⟩ : ∃ epoch status profiles,
        message = .snapshot epoch status profiles := by
      cases message with
      | snapshot epoch status profiles => exact ⟨epoch, status, profiles, rfl⟩
      | connectionEstablished | response | event | daemonUnavailable => cases hsnapshot
    have hbonus : c.bonus = 4 := by
      have hbefore : c.retryAfterRefresh = true := hflag
      simp [bonus, mayRetry, hbefore]
    have hretry := retry_weight (c := c.handled (.snapshot epoch status profiles))
      (pending_of_not_busy (by simp [hidle])) id
    have hsilent : (c.session.handleDaemon (.snapshot epoch status profiles)).2 = [] := by
      rw [handleDaemon]
      split <;> rfl
    simp only [hsilent, ite_self, List.nil_append, DaemonToUi.weight]
    omega
  · dsimp only
    omega

end UiController

/-- What follows a save is a request or a refresh at most. -/
theorem UiSession.handlePersistence_weight (s : UiSession) (generation : ℕ)
    (result : Except String Unit) (id : String) :
    effectsWeight (s.handlePersistence generation result id).2 ≤ 4 := by
  have hsmall : ∀ effects : List UiEffect, effects = [] ∨ effects = [.quitApplication] ∨
      effects = [.refreshSnapshot] → effectsWeight effects ≤ 4 := by
    rintro effects (rfl | rfl | rfl) <;> decide
  unfold handlePersistence
  split
  · split
    · unfold finishSave
      split
      · exact hsmall _ (Or.inl rfl)
      · simp only
        split
        · exact hsmall _ (Or.inl rfl)
        · exact hsmall _ (Or.inr (Or.inl rfl))
        · split
          · next begun hbegin =>
            rw [(beginRequest_eq_ok hbegin).1]
            exact le_refl 4
          · exact hsmall _ (Or.inr (Or.inr rfl))
    · exact hsmall _ (Or.inl rfl)
  · exact hsmall _ (Or.inl rfl)

/-- Taking the result of a save takes something off what is to come. -/
theorem UiController.persisted_weight (c : UiController) (generation : ℕ)
    (result : Except String Unit) (id : String) :
    effectsWeight (c.session.handlePersistence generation result id).2 +
        UiController.bonus
          { c with session := (c.session.handlePersistence generation result id).1 } <
      5 + c.bonus := by
  have heffects := c.session.handlePersistence_weight generation result id
  have hbonus : UiController.bonus
      { c with session := (c.session.handlePersistence generation result id).1 } ≤ c.bonus := by
    refine bonus_mono fun hafter => ?_
    rcases Bool.or_eq_true_iff.1 hafter with hflag | hrecovering
    · exact Bool.or_eq_true_iff.2 (Or.inl hflag)
    · have hmore := (leadsToNoMore_handlePersistence (s := c.session) generation result id).1
      exact Bool.or_eq_true_iff.2 (Or.inr (hmore.recovering hrecovering))
  omega

namespace Desktop

variable {wire : WireText} {d d' : Desktop}

/-- What is in the queues. -/
def queued (d : Desktop) : ℕ :=
  (d.inbox.map UiToDaemon.weight).sum + (d.outbox.map DaemonToUi.weight).sum +
    6 * d.saves.length + 5 * d.saved.length

/-- How many steps there are to come, at most, if nobody disturbs the desktop. -/
def unrest (d : Desktop) : ℕ := d.queued + d.controller.bonus

/-- Nothing is under way. -/
def Quiet (d : Desktop) : Prop :=
  d.inbox = [] ∧ d.outbox = [] ∧ d.saves = [] ∧ d.saved = []

instance : Decidable d.Quiet := inferInstanceAs (Decidable (_ ∧ _))

/-- The steps the desktop takes by itself: no input from the window, no event and no attempt to
connect again. -/
def Settling : DesktopInput → Prop
  | .receive _ | .write _ | .persisted _ => True
  | .bridge (.request ..) | .bridge (.refreshSnapshot _ _) => True
  | .user _ | .bridge _ => False

theorem queued_reacted (made : UiController × List UiEffect) :
    (d.reacted made).queued ≤ d.queued + effectsWeight made.2 := by
  have hinbox : ((d.inbox ++ made.2.filterMap UiEffect.command).map UiToDaemon.weight).sum =
      (d.inbox.map UiToDaemon.weight).sum +
        ((made.2.filterMap UiEffect.command).map UiToDaemon.weight).sum := by
    rw [List.map_append, List.sum_append]
  have hsaves : (if made.1.persistence then d.saves ++ made.2.filterMap UiEffect.toSave
      else d.saves).length ≤ d.saves.length + (made.2.filterMap UiEffect.toSave).length := by
    split
    · rw [List.length_append]
    · exact Nat.le_add_right _ _
  show ((d.inbox ++ made.2.filterMap UiEffect.command).map UiToDaemon.weight).sum +
    (d.outbox.map DaemonToUi.weight).sum + 6 * (if made.1.persistence then
      d.saves ++ made.2.filterMap UiEffect.toSave else d.saves).length + 5 * d.saved.length ≤ _
  rw [queued, effectsWeight]
  omega

/-- What is executed is paid for by what was taken. -/
theorem unrest_reacted {made : UiController × List UiEffect} {c : UiController} {n : ℕ}
    (h : effectsWeight made.2 + made.1.bonus < n + c.bonus) :
    (d.reacted made).unrest < d.queued + n + c.bonus := by
  have hqueued := queued_reacted (d := d) made
  show (d.reacted made).queued + made.1.bonus < _
  omega

/-- A turn of the bridge takes more off the inbox than it puts into the outbox. -/
theorem turn_weight {x : BridgeInput} {command : UiToDaemon} {turned : Bridge × List DaemonToUi}
    (hx : x.command = some command) (hturned : d.bridge.step wire x = some turned)
    (hsettling : Settling (.bridge x)) :
    (turned.2.map DaemonToUi.weight).sum < command.weight := by
  unfold Bridge.step at hturned
  split at hturned
  · cases hturned
  · cases x with
    | request id request reach now =>
      obtain rfl := Option.some.inj hturned
      obtain rfl := Option.some.inj hx
      unfold deliverRequest
      split
      · exact Nat.lt_succ_self 3
      · show 1 < 4
        decide
    | refreshSnapshot refreshing now =>
      obtain rfl := Option.some.inj hx
      simp only at hturned
      split at hturned
      · next hrefresh =>
        obtain rfl := Option.some.inj hturned
        obtain ⟨status, profiles, rfl, -⟩ := refreshDaemonState_eq_ok hrefresh
        exact Nat.lt_succ_self 1
      · obtain rfl := Option.some.inj hturned
        exact Nat.lt_succ_self 1
    | shutdown => exact hsettling.elim
    | event now => exact hsettling.elim
    | reconnect woken establishing now => exact hsettling.elim

/-- Each step the desktop takes by itself takes something off what is to come. -/
theorem unrest_step {x : DesktopInput} (hx : Settling x) (h : d.step wire x = some d') :
    d'.unrest < d.unrest := by
  cases x with
  | user x => exact hx.elim
  | receive id =>
    simp only [step] at h
    split at h
    · cases h
    · next message rest hout =>
      obtain rfl := Option.some.inj h
      have hbefore : d.queued = Desktop.queued { d with outbox := rest } + message.weight := by
        simp only [queued, hout, List.map_cons, List.sum_cons]
        omega
      show _ < d.queued + d.controller.bonus
      rw [hbefore]
      exact unrest_reacted (d.controller.receive_weight message id)
  | bridge x =>
    simp only [step] at h
    split at h
    · next hasked =>
      obtain ⟨turned, hturned, rfl⟩ := Option.map_eq_some_iff.1 h
      obtain ⟨command, hcommand⟩ : ∃ command, x.command = some command := by
        cases x with
        | request id request reach now => exact ⟨_, rfl⟩
        | refreshSnapshot refreshing now => exact ⟨_, rfl⟩
        | shutdown => exact hx.elim
        | event now => exact hx.elim
        | reconnect woken establishing now => exact hx.elim
      have hturn := turn_weight hcommand hturned hx
      have herase := List.sum_map_erase UiToDaemon.weight (hasked command hcommand)
      simp only [unrest, queued, without, hcommand, List.map_append, List.sum_append]
      omega
    · cases h
  | write result =>
    simp only [step] at h
    split at h
    · cases h
    · next generation config rest hsaves =>
      obtain rfl := Option.some.inj h
      simp only [unrest, queued, hsaves, List.length_append, List.length_cons, List.length_nil]
      omega
  | persisted id =>
    simp only [step] at h
    split at h
    · cases h
    · next generation result rest hsaved =>
      obtain ⟨made, hmade, rfl⟩ := Option.map_eq_some_iff.1 h
      obtain rfl := Option.some.inj hmade
      have hbefore : d.queued = Desktop.queued { d with saved := rest } + 5 := by
        simp only [queued, hsaved, List.length_cons]
        omega
      show _ < d.queued + d.controller.bonus
      rw [hbefore]
      exact unrest_reacted (d.controller.persisted_weight generation result id)

/-- While something is under way the desktop can take a step by itself, whatever the daemon has
to say to it. -/
theorem Sound.settling_step (h : d.Sound) (hbusy : ¬d.Quiet) (wire : WireText) :
    ∃ x, Settling x ∧ (d.step wire x).isSome = true := by
  by_cases hout : d.outbox = []
  · by_cases hsaves : d.saves = []
    · by_cases hsaved : d.saved = []
      · obtain ⟨command, rest, hin⟩ : ∃ command rest, d.inbox = command :: rest :=
          List.exists_cons_of_ne_nil fun hin => hbusy ⟨hin, hout, hsaves, hsaved⟩
        have hmem : command ∈ d.inbox := hin ▸ List.mem_cons_self
        have hrunning : ¬d.bridge.running = false := by simp [h.running]
        cases command with
        | request id asked =>
          refine ⟨.bridge (.request id asked .timeout 0), trivial, ?_⟩
          simp [Desktop.step, BridgeInput.command, hmem, Bridge.step, hrunning]
        | refreshSnapshot =>
          refine ⟨.bridge (.refreshSnapshot ⟨⟨"", .timeout⟩, ⟨"", .timeout⟩⟩ 0), trivial, ?_⟩
          simp only [Desktop.step, BridgeInput.command, Bridge.step, if_neg hrunning]
          rw [if_pos (by simpa using hmem)]
          split <;> rfl
        | shutdown => exact absurd hmem h.noShutdown
      · obtain ⟨first, rest, hsome⟩ := List.exists_cons_of_ne_nil hsaved
        refine ⟨.persisted "", trivial, ?_⟩
        simp [Desktop.step, hsome, UiController.react]
    · obtain ⟨first, rest, hsome⟩ := List.exists_cons_of_ne_nil hsaves
      refine ⟨.write (.ok ()), trivial, ?_⟩
      simp [Desktop.step, hsome]
  · obtain ⟨first, rest, hsome⟩ := List.exists_cons_of_ne_nil hout
    refine ⟨.receive "", trivial, ?_⟩
    simp [Desktop.step, hsome]

/-- Where nothing is under way, nothing is waited for but a snapshot. -/
theorem Sound.idle (h : d.Sound) (hquiet : d.Quiet) :
    ∀ p ∈ d.controller.session.pending, p.stage = .awaitingSnapshot := by
  obtain ⟨hin, hout, hsaves, hsaved⟩ := hquiet
  intro p hp
  by_contra hstage
  obtain ⟨ticket, -, hcoming⟩ := h.waiting p hp hstage
  cases ticket with
  | save generation => simp [Coming, hsaves, hsaved] at hcoming
  | request id => simp [Coming, hin, hout] at hcoming

end Desktop

/-! ## Every run -/

section Runs

variable {wire : WireText} {startup : Startup} {path : String} {profile : Profile}
  {writable persistence : Bool} {inputs : List DesktopInput} {first d : Desktop}

/-- In every run, in whatever order the parts take their steps, the message the controller takes
next is one of the connection it knows, or opens the one after it: it is never told of a
connection that is gone, and never dismisses a message as from another. -/
theorem Desktop.messages_current (hpath : startup.socketPath = .ok path)
    (hstart : Desktop.start wire startup (.new (.new profile writable) persistence) = some first)
    (hrun : replay (Desktop.step wire) first inputs = some d) :
    ∀ message rest, d.outbox = message :: rest → d.controller.session.Current message := by
  intro message rest hout
  have hsound : d.Sound := replay_keeps (fun _ _ _ h hstep => h.step hstep)
    (Desktop.sound_start hpath hstart) hrun
  exact hsound.current hout

/-- The client's own profile, without lanes. -/
def emptyProfile : Profile :=
  ⟨"work", "Work", false, [], [], ⟨.usePrimary, .followSystemDefault, [], true⟩⟩

/-- The desktop, once its bridge has found an inactive daemon. -/
def inactiveDesktop : Desktop where
  controller := .new (.new emptyProfile true) true
  inbox := []
  bridge := ⟨1, some ⟨[.stateChanged 1 1 .inactive], 0⟩, 0, 0, true⟩
  outbox := [.connectionEstablished 1,
    .snapshot 1 ⟨0, 0, .inactive, none, none, none, .inactive 0⟩ []]
  saves := []
  saved := []

theorem start_inactiveDesktop :
    Desktop.start BridgeRun.inactiveText BridgeRun.inactiveStartup
      (.new (.new emptyProfile true) true) = some inactiveDesktop := by
  rw [Desktop.start, BridgeRun.start_inactive]
  rfl

/-- The first connection is taken for the one after none, the snapshot then for one of it. -/
theorem Desktop.messages_current_snapshot :
    ∃ d status, replay (Desktop.step BridgeRun.inactiveText) inactiveDesktop [.receive "x"] = some d ∧
      d.outbox = [.snapshot 1 status []] ∧
      d.controller.session.Current (.snapshot 1 status []) := by
  obtain ⟨d, hd, hout⟩ : ∃ d, replay (Desktop.step BridgeRun.inactiveText) inactiveDesktop
      [.receive "x"] = some d ∧
        d.outbox = [.snapshot 1 ⟨0, 0, .inactive, none, none, none, .inactive 0⟩ []] :=
    ⟨_, rfl, rfl⟩
  exact ⟨d, _, hd, hout, Desktop.messages_current rfl start_inactiveDesktop hd _ _ hout⟩

/-- In every state a run can reach, the reply or the save that is waited for is on its way: the
request is still to be taken by the bridge or its answer to be taken by the controller, the save
still to be made or its result to be taken.  Left to itself, the desktop takes no more steps than
can be told beforehand; it stops only when nothing is under way; and then it waits for no reply
and for no save. -/
theorem Desktop.comes_to_rest (hpath : startup.socketPath = .ok path)
    (hstart : Desktop.start wire startup (.new (.new profile writable) persistence) = some first)
    (hrun : replay (Desktop.step wire) first inputs = some d) :
    Waiting d.Coming d.controller.session ∧
      ∀ settling d', (∀ x ∈ settling, Desktop.Settling x) →
        replay (Desktop.step wire) d settling = some d' →
        settling.length ≤ d.unrest ∧
          (d'.Quiet ∨ ∃ x, Desktop.Settling x ∧ (d'.step wire x).isSome = true) ∧
          (d'.Quiet → ∀ p ∈ d'.controller.session.pending, p.stage = .awaitingSnapshot) := by
  have hkeeps : ∀ (s : Desktop) (x : DesktopInput) (t : Desktop), s.Sound →
      s.step wire x = some t → t.Sound := fun _ _ _ h hstep => h.step hstep
  have hsound : d.Sound := replay_keeps hkeeps (Desktop.sound_start hpath hstart) hrun
  refine ⟨hsound.waiting, ?_⟩
  intro settling d' hall hsettled
  have hsound' : d'.Sound := replay_keeps hkeeps hsound hsettled
  have hlength := length_le_weight hkeeps
    (fun _ _ _ _ hx hstep => Desktop.unrest_step hx hstep) hsound hall hsettled
  refine ⟨by omega, ?_, hsound'.idle⟩
  by_cases hquiet : d'.Quiet
  · exact Or.inl hquiet
  · exact Or.inr (hsound'.settling_step hquiet wire)

/-- The profile is to be applied, once the daemon is known. -/
def applyInputs : List DesktopInput :=
  [.receive "x", .receive "x", .user (.request "d" (.applyProfile emptyProfile) (some emptyProfile))]

/-- The daemon does not answer, and the controller is told so. -/
def lostInputs : List DesktopInput :=
  [.bridge (.request "d" (.applyProfile emptyProfile) .timeout 10), .receive "x"]

/-- The apply is waited for; two steps later it is not any more. -/
theorem Desktop.comes_to_rest_lost :
    ∃ d d', replay (Desktop.step BridgeRun.inactiveText) inactiveDesktop applyInputs = some d ∧
      d.controller.session.stage = some .awaitingReply ∧
      Waiting d.Coming d.controller.session ∧
      replay (Desktop.step BridgeRun.inactiveText) d lostInputs = some d' ∧
      2 ≤ d.unrest ∧ d'.Quiet ∧
      ∀ p ∈ d'.controller.session.pending, p.stage = .awaitingSnapshot := by
  have hrun : ((replay (Desktop.step BridgeRun.inactiveText) inactiveDesktop applyInputs).any
      fun d => decide (d.controller.session.stage = some .awaitingReply) &&
        (replay (Desktop.step BridgeRun.inactiveText) d lostInputs).any
          fun d' => decide d'.Quiet) = true := by decide +kernel
  obtain ⟨d, hd, hstage⟩ := (Option.any_eq_true _ _).1 hrun
  obtain ⟨hstage, hlost⟩ := Bool.and_eq_true_iff.1 hstage
  obtain ⟨d', hd', hquiet⟩ := (Option.any_eq_true _ _).1 hlost
  obtain ⟨hcoming, hsettles⟩ := Desktop.comes_to_rest rfl start_inactiveDesktop hd
  have hall : ∀ x ∈ lostInputs, Desktop.Settling x := by
    intro x hx
    rcases List.mem_cons.1 hx with rfl | hx
    · trivial
    · obtain rfl := List.mem_singleton.1 hx
      trivial
  obtain ⟨hlength, -, hidle⟩ := hsettles lostInputs d' hall hd'
  exact ⟨d, d', hd, of_decide_eq_true hstage, hcoming, hd', hlength, of_decide_eq_true hquiet,
    hidle (of_decide_eq_true hquiet)⟩

end Runs

end RouteLane
