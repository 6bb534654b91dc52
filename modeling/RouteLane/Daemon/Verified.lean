import RouteLane.Daemon.Convergence

/-!
# Armed means verified

A runtime the daemon publishes as armed is one it paired: the helper told of it in an
inspection whose generation, hash and runtime are those of the plan the daemon held as
applied when it published.  Activation, status and a paired announcement see to that
themselves.  The other places that write the runtime take it as it comes: they keep the
promise only where the runtime they write, or leave, is not armed, or pairs anyway.
-/

namespace RouteLane

open Tasks

variable (p : Primitives)

/-! ## What is promised -/

/-- The helper told of this runtime in an inspection that pairs with the plan. -/
def Daemon.Vouches (daemon : Daemon) (runtime : RuntimeStatus) (plan : KernelPlan) : Prop :=
  ∃ inspected ∈ daemon.inspections,
    inspected.runtime = runtime ∧ inspected.PairsWith p.blake3 plan

/-- The states the daemon has been in, the present one first. -/
def Daemon.states (daemon : Daemon) : List DaemonState := daemon.state :: daemon.past

/-- A runtime published under a sequence number and a generation: if it is armed, its
generation is the one published and that of the plan held then as applied, which the
helper's inspection was paired with. -/
def Daemon.Verified (daemon : Daemon) (sequence generation : ℕ) (runtime : RuntimeStatus) :
    Prop :=
  runtime.phase = .armed → runtime.generation = generation ∧
    ∃ held ∈ daemon.states, held.eventSequence = sequence ∧ held.generation = generation ∧
      ∃ applied, held.applied = some applied ∧ applied.plan.generation = generation ∧
        daemon.Vouches p runtime applied.plan

/-- A state whose generation is that of its plan, and whose runtime is paired with the plan
if it is armed. -/
structure Daemon.Backs (daemon : Daemon) (state : DaemonState) : Prop where
  generation : ∀ applied, state.applied = some applied →
    applied.plan.generation = state.generation
  armed : state.primary.phase = .armed →
    ∃ applied, state.applied = some applied ∧ daemon.Vouches p state.primary applied.plan

/-- The state is backed, and so was every runtime that was published. -/
structure Daemon.Sound (daemon : Daemon) : Prop where
  state : daemon.Backs p daemon.state
  events : ∀ sequence generation primary,
    .primaryChanged sequence generation primary ∈ daemon.events →
      daemon.Verified p sequence generation primary

/-- The conditions on the writes that take a runtime as it comes. -/
def StateWrite.ArmsVerified (daemon : Daemon) : StateWrite → Prop
  | .follow none inspected =>
    daemon.state.generation ≤ inspected.runtime.generation →
      inspected.runtime.phase = .armed →
        (inspected.appliedPlan.isSome ∨ inspected.runtime.grant.isSome) ∧
          ∃ applied, daemon.state.applied = some applied ∧
            daemon.Vouches p inspected.runtime applied.plan
  | .recovered => daemon.state.primary.phase ≠ .armed
  | .reconciledInactive runtime => runtime.phase ≠ .armed
  | .reconciledPlan plan _ _ runtime =>
    runtime.phase = .armed → runtime.generation = plan.generation
  | .drift (some plan) _ _ =>
    daemon.state.primary.phase = .armed → daemon.Vouches p daemon.state.primary plan
  | _ => True

/-- A status in a response is verified. -/
def Daemon.Answers (daemon : Daemon) (response : Option DaemonResponse) : Prop :=
  ∀ answer status, response = some answer → answer.result = some (.status status) →
    daemon.Verified p status.eventSequence status.generation status.primary

instance (daemon : Daemon) (runtime : RuntimeStatus) (plan : KernelPlan) :
    Decidable (daemon.Vouches p runtime plan) :=
  inferInstanceAs (Decidable (∃ inspected ∈ daemon.inspections, _))

instance (daemon : Daemon) : ∀ w : StateWrite, Decidable (w.ArmsVerified p daemon)
  | .follow none inspected =>
    inferInstanceAs (Decidable (_ → _ → (_ ∨ _) ∧ ∃ applied ∈ daemon.state.applied,
      daemon.Vouches p inspected.runtime applied.plan))
  | .recovered => inferInstanceAs (Decidable (_ ≠ _))
  | .reconciledInactive runtime => inferInstanceAs (Decidable (runtime.phase ≠ _))
  | .reconciledPlan plan _ _ runtime =>
    inferInstanceAs (Decidable (runtime.phase = _ → _ = plan.generation))
  | .drift (some plan) _ _ =>
    inferInstanceAs (Decidable (_ → daemon.Vouches p daemon.state.primary plan))
  | .drift none _ _ | .follow (some _) _ | .beginApply _ | .commit _ _ | .recordFailure _
  | .recordRolledBackFailure _ | .recordKernelRestoreFailure _ | .recordVerificationFailure _ _
  | .deactivated | .reconciliationFailed _ => isTrue trivial

/-- The condition on the steps of the service. -/
def Section.ArmsVerified (l : Section) (daemon : Daemon) : Prop :=
  ∀ w ∈ l.stateWrite, w.ArmsVerified p daemon

instance (l : Section) (daemon : Daemon) : Decidable (l.ArmsVerified p daemon) :=
  inferInstanceAs (Decidable (∀ w ∈ l.stateWrite, _))

/-! ## What is known of a write when it is made -/

/-- What an operation has seen to before a write. -/
def StateWrite.Witnessed (daemon : Daemon) : StateWrite → Prop
  | .commit _ verified => daemon.Vouches p verified.runtime verified.plan
  | .follow (some (plan, _)) inspected => daemon.Vouches p inspected.runtime plan
  | .reconciledPlan plan _ _ runtime =>
    runtime.generation = plan.generation → daemon.Vouches p runtime plan
  | _ => True

/-- How the history may move on. -/
structure Daemon.Extends (daemon later : Daemon) : Prop where
  states : ∀ state ∈ daemon.states, state ∈ later.states
  inspections : ∀ inspected ∈ daemon.inspections, inspected ∈ later.inspections

variable {p} {daemon later : Daemon}

theorem Daemon.Extends.refl (daemon : Daemon) : daemon.Extends daemon where
  states := fun _ h => h
  inspections := fun _ h => h

theorem Daemon.Extends.trans {latest : Daemon} (h : daemon.Extends later)
    (h' : later.Extends latest) : daemon.Extends latest where
  states := fun state hstate => h'.states state (h.states state hstate)
  inspections := fun inspected hinspected =>
    h'.inspections inspected (h.inspections inspected hinspected)

theorem Daemon.Vouches.mono {runtime : RuntimeStatus} {plan : KernelPlan}
    (h : daemon.Vouches p runtime plan) (hlater : daemon.Extends later) :
    later.Vouches p runtime plan := by
  obtain ⟨inspected, hmem, hpairs⟩ := h
  exact ⟨inspected, hlater.inspections inspected hmem, hpairs⟩

theorem Daemon.Backs.mono {state : DaemonState} (h : daemon.Backs p state)
    (hlater : daemon.Extends later) : later.Backs p state where
  generation := h.generation
  armed := by
    intro harmed
    obtain ⟨applied, happlied, hvouches⟩ := h.armed harmed
    exact ⟨applied, happlied, hvouches.mono hlater⟩

theorem Daemon.Verified.mono {sequence generation : ℕ} {runtime : RuntimeStatus}
    (h : daemon.Verified p sequence generation runtime) (hlater : daemon.Extends later) :
    later.Verified p sequence generation runtime := by
  intro harmed
  obtain ⟨hgeneration, held, hheld, hsequence, hstored, applied, happlied, hplan, hvouches⟩ :=
    h harmed
  exact ⟨hgeneration, held, hlater.states held hheld, hsequence, hstored, applied, happlied,
    hplan, hvouches.mono hlater⟩

theorem Daemon.Answers.mono {response : Option DaemonResponse}
    (h : daemon.Answers p response) (hlater : daemon.Extends later) :
    later.Answers p response := by
  intro answer status hanswer hstatus
  exact (h answer status hanswer hstatus).mono hlater

theorem StateWrite.Witnessed.mono {w : StateWrite} (h : w.Witnessed p daemon)
    (hlater : daemon.Extends later) : w.Witnessed p later := by
  match w, h with
  | .commit _ verified, h => exact Daemon.Vouches.mono h hlater
  | .follow (some (plan, _)) inspected, h => exact Daemon.Vouches.mono h hlater
  | .follow none inspected, _ => trivial
  | .reconciledPlan plan _ _ runtime, h =>
    exact fun hgeneration => Daemon.Vouches.mono (h hgeneration) hlater
  | .beginApply _, _ => trivial
  | .recordFailure _, _ => trivial
  | .recordRolledBackFailure _, _ => trivial
  | .recordKernelRestoreFailure _, _ => trivial
  | .recordVerificationFailure _ _, _ => trivial
  | .deactivated, _ => trivial
  | .recovered, _ => trivial
  | .reconciliationFailed _, _ => trivial
  | .reconciledInactive _, _ => trivial
  | .drift _ _ _, _ => trivial

/-- A backed state that the daemon has been in verifies its runtime. -/
theorem Daemon.Backs.verified {state : DaemonState} (h : daemon.Backs p state)
    (hmem : state ∈ daemon.states) :
    daemon.Verified p state.eventSequence state.generation state.primary := by
  intro harmed
  obtain ⟨applied, happlied, hvouches⟩ := h.armed harmed
  have hplan := h.generation applied happlied
  have hruntime : state.primary.generation = applied.plan.generation := by
    obtain ⟨inspected, -, hsame, hpairs⟩ := hvouches
    rw [← hsame]
    exact hpairs.2.2
  exact ⟨hruntime.trans hplan, state, hmem, rfl, rfl, applied, happlied, hplan, hvouches⟩

/-- A state without a plan is backed as long as its runtime is not armed. -/
theorem Daemon.Backs.of_nothing {state : DaemonState} (happlied : state.applied = none)
    (hphase : state.primary.phase ≠ .armed) : daemon.Backs p state where
  generation := by
    intro applied hsome
    rw [happlied] at hsome
    exact nomatch hsome
  armed := fun harmed => absurd harmed hphase

/-! ## What a write keeps -/

/-- A write under its condition leaves a backed state backed. -/
theorem Daemon.Backs.write {w : StateWrite} (h : daemon.Backs p daemon.state)
    (harms : w.ArmsVerified p daemon) (hwitnessed : w.Witnessed p daemon) :
    daemon.Backs p (daemon.state.write w).1 := by
  match w, harms, hwitnessed with
  | .beginApply _, _, _ => exact ⟨h.generation, h.armed⟩
  | .recordFailure _, _, _ => exact ⟨h.generation, h.armed⟩
  | .recordRolledBackFailure _, _, _ => exact ⟨h.generation, h.armed⟩
  | .recordKernelRestoreFailure _, _, _ => exact ⟨h.generation, h.armed⟩
  | .recordVerificationFailure _ _, _, _ => exact ⟨h.generation, h.armed⟩
  | .reconciliationFailed _, _, _ => exact ⟨h.generation, h.armed⟩
  | .commit _ verified, _, hvouches =>
    refine ⟨?_, fun _ => ⟨_, rfl, hvouches⟩⟩
    rintro _ ⟨⟩
    rfl
  | .reconciledPlan plan _ _ runtime, harms, hvouches =>
    refine ⟨?_, fun harmed => ⟨_, rfl, hvouches (harms harmed)⟩⟩
    rintro _ ⟨⟩
    rfl
  | .deactivated, _, _ => exact .of_nothing rfl RuntimePhase.noConfusion
  | .recovered, harms, _ => exact .of_nothing rfl harms
  | .reconciledInactive runtime, harms, _ => exact .of_nothing rfl harms
  | .drift none _ _, _, _ => exact ⟨h.generation, h.armed⟩
  | .drift (some plan) _ _, harms, _ =>
    refine ⟨?_, fun harmed => ⟨_, rfl, harms harmed⟩⟩
    rintro _ ⟨⟩
    rfl
  | .follow (some (plan, _)) inspected, _, hvouches =>
    rcases lt_or_ge inspected.runtime.generation daemon.state.generation with hstale | hfresh
    · rw [DaemonState.write_follow_stale _ hstale]
      exact h
    · rw [DaemonState.write_follow_fresh _ hfresh]
      refine ⟨?_, fun _ => ⟨_, rfl, hvouches⟩⟩
      rintro _ ⟨⟩
      rfl
  | .follow none inspected, harms, _ =>
    rcases lt_or_ge inspected.runtime.generation daemon.state.generation with hstale | hfresh
    · rw [DaemonState.write_follow_stale _ hstale]
      exact h
    · rw [DaemonState.write_follow_fresh _ hfresh, DaemonState.followed]
      split
      · rename_i hinactive
        refine .of_nothing rfl fun harmed => ?_
        have hheld := (harms hfresh harmed).1
        simp only [Bool.and_eq_true, Option.isNone_iff_eq_none] at hinactive
        simp [hinactive.1, hinactive.2] at hheld
      · exact ⟨h.generation, fun harmed => (harms hfresh harmed).2⟩

/-- Only `follow_runtime` publishes a runtime, and it is the one it leaves. -/
theorem DaemonState.write_primaryChanged {state : DaemonState} {w : StateWrite}
    {event : ℕ → DaemonEvent} (h : (state.write w).2 = some event)
    {n sequence generation : ℕ} {primary : RuntimeStatus}
    (hevent : event n = .primaryChanged sequence generation primary) :
    sequence = n ∧ generation = (state.write w).1.generation ∧
      primary = (state.write w).1.primary := by
  cases w with
  | follow paired inspected =>
    simp only [DaemonState.write, DaemonState.follow] at h ⊢
    split at h
    · cases h
    · obtain rfl := Option.some.inj h
      rename_i hfresh
      rw [if_neg hfresh]
      cases hevent
      exact ⟨rfl, rfl, rfl⟩
  | commit _ _ | recordFailure _ | recordRolledBackFailure _ | recordKernelRestoreFailure _
  | recordVerificationFailure _ _ | deactivated =>
    obtain rfl := Option.some.inj h
    cases hevent
  | _ => cases h

theorem Daemon.extends_write (daemon : Daemon) (w : StateWrite) :
    daemon.Extends (daemon.write w) where
  states := by
    intro state hstate
    rw [Daemon.states, daemon.past_write]
    exact List.mem_cons_of_mem _ hstate
  inspections := by
    intro inspected hinspected
    rwa [daemon.inspections_write]

/-- A write under its condition leaves a sound daemon sound. -/
theorem Daemon.Sound.write {w : StateWrite} (h : daemon.Sound p)
    (harms : w.ArmsVerified p daemon) (hwitnessed : w.Witnessed p daemon) :
    (daemon.write w).Sound p := by
  have hlater := daemon.extends_write w
  have hstate : (daemon.write w).Backs p (daemon.write w).state := by
    have hbacks := (h.state.write harms hwitnessed).mono hlater
    rw [daemon.state_write]
    split
    · exact ⟨hbacks.generation, hbacks.armed⟩
    · exact hbacks
  refine ⟨hstate, fun sequence generation primary hmem => ?_⟩
  rcases daemon.events_write w with hsame | ⟨event, hevent, hevents⟩
  · rw [hsame] at hmem
    exact (h.events sequence generation primary hmem).mono hlater
  · rw [hevents] at hmem
    rcases List.mem_cons.1 hmem with hnew | hold
    · obtain ⟨rfl, rfl, rfl⟩ := DaemonState.write_primaryChanged hevent hnew.symm
      have hverified := hstate.verified (List.mem_cons_self)
      have hgeneration : (daemon.write w).state.generation = (daemon.state.write w).1.generation := by
        rw [daemon.state_write]
        split <;> rfl
      have hprimary : (daemon.write w).state.primary = (daemon.state.write w).1.primary := by
        rw [daemon.state_write]
        split <;> rfl
      rwa [hgeneration, hprimary] at hverified
    · exact (h.events sequence generation primary hold).mono hlater

/-- A step that writes nothing keeps a sound daemon sound. -/
theorem Daemon.Sound.congr (h : daemon.Sound p) (hstate : later.state = daemon.state)
    (hevents : later.events = daemon.events) (hlater : daemon.Extends later) : later.Sound p where
  state := by
    rw [hstate]
    exact h.state.mono hlater
  events := by
    intro sequence generation primary hmem
    rw [hevents] at hmem
    exact (h.events sequence generation primary hmem).mono hlater

/-! ## What the operations promise one another -/

variable (p)

/-- The daemon stays sound, its history only grows, and the writes that take a runtime as it
comes meet their conditions. -/
def armedContract : Contract Daemon Section where
  inv := Daemon.Sound p
  later := Daemon.Extends
  allowed := Section.ArmsVerified p
  later_refl := Daemon.Extends.refl
  later_trans := Daemon.Extends.trans

variable {p} {α : Type}

/-- A task of the service that keeps the contract from a daemon on. -/
abbrev Service.Keeps (p : Primitives) (post : α → Daemon → Prop) (task : ServiceTask α)
    (daemon : Daemon) : Prop := (armedContract p).Safe service post task daemon

/-- Nothing in particular. -/
def Service.anything (_ : α) (_ : Daemon) : Prop := True

namespace Service

open Contract

theorem perform_keeps {l : Section} (hnone : l.stateWrite = none) (h : daemon.Sound p) :
    (armedContract p).Keeps daemon (service.perform l daemon) := by
  obtain ⟨hstate, hevents, hpast, hinspections⟩ := Section.perform_of_no_write hnone daemon
  have hlater : daemon.Extends (service.perform l daemon) := by
    constructor
    · intro state hmem
      show state ∈ (l.perform daemon).state :: (l.perform daemon).past
      rwa [hstate, hpast]
    · intro inspected hmem
      show inspected ∈ (l.perform daemon).inspections
      rwa [hinspections]
  exact ⟨h.congr hstate hevents hlater, hlater⟩

theorem hear_keeps (q : Call) (a : q.Reply) (h : daemon.Sound p) :
    (armedContract p).Keeps daemon (service.hear q a daemon) := by
  have hlater : daemon.Extends (service.hear q a daemon) := by
    cases q with
    | inspect =>
      cases a with
      | error e => exact .refl daemon
      | ok inspected => exact ⟨fun _ hmem => hmem, fun _ hmem => List.mem_cons_of_mem _ hmem⟩
    | _ => exact .refl daemon
  refine ⟨h.congr ?_ ?_ hlater, hlater⟩
  · cases q with
    | inspect => cases a <;> rfl
    | _ => rfl
  · cases q with
    | inspect => cases a <;> rfl
    | _ => rfl

variable {post : α → Daemon → Prop} {β : Type} {post' : β → Daemon → Prop}

theorem keeps_pure (a : α) : Keeps p anything (pure a) daemon := fun _ _ _ => trivial

/-- Whatever came of a task, what follows it keeps the contract. -/
theorem Keeps.andThen {task : ServiceTask α} {f : α → ServiceTask β}
    (h : Keeps p anything task daemon) (hnext : ∀ a later, Keeps p post' (f a) later) :
    Keeps p post' (task >>= f) daemon :=
  Safe.bind h fun a later _ _ _ => hnext a later

theorem keeps_question (q : Call) : Keeps p anything (Task.question q) daemon :=
  safe_question (fun _ _ hinv a => hear_keeps q a hinv) fun _ _ _ _ _ => trivial

/-- What the helper told is remembered. -/
theorem keeps_inspect : Keeps p
    (fun reply later => ∀ inspected, reply = .ok inspected → inspected ∈ later.inspections)
    inspect daemon := by
  refine safe_question (fun _ _ hinv a => hear_keeps .inspect a hinv) ?_
  rintro _ reply later hlater _ inspected rfl
  exact hlater.inspections inspected List.mem_cons_self

theorem keeps_section {l : Section} (hnone : l.stateWrite = none) :
    Keeps p anything (Task.step l) daemon :=
  safe_step (fun _ _ hinv _ _ => perform_keeps hnone hinv) fun _ _ _ _ _ _ => trivial

/-- A state that was read is one the daemon has been in, and backed. -/
theorem keeps_readState : Keeps p
    (fun state later => state ∈ later.states ∧ later.Backs p state) readState daemon := by
  have hread : Keeps p (fun found later => found.state ∈ later.states ∧
      later.Backs p found.state) (Task.step Section.read) daemon := by
    refine safe_step (fun _ _ hinv _ _ => perform_keeps rfl hinv) ?_
    intro found later _ hinv hlater _
    exact ⟨hlater.states _ List.mem_cons_self, hinv.state.mono hlater⟩
  refine Safe.bind hread fun found later _ _ hfound latest hlatest _ => ?_
  exact ⟨hlatest.states _ hfound.1, hfound.2.mono hlatest⟩

/-- A write an operation has seen to what it can for. -/
theorem keeps_stateWrite {w : StateWrite} (hwitnessed : w.Witnessed p daemon) :
    Keeps p anything (Task.step (Section.write w)) daemon := by
  refine safe_step ?_ fun _ _ _ _ _ _ => trivial
  intro later hlater hinv _ hallowed
  exact ⟨hinv.write (hallowed w rfl) (hwitnessed.mono hlater), later.extends_write w⟩

theorem keeps_write {w : StateWrite} (hwitnessed : w.Witnessed p daemon) :
    Keeps p anything (write w) daemon := by
  refine (keeps_stateWrite hwitnessed).andThen fun found _ => ?_
  split
  · trivial
  · exact keeps_pure ()

theorem keeps_withMutation {task : ServiceTask α} (h : ∀ later, Keeps p post task later) :
    Keeps p post (withMutation task) daemon := by
  intro later _ hinv _ _
  exact ⟨perform_keeps rfl hinv, (h _).guarded fun _ hinv => perform_keeps rfl hinv⟩

theorem keeps_underGate {task : ReconciliationGate → ServiceTask α}
    (h : ∀ gate later, Keeps p post (task gate) later) :
    Keeps p post (underGate task) daemon := by
  intro later _ hinv _ _
  exact ⟨perform_keeps rfl hinv, (h _ _).guarded fun _ hinv => perform_keeps rfl hinv⟩

/-! ### Reconciliation -/

variable {texts : ProbeTexts}

theorem keeps_drift (plan : Option KernelPlan) (code detail : String) :
    Keeps p anything (recordReconciliationDriftWithCode plan code detail) daemon :=
  (keeps_write (by trivial)).andThen fun _ _ => keeps_pure _

/-- The runtime taken over with a plan is one the helper told of. -/
theorem keeps_reconcilePlan {inspected : InspectResponse} {plan : KernelPlan}
    (htold : inspected ∈ daemon.inspections) :
    Keeps p anything (reconcilePlan p texts inspected plan) daemon := by
  unfold reconcilePlan
  split
  · exact keeps_drift _ _ _
  · rename_i hagrees
    obtain ⟨hgeneration, hhash⟩ := not_or.1 hagrees
    refine Safe.bind keeps_readState fun state later hlater _ _ => ?_
    refine Keeps.andThen (keeps_write ?_) fun _ _ => ?_
    · exact fun hruntime => ⟨inspected, hlater.inspections _ htold, rfl, not_not.1 hgeneration,
        not_not.1 hhash, hruntime⟩
    · split
      · exact keeps_pure _
      · exact keeps_drift _ _ _

theorem keeps_reconcileFromHelper :
    Keeps p anything (reconcileFromHelper p texts) daemon := by
  refine Safe.bind keeps_inspect fun reply later _ _ htold => ?_
  cases reply with
  | error error => exact (keeps_write (by trivial)).andThen fun _ _ => keeps_pure _
  | ok inspected =>
    dsimp only
    split
    · exact keeps_drift _ _ _
    · split
      · exact keeps_reconcilePlan (htold inspected rfl)
      · split
        · exact keeps_drift _ _ _
        · exact (keeps_write (by trivial)).andThen fun _ _ => keeps_pure _

theorem keeps_ensureReconciled : Keeps p anything (ensureReconciled p texts) daemon := by
  refine (keeps_section (by rfl)).andThen fun before _ => ?_
  refine Keeps.andThen (keeps_underGate fun gate _ => ?_) fun settled _ => ?_
  · split
    · split
      · exact keeps_pure _
      · trivial
    · split
      · exact keeps_pure _
      · refine keeps_reconcileFromHelper.andThen fun result _ => ?_
        split
        · exact (keeps_section (by rfl)).andThen fun _ _ => keeps_pure _
        · trivial
  · obtain ⟨outcome, completedAttempts⟩ := settled
    cases completedAttempts with
    | some attempts => exact (keeps_section (by rfl)).andThen fun _ _ => keeps_pure _
    | none => exact keeps_pure _

/-! ### Status -/

theorem keeps_withLiveTopology (profile : Option Profile) (snapshot : KernelSnapshot) :
    Keeps p anything (withLiveTopology profile snapshot) daemon := by
  cases profile with
  | none => exact keeps_pure _
  | some profile =>
    refine (keeps_question (.topology profile)).andThen fun reply _ => ?_
    cases reply <;> exact keeps_pure _

/-- A runtime that is reported armed pairs with the plan it is reported for. -/
theorem armed_reportedRuntime {inspected : InspectResponse} {plan : KernelPlan}
    (harmed : (reportedRuntime p inspected plan).phase = .armed) :
    reportedRuntime p inspected plan = inspected.runtime ∧ inspected.PairsWith p.blake3 plan := by
  unfold reportedRuntime at *
  split at harmed
  · exact nomatch harmed
  · rename_i hpaired
    rw [if_neg hpaired]
    refine ⟨rfl, ?_⟩
    by_contra hunpaired
    exact hpaired ⟨hunpaired, harmed⟩

theorem keeps_inspectPlanHealth (profile : Option Profile) (plan : KernelPlan) :
    Keeps p (fun reply later => ∀ report runtime, reply = .ok (report, runtime) →
        runtime.phase = .armed → later.Vouches p runtime plan)
      (inspectPlanHealth p texts profile plan) daemon := by
  refine Safe.bind keeps_inspect fun reply later _ _ htold => ?_
  cases reply with
  | error error => exact fun _ _ _ _ _ hok => nomatch hok
  | ok inspected =>
    refine Safe.bind (keeps_withLiveTopology profile inspected.snapshot)
      fun reply latest hlatest _ _ => ?_
    cases reply with
    | error error => exact fun _ _ _ _ _ hok => nomatch hok
    | ok snapshot =>
      rintro last hlast _ report runtime hok harmed
      obtain ⟨-, rfl⟩ := Prod.mk.inj (Except.ok.inj hok)
      obtain ⟨hsame, hpairs⟩ := armed_reportedRuntime harmed
      exact ⟨inspected, hlast.inspections _ (hlatest.inspections _ (htold inspected rfl)),
        hsame.symm, hpairs⟩

/-- Every status that is returned is verified. -/
theorem keeps_currentStatus : Keeps p
    (fun status later => later.Verified p status.eventSequence status.generation status.primary)
    (currentStatus p texts) daemon := by
  refine keeps_ensureReconciled.andThen fun reconciliation _ => ?_
  split
  · refine Safe.bind keeps_readState fun state later _ _ hstate latest hlatest _ => ?_
    exact (hstate.2.verified hstate.1).mono hlatest
  · refine Safe.bind keeps_readState fun base later _ _ hbase => ?_
    cases happlied : base.applied with
    | none => exact fun latest hlatest _ => (hbase.2.verified hbase.1).mono hlatest
    | some applied =>
      refine Safe.bind (keeps_inspectPlanHealth base.appliedProfile applied.plan)
        fun reply latest hlatest _ hreply => ?_
      cases reply with
      | error error =>
        exact fun last hlast _ => (hbase.2.verified hbase.1).mono (hlatest.trans hlast)
      | ok reported =>
        obtain ⟨report, runtime⟩ := reported
        intro last hlast _ harmed
        have hvouches := (hreply report runtime rfl harmed).mono hlast
        have hplan := hbase.2.generation applied happlied
        refine ⟨?_, base, (hlatest.trans hlast).states _ hbase.1, rfl, rfl, applied, happlied,
          hplan, hvouches⟩
        obtain ⟨inspected, -, hsame, hpairs⟩ := hvouches
        show runtime.generation = base.generation
        rw [← hsame, hpairs.2.2, hplan]

/-! ### Activation -/

theorem keeps_inspectRuntime (profile : Option Profile) (plan : KernelPlan)
    (expectedPolicy : PlanHash) :
    Keeps p (fun reply later => ∀ verified, reply = .ok verified →
        later.Vouches p verified.runtime verified.plan)
      (inspectRuntime p texts profile plan expectedPolicy) daemon := by
  refine Safe.bind keeps_inspect fun reply later _ _ htold => ?_
  cases reply with
  | error error => exact fun _ _ _ _ hok => nomatch hok
  | ok inspected =>
    dsimp only
    split
    · exact fun _ _ _ _ hok => nomatch hok
    · rename_i live hlive
      refine Safe.bind (keeps_withLiveTopology profile inspected.snapshot)
        fun reply latest hlatest _ _ => ?_
      cases reply with
      | error error => exact fun _ _ _ _ hok => nomatch hok
      | ok snapshot =>
        rintro last hlast _ _ ⟨⟩
        have hchecked := (Option.filter_eq_some_iff.1 hlive).2
        have hpairs : inspected.PairsWith p.blake3 live :=
          of_decide_eq_true (Bool.and_eq_true _ _ ▸ hchecked).1
        exact ⟨inspected, hlast.inspections _ (hlatest.inspections _ (htold inspected rfl)), rfl,
          hpairs⟩

theorem keeps_restoreRuntimeReceipt (receipt : String) :
    Keeps p anything (restoreRuntimeReceipt receipt) daemon := by
  refine (keeps_question (.restoreRuntime receipt)).andThen fun reply _ => ?_
  cases reply with
  | ok status => exact keeps_pure _
  | error error => exact (keeps_write (by trivial)).andThen fun _ _ => keeps_pure _

theorem keeps_rolledBack {record : StateWrite} (receipt : String) (error : DaemonError)
    (h : ∀ later, record.Witnessed p later) :
    Keeps p anything (rolledBack (α := α) receipt record error) daemon := by
  refine (keeps_restoreRuntimeReceipt receipt).andThen fun reply later => ?_
  cases reply with
  | error failed => exact keeps_pure _
  | ok restored => exact (keeps_write (h later)).andThen fun _ _ => keeps_pure _

theorem keeps_failWith (error : DaemonError) :
    Keeps p anything (failWith (α := α) error) daemon :=
  (keeps_write (by trivial)).andThen fun _ _ => keeps_pure _

theorem keeps_verifyActivation (profile : Profile) (resolutions : ResolutionSnapshot)
    (expectedGeneration : ℕ) (response : RuntimeApplyResponse) :
    Keeps p anything
      (verifyActivation p texts profile resolutions expectedGeneration response) daemon := by
  unfold verifyActivation
  dsimp only
  split
  · exact keeps_rolledBack _ _ fun _ => trivial
  · refine Safe.bind (keeps_inspectRuntime _ _ _) fun reply later _ _ hreply => ?_
    cases reply with
    | error error => exact keeps_rolledBack _ _ fun _ => trivial
    | ok verified =>
      dsimp only
      split
      · have hvouches := hreply verified rfl
        exact (keeps_write (by exact hvouches)).andThen fun _ _ => keeps_pure _
      · exact keeps_rolledBack _ _ fun _ => trivial

theorem keeps_applyProfileLocked (profile : Profile) :
    Keeps p anything (applyProfileLocked p texts profile) daemon := by
  unfold applyProfileLocked
  split
  · exact keeps_failWith _
  · refine (keeps_question (.saveConfig (some profile))).andThen fun saved _ => ?_
    cases saved with
    | error error => exact keeps_failWith _
    | ok saved =>
      refine (keeps_stateWrite (by trivial)).andThen fun found _ => ?_
      refine (keeps_question (.resolutions profile)).andThen fun resolved _ => ?_
      cases resolved with
      | error error => exact keeps_failWith _
      | ok resolutions =>
        refine (keeps_question (.activateRuntime _)).andThen fun activated _ => ?_
        cases activated with
        | error error => exact keeps_failWith _
        | ok response => exact keeps_verifyActivation _ _ _ _

theorem keeps_applyProfile (profile : Profile) :
    Keeps p anything (applyProfile p texts profile) daemon := by
  refine keeps_ensureReconciled.andThen fun reconciliation _ => ?_
  split
  · exact keeps_pure _
  · exact keeps_withMutation fun _ => keeps_applyProfileLocked profile

theorem keeps_setRuleEnabled (profileId : ProfileId) (ruleId : RuleId) (enabled : Bool) :
    Keeps p anything (setRuleEnabled p texts profileId ruleId enabled) daemon := by
  refine keeps_ensureReconciled.andThen fun reconciliation _ => ?_
  split
  · exact keeps_pure _
  · refine keeps_withMutation fun _ => Safe.bind keeps_readState fun state _ _ _ _ => ?_
    split
    · exact keeps_pure _
    · split
      · exact keeps_pure _
      · split
        · exact keeps_pure _
        · exact keeps_applyProfileLocked _

/-! ### Announcements, deactivation and recovery -/

theorem keeps_followedSnapshot (profile : Option Profile) (snapshot : KernelSnapshot) :
    Keeps p anything (followedSnapshot profile snapshot) daemon := by
  refine (keeps_withLiveTopology profile snapshot).andThen fun reply _ => ?_
  cases reply <;> exact keeps_pure _

theorem keeps_followRuntime (announced : Option RuntimeStatus) :
    Keeps p anything (followRuntime p texts announced) daemon := by
  refine keeps_withMutation fun _ => Safe.bind keeps_readState fun state _ _ _ _ => ?_
  split
  · exact keeps_pure _
  · refine Safe.bind keeps_inspect fun reply later _ _ htold => ?_
    cases reply with
    | error error => exact keeps_write trivial
    | ok inspected =>
      dsimp only
      split
      · rename_i plan hpaired
        refine Safe.bind (keeps_followedSnapshot _ _) fun snapshot latest hlatest _ _ => ?_
        have hchecked := (Option.filter_eq_some_iff.1 hpaired).2
        have hpairs : inspected.PairsWith p.blake3 plan :=
          of_decide_eq_true (Bool.and_eq_true _ _ ▸ hchecked).1
        exact keeps_write ⟨inspected, hlatest.inspections _ (htold inspected rfl), rfl, hpairs⟩
      · exact keeps_write trivial

theorem keeps_removable (result : Except DaemonError Unit) :
    Keeps p anything (removable result) daemon := by
  unfold removable
  split
  · exact keeps_pure _
  · split
    · exact keeps_pure _
    · split
      · exact Safe.bind keeps_readState fun _ _ _ _ _ => keeps_pure _
      · exact keeps_pure _

theorem keeps_deactivate : Keeps p anything (deactivate p texts) daemon := by
  refine keeps_withMutation fun _ => keeps_ensureReconciled.andThen fun reconciliation _ => ?_
  refine (keeps_removable _).andThen fun removed _ => ?_
  split
  · refine (keeps_question .cleanup).andThen fun cleaned _ => ?_
    cases cleaned with
    | error error => exact keeps_failWith _
    | ok cleaned =>
      refine (keeps_section (by rfl)).andThen fun _ _ => ?_
      exact (keeps_write (by trivial)).andThen fun _ _ => keeps_pure _
  · exact keeps_pure _

theorem keeps_recoverOrphanedResources :
    Keeps p anything (recoverOrphanedResources p texts) daemon := by
  refine keeps_withMutation fun _ => Safe.bind keeps_readState fun state _ _ _ _ => ?_
  split
  · exact keeps_pure _
  · refine (keeps_question .recoverOrphanedResources).andThen fun recovered _ => ?_
    cases recovered with
    | error error => exact keeps_pure _
    | ok cleaned =>
      refine (keeps_section (by rfl)).andThen fun _ _ => ?_
      refine (keeps_write (by trivial)).andThen fun _ _ => ?_
      refine keeps_ensureReconciled.andThen fun reconciliation _ => ?_
      split <;> exact keeps_pure _

/-! ### Applications -/

theorem keeps_rejectSandboxes (programs : List PathBuf) :
    ∀ daemon, Keeps p anything (rejectSandboxes programs) daemon := by
  induction programs with
  | nil => exact fun _ => keeps_pure _
  | cons program rest ih =>
    intro daemon
    refine (keeps_question (.canonicalize program)).andThen fun resolved _ => ?_
    cases resolved with
    | error error => exact keeps_pure _
    | ok resolved =>
      dsimp only
      split
      · exact keeps_pure _
      · exact ih _

theorem keeps_applicationSelector (profileId : ProfileId) (ruleId : RuleId) :
    Keeps p anything (applicationSelector profileId ruleId) daemon := by
  refine Safe.bind keeps_readState fun state _ _ _ _ => ?_
  split
  · exact keeps_pure _
  · refine (keeps_rejectSandboxes _ _).andThen fun rejected _ => ?_
    cases rejected <;> exact keeps_pure _

theorem keeps_launchApplication (profileId : ProfileId) (ruleId : RuleId) :
    Keeps p anything (launchApplication p texts profileId ruleId) daemon := by
  refine keeps_withMutation fun _ => keeps_ensureReconciled.andThen fun reconciliation _ => ?_
  split
  · exact keeps_pure _
  · refine (keeps_applicationSelector _ _).andThen fun selected _ => ?_
    cases selected with
    | error error => exact keeps_pure _
    | ok selector =>
      refine (keeps_question (.prepareApplicationCgroup ruleId)).andThen fun prepared _ => ?_
      cases prepared with
      | error error => exact keeps_pure _
      | ok cgroup =>
        refine (keeps_question (.spawn _ _ _)).andThen fun spawned _ => ?_
        split <;> exact keeps_pure _

theorem keeps_adoptProcesses (ruleId : RuleId) (processes : List RunningProcess) :
    ∀ counts daemon, Keeps p anything (adoptProcesses ruleId processes counts) daemon := by
  induction processes with
  | nil => exact fun _ _ => keeps_pure _
  | cons process rest ih =>
    intro counts daemon
    refine (keeps_question (.adoptApplicationProcess ruleId process)).andThen
      fun adopted _ => ?_
    cases adopted with
    | ok adopted => exact ih _ _
    | error error =>
      dsimp only
      split
      · exact keeps_pure _
      · exact ih _ _

theorem keeps_adoptApplicationProcesses (profileId : ProfileId) (ruleId : RuleId) :
    Keeps p anything (adoptApplicationProcesses p texts profileId ruleId) daemon := by
  refine keeps_withMutation fun _ => keeps_ensureReconciled.andThen fun reconciliation _ => ?_
  split
  · exact keeps_pure _
  · refine (keeps_applicationSelector _ _).andThen fun selected _ => ?_
    cases selected with
    | error error => exact keeps_pure _
    | ok selector =>
      refine (keeps_question (.matchingProcesses selector)).andThen fun processes _ => ?_
      exact keeps_adoptProcesses _ _ _ _

/-! ### Requests -/

theorem keeps_respond {requestId : String} {wrap : α → DaemonResult}
    {task : ServiceTask (Except DaemonError α)} (hwrap : ∀ a status, wrap a ≠ .status status)
    (h : Keeps p anything task daemon) :
    Keeps p (fun response later => later.Answers p (some response))
      (respond requestId wrap task) daemon := by
  refine h.andThen fun reply _ => ?_
  cases reply with
  | ok a =>
    rintro _ _ _ response status ⟨⟩ hstatus
    exact absurd (Option.some.inj hstatus) (hwrap a status)
  | error error =>
    rintro _ _ _ response status ⟨⟩ hstatus
    exact nomatch hstatus

theorem keeps_dispatch (requestId : String) (request : DaemonRequest) :
    Keeps p (fun response later => later.Answers p (some response))
      (dispatch p texts requestId request) daemon := by
  cases request with
  | getStatus =>
    refine Safe.bind keeps_currentStatus fun status later _ _ hstatus => ?_
    rintro latest hlatest _ response told ⟨⟩ htold
    obtain rfl := DaemonResult.status.inj (Option.some.inj htold)
    exact hstatus.mono hlatest
  | listProfiles =>
    refine keeps_ensureReconciled.andThen fun _ _ => ?_
    refine Safe.bind keeps_readState fun state _ _ _ _ => ?_
    rintro _ _ _ response status ⟨⟩ hstatus
    exact nomatch Option.some.inj hstatus
  | applyProfile profile => exact keeps_respond (by simp) (keeps_applyProfile _)
  | setRuleEnabled profileId ruleId enabled =>
    exact keeps_respond (by simp) (keeps_setRuleEnabled _ _ _)
  | launchApplication profileId ruleId =>
    exact keeps_respond (by simp) (keeps_launchApplication _ _)
  | adoptApplicationProcesses profileId ruleId =>
    exact keeps_respond (by simp) (keeps_adoptApplicationProcesses _ _)
  | recoverOrphanedResources => exact keeps_respond (by simp) keeps_recoverOrphanedResources
  | deactivate => exact keeps_respond (by simp) keeps_deactivate
  | subscribe =>
    rintro _ _ _ response status ⟨⟩ hstatus
    exact nomatch Option.some.inj hstatus

theorem keeps_handle (envelope : DaemonEnvelope) :
    Keeps p (fun response later => later.Answers p (some response))
      (handle p texts envelope) daemon := by
  unfold handle
  split
  · rintro _ _ _ response status ⟨⟩ hstatus
    exact nomatch hstatus
  · split
    · rintro _ _ _ response status ⟨⟩ hstatus
      exact nomatch hstatus
    · exact keeps_dispatch _ _

/-- Every operation keeps the contract. -/
theorem keeps_task (operation : Operation) :
    Keeps p (fun response later => later.Answers p response) (operation.task p texts) daemon := by
  cases operation with
  | request envelope =>
    exact Safe.bind (keeps_handle envelope) fun response later _ _ hanswers latest hlatest _ =>
      hanswers.mono hlatest
  | runtimeChanged announced =>
    exact (keeps_followRuntime _).andThen fun _ _ _ _ _ response _ hnone => nomatch hnone
  | helperAppeared =>
    exact (keeps_followRuntime _).andThen fun _ _ _ _ _ response _ hnone => nomatch hnone

end Service

/-! ## Armed means verified -/

theorem Daemon.sound_new (p : Primitives) (desired : Option Profile) :
    (Daemon.new desired).Sound p where
  state := .of_nothing rfl RuntimePhase.noConfusion
  events := fun _ _ _ hmem => nomatch hmem

/-- In every run of the service whose steps meet the condition, whatever the helper replies
and however the operations overlap, every runtime it announced and every status it returned
is verified. -/
theorem armed_means_verified (p : Primitives) (texts : ProbeTexts) (desired : Option Profile)
    {c : Config Daemon Section Call Call.Reply (Option DaemonResponse)}
    (hruns : Runs service (Service.IsOperation p texts) (Section.ArmsVerified p)
      ⟨Daemon.new desired, [], []⟩ c) :
    (∀ sequence generation primary, .primaryChanged sequence generation primary ∈ c.state.events →
      c.state.Verified p sequence generation primary) ∧
      ∀ response ∈ c.results, c.state.Answers p response := by
  have hstart : Contract.Kept (armedContract p) service
      (fun response later => later.Answers p response)
      (⟨Daemon.new desired, [], []⟩ :
        Config Daemon Section Call Call.Reply (Option DaemonResponse)) :=
    ⟨Daemon.sound_new p desired, by simp, by simp⟩
  have hstarts : ∀ task, Service.IsOperation p texts task → ∀ daemon : Daemon, daemon.Sound p →
      (armedContract p).Safe service (fun response later => later.Answers p response) task
        daemon := by
    rintro _ ⟨operation, rfl⟩ daemon _
    exact Service.keeps_task operation
  obtain ⟨hkept, -⟩ := hstart.runs hstarts hruns
  refine ⟨hkept.inv.events, fun response hresponse => ?_⟩
  exact hkept.results response hresponse c.state (.refl _) hkept.inv

/-- A client asks for the status while the helper holds an armed plan. -/
theorem armed_means_verified_status :
    driftedDaemon.state.primary.phase = .armed ∧
      ∃ response, driftedDaemon.Answers countPrimitives response := by
  obtain ⟨response, hruns⟩ := (Daemon.new none).runs_after
    (Section.ArmsVerified countPrimitives) getStatus (emptiedInspection 5) []
    (by decide +kernel) (by decide +kernel)
  have hverified := armed_means_verified countPrimitives plainTexts none hruns
  exact ⟨by decide +kernel, response, hverified.2 response List.mem_cons_self⟩

/-- What the helper tells once another client activated a policy of its own. -/
def seizedInspection : InspectResponse :=
  { emptiedInspection 7 with
    runtime.grant := some { bareRuntime.grant with policyHash := "q" } }

/-- The activation of generation six is announced, and told of once another client's of
generation seven is over it: the daemon follows what it can not pair, and publishes its
armed runtime under the generation it held before. -/
theorem unpaired_armed_published :
    ∃ c, Runs service (Service.IsOperation countPrimitives plainTexts) (fun _ _ => True)
        ⟨Daemon.new none, [], []⟩ c ∧
      ∃ sequence generation primary,
        .primaryChanged sequence generation primary ∈ c.state.events ∧
          primary.phase = .armed ∧ primary.generation ≠ generation := by
  obtain ⟨first, hfirst⟩ := (Daemon.new none).runs_after (fun _ _ => True) .helperAppeared
    (emptiedInspection 5) [] obeys_true (by decide +kernel)
  obtain ⟨second, hsecond⟩ := followingDaemon.runs_after (fun _ _ => True)
    (.runtimeChanged (emptiedInspection 6).runtime) seizedInspection [first] obeys_true
    (by decide +kernel)
  refine ⟨_, hfirst.trans hsecond, 2, 5, seizedInspection.runtime, ?_, rfl, by decide⟩
  have hevents : (followingDaemon.after (.runtimeChanged (emptiedInspection 6).runtime)
      seizedInspection).events.head? = some (.primaryChanged 2 5 seizedInspection.runtime) := by
    decide +kernel
  exact List.mem_of_head? hevents

end RouteLane
