import RouteLane.Helper.Authorized
import RouteLane.Helper.Warrant

/-!
# The lives of the helper

The helper starts, serves any requests side by side with its monitor, and is killed, between
two commands of a backend operation or anywhere else; what it leaves on disk the next one
starts from.  Over any number of lives journal and memory hold only plans and policies that
were there at the start, that were sent with a request polkit granted, or that such a policy
covers.
-/

namespace RouteLane

open Tasks Faults Fallible

/-! ## What was found, and what was granted -/

/-- A policy of the journal that was found. -/
def FoundPolicy (found : Option StoredAppliedState) (record : RuntimeRecord) : Prop :=
  ∃ journal ∈ found, record ∈ journal.runtime ∨ record ∈ journal.pendingRuntime ∨
    ∃ receipt ∈ journal.runtimeRestore, record ∈ receipt.previousRecord

/-- A plan of the journal that was found. -/
def FoundPlan (found : Option StoredAppliedState) (plan : KernelPlan) : Prop :=
  ∃ journal ∈ found, plan ∈ journal.active ∨ plan ∈ journal.pending ∨
    ∃ receipt ∈ journal.runtimeRestore, plan ∈ receipt.previousPlan

/-- The policy is what an activation makes that polkit granted, for the user the bus told the
sender to be and with devices of a topology the kernel showed. -/
def GrantedPolicy (codec : HelperCodec) (facts : List Fact) (record : RuntimeRecord) : Prop :=
  ∃ sender json activation uid topology,
    .granted sender (.helper2 (.activateRuntime json)) ∈ facts ∧
      codec.activation json = .ok activation ∧ .identified sender uid ∈ facts ∧
      .captured topology ∈ facts ∧ activation.Makes uid topology record

/-- The plan was sent with a request polkit granted, and is well formed. -/
def GrantedPlan (codec : HelperCodec) (facts : List Fact) (plan : KernelPlan) : Prop :=
  plan.WellFormed ∧ ∃ sender,
    (∃ json, .granted sender (.helper1 (.applyPlan json)) ∈ facts ∧ codec.plan json = .ok plan) ∨
    ∃ failed json, .granted sender (.helper1 (.restorePlan failed json)) ∈ facts ∧
      codec.plan json = .ok plan

/-- A policy that was found or granted, whatever was decided since. -/
def Entitled (codec : HelperCodec) (found : Option StoredAppliedState) (facts : List Fact)
    (record : RuntimeRecord) : Prop :=
  ∃ first, (FoundPolicy found first ∨ GrantedPolicy codec facts first) ∧
    record = { first with decision := record.decision }

/-- What may be in force after a journal was found and these things were told. -/
def warrantOf (codec : HelperCodec) (found : Option StoredAppliedState) (facts : List Fact) :
    Warrant where
  policy := Entitled codec found facts
  plan plan := ∃ first, (FoundPlan found first ∨ GrantedPlan codec facts first ∨
    ∃ record topology, Entitled codec found facts record ∧ Confined record topology first) ∧
      plan = { first with generation := plan.generation }
  undecided := by
    rintro record decision ⟨first, hfirst, hrecord⟩
    refine ⟨first, hfirst, ?_⟩
    rw [hrecord]
  renumbered := by
    rintro next generation ⟨first, hfirst, hnext⟩
    refine ⟨first, hfirst, ?_⟩
    rw [hnext]
  compiled record topology next hrecord hconfined :=
    ⟨next, Or.inr (Or.inr ⟨record, topology, hrecord, hconfined⟩), rfl⟩

section Warrants

variable {codec : HelperCodec} {found : Option StoredAppliedState} {facts facts' : List Fact}

theorem GrantedPolicy.mono {record : RuntimeRecord} (h : GrantedPolicy codec facts record)
    (hmore : facts ⊆ facts') : GrantedPolicy codec facts' record := by
  obtain ⟨sender, json, activation, uid, topology, hgranted, hjson, huid, htopology, hmakes⟩ := h
  exact ⟨sender, json, activation, uid, topology, hmore hgranted, hjson, hmore huid,
    hmore htopology, hmakes⟩

theorem GrantedPlan.mono {plan : KernelPlan} (h : GrantedPlan codec facts plan)
    (hmore : facts ⊆ facts') : GrantedPlan codec facts' plan := by
  obtain ⟨hformed, sender, ⟨json, hgranted, hjson⟩ | ⟨failed, json, hgranted, hjson⟩⟩ := h
  · exact ⟨hformed, sender, Or.inl ⟨json, hmore hgranted, hjson⟩⟩
  · exact ⟨hformed, sender, Or.inr ⟨failed, json, hmore hgranted, hjson⟩⟩

theorem Entitled.mono {record : RuntimeRecord} (h : Entitled codec found facts record)
    (hmore : facts ⊆ facts') : Entitled codec found facts' record := by
  obtain ⟨first, hfirst, hrecord⟩ := h
  exact ⟨first, hfirst.imp_right fun hgranted => hgranted.mono hmore, hrecord⟩

end Warrants

/-- One warrant covers no more than another. -/
structure Warrant.Within (w w' : Warrant) : Prop where
  policy : ∀ record, w.policy record → w'.policy record
  plan : ∀ plan, w.plan plan → w'.plan plan

namespace Warrant.Within

variable {w w' : Warrant}

theorem receipt (h : w.Within w') {receipt : RuntimeRestoreReceipt} (hreceipt : w.Receipt receipt) :
    w'.Receipt receipt :=
  ⟨fun plan hplan => h.plan plan (hreceipt.plan plan hplan),
    fun record hrecord => h.policy record (hreceipt.policy record hrecord)⟩

theorem journal (h : w.Within w') {record : StoredAppliedState} (hrecord : w.Journal record) :
    w'.Journal record where
  active plan hplan := h.plan plan (hrecord.active plan hplan)
  pending plan hplan := h.plan plan (hrecord.pending plan hplan)
  runtime runtime hruntime := h.policy runtime (hrecord.runtime runtime hruntime)
  pendingRuntime runtime hruntime := h.policy runtime (hrecord.pendingRuntime runtime hruntime)
  restore receipt hreceipt := h.receipt (hrecord.restore receipt hreceipt)

theorem store (h : w.Within w') {store : Option StoredAppliedState} (hstore : w.Store store) :
    w'.Store store := fun record hrecord => h.journal (hstore record hrecord)

theorem memory (h : w.Within w') {m : Backend} (hm : w.Memory m) : w'.Memory m where
  current plan hplan := h.plan plan (hm.current plan hplan)
  runtime runtime hruntime := h.policy runtime.record (hm.runtime runtime hruntime)
  restore receipt hreceipt := h.receipt (hm.restore receipt hreceipt)

end Warrant.Within

/-- More facts, more that is covered. -/
theorem warrantOf_within {codec : HelperCodec} {found : Option StoredAppliedState}
    {facts facts' : List Fact} (hmore : facts ⊆ facts') :
    (warrantOf codec found facts).Within (warrantOf codec found facts') where
  policy record h := h.mono hmore
  plan := by
    rintro plan ⟨first, hfirst, hplan⟩
    refine ⟨first, hfirst.imp_right (Or.imp ?_ ?_), hplan⟩
    · exact fun hgranted => hgranted.mono hmore
    · rintro ⟨record, topology, hrecord, hconfined⟩
      exact ⟨record, topology, hrecord.mono hmore, hconfined⟩

/-- What was found is covered. -/
theorem warrantOf_found (codec : HelperCodec) (found : Option StoredAppliedState)
    (facts : List Fact) : (warrantOf codec found facts).Store found := by
  intro journal hjournal
  have hplan : ∀ plan, (plan ∈ journal.active ∨ plan ∈ journal.pending ∨
      ∃ receipt ∈ journal.runtimeRestore, plan ∈ receipt.previousPlan) →
        (warrantOf codec found facts).plan plan :=
    fun plan h => ⟨plan, Or.inl ⟨journal, hjournal, h⟩, rfl⟩
  have hpolicy : ∀ record, (record ∈ journal.runtime ∨ record ∈ journal.pendingRuntime ∨
      ∃ receipt ∈ journal.runtimeRestore, record ∈ receipt.previousRecord) →
        (warrantOf codec found facts).policy record :=
    fun record h => ⟨record, Or.inl ⟨journal, hjournal, h⟩, rfl⟩
  exact
    { active := fun plan h => hplan plan (Or.inl h)
      pending := fun plan h => hplan plan (Or.inr (Or.inl h))
      runtime := fun record h => hpolicy record (Or.inl h)
      pendingRuntime := fun record h => hpolicy record (Or.inr (Or.inl h))
      restore := fun receipt hreceipt =>
        ⟨fun plan h => hplan plan (Or.inr (Or.inr ⟨receipt, hreceipt, h⟩)),
          fun record h => hpolicy record (Or.inr (Or.inr ⟨receipt, hreceipt, h⟩))⟩ }

/-! ## One operation -/

/-- What an operation is asked for is covered. -/
def BackendCall.Covered (w : Warrant) : BackendCall → Prop
  | .apply plan => w.plan plan
  | .restore _ previous => ∀ plan ∈ previous, w.plan plan
  | .activateRuntime activation uid topology _ =>
    ∀ record, activation.Makes uid topology record → w.policy record
  | _ => True

theorem BackendCall.Covered.upheld {p : Primitives} {w : Warrant} {call : BackendCall}
    (h : call.Covered w) {v : JournalView} {m : Backend} (hv : w.Store v.store)
    (hm : w.Memory m) : w.Upheld v m (call.program p) := by
  cases call with
  | apply plan => exact Warrant.upheld_apply h hv hm
  | inspect => exact Warrant.upheld_inspectState hv hm
  | restore failedCandidate previous => exact Warrant.upheld_restorePlan h hv hm
  | cleanup => exact Warrant.upheld_cleanupWithReceipt none hv hm
  | recoverOrphaned => exact Warrant.upheld_recoverOrphaned hv hm
  | activateRuntime activation uid topology now =>
    refine Upholds.bind (Warrant.upheld_activateRuntime now h hv hm) fun token v' m' hv' hm' => ?_
    exact Upholds.get_bind (Upholds.pure hv' hm')
  | refreshRuntime topology now => exact Warrant.upheld_refreshRuntime topology now hv hm
  | restoreRuntime token uid => exact Warrant.upheld_restoreRuntime token uid hv hm
  | runtimeStatus => exact Warrant.upheld_runtimeStatus hv hm
  | degradeRuntime reason => exact Warrant.upheld_degradeRuntime reason hv hm

/-- Everything the helper left on disk, leaves there or remembers is covered. -/
structure Helper.Covered (w : Warrant) (s : Helper) : Prop where
  left : ∀ e ∈ s.left, w.Store e.state.store
  store : w.Store s.backend.machine.store
  memory : w.Memory s.backend.memory

/-- An operation that is covered leaves everything covered, wherever it is killed. -/
theorem Helper.Covered.ran {p : Primitives} {w : Warrant} {s : Helper} (hs : s.Covered w)
    {call : BackendCall} (hcall : call.Covered w) : (s.ran (call.program p)).Covered w := by
  have hupheld := hcall.upheld (p := p) (v := s.backend.machine.view) hs.store hs.memory
  obtain ⟨hevents, hstore, hmemory⟩ := Upholds.run (w := s.backend) hupheld
  refine ⟨fun e he => ?_, hstore, hmemory⟩
  rcases List.mem_append.1 he with hold | hnew
  · exact hs.left e hold
  · exact hevents e hnew

/-! ## Requests side by side -/

section Contract

variable (p : Primitives) (codec : HelperCodec) (found : Option StoredAppliedState)
  (earlier : List Fact)

/-- What may be in force by now. -/
def Helper.warrant (s : Helper) : Warrant := warrantOf codec found (earlier ++ s.facts)

/-- The tasks keep everything covered, and no fact is forgotten. -/
def lifeContract : Tasks.Contract Helper HelperStep where
  inv s := s.Covered (s.warrant codec found earlier)
  later s t := s.facts ⊆ t.facts
  allowed := HelperStep.allowed
  later_refl s := List.Subset.refl s.facts
  later_trans h h' := List.Subset.trans h h'

variable {p codec found earlier} {s : Helper}

theorem Helper.warrant_within (codec : HelperCodec) (found : Option StoredAppliedState)
    (earlier : List Fact) {s t : Helper} (h : s.facts ⊆ t.facts) :
    (s.warrant codec found earlier).Within (t.warrant codec found earlier) :=
  warrantOf_within fun _ hfact => (List.mem_append.1 hfact).elim (List.mem_append_left _)
    fun hnew => List.mem_append_right _ (h hnew)

/-- A step that leaves the backend alone. -/
theorem keeps_quiet {t : Helper} (hinv : s.Covered (s.warrant codec found earlier))
    (hleft : t.left = s.left) (hbackend : t.backend = s.backend) (hfacts : s.facts ⊆ t.facts) :
    (lifeContract codec found earlier).Keeps s t := by
  have hwithin := Helper.warrant_within codec found earlier hfacts
  refine ⟨⟨fun e he => ?_, ?_, ?_⟩, hfacts⟩
  · exact hwithin.store (hinv.left e (by rwa [hleft] at he))
  · rw [hbackend]
    exact hwithin.store hinv.store
  · rw [hbackend]
    exact hwithin.memory hinv.memory

theorem keeps_hear (q : HelperCall) (a : q.Reply)
    (hinv : s.Covered (s.warrant codec found earlier)) :
    (lifeContract codec found earlier).Keeps s ((helperMachine p).hear q a s) :=
  keeps_quiet hinv rfl rfl (List.subset_append_left _ _)

/-- To be told a fact. -/
theorem safe_told (q : HelperCall) : (lifeContract codec found earlier).Safe (helperMachine p)
    (fun a t => ∀ fact ∈ q.fact a, fact ∈ t.facts) (Task.question q) s := by
  refine Tasks.Contract.safe_question (fun t _ hinv a => keeps_hear q a hinv) ?_
  intro t a u hlater _ fact hfact
  refine hlater (List.mem_append_right _ ?_)
  rw [Option.mem_def.1 hfact]
  exact List.mem_singleton_self _

/-- A task that only asks is safe. -/
theorem safe_asking {α ε : Type} {task : HelperTask (Except ε α)}
    (h : Heeds ⟨fun _ _ => False, fun _ => True, fun _ => False⟩ (fun _ => True) False task) :
    (lifeContract codec found earlier).Yields (helperMachine p) (fun _ _ => True) task s :=
  Tasks.Contract.Safe.weaken (fun _ _ _ _ _ _ => trivial)
    (Tasks.Contract.Safe.of_asking (fun q a _ hinv => keeps_hear q a hinv) h)

/-- An operation that is covered when its turn comes. -/
theorem yields_runBackend {call : BackendCall}
    (h : ∀ t : Helper, s.facts ⊆ t.facts → call.Covered (t.warrant codec found earlier)) :
    (lifeContract codec found earlier).Yields (helperMachine p) (fun _ _ => True)
      (runBackend p call) s := by
  have hstep : (lifeContract codec found earlier).Safe (helperMachine p) (fun _ _ => True)
      (Task.step (HelperStep.backend call)) s := by
    refine Tasks.Contract.safe_step ?_ fun _ _ _ _ _ _ => trivial
    intro t hlater hinv _ _
    exact ⟨Helper.Covered.ran hinv (h t hlater), List.Subset.refl _⟩
  exact hstep.map fun _ _ _ _ _ _ => trivial

theorem yields_announce {status : RuntimeStatus} {response : HelperResponse} :
    (lifeContract codec found earlier).Yields (helperMachine p) (fun _ _ => True)
      (announce status >>= fun _ => return (.ok response : Except FdoError HelperResponse)) s := by
  intro t _ hinv _ _
  exact ⟨keeps_quiet hinv rfl rfl (List.Subset.refl _), fun _ _ _ _ _ => trivial⟩

theorem yields_callerUid {name : String} : (lifeContract codec found earlier).Yields
    (helperMachine p) (fun uid t => .identified name uid ∈ t.facts) (callerUid name) s := by
  refine Tasks.Contract.Safe.map (safe_told (.connectionUnixUser name)) ?_
  intro answer t _ htold uid huid
  cases answer with
  | error message => cases huid
  | ok found =>
    obtain rfl := Except.ok.inj huid
    exact htold _ rfl

/-- What polkit grants is remembered. -/
theorem fact_checkAuthorization {name : String} {request : HelperRequest}
    {authorized challenge : Bool} (h : authorizationResult authorized challenge = .ok ()) :
    (HelperCall.checkAuthorization name request).fact (.ok (authorized, challenge)) =
      some (.granted name request) := by
  cases challenge with
  | true => cases h
  | false =>
    cases authorized with
    | true => rfl
    | false => cases h

theorem yields_authorize {request : HelperRequest} {sender : Option String} :
    (lifeContract codec found earlier).Yields (helperMachine p)
      (fun name t => sender = some name ∧ .granted name request ∈ t.facts)
      (PrivilegedService.authorize request sender) s := by
  cases sender with
  | none => exact Tasks.Contract.yields_error
  | some name =>
    refine yields_callerUid.mapError.andThen fun _ t _ _ _ => ?_
    have hcheck : (lifeContract codec found earlier).Yields (helperMachine p)
        (fun _ t => .granted name request ∈ t.facts) (checkAuthorization name request) t := by
      refine Tasks.Contract.Safe.bind (safe_told (.checkAuthorization name request)) ?_
      intro answer u hlater hinv htold
      rcases answer with message | ⟨authorized, challenge⟩
      · exact Tasks.Contract.yields_error
      · refine Tasks.Contract.safe_pure fun v hv _ value hvalue => hv (htold _ ?_)
        exact fact_checkAuthorization hvalue
    refine hcheck.mapError.andThen fun _ u _ _ hgranted => ?_
    exact Tasks.Contract.yields_ok fun v hlater _ => ⟨rfl, hlater hgranted⟩

theorem yields_prepareCgroups {uid : ℕ} {ruleIds : List RuleId} :
    (lifeContract codec found earlier).Yields (helperMachine p) (fun _ _ => True)
      (prepareCgroups uid ruleIds) s := by
  induction ruleIds generalizing s with
  | nil => exact Tasks.Contract.yields_ok fun _ _ _ => trivial
  | cons ruleId ruleIds ih =>
    refine (safe_asking ?_).andThen fun _ t _ _ _ => ih
    exact (heeds_prepare ApplicationCgroupManager.endsInName_system (fun _ _ h => h)
      fun _ _ h => h).weaken fun _ _ => trivial

theorem decode_eq_ok {α : Type} {read : String → Except String α} {maximum : ℕ} {json : String}
    {value : α} (h : PrivilegedService.decode read maximum json = .ok value) :
    read json = .ok value := by
  unfold PrivilegedService.decode at h
  split at h
  · cases h
  · exact mapError_eq_ok.1 h

theorem decodePlan_eq_ok {json : String} {plan : KernelPlan}
    (h : PrivilegedService.decodePlan p codec json = .ok plan) :
    codec.plan json = .ok plan ∧ plan.WellFormed := by
  obtain ⟨decoded, hdecoded, hchecked⟩ := bind_eq_ok.1 h
  obtain ⟨_, hvalid, hplan⟩ := bind_eq_ok.1 hchecked
  obtain rfl : decoded = plan := Except.ok.inj hplan
  exact ⟨decode_eq_ok hdecoded, validatePrivilegedPlan_eq_ok.1 (mapError_eq_ok.1 hvalid)⟩

theorem yields_applyPlan {planJson : String} {sender : Option String} :
    (lifeContract codec found earlier).Yields (helperMachine p) (fun _ _ => True)
      (PrivilegedService.applyPlan p codec (.helper1 (.applyPlan planJson)) sender planJson) s := by
  refine yields_authorize.andThen fun name t _ _ ⟨_, hgranted⟩ => ?_
  split
  · exact Tasks.Contract.yields_error
  · rename_i plan hplan
    split
    · exact Tasks.Contract.yields_error
    · refine yields_runBackend fun u hlater => ?_
      obtain ⟨hjson, hformed⟩ := decodePlan_eq_ok hplan
      have hfact := List.mem_append_right earlier (hlater hgranted)
      exact ⟨plan, Or.inr (Or.inl ⟨hformed, name, Or.inl ⟨planJson, hfact, hjson⟩⟩), rfl⟩

theorem yields_restorePlan {failedJson previousText : String} {previousJson : Option String}
    {sender : Option String} (hprevious : ∀ json ∈ previousJson, json = previousText) :
    (lifeContract codec found earlier).Yields (helperMachine p) (fun _ _ => True)
      (PrivilegedService.restorePlan p codec (.helper1 (.restorePlan failedJson previousText)) sender
        failedJson previousJson) s := by
  refine yields_authorize.andThen fun name t _ _ ⟨_, hgranted⟩ => ?_
  split
  · exact Tasks.Contract.yields_error
  · split
    · refine yields_runBackend fun u hlater plan hplan => ?_
      cases hplan
    · rename_i json
      split
      · exact Tasks.Contract.yields_error
      · rename_i previous hdecoded
        refine yields_runBackend fun u hlater plan hplan => ?_
        obtain rfl := Option.some.inj hplan
        obtain ⟨hjson, hformed⟩ := decodePlan_eq_ok hdecoded
        rw [hprevious json rfl] at hjson
        have hfact := List.mem_append_right earlier (hlater hgranted)
        exact ⟨_, Or.inr (Or.inl ⟨hformed, name, Or.inr ⟨failedJson, previousText, hfact, hjson⟩⟩),
          rfl⟩

theorem yields_activateRuntime {activationJson name : String} {uid now : ℕ}
    {topology : TopologySnapshot} (huid : .identified name uid ∈ s.facts)
    (htopology : .captured topology ∈ s.facts) :
    (lifeContract codec found earlier).Yields (helperMachine p) (fun _ _ => True)
      (PrivilegedService.activateRuntime p codec (.helper2 (.activateRuntime activationJson))
        (some name) activationJson uid topology now fun activation =>
          prepareApplicationCgroups activation uid) s := by
  refine yields_authorize.andThen fun asker t hlater _ ⟨hasker, hgranted⟩ => ?_
  obtain rfl := Option.some.inj hasker
  split
  · exact Tasks.Contract.yields_error
  · rename_i activation hdecoded
    have hjson : codec.activation activationJson = .ok activation := decode_eq_ok hdecoded
    refine Tasks.Contract.Yields.andThen yields_prepareCgroups.mapError fun _ u hlater' _ _ => ?_
    refine yields_runBackend fun v hlast record hmakes => ?_
    have hfact : ∀ fact, fact ∈ t.facts → fact ∈ earlier ++ v.facts := fun fact hmem =>
      List.mem_append_right earlier (hlast (hlater' hmem))
    exact ⟨record, Or.inr ⟨name, activationJson, activation, uid, topology, hfact _ hgranted, hjson,
      hfact _ (hlater huid), hfact _ (hlater htopology), hmakes⟩, rfl⟩

theorem yields_serveApplyPlan {planJson : String} {sender : Option String} :
    (lifeContract codec found earlier).Yields (helperMachine p) (fun _ _ => True)
      (Helper1Request.serveApplyPlan p codec (.helper1 (.applyPlan planJson)) planJson sender) s := by
  refine yields_authorize.mapError.andThen fun _ _ _ _ _ => ?_
  split
  · exact Tasks.Contract.yields_error
  · split
    · exact Tasks.Contract.yields_error
    · split
      · exact Tasks.Contract.yields_error
      · split
        · exact Tasks.Contract.yields_error
        · refine yields_callerUid.mapError.andThen fun _ _ _ _ _ => ?_
          split
          · exact Tasks.Contract.yields_error
          · refine yields_prepareCgroups.mapError.andThen fun _ _ _ _ _ => ?_
            refine yields_applyPlan.mapError.andThen fun _ _ _ _ _ => ?_
            exact Tasks.Contract.yields_ok fun _ _ _ => trivial

theorem yields_serveRecoverOrphaned {request : HelperRequest} {sender : Option String} :
    (lifeContract codec found earlier).Yields (helperMachine p) (fun _ _ => True)
      (Helper1Request.serveRecoverOrphaned p request sender) s := by
  refine yields_authorize.mapError.andThen fun _ _ _ _ _ => ?_
  have hverify : ∀ t : Helper, (lifeContract codec found earlier).Yields (helperMachine p)
      (fun _ _ => True) (ApplicationCgroupManager.system.verifiedOrphanDirectories :
        HelperTask _) t := fun t =>
    safe_asking ((heeds_verify_spared ApplicationCgroupManager.endsInName_system
      fun q hq => False.elim hq).weaken fun _ _ => trivial)
  have hremove : ∀ (t : Helper) paths, (lifeContract codec found earlier).Yields (helperMachine p)
      (fun _ _ => True) (ApplicationCgroupManager.system.removeVerifiedOrphanDirectories paths :
        HelperTask _) t := fun t paths =>
    safe_asking ((heeds_remove_spared ApplicationCgroupManager.endsInName_system
      fun q hq => False.elim hq).weaken fun _ _ => trivial)
  refine (hverify _).mapError.andThen fun cgroups _ _ _ _ => ?_
  have hcore : ∀ t : Helper, (lifeContract codec found earlier).Yields (helperMachine p)
      (fun _ _ => True) (PrivilegedService.recoverOrphanedResources p request sender) t := fun t =>
    yields_authorize.andThen fun _ _ _ _ _ => yields_runBackend fun _ _ => trivial
  refine (hcore _).mapError.andThen fun _ _ _ _ _ => ?_
  refine (hremove _ cgroups).mapError.andThen fun _ _ _ _ _ => ?_
  exact Tasks.Contract.yields_ok fun _ _ _ => trivial

theorem yields_serveActivate {activationJson : String} {sender : Option String} :
    (lifeContract codec found earlier).Yields (helperMachine p) (fun _ _ => True)
      (Helper2Request.serveActivate p codec (.helper2 (.activateRuntime activationJson))
        activationJson sender) s := by
  cases sender with
  | none => exact Tasks.Contract.yields_error
  | some name =>
    refine yields_callerUid.mapError.andThen fun uid t _ _ huid => ?_
    refine Tasks.Contract.Safe.bind (safe_told .captureTopology) ?_
    intro captured u hlater _ htold
    cases captured with
    | error message => exact Tasks.Contract.yields_error
    | ok topology =>
      have htopology := htold (.captured topology) rfl
      refine Tasks.Contract.Safe.bind (safe_told .elapsed) ?_
      intro elapsed v hlater' _ _
      refine (yields_activateRuntime (hlater' (hlater huid)) (hlater' htopology)).mapError.andThen ?_
      exact fun _ _ _ _ _ => yields_announce

/-- A request keeps everything covered. -/
theorem HelperRequest.yields_serve (request : HelperRequest) (sender : Option String) :
    (lifeContract codec found earlier).Yields (helperMachine p) (fun _ _ => True)
      (request.serve p codec sender) s := by
  have hasked : ∀ (call : BackendCall) (t : Helper), (∀ w, call.Covered w) →
      (lifeContract codec found earlier).Yields (helperMachine p) (fun _ _ => True)
        ((PrivilegedService.authorize request sender).andThen fun _ => runBackend p call) t :=
    fun call t h => yields_authorize.andThen fun _ _ _ _ _ => yields_runBackend fun _ _ => h _
  have hinspect : (lifeContract codec found earlier).Yields (helperMachine p) (fun _ _ => True)
      (((PrivilegedService.inspect p).mapError toFdoError).andThen fun status =>
        return .ok (HelperResponse.inspected status)) s := by
    have hread : (lifeContract codec found earlier).Yields (helperMachine p) (fun _ _ => True)
        (PrivilegedService.inspect p) s := yields_runBackend fun _ _ => trivial
    exact hread.mapError.andThen fun _ _ _ _ _ => Tasks.Contract.yields_ok fun _ _ _ => trivial
  cases request with
  | helper1 request =>
    cases request with
    | applyPlan planJson => exact yields_serveApplyPlan
    | inspect => exact hinspect
    | restorePlan failedCandidateJson previousJson =>
      refine (yields_restorePlan ?_).mapError.andThen fun _ _ _ _ _ =>
        Tasks.Contract.yields_ok fun _ _ _ => trivial
      intro json hjson
      split at hjson
      · cases hjson
      · exact (Option.some.inj hjson).symm
    | cleanup =>
      exact (hasked .cleanup s fun _ => trivial).mapError.andThen fun _ _ _ _ _ =>
        Tasks.Contract.yields_ok fun _ _ _ => trivial
    | recoverOrphanedResources => exact yields_serveRecoverOrphaned
    | prepareApplicationCgroup ruleId =>
      refine yields_authorize.mapError.andThen fun _ _ _ _ _ => ?_
      cases sender with
      | none => exact Tasks.Contract.yields_error
      | some name =>
        refine yields_callerUid.mapError.andThen fun uid t _ _ _ => ?_
        have hprepare : (lifeContract codec found earlier).Yields (helperMachine p)
            (fun _ _ => True) (ApplicationCgroupManager.system.prepare ruleId uid : HelperTask _) t :=
          safe_asking ((heeds_prepare ApplicationCgroupManager.endsInName_system (fun _ _ h => h)
            fun _ _ h => h).weaken fun _ _ => trivial)
        exact hprepare.mapError.andThen fun _ _ _ _ _ =>
          Tasks.Contract.yields_ok fun _ _ _ => trivial
    | adoptApplicationProcess ruleId pid startTime executablePath =>
      refine yields_authorize.mapError.andThen fun _ t _ _ _ => ?_
      have hadopt : (lifeContract codec found earlier).Yields (helperMachine p) (fun _ _ => True)
          (ApplicationCgroupManager.system.adopt ruleId ⟨pid, startTime, executablePath⟩ :
            HelperTask _) t := safe_asking (heeds_adopt_write (fun _ _ h => h) fun _ _ _ _ h => h)
      exact hadopt.mapError.andThen fun _ _ _ _ _ =>
        Tasks.Contract.yields_ok fun _ _ _ => trivial
  | helper2 request =>
    cases request with
    | activateRuntime activationJson => exact yields_serveActivate
    | restoreRuntime receipt =>
      have hcaller : (lifeContract codec found earlier).Yields (helperMachine p) (fun _ _ => True)
          (Helper2Request.callerUid sender) s := by
        cases sender with
        | none => exact Tasks.Contract.yields_error
        | some name =>
          exact Tasks.Contract.Safe.weaken (fun _ _ _ _ _ _ => trivial) yields_callerUid.mapError
      refine hcaller.andThen fun uid t _ _ _ => ?_
      exact (hasked (.restoreRuntime receipt uid) t fun _ => trivial).mapError.andThen
        fun _ _ _ _ _ => yields_announce
    | inspect => exact hinspect
    | cleanup =>
      refine (hasked .cleanup s fun _ => trivial).mapError.andThen fun cleaned t _ _ _ => ?_
      have hstatus : (lifeContract codec found earlier).Yields (helperMachine p) (fun _ _ => True)
          (runBackend p .runtimeStatus) t := yields_runBackend fun _ _ => trivial
      refine Tasks.Contract.Safe.bind hstatus fun result u _ _ _ => ?_
      cases result with
      | error error => exact Tasks.Contract.yields_ok fun _ _ _ => trivial
      | ok status => exact yields_announce

theorem safe_publish {status : RuntimeStatus} : (lifeContract codec found earlier).Safe
    (helperMachine p) (fun _ _ => True) (HelperRefresher.publish status) s := by
  intro t _ hinv _ _
  refine ⟨keeps_quiet hinv rfl rfl (List.Subset.refl _), ?_⟩
  show (lifeContract codec found earlier).Safe (helperMachine p) (fun _ _ => True)
    (if t.last = some status then pure () else announce status) _
  split
  · exact Tasks.Contract.safe_pure fun _ _ _ => trivial
  · intro u _ hinv' _ _
    exact ⟨keeps_quiet hinv' rfl rfl (List.Subset.refl _), fun _ _ _ => trivial⟩

theorem safe_refreshTold {result : Except ServiceError RuntimeStatus} :
    (lifeContract codec found earlier).Safe (helperMachine p) (fun _ _ => True)
      (HelperRefresher.refresh.told result) s := by
  cases result with
  | error error => exact Tasks.Contract.safe_pure fun _ _ _ => trivial
  | ok status => exact safe_publish.bind fun _ _ _ _ _ => Tasks.Contract.safe_pure fun _ _ _ => trivial

/-- The monitor asks nobody: what it brings into force was covered before. -/
theorem safe_refresh : (lifeContract codec found earlier).Safe (helperMachine p)
    (fun _ _ => True) (HelperRefresher.refresh p) s := by
  have hrun : ∀ (call : BackendCall) (t : Helper), (∀ w, call.Covered w) →
      (lifeContract codec found earlier).Yields (helperMachine p) (fun _ _ => True)
        (runBackend p call) t := fun call t h => yields_runBackend fun _ _ => h _
  refine Tasks.Contract.Safe.bind (hrun .runtimeStatus s fun _ => trivial) fun result t _ _ _ => ?_
  cases result with
  | error error => exact Tasks.Contract.safe_pure fun _ _ _ => trivial
  | ok status =>
    dsimp only
    split
    · exact safe_publish.bind fun _ _ _ _ _ => Tasks.Contract.safe_pure fun _ _ _ => trivial
    · refine Tasks.Contract.Safe.bind (safe_told .captureTopology) fun captured u _ _ _ => ?_
      cases captured with
      | error message =>
        exact Tasks.Contract.Safe.bind (hrun (.degradeRuntime message) u fun _ => trivial)
          fun _ _ _ _ _ => safe_refreshTold
      | ok topology =>
        refine Tasks.Contract.Safe.bind (safe_told .elapsed) fun elapsed v _ _ _ => ?_
        exact Tasks.Contract.Safe.bind (hrun (.refreshRuntime topology elapsed) v fun _ => trivial)
          fun _ _ _ _ _ => safe_refreshTold

theorem safe_degrade {reason : String} : (lifeContract codec found earlier).Safe
    (helperMachine p) (fun _ _ => True) (HelperRefresher.degrade p reason) s := by
  have hrun : (lifeContract codec found earlier).Yields (helperMachine p) (fun _ _ => True)
      (runBackend p (.degradeRuntime reason)) s := yields_runBackend fun _ _ => trivial
  refine Tasks.Contract.Safe.bind hrun fun result t _ _ _ => ?_
  cases result with
  | error error => exact Tasks.Contract.safe_pure fun _ _ _ => trivial
  | ok status => exact safe_publish

end Contract

/-! ## Lives -/

section Lives

variable (p : Primitives) (codec : HelperCodec)

/-- What runs in a life: requests of any sender, the refreshes of the monitor, and whatever else
changes the system. -/
inductive HelperStarts : HelperTask Unit → Prop where
  | request (request : HelperRequest) (sender : Option String) :
      HelperStarts (request.serve p codec sender >>= fun _ => return ())
  | refresh : HelperStarts (HelperRefresher.refresh p >>= fun _ => return ())
  | degrade (reason : String) : HelperStarts (HelperRefresher.degrade p reason)
  | others (machine : System) :
      HelperStarts (Task.step (.disturb machine) >>= fun _ => return ())

abbrev HelperConfig := Config Helper HelperStep HelperCall HelperCall.Reply Unit

/-- A life from this system on, up to some moment. -/
def Life (machine : System) (c : HelperConfig) : Prop :=
  ∃ faults, Runs (helperMachine p) (HelperStarts p codec) HelperStep.allowed
    ⟨Helper.started machine faults, [], []⟩ c

/-- Any number of lives: each starts from the journal the one before left when it was killed,
at its last command or at any before it. -/
inductive Lives : System → System → List Fact → Prop where
  | none (machine : System) : Lives machine machine []
  | life {first machine start killed : System} {facts : List Fact} {c : HelperConfig} :
      Lives first machine facts → start.store = machine.store → Life p codec start c →
        killed = c.state.backend.machine ∨ (∃ e ∈ c.state.left, killed = e.state) →
          Lives first killed (facts ++ c.state.facts)

variable {p codec}

/-- Every task of a life keeps everything covered. -/
theorem HelperStarts.safe {found : Option StoredAppliedState} {earlier : List Fact}
    {task : HelperTask Unit} (h : HelperStarts p codec task) (s : Helper) :
    (lifeContract codec found earlier).Safe (helperMachine p) (fun _ _ => True) task s := by
  cases h with
  | request request sender =>
    exact Tasks.Contract.Safe.map (request.yields_serve sender) fun _ _ _ _ => trivial
  | refresh => exact Tasks.Contract.Safe.map safe_refresh fun _ _ _ _ => trivial
  | degrade reason => exact safe_degrade
  | others machine =>
    intro t _ hinv _ hallowed
    refine ⟨⟨⟨hinv.left, ?_, hinv.memory⟩, List.Subset.refl _⟩, fun _ _ _ => trivial⟩
    show (t.warrant codec found earlier).Store machine.store
    rw [show machine.store = t.backend.machine.store from hallowed]
    exact hinv.store

/-- In a life that starts from a journal that is covered, everything stays covered. -/
theorem Life.covered {found : Option StoredAppliedState} {earlier : List Fact} {start : System}
    {c : HelperConfig} (h : Life p codec start c)
    (hstart : (warrantOf codec found earlier).Store start.store) :
    c.state.Covered (warrantOf codec found (earlier ++ c.state.facts)) := by
  obtain ⟨faults, hruns⟩ := h
  have hfirst : (Helper.started start faults).Covered
      ((Helper.started start faults).warrant codec found earlier) := by
    have hfacts : (Helper.started start faults).warrant codec found earlier =
        warrantOf codec found earlier := by
      show warrantOf codec found (earlier ++ []) = _
      rw [List.append_nil]
    rw [hfacts]
    exact ⟨fun e he => absurd he List.not_mem_nil, hstart, .fresh⟩
  have hkept : Tasks.Contract.Kept (lifeContract codec found earlier) (helperMachine p)
      (fun _ _ => True) (⟨Helper.started start faults, [], []⟩ : HelperConfig) :=
    ⟨hfirst, fun task htask => absurd htask List.not_mem_nil,
      fun a ha => absurd ha List.not_mem_nil⟩
  exact (hkept.runs (fun task htask s _ => htask.safe s) hruns).1.inv

theorem Lives.store_covered {first machine : System} {facts : List Fact}
    (h : Lives p codec first machine facts) :
    (warrantOf codec first.store facts).Store machine.store := by
  induction h with
  | none => exact warrantOf_found codec first.store []
  | life _ hstart hlife hkilled ih =>
    have hcovered := hlife.covered (by rwa [hstart])
    rcases hkilled with rfl | ⟨e, he, rfl⟩
    · exact hcovered.store
    · exact hcovered.left e he

/-- Over any number of lives, with any requests side by side, everything the helper leaves on
disk or remembers was in the journal at the start, was sent with a request polkit granted, or
is what a policy of either kind covers. -/
theorem Lives.in_force {first machine start : System} {facts : List Fact} {c : HelperConfig}
    (h : Lives p codec first machine facts) (hstart : start.store = machine.store)
    (hlife : Life p codec start c) :
    c.state.Covered (warrantOf codec first.store (facts ++ c.state.facts)) :=
  hlife.covered (by rw [hstart]; exact h.store_covered)

/-- A helper with a runtime in force once a client inspected it. -/
def inspectedHelper : Helper :=
  (HelperStep.backend .inspect).perform countPrimitives (Helper.started armedSystem fun _ => false)

theorem life_inspected : ∃ running,
    Life countPrimitives noCodec armedSystem ⟨inspectedHelper, running, []⟩ := by
  have hasks : ∃ next, (HelperRequest.helper2 .inspect).serve countPrimitives noCodec none =
      .act (.backend .inspect) next := ⟨_, rfl⟩
  obtain ⟨next, hnext⟩ := hasks
  have hstart : HelperStarts countPrimitives noCodec
      ((HelperRequest.helper2 .inspect).serve countPrimitives noCodec none >>= fun _ => return ()) :=
    .request (.helper2 .inspect) none
  rw [hnext] at hstart
  refine ⟨[next (Helper.started armedSystem fun _ => false) >>= fun _ => return ()],
    fun _ => false, (Relation.ReflTransGen.single (.start hstart)).tail ?_⟩
  exact @Move.act _ _ _ _ _ (helperMachine countPrimitives) _ HelperStep.allowed
    (Helper.started armedSystem fun _ => false) [] [] [] (.backend .inspect)
    (fun found => next found >>= fun _ => return ()) rfl trivial

/-- A life that is killed, and the next: nothing new is in force. -/
theorem Lives.in_force_inspected :
    inspectedHelper.Covered (warrantOf noCodec armedSystem.store
      ([] ++ inspectedHelper.facts ++ inspectedHelper.facts)) := by
  obtain ⟨running, hlife⟩ := life_inspected
  have hlives : Lives countPrimitives noCodec armedSystem inspectedHelper.backend.machine
      ([] ++ inspectedHelper.facts) := .life (.none armedSystem) rfl hlife (Or.inl rfl)
  exact Lives.in_force hlives (show armedSystem.store = inspectedHelper.backend.machine.store by
    decide +kernel) hlife

end Lives

end RouteLane
