import RouteLane.Backend.FailedRefresh
import RouteLane.Helper.Service

/-!
# Requests and their leave

Whatever the other tasks do, and whatever bus, kernel and file system answer: before polkit
has granted a request of the very sender that made it, the request neither touches the
backend, but to look at it, nor changes a file, nor succeeds.  And what a request changes on
the file system is below the root of the application cgroups, for the user the sender is, and
of a process or a directory that was looked at before.
-/

namespace RouteLane

open Tasks

/-! ## Leave of polkit -/

/-- polkit's answer that the sender is authorized for its request. -/
def GrantedBy (sender : Option String) (request : HelperRequest) :
    (q : HelperCall) → q.Reply → Prop
  | .checkAuthorization name asked, answer =>
    sender = some name ∧ asked = request ∧ answer = .ok (true, false)
  | _, _ => False

/-- The requests that only look. -/
def HelperRequest.inspects : HelperRequest → Bool
  | .helper1 .inspect | .helper2 .inspect => true
  | _ => false

/-- Everything but to inspect the backend, to read files and to ask around needs polkit's
leave. -/
def polkitLeave (sender : Option String) (request : HelperRequest) :
    Leave HelperStep HelperCall HelperCall.Reply where
  gives := GrantedBy sender request
  step l := l ≠ .backend .inspect
  question q := ∃ call, q = .file call ∧ call.changes = true

section Polkit

variable {p : Primitives} {codec : HelperCodec} {request : HelperRequest} {sender : Option String}
  {given : Prop}

/-- No question but to the file system needs leave. -/
theorem not_question_polkit {q : HelperCall} (h : ∀ call, q ≠ .file call) :
    ¬(polkitLeave sender request).question q := by
  rintro ⟨call, rfl, -⟩
  exact h call rfl

theorem heeds_callerUid {leave : Leave HelperStep HelperCall HelperCall.Reply} {name : String}
    (h : ¬leave.question (.connectionUnixUser name)) :
    Heeds leave (FreeValue fun _ => True) given (callerUid name) :=
  Heeds.question_bind h fun _ => Heeds.pure fun _ _ => trivial

theorem heeds_knownCaller {leave : Leave HelperStep HelperCall HelperCall.Reply} {name : String}
    (h : ¬leave.question (.connectionUnixUser name)) :
    Heeds leave (FreeValue fun _ => True) given (knownCaller name) := (heeds_callerUid h).mapError

/-- Nobody is authorized without polkit. -/
theorem heeds_authorize :
    Heeds (polkitLeave sender request) (FreeValue fun _ => False) given
      (PrivilegedService.authorize request sender) := by
  cases sender with
  | none => exact Heeds.pure fun _ h => by cases h
  | some name =>
    have hbus : ¬(polkitLeave (some name) request).question (.connectionUnixUser name) :=
      not_question_polkit fun call h => by cases h
    have hpolkit : ¬(polkitLeave (some name) request).question
        (.checkAuthorization name request) := not_question_polkit fun call h => by cases h
    refine (heeds_callerUid hbus).mapError.andThen fun _ _ => ?_
    have hcheck : Heeds (polkitLeave (some name) request) (FreeValue fun _ => False) given
        (checkAuthorization name request) := by
      refine Heeds.question_bind hpolkit fun answer => ?_
      rcases answer with message | ⟨authorized, challenge⟩
      · exact Heeds.pure fun _ h => by cases h
      · cases challenge with
        | true => exact Heeds.pure fun _ h => by cases h
        | false =>
          cases authorized with
          | false => exact Heeds.pure fun _ h => by cases h
          | true => exact Heeds.of_given (Or.inr ⟨rfl, rfl, rfl⟩)
    exact hcheck.mapError.gate

theorem heeds_inspect : Heeds (polkitLeave sender request) (FreeValue fun _ => True) given
    (PrivilegedService.inspect p) :=
  Heeds.bind (Heeds.step fun h => h rfl) fun _ _ => Heeds.pure fun _ _ => trivial

end Polkit

/-- The request waits for polkit. -/
theorem HelperRequest.heeds_polkit (p : Primitives) (codec : HelperCodec) (request : HelperRequest)
    (sender : Option String) :
    Heeds (polkitLeave sender request) (FreeValue fun _ => request.inspects = true) False
      (request.serve p codec sender) := by
  have hinspects : request.inspects = true →
      Heeds (polkitLeave sender request) (FreeValue fun _ => request.inspects = true) False
        (((PrivilegedService.inspect p).mapError toFdoError).andThen fun status =>
          return .ok (HelperResponse.inspected status)) := fun h =>
    heeds_inspect.mapError.andThen fun _ _ => Heeds.pure fun _ _ => h
  cases request with
  | helper1 request =>
    cases request with
    | applyPlan planJson => exact heeds_authorize.mapError.gate
    | inspect => exact hinspects rfl
    | restorePlan failedCandidateJson previousJson => exact heeds_authorize.gate.mapError.gate
    | cleanup => exact heeds_authorize.gate.mapError.gate
    | recoverOrphanedResources => exact heeds_authorize.mapError.gate
    | prepareApplicationCgroup ruleId => exact heeds_authorize.mapError.gate
    | adoptApplicationProcess ruleId pid startTime executablePath =>
      exact heeds_authorize.mapError.gate
  | helper2 request =>
    have hcaller : Heeds (polkitLeave sender (.helper2 request)) (FreeValue fun _ => True) False
        (Helper2Request.callerUid sender) := by
      cases sender with
      | none => exact Heeds.pure fun _ _ => trivial
      | some name => exact heeds_knownCaller (not_question_polkit fun call h => by cases h)
    cases request with
    | activateRuntime activationJson =>
      refine hcaller.andThen fun uid _ => ?_
      refine Heeds.question_bind (not_question_polkit fun call h => by cases h) fun captured => ?_
      cases captured with
      | error message => exact Heeds.pure fun _ h => by cases h
      | ok topology =>
        refine Heeds.question_bind (not_question_polkit fun call h => by cases h) fun elapsed => ?_
        exact heeds_authorize.gate.mapError.gate
    | restoreRuntime receipt =>
      exact hcaller.andThen fun uid _ => heeds_authorize.gate.mapError.gate
    | inspect => exact hinspects rfl
    | cleanup => exact heeds_authorize.gate.mapError.gate

/-! ## Leave to change files -/

/-- What a request does with files heeds the leave, given what is known of its sender. -/
structure HeedsFiles (leave : Leave HelperStep HelperCall HelperCall.Reply)
    (request : HelperRequest) (sender : Option String) (known : ℕ → Prop) : Prop where
  step : ∀ l, ¬leave.step l
  question : ∀ q, leave.question q → ∃ call, q = .file call
  caller : ∀ given name, sender = some name →
    Heeds leave (FreeValue known) given (callerUid name)
  prepare : ∀ given ruleId uid, known uid → Heeds leave (FreeValue fun _ => True) given
    (ApplicationCgroupManager.system.prepare ruleId uid : HelperTask _)
  adopt : ∀ given ruleId pid startTime executablePath,
    request = .helper1 (.adoptApplicationProcess ruleId pid startTime executablePath) →
      Heeds leave (FreeValue fun _ => True) given
        (ApplicationCgroupManager.system.adopt ruleId ⟨pid, startTime, executablePath⟩ :
          HelperTask _)
  verify : ∀ given, request = .helper1 .recoverOrphanedResources →
    Heeds leave (FreeValue fun _ => True) given
      (ApplicationCgroupManager.system.verifiedOrphanDirectories : HelperTask _)
  remove : ∀ given paths, request = .helper1 .recoverOrphanedResources →
    Heeds leave (FreeValue fun _ => True) given
      (ApplicationCgroupManager.system.removeVerifiedOrphanDirectories paths : HelperTask _)

namespace HeedsFiles

variable {p : Primitives} {codec : HelperCodec}
  {leave : Leave HelperStep HelperCall HelperCall.Reply} {request : HelperRequest}
  {sender : Option String} {known : ℕ → Prop} {given : Prop} {ε α : Type}

/-- Every result will do. -/
abbrev Fine (leave : Leave HelperStep HelperCall HelperCall.Reply) (given : Prop)
    (task : HelperTask (Except ε α)) : Prop := Heeds leave (FreeValue fun _ => True) given task

theorem fine_pure {result : Except ε α} :
    Fine leave given (Pure.pure result : HelperTask (Except ε α)) := Heeds.pure fun _ _ => trivial

theorem not_question (h : HeedsFiles leave request sender known) {q : HelperCall}
    (hq : ∀ call, q ≠ .file call) : ¬leave.question q := by
  intro hquestion
  obtain ⟨call, rfl⟩ := h.question q hquestion
  exact hq call rfl

theorem runBackend (h : HeedsFiles leave request sender known) (call : BackendCall) :
    Fine leave given (RouteLane.runBackend p call) :=
  Heeds.bind (Heeds.step (h.step _)) fun _ _ => fine_pure

theorem authorize (h : HeedsFiles leave request sender known) :
    Fine leave given (PrivilegedService.authorize request sender) := by
  cases sender with
  | none => exact fine_pure
  | some name =>
    have hbus : ¬leave.question (.connectionUnixUser name) :=
      h.not_question fun call hcall => by cases hcall
    have hpolkit : ¬leave.question (.checkAuthorization name request) :=
      h.not_question fun call hcall => by cases hcall
    refine (heeds_callerUid hbus).mapError.andThen fun _ _ => ?_
    have hcheck : Fine leave given (checkAuthorization name request) := by
      refine Heeds.question_bind hpolkit fun answer => ?_
      cases answer with
      | error message => exact fine_pure
      | ok answer => exact fine_pure
    exact hcheck.mapError.andThen fun _ _ => fine_pure

theorem knownCaller (h : HeedsFiles leave request sender known) {name : String}
    (hname : sender = some name) :
    Heeds leave (FreeValue known) given (RouteLane.knownCaller name) := (h.caller given name hname).mapError

theorem prepareCgroups (h : HeedsFiles leave request sender known) {uid : ℕ} (hknown : known uid)
    {ruleIds : List RuleId} : Fine leave given (RouteLane.prepareCgroups uid ruleIds) := by
  induction ruleIds with
  | nil => exact fine_pure
  | cons ruleId ruleIds ih => exact (h.prepare given ruleId uid hknown).andThen fun _ _ => ih

theorem applyPlan (h : HeedsFiles leave request sender known) {planJson : String} :
    Fine leave given (PrivilegedService.applyPlan p codec request sender planJson) := by
  refine h.authorize.andThen fun _ _ => ?_
  split
  · exact fine_pure
  · split
    · exact fine_pure
    · exact h.runBackend _

theorem restorePlan (h : HeedsFiles leave request sender known) {failedCandidateJson : String}
    {previousJson : Option String} :
    Fine leave given
      (PrivilegedService.restorePlan p codec request sender failedCandidateJson previousJson) := by
  refine h.authorize.andThen fun _ _ => ?_
  split
  · exact fine_pure
  · split
    · exact h.runBackend _
    · split
      · exact fine_pure
      · exact h.runBackend _

theorem activateRuntime (h : HeedsFiles leave request sender known) {activationJson : String}
    {uid : ℕ} (hknown : known uid) {topology : TopologySnapshot} {now : ℕ} :
    Fine leave given (PrivilegedService.activateRuntime p codec request sender activationJson uid
      topology now fun activation => prepareApplicationCgroups activation uid) := by
  refine h.authorize.andThen fun _ _ => ?_
  split
  · exact fine_pure
  · refine Heeds.andThen (h.prepareCgroups hknown).mapError fun _ _ => ?_
    exact h.runBackend _

theorem announce (h : HeedsFiles leave request sender known) {status : RuntimeStatus} :
    Heeds leave (fun _ => True) given (RouteLane.announce status) :=
  Heeds.bind (Heeds.step (h.step _)) fun _ _ => Heeds.pure trivial

theorem serveApplyPlan (h : HeedsFiles leave request sender known) {planJson : String} :
    Fine leave given (Helper1Request.serveApplyPlan p codec request planJson sender) := by
  refine h.authorize.mapError.andThen fun _ _ => ?_
  split
  · exact fine_pure
  · split
    · exact fine_pure
    · split
      · exact fine_pure
      · split
        · exact fine_pure
        · refine (h.knownCaller rfl).andThen fun uid hknown => ?_
          split
          · exact fine_pure
          · refine (h.prepareCgroups hknown).mapError.andThen fun _ _ => ?_
            exact h.applyPlan.mapError.andThen fun _ _ => fine_pure

theorem serveActivate (h : HeedsFiles leave request sender known) {activationJson : String} :
    Fine leave given (Helper2Request.serveActivate p codec request activationJson sender) := by
  have hcaller : Heeds leave (FreeValue known) given (Helper2Request.callerUid sender) := by
    cases sender with
    | none => exact Heeds.pure fun _ h => by cases h
    | some name => exact h.knownCaller rfl
  refine hcaller.andThen fun uid hknown => ?_
  refine Heeds.question_bind (h.not_question fun call hcall => by cases hcall) fun captured => ?_
  cases captured with
  | error message => exact fine_pure
  | ok topology =>
    refine Heeds.question_bind (h.not_question fun call hcall => by cases hcall) fun elapsed => ?_
    refine (h.activateRuntime hknown).mapError.andThen fun response _ => ?_
    exact h.announce.bind fun _ _ => fine_pure

/-- A request heeds what its parts heed. -/
theorem serve (h : HeedsFiles leave request sender known) :
    Fine leave given (request.serve p codec sender) := by
  cases request with
  | helper1 request =>
    cases request with
    | applyPlan planJson => exact h.serveApplyPlan
    | inspect => exact (h.runBackend .inspect).mapError.andThen fun _ _ => fine_pure
    | restorePlan failedCandidateJson previousJson =>
      exact h.restorePlan.mapError.andThen fun _ _ => fine_pure
    | cleanup =>
      exact (h.authorize.andThen fun _ _ => h.runBackend _).mapError.andThen fun _ _ => fine_pure
    | recoverOrphanedResources =>
      refine h.authorize.mapError.andThen fun _ _ => ?_
      refine (h.verify given rfl).mapError.andThen fun cgroups _ => ?_
      refine (h.authorize.andThen fun _ _ => h.runBackend _).mapError.andThen fun _ _ => ?_
      exact (h.remove given cgroups rfl).mapError.andThen fun _ _ => fine_pure
    | prepareApplicationCgroup ruleId =>
      refine h.authorize.mapError.andThen fun _ _ => ?_
      split
      · exact fine_pure
      · refine (h.knownCaller rfl).andThen fun uid hknown => ?_
        exact (h.prepare given ruleId uid hknown).mapError.andThen fun _ _ => fine_pure
    | adoptApplicationProcess ruleId pid startTime executablePath =>
      refine h.authorize.mapError.andThen fun _ _ => ?_
      exact (h.adopt given ruleId pid startTime executablePath rfl).mapError.andThen
        fun _ _ => fine_pure
  | helper2 request =>
    cases request with
    | activateRuntime activationJson => exact h.serveActivate
    | restoreRuntime receipt =>
      have hcaller : Fine leave given (Helper2Request.callerUid sender) := by
        cases sender with
        | none => exact fine_pure
        | some name =>
          exact heeds_knownCaller (h.not_question fun call hcall => by cases hcall)
      refine hcaller.andThen fun uid _ => ?_
      refine (h.authorize.andThen fun _ _ => h.runBackend _).mapError.andThen fun status _ => ?_
      exact h.announce.bind fun _ _ => fine_pure
    | inspect => exact (h.runBackend .inspect).mapError.andThen fun _ _ => fine_pure
    | cleanup =>
      refine (h.authorize.andThen fun _ _ => h.runBackend _).mapError.andThen fun cleaned _ => ?_
      refine (h.runBackend .runtimeStatus).bind fun result _ => ?_
      cases result with
      | error error => exact fine_pure
      | ok status => exact h.announce.bind fun _ _ => fine_pure

end HeedsFiles

/-! ## What is changed -/

section Earned

variable {p : Primitives} {codec : HelperCodec} {request : HelperRequest} {sender : Option String}

/-- The calls a request may come to: directories and owners below the root, the process of an
adoption in the control file of its rule, and the removal of orphans. -/
def FileCall.Fits (request : HelperRequest) : FileCall → Prop
  | .createDirAll path | .chown path _ => ApplicationCgroupManager.system.Owns path
  | .write path text => ∃ ruleId pid startTime executablePath directory,
    request = .helper1 (.adoptApplicationProcess ruleId pid startTime executablePath) ∧
      ApplicationCgroupManager.system.rulePath ruleId = .ok directory ∧
      path = joinPath directory "cgroup.procs" ∧ (text = toString pid ∨ text = "\n")
  | .removeDir _ => request = .helper1 .recoverOrphanedResources
  | _ => True

/-- Calls that do not fit are never made. -/
def unfitLeave (request : HelperRequest) : Leave HelperStep HelperCall HelperCall.Reply where
  gives _ _ := False
  step _ := False
  question q := ∃ call, q = .file call ∧ ¬call.Fits request

theorem FileCall.changes_of_not_fits {call : FileCall} (h : ¬call.Fits request) :
    call.changes = true := by
  cases call with
  | createDirAll path => rfl
  | chown path owner => rfl
  | write path text => rfl
  | removeDir path => rfl
  | _ => exact absurd trivial h

theorem heedsFiles_unfit : HeedsFiles (unfitLeave request) request sender fun _ => True where
  step _ := id
  question := by
    rintro q ⟨call, rfl, -⟩
    exact ⟨call, rfl⟩
  caller given name _ := heeds_callerUid (by rintro ⟨_, ⟨⟩, _⟩)
  prepare given ruleId uid _ := by
    refine heeds_prepare ApplicationCgroupManager.endsInName_system ?_ ?_
    · rintro _ ⟨path, rfl, howns⟩ ⟨_, ⟨⟩, hunfit⟩
      exact hunfit howns
    · rintro _ ⟨path, rfl, howns⟩ ⟨_, ⟨⟩, hunfit⟩
      exact hunfit howns
  adopt given ruleId pid startTime executablePath hrequest := by
    refine (heeds_adopt_write ?_ ?_).weaken fun _ _ _ _ => trivial
    · rintro call hreads ⟨_, ⟨⟩, hunfit⟩
      rw [FileCall.changes_of_not_fits hunfit] at hreads
      cases hreads
    · rintro directory hdirectory call hcall ⟨_, ⟨⟩, hunfit⟩
      rcases hcall with rfl | rfl
      · exact hunfit ⟨_, _, _, _, directory, hrequest, hdirectory, rfl, Or.inl rfl⟩
      · exact hunfit ⟨_, _, _, _, directory, hrequest, hdirectory, rfl, Or.inr rfl⟩
  verify given hrequest := by
    refine heeds_verify_spared ApplicationCgroupManager.endsInName_system ?_
    rintro q ⟨call, rfl, hunfit⟩
    refine ⟨call, rfl, FileCall.changes_of_not_fits hunfit, ?_⟩
    rintro path rfl
    exact hunfit hrequest
  remove given paths hrequest := by
    refine heeds_remove_spared ApplicationCgroupManager.endsInName_system ?_
    rintro q ⟨call, rfl, hunfit⟩
    refine ⟨call, rfl, FileCall.changes_of_not_fits hunfit, ?_⟩
    rintro path rfl
    exact hunfit hrequest

/-- The bus told that the sender is this user. -/
def CallerHeard (sender : Option String) (owner : ℕ) : (q : HelperCall) → q.Reply → Prop
  | .connectionUnixUser name, answer => sender = some name ∧ answer = .ok owner
  | _, _ => False

/-- Nothing is given to a user before the bus told that it is the sender. -/
def ownerLeave (sender : Option String) (owner : ℕ) :
    Leave HelperStep HelperCall HelperCall.Reply where
  gives := CallerHeard sender owner
  step _ := False
  question q := ∃ path, q = .file (.chown path owner)

theorem heedsFiles_owner {owner : ℕ} :
    HeedsFiles (ownerLeave sender owner) request sender fun uid => uid ≠ owner where
  step _ := id
  question := by
    rintro q ⟨path, rfl⟩
    exact ⟨_, rfl⟩
  caller given name hname := by
    refine Heeds.question_bind (by rintro ⟨_, ⟨⟩⟩) fun answer => ?_
    cases answer with
    | error message => exact Heeds.pure fun _ h => by cases h
    | ok uid =>
      by_cases hsame : uid = owner
      · exact Heeds.of_given (Or.inr ⟨hname, by rw [hsame]⟩)
      · exact Heeds.pure fun _ h => by cases h; exact hsame
  prepare given ruleId uid hother := by
    refine heeds_prepare ApplicationCgroupManager.endsInName_system ?_ ?_
    · rintro _ ⟨path, rfl, -⟩ ⟨_, ⟨⟩⟩
    · rintro _ ⟨path, rfl, -⟩ ⟨_, ⟨⟩⟩
      exact hother rfl
  adopt given ruleId pid startTime executablePath _ := by
    refine (heeds_adopt_write ?_ ?_).weaken fun _ _ _ _ => trivial
    · rintro call hreads ⟨_, ⟨⟩⟩
      cases hreads
    · rintro directory - call hcall ⟨_, ⟨⟩⟩
      rcases hcall with ⟨⟨⟩⟩ | ⟨⟨⟩⟩
  verify given _ := by
    refine heeds_verify_spared ApplicationCgroupManager.endsInName_system ?_
    rintro q ⟨path, rfl⟩
    exact ⟨_, rfl, rfl, fun _ h => by cases h⟩
  remove given paths _ := by
    refine heeds_remove_spared ApplicationCgroupManager.endsInName_system ?_
    rintro q ⟨path, rfl⟩
    exact ⟨_, rfl, rfl, fun _ h => by cases h⟩

/-- Nothing is written before the process was recognized. -/
def processLeave (identity : ProcessIdentity) (evidence : ProcessEvidence) :
    Leave HelperStep HelperCall HelperCall.Reply where
  gives := evidence.Heard ApplicationCgroupManager.system identity
  step _ := False
  question q := ∃ path text, q = .file (.write path text)

theorem heedsFiles_process {ruleId : RuleId} {pid startTime : ℕ} {executablePath : PathBuf}
    {evidence : ProcessEvidence}
    (hrequest : request = .helper1 (.adoptApplicationProcess ruleId pid startTime executablePath)) :
    HeedsFiles (processLeave ⟨pid, startTime, executablePath⟩ evidence) request sender
      fun _ => True where
  step _ := id
  question := by
    rintro q ⟨path, text, rfl⟩
    exact ⟨_, rfl⟩
  caller given name _ := heeds_callerUid (by rintro ⟨_, _, ⟨⟩⟩)
  prepare given ruleId uid _ := by
    refine heeds_prepare ApplicationCgroupManager.endsInName_system ?_ ?_
    · rintro _ ⟨path, rfl, -⟩ ⟨_, _, ⟨⟩⟩
    · rintro _ ⟨path, rfl, -⟩ ⟨_, _, ⟨⟩⟩
  adopt given ruleId pid startTime executablePath hsame := by
    cases hrequest.symm.trans hsame
    have hadopt : Heeds (evidence.toWrite HelperStep ApplicationCgroupManager.system
          ⟨pid, startTime, executablePath⟩) (FreeValue fun _ => True) given
        (ApplicationCgroupManager.system.adopt ruleId ⟨pid, startTime, executablePath⟩ :
          HelperTask _) := heeds_adopt.weaken fun _ _ _ _ => trivial
    refine hadopt.of_leave (fun _ _ => trivial) ?_ fun _ _ => id
    rintro q ⟨path, text, rfl⟩
    exact ⟨_, rfl, rfl⟩
  verify given hsame := by cases hrequest.symm.trans hsame
  remove given paths hsame := by cases hrequest.symm.trans hsame

/-- A directory is not removed before it was seen to be an orphan. -/
def orphanLeave (target : List (List Char)) (evidence : OrphanEvidence) :
    Leave HelperStep HelperCall HelperCall.Reply where
  gives := evidence.Heard ApplicationCgroupManager.system target
  step _ := False
  question q := ∃ path, q = .file (.removeDir path) ∧ components path = target

theorem heedsFiles_orphan {target : List (List Char)} {evidence : OrphanEvidence} :
    HeedsFiles (orphanLeave target evidence) request sender fun _ => True where
  step _ := id
  question := by
    rintro q ⟨path, rfl, -⟩
    exact ⟨_, rfl⟩
  caller given name _ := heeds_callerUid (by rintro ⟨_, ⟨⟩, _⟩)
  prepare given ruleId uid _ := by
    refine heeds_prepare ApplicationCgroupManager.endsInName_system ?_ ?_
    · rintro _ ⟨path, rfl, -⟩ ⟨_, ⟨⟩, _⟩
    · rintro _ ⟨path, rfl, -⟩ ⟨_, ⟨⟩, _⟩
  adopt given ruleId pid startTime executablePath _ := by
    refine (heeds_adopt_write ?_ ?_).weaken fun _ _ _ _ => trivial
    · rintro call hreads ⟨_, ⟨⟩, _⟩
      cases hreads
    · rintro directory - call hcall ⟨_, ⟨⟩, _⟩
      rcases hcall with ⟨⟨⟩⟩ | ⟨⟨⟩⟩
  verify given _ := by
    have hverified : Heeds (evidence.toRemove HelperStep ApplicationCgroupManager.system target)
        (FreeValue fun _ => True) given
        (ApplicationCgroupManager.system.verifiedOrphanDirectories : HelperTask _) :=
      (heeds_verifiedOrphanDirectories ApplicationCgroupManager.endsInName_system).weaken
        fun _ _ _ _ => trivial
    refine hverified.of_leave (fun _ _ => trivial) ?_ fun _ _ => id
    rintro q ⟨path, rfl, htarget⟩
    exact ⟨_, rfl, rfl, fun _ h => by cases h; exact htarget⟩
  remove given paths _ := by
    refine (heeds_removeVerifiedOrphanDirectories
      ApplicationCgroupManager.endsInName_system).of_leave (fun _ _ => trivial) ?_ fun _ _ => id
    rintro q ⟨path, rfl, htarget⟩
    exact ⟨_, rfl, rfl, fun _ h => by cases h; exact htarget⟩

/-- Some answer before tells it. -/
def Told (heard : (q : HelperCall) → q.Reply → Prop)
    (before : List (Deed Helper HelperStep HelperCall HelperCall.Reply)) : Prop :=
  ∃ q answer, .asked q answer ∈ before ∧ heard q answer

/-- A change that the deeds before it earn: an owner is the user the bus told the sender to be,
a process is written to a cgroup once its executable and its start time were read and found to
be those of the request, and a directory is removed once it was seen to be an orphan. -/
def FileCall.Earned (request : HelperRequest) (sender : Option String)
    (before : List (Deed Helper HelperStep HelperCall HelperCall.Reply)) : FileCall → Prop
  | .chown _ owner => Told (CallerHeard sender owner) before
  | .write _ _ => ∀ ruleId pid startTime executablePath,
    request = .helper1 (.adoptApplicationProcess ruleId pid startTime executablePath) →
      ∀ evidence : ProcessEvidence, Told
        (evidence.Heard ApplicationCgroupManager.system ⟨pid, startTime, executablePath⟩) before
  | .removeDir path => ∀ evidence : OrphanEvidence,
    Told (evidence.Heard ApplicationCgroupManager.system (components path)) before
  | _ => True

/-- An answer that gives leave is one that tells. -/
theorem Leave.told {leave : Leave HelperStep HelperCall HelperCall.Reply}
    {before : List (Deed Helper HelperStep HelperCall HelperCall.Reply)}
    (h : False ∨ ∃ earlier ∈ before, leave.Given earlier) : Told leave.gives before := by
  obtain ⟨earlier, hmem, hgiven⟩ := h.resolve_left id
  cases earlier with
  | did l found => exact hgiven.elim
  | asked q answer => exact ⟨q, answer, hmem, hgiven⟩

/-- The directory of an orphan is below the root. -/
theorem owns_of_listed {path : PathBuf}
    {before : List (Deed Helper HelperStep HelperCall HelperCall.Reply)}
    (h : Told (OrphanEvidence.listed.Heard ApplicationCgroupManager.system (components path))
      before) : ApplicationCgroupManager.system.Owns path := by
  obtain ⟨q, answer, -, hheard⟩ := h
  cases q with
  | file call =>
    cases call with
    | readDir listed =>
      obtain ⟨-, _, name, -, -, hsafe, hpath⟩ := hheard
      exact ⟨name, hsafe, Or.inl hpath⟩
    | _ => exact hheard.elim
  | _ => exact hheard.elim

end Earned

/-! ## Every run of a request -/

/-- Nothing a client sends can be decoded. -/
def noCodec : HelperCodec := ⟨fun _ => .error "no plan", fun _ => .error "no activation"⟩

/-- A client has a cgroup prepared. -/
def preparedRequest : HelperRequest := .helper1 (.prepareApplicationCgroup "browser")

/-- The deeds of a client that has a cgroup prepared. -/
def preparedDeeds : List (Deed Helper HelperStep HelperCall HelperCall.Reply) :=
  [.asked (.connectionUnixUser ":1.7") (.ok 1000),
    .asked (.checkAuthorization ":1.7" preparedRequest) (.ok (true, false)),
    .asked (.connectionUnixUser ":1.7") (.ok 1000),
    .asked (.file (.createDirAll "/sys/fs/cgroup/routelane.apps/browser")) (.ok ()),
    .asked (.file (.chown "/sys/fs/cgroup/routelane.apps/browser" 1000)) (.ok ()),
    .asked (.file (.chown "/sys/fs/cgroup/routelane.apps/browser/cgroup.procs" 1000)) (.ok ())]

theorem rulePath_browser : ApplicationCgroupManager.system.rulePath "browser" =
    .ok "/sys/fs/cgroup/routelane.apps/browser" := by decide +kernel

theorem joinPath_browser : joinPath "/sys/fs/cgroup/routelane.apps/browser" "cgroup.procs" =
    "/sys/fs/cgroup/routelane.apps/browser/cgroup.procs" := by decide +kernel

theorem ends_prepared : Ends
    (preparedRequest.serve countPrimitives noCodec (some ":1.7")) preparedDeeds
    (.ok (.prepared "/sys/fs/cgroup/routelane.apps/browser")) := by
  refine .ask _ (.ask _ (.ask _ ?_))
  have hprepare : (ApplicationCgroupManager.system.prepare "browser" 1000 : HelperTask _) =
      (io (file (.createDirAll "/sys/fs/cgroup/routelane.apps/browser"))).andThen fun _ =>
        (chownTargets 1000 ["/sys/fs/cgroup/routelane.apps/browser",
          "/sys/fs/cgroup/routelane.apps/browser/cgroup.procs"]).andThen fun _ =>
            return .ok "/sys/fs/cgroup/routelane.apps/browser" := by
    rw [ApplicationCgroupManager.prepare, rulePath_browser, ← joinPath_browser]
    rfl
  show Ends (((ApplicationCgroupManager.system.prepare "browser" 1000 : HelperTask _).mapError
    fun error => FdoError.failed error.text).andThen fun path =>
      return .ok (HelperResponse.prepared path)) _ _
  rw [hprepare]
  exact .ask _ (.ask _ (.ask _ (.done _)))

section Runs

variable (p : Primitives) (codec : HelperCodec) (request : HelperRequest) (sender : Option String)
  {deeds : List (Deed Helper HelperStep HelperCall HelperCall.Reply)}
  {result : Except FdoError HelperResponse}

/-- Before polkit granted the request to its sender, the request does nothing to the backend
but look at it, changes no file, and does not succeed unless it only looks. -/
theorem HelperRequest.waits_for_polkit (h : Ends (request.serve p codec sender) deeds result) :
    (∀ before deed after, deeds = before ++ deed :: after →
      (polkitLeave sender request).Needed deed → Told (GrantedBy sender request) before) ∧
    (∀ response, result = .ok response →
      request.inspects = true ∨ Told (GrantedBy sender request) deeds) := by
  obtain ⟨hdeeds, hresult⟩ := (request.heeds_polkit p codec sender).ends h
  refine ⟨?_, ?_⟩
  · intro before deed after heq hneeded
    exact Leave.told (hdeeds before deed after heq hneeded)
  · intro response hok
    rcases hresult with hfree | hgiven
    · exact Or.inl (hfree response hok)
    · exact Or.inr (Leave.told hgiven)

/-- A client that has a cgroup prepared was granted this first. -/
theorem HelperRequest.waits_for_polkit_prepared :
    (∀ before deed after, preparedDeeds = before ++ deed :: after →
      (polkitLeave (some ":1.7") preparedRequest).Needed deed →
        Told (GrantedBy (some ":1.7") preparedRequest) before) ∧
    (∀ response, Except.ok (HelperResponse.prepared "/sys/fs/cgroup/routelane.apps/browser") =
        (.ok response : Except FdoError HelperResponse) →
      preparedRequest.inspects = true ∨
        Told (GrantedBy (some ":1.7") preparedRequest) preparedDeeds) :=
  HelperRequest.waits_for_polkit countPrimitives noCodec preparedRequest (some ":1.7") ends_prepared

/-- Every change a request makes to a file fits the request, is below the root of the
application cgroups, and was earned by what was asked before. -/
theorem HelperRequest.changes_earned (h : Ends (request.serve p codec sender) deeds result)
    {before after : List (Deed Helper HelperStep HelperCall HelperCall.Reply)} {call : FileCall}
    {answer : call.Reply} (hdeeds : deeds = before ++ .asked (.file call) answer :: after)
    (hchanges : call.changes = true) :
    call.Fits request ∧ ApplicationCgroupManager.system.Owns call.path ∧
      call.Earned request sender before := by
  have hgiven : ∀ {leave : Leave HelperStep HelperCall HelperCall.Reply} {known : ℕ → Prop},
      HeedsFiles leave request sender known → leave.question (.file call) →
        Told leave.gives before := by
    intro leave known hheeds hquestion
    have hserve : HeedsFiles.Fine leave False (request.serve p codec sender) := hheeds.serve
    exact Leave.told ((hserve.ends h).1 before _ after hdeeds hquestion)
  have hfits : call.Fits request := by
    by_contra hunfit
    obtain ⟨_, _, -, hfalse⟩ := hgiven heedsFiles_unfit ⟨call, rfl, hunfit⟩
    exact hfalse
  cases call with
  | createDirAll path => exact ⟨hfits, hfits, trivial⟩
  | chown path owner => exact ⟨hfits, hfits, hgiven heedsFiles_owner ⟨path, rfl⟩⟩
  | write path text =>
    refine ⟨hfits, ?_, ?_⟩
    · obtain ⟨_, _, _, _, directory, -, hdirectory, rfl, -⟩ := hfits
      exact owns_control ApplicationCgroupManager.endsInName_system hdirectory
    · intro ruleId pid startTime executablePath hrequest evidence
      exact hgiven (heedsFiles_process hrequest) ⟨path, text, rfl⟩
  | removeDir path =>
    have horphan : ∀ evidence : OrphanEvidence,
        Told (evidence.Heard ApplicationCgroupManager.system (components path)) before :=
      fun evidence => hgiven heedsFiles_orphan ⟨path, rfl, rfl⟩
    exact ⟨hfits, owns_of_listed (horphan .listed), horphan⟩
  | «exists» path => cases hchanges
  | readLink path => cases hchanges
  | readToString path => cases hchanges
  | readDir path => cases hchanges
  | openWrite path => cases hchanges

/-- The cgroup is given to the user the bus told the client to be. -/
theorem HelperRequest.changes_earned_prepared :
    (FileCall.chown "/sys/fs/cgroup/routelane.apps/browser" 1000).Fits preparedRequest ∧
      ApplicationCgroupManager.system.Owns "/sys/fs/cgroup/routelane.apps/browser" ∧
      (FileCall.chown "/sys/fs/cgroup/routelane.apps/browser" 1000).Earned preparedRequest
        (some ":1.7") (preparedDeeds.take 4) :=
  HelperRequest.changes_earned countPrimitives noCodec preparedRequest (some ":1.7") ends_prepared
    (show preparedDeeds = preparedDeeds.take 4 ++
      .asked (.file (.chown "/sys/fs/cgroup/routelane.apps/browser" 1000)) (.ok ()) ::
        preparedDeeds.drop 5 from rfl) rfl

end Runs

end RouteLane
