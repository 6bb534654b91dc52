import RouteLane.Backend.OrphanDocument
import RouteLane.Helper.Requests

/-!
# Application cgroups

The directories the helper keeps for the rules of applications, and the only files outside
its state directory it ever changes.  Their names come from the bus.  A name is checked
before it becomes a path, a process before it is moved, and a directory before it is removed;
what the file system answers in between is anything.
-/

namespace RouteLane

open Tasks

/-! ## Paths -/

/-- `Path::join`. -/
def joinPath (path : PathBuf) (name : String) : PathBuf :=
  if startsWith name "/" then name
  else if path.toList.getLast?.any (· != '/') then path ++ "/" ++ name
  else path ++ name

/-- What comes after the last separator, as in `str::rsplit_once`. -/
def afterLast (separator : List Char) : List Char → Option (List Char)
  | [] => none
  | c :: rest =>
    match afterLast separator rest with
    | some found => some found
    | none =>
      if separator <+: c :: rest then some ((c :: rest).drop separator.length) else none

/-- `str::split_whitespace`. -/
def splitWhitespace (text : List Char) : List (List Char) :=
  (text.splitOnP isWhitespace).filter fun word => word != []

/-! ## The rules of a plan -/

/-- `application_cgroup_rule_ids`, with the ids that were seen. -/
def cgroupRuleIds (seen : List RuleId) : List CompiledRule → Except CgroupError (List RuleId)
  | [] => .ok seen
  | rule :: rules =>
    match rule.target with
    | .cgroup path =>
      match stripPrefix "routelane.apps/" path with
      | none => .error .invalidRuleId
      | some id =>
        if id ≠ rule.id then .error .invalidRuleId
        else if rule.id ∈ seen then cgroupRuleIds seen rules
        else cgroupRuleIds (seen ++ [rule.id]) rules
    | _ => cgroupRuleIds seen rules

/-- `application_cgroup_rule_ids`. -/
def applicationCgroupRuleIds (rules : List CompiledRule) : Except CgroupError (List RuleId) :=
  cgroupRuleIds [] rules

/-! ## The manager -/

structure ProcessIdentity where
  pid : ℕ
  startTime : ℕ
  executablePath : PathBuf

structure ApplicationCgroupManager where
  root : PathBuf
  procRoot : PathBuf

/-- `ApplicationCgroupManager::system`. -/
def ApplicationCgroupManager.system : ApplicationCgroupManager :=
  ⟨"/sys/fs/cgroup/routelane.apps", "/proc"⟩

/-- A byte a directory may be named with. -/
def isNameChar (c : Char) : Bool := c.isAlphanum || c == '-' || c == '_'

/-- `delegation_targets`. -/
def delegationTargets (path : PathBuf) : List PathBuf := [path, joinPath path "cgroup.procs"]

/-- The start time in the `stat` of a process: the field after the 19 that follow its name. -/
def statStartTime (stat : String) : Option ℕ := do
  let fields ← afterLast ") ".toList stat.toList
  let value ← (splitWhitespace fields)[19]?
  u64FromStr (.ofList value)

section Manager

variable {σ L : Type} (manager : ApplicationCgroupManager)

/-- What the manager does on the file system. -/
abbrev FileTask (σ L α : Type) := Task σ L HelperCall HelperCall.Reply α

def file (call : FileCall) : FileTask σ L call.Reply := Task.question (HelperCall.file call)

/-- `map_err(io_error)`. -/
def io {α : Type} (task : FileTask σ L (Except String α)) : FileTask σ L (Except CgroupError α) := do
  match ← task with
  | .error message => return .error (.io message)
  | .ok a => return .ok a

/-- `rule_path`. -/
def ApplicationCgroupManager.rulePath (ruleId : RuleId) : Except CgroupError PathBuf :=
  if ruleId = "" ∨ ruleId = "." ∨ ruleId = ".." ∨ !ruleId.toList.all isNameChar then
    .error .invalidRuleId
  else .ok (joinPath manager.root ruleId)

/-- `chown` of each target.  No path has a NUL in it. -/
def chownTargets (owner : ℕ) : List PathBuf → FileTask σ L (Except CgroupError Unit)
  | [] => return .ok ()
  | target :: targets => (io (file (.chown target owner))).andThen fun _ =>
    chownTargets owner targets

/-- `prepare`. -/
def ApplicationCgroupManager.prepare (ruleId : RuleId) (owner : ℕ) :
    FileTask σ L (Except CgroupError PathBuf) :=
  match manager.rulePath ruleId with
  | .error e => return .error e
  | .ok path =>
    (io (file (.createDirAll path))).andThen fun _ =>
      (chownTargets owner (delegationTargets path)).andThen fun _ => return .ok path

/-- `matches_process`. -/
def ApplicationCgroupManager.matchesProcess (identity : ProcessIdentity) : FileTask σ L Bool := do
  let path := joinPath manager.procRoot (toString identity.pid)
  match ← file (.readLink (joinPath path "exe")) with
  | .error _ => return false
  | .ok executablePath =>
    if components executablePath ≠ components identity.executablePath then return false
    else
      match ← file (.readToString (joinPath path "stat")) with
      | .error _ => return false
      | .ok stat => return decide (statStartTime stat = some identity.startTime)

/-- `adopt`.  `writeln!` writes the number and the end of the line one after the other. -/
def ApplicationCgroupManager.adopt (ruleId : RuleId) (identity : ProcessIdentity) :
    FileTask σ L (Except CgroupError Unit) :=
  match manager.rulePath ruleId with
  | .error e => return .error e
  | .ok path => do
    if ← manager.matchesProcess identity then
      let control := joinPath path "cgroup.procs"
      (io (file (.openWrite control))).andThen fun _ =>
        (io (file (.write control (toString identity.pid)))).andThen fun _ =>
          io (file (.write control "\n"))
    else return .error (.processIdentityMismatch identity.pid)

/-- No entry of a cgroup is a directory. -/
def checkFlat : List (Except String DirEntry) → Except CgroupError Unit
  | [] => .ok ()
  | child :: children =>
    match child.bind DirEntry.fileType with
    | .error message => .error (.io message)
    | .ok .directory => .error (.io "RouteLane application cgroup contains a nested directory")
    | .ok _ => checkFlat children

/-- The cgroup of an entry of the root that is a directory, once it is seen to be empty. -/
def ApplicationCgroupManager.verifyDirectory (name : String) :
    FileTask σ L (Except CgroupError PathBuf) :=
  match manager.rulePath name with
  | .error e => return .error e
  | .ok path =>
    if components path ≠ components (joinPath manager.root name) then return .error .invalidRuleId
    else
      (io (file (.readToString (joinPath path "cgroup.procs")))).andThen fun members =>
        if trim members.toList ≠ [] then return .error (.cgroupNotEmpty name)
        else (io (file (.readDir path))).andThen fun children =>
          match checkFlat children with
          | .error e => return .error e
          | .ok () => return .ok path

/-- The entries of the root, one after the other. -/
def ApplicationCgroupManager.verifyEntries :
    List (Except String DirEntry) → List PathBuf → FileTask σ L (Except CgroupError (List PathBuf))
  | [], paths => return .ok paths
  | .error message :: _, _ => return .error (.io message)
  | .ok entry :: entries, paths =>
    match entry.fileType with
    | .error message => return .error (.io message)
    | .ok .symlink =>
      return .error (.io "RouteLane application cgroup root contains a symbolic link")
    | .ok .file => ApplicationCgroupManager.verifyEntries entries paths
    | .ok .other =>
      return .error (.io "RouteLane application cgroup root contains an unsupported entry")
    | .ok .directory =>
      match entry.name with
      | none => return .error .invalidRuleId
      | some name => (manager.verifyDirectory name).andThen fun path =>
        ApplicationCgroupManager.verifyEntries entries (paths ++ [path])

/-- `verified_orphan_directories`.  Below one root, paths are in the order of their texts. -/
def ApplicationCgroupManager.verifiedOrphanDirectories :
    FileTask σ L (Except CgroupError (List PathBuf)) := do
  if ← file (.exists manager.root) then
    (io (file (.readDir manager.root))).andThen fun entries =>
      (manager.verifyEntries entries []).andThen fun paths =>
        return .ok (paths.mergeSort fun a b => decide (a ≤ b))
  else return .ok []

/-- `remove_dir` of each path. -/
def removeDirectories : List PathBuf → FileTask σ L (Except CgroupError Unit)
  | [] => return .ok ()
  | path :: paths => (io (file (.removeDir path))).andThen fun _ => removeDirectories paths

/-- `remove_verified_orphan_directories`. -/
def ApplicationCgroupManager.removeVerifiedOrphanDirectories (paths : List PathBuf) :
    FileTask σ L (Except CgroupError Unit) :=
  manager.verifiedOrphanDirectories.andThen fun verified =>
    if paths.any fun path => !verified.any fun other => components other == components path then
      return .error (.io "application cgroup cleanup target was not verified")
    else removeDirectories paths

end Manager

/-! ## Names and paths -/

/-- A name that is one component, whatever it is joined to. -/
structure PlainName (name : String) : Prop where
  nonempty : name.toList ≠ []
  separator : '/' ∉ name.toList
  dot : name.toList ≠ ['.']

/-- A name made of letters, digits, `-` and `_` alone. -/
def SafeName (name : String) : Prop := name.toList ≠ [] ∧ ∀ c ∈ name.toList, isNameChar c = true

/-- The path ends in a component. -/
def EndsInName (path : PathBuf) : Prop := path.toList.getLast?.any (· != '/') = true

theorem SafeName.plain {name : String} (h : SafeName name) : PlainName name where
  nonempty := h.1
  separator := by
    intro hmem
    exact absurd (h.2 '/' hmem) (by decide)
  dot := by
    intro heq
    exact absurd (h.2 '.' (by rw [heq]; exact List.mem_singleton_self _)) (by decide)

theorem plainName_procs : PlainName "cgroup.procs" := ⟨by decide, by decide, by decide⟩

section Join

variable {path : PathBuf} {name : String}

theorem PlainName.not_startsWith (h : PlainName name) : startsWith name "/" = false := by
  rw [startsWith, decide_eq_false_iff_not]
  rintro ⟨rest, hrest⟩
  exact h.separator (by rw [← hrest]; exact List.mem_append_left _ (List.mem_singleton_self _))

theorem joinPath_eq (hpath : EndsInName path) (h : PlainName name) :
    joinPath path name = path ++ "/" ++ name := by
  have hlast : path.toList.getLast?.any (· != '/') = true := hpath
  rw [joinPath, h.not_startsWith, if_neg Bool.false_ne_true, if_pos hlast]

theorem toList_joinPath (hpath : EndsInName path) (h : PlainName name) :
    (joinPath path name).toList = path.toList ++ '/' :: name.toList := by
  rw [joinPath_eq hpath h, String.toList_append, String.toList_append, List.append_assoc]
  rfl

theorem endsInName_joinPath (hpath : EndsInName path) (h : PlainName name) :
    EndsInName (joinPath path name) := by
  obtain ⟨start, last, hlast⟩ := (List.eq_nil_or_concat name.toList).resolve_left h.nonempty
  rw [List.concat_eq_append] at hlast
  have hne : last ≠ '/' := by
    rintro rfl
    exact h.separator (by rw [hlast]; simp)
  rw [EndsInName, toList_joinPath hpath h, hlast, ← List.cons_append, ← List.append_assoc,
    List.getLast?_concat]
  simpa using hne

/-- To join a name is to add a component. -/
theorem components_joinPath (hpath : EndsInName path) (h : PlainName name) :
    components (joinPath path name) = components path ++ [name.toList] := by
  have hparts : (joinPath path name).toList.splitOn '/' =
      path.toList.splitOn '/' ++ [name.toList] := by
    rw [toList_joinPath hpath h, List.splitOn_append_cons_self, List.splitOn_eq_singleton h.separator]
  have hkept : [name.toList].filter (fun part => part != [] && part != ['.']) = [name.toList] := by
    simp [h.nonempty, h.dot]
  rw [components, components, hparts, List.filter_append, hkept, ← List.append_assoc]
  congr 2
  -- the path has a first part, and one that is empty is not its last
  obtain ⟨first, rest, hfirst⟩ := List.exists_cons_of_ne_nil (List.splitOn_ne_nil '/' path.toList)
  have hlonger : first = [] → 1 < (path.toList.splitOn '/').length := by
    rintro rfl
    cases rest with
    | cons second rest =>
      rw [hfirst]
      simp
    | nil =>
      have hwhole : ['/'].intercalate (path.toList.splitOn '/') = path.toList :=
        List.intercalate_splitOn '/'
      rw [hfirst] at hwhole
      rw [EndsInName, ← hwhole] at hpath
      exact absurd hpath (by decide)
  have hlength : 1 < (path.toList.splitOn '/' ++ [name.toList]).length := by
    rw [hfirst]
    simp
  have hhead : (path.toList.splitOn '/' ++ [name.toList]).head? = some first := by
    rw [hfirst]
    rfl
  have hhead' : (path.toList.splitOn '/').head? = some first := by
    rw [hfirst]
    rfl
  rw [hhead, hhead']
  by_cases hempty : first = []
  · rw [if_pos ⟨by rw [hempty], hlength⟩, if_pos ⟨by rw [hempty], hlonger hempty⟩]
  · have hsome : ¬some first = some [] := fun h => hempty (Option.some.inj h)
    simp only [hsome, false_and, if_false]

end Join

/-! ## Below the root -/

/-- The directory of a rule, or its control file. -/
def ApplicationCgroupManager.Owns (manager : ApplicationCgroupManager) (path : PathBuf) : Prop :=
  ∃ name, SafeName name ∧ (components path = components manager.root ++ [name.toList] ∨
    components path = components manager.root ++ [name.toList, "cgroup.procs".toList])

theorem ApplicationCgroupManager.endsInName_system :
    EndsInName ApplicationCgroupManager.system.root := by
  unfold EndsInName
  decide

section Owned

variable {manager : ApplicationCgroupManager} {ruleId : RuleId} {path : PathBuf}

theorem rulePath_eq_ok (h : manager.rulePath ruleId = .ok path) :
    SafeName ruleId ∧ path = joinPath manager.root ruleId := by
  unfold ApplicationCgroupManager.rulePath at h
  split at h
  · cases h
  · rename_i hsafe
    obtain rfl := Except.ok.inj h
    obtain ⟨hempty, -, -, hchars⟩ : ruleId ≠ "" ∧ ruleId ≠ "." ∧ ruleId ≠ ".." ∧
        ruleId.toList.all isNameChar = true := by simpa using hsafe
    refine ⟨⟨?_, fun c hc => List.all_eq_true.1 hchars c hc⟩, rfl⟩
    exact fun hnil => hempty (String.toList_inj.1 hnil)

variable (hroot : EndsInName manager.root)
include hroot

theorem components_rulePath (h : manager.rulePath ruleId = .ok path) :
    components path = components manager.root ++ [ruleId.toList] := by
  obtain ⟨hsafe, rfl⟩ := rulePath_eq_ok h
  exact components_joinPath hroot hsafe.plain

theorem components_control (h : manager.rulePath ruleId = .ok path) :
    components (joinPath path "cgroup.procs") = components path ++ ["cgroup.procs".toList] := by
  obtain ⟨hsafe, rfl⟩ := rulePath_eq_ok h
  exact components_joinPath (endsInName_joinPath hroot hsafe.plain) plainName_procs

theorem owns_rulePath (h : manager.rulePath ruleId = .ok path) : manager.Owns path :=
  ⟨ruleId, (rulePath_eq_ok h).1, Or.inl (components_rulePath hroot h)⟩

theorem owns_control (h : manager.rulePath ruleId = .ok path) :
    manager.Owns (joinPath path "cgroup.procs") := by
  refine ⟨ruleId, (rulePath_eq_ok h).1, Or.inr ?_⟩
  rw [components_control hroot h, components_rulePath hroot h, List.append_assoc]
  rfl

end Owned

/-! ## What is asked of the file system -/

section Heeding

variable {σ L α : Type} {leave : Leave L HelperCall HelperCall.Reply} {given : Prop}
  {manager : ApplicationCgroupManager}

/-- The calls that need no leave. -/
def Spares (leave : Leave L HelperCall HelperCall.Reply) (P : FileCall → Prop) : Prop :=
  ∀ call, P call → ¬leave.question (.file call)

theorem heeds_io {free : α → Prop} {task : FileTask σ L (Except String α)}
    (h : Heeds leave (FreeValue free) given task) : Heeds leave (FreeValue free) given (io task) := by
  refine h.bind fun result hresult => ?_
  cases result with
  | error message => exact Heeds.pure fun a ha => by cases ha
  | ok a => exact Heeds.pure fun b hb => by cases hb; exact hresult a rfl

/-- A call that needs no leave. -/
theorem heeds_call {task : FileTask σ L (Except String α)}
    (h : Heeds leave (fun _ => True) given task) :
    Heeds leave (FreeValue fun _ => True) given (io task) :=
  heeds_io (h.weaken fun _ _ _ _ => trivial)

theorem heeds_chownTargets {owner : ℕ} {targets : List PathBuf}
    (h : ∀ target ∈ targets, ¬leave.question (.file (.chown target owner))) :
    Heeds leave (FreeValue fun _ => True) given
      (chownTargets owner targets : FileTask σ L (Except CgroupError Unit)) := by
  induction targets with
  | nil => exact Heeds.pure fun _ _ => trivial
  | cons target targets ih =>
    refine (heeds_call (Heeds.question (h target List.mem_cons_self))).andThen fun _ _ => ?_
    exact ih fun other hother => h other (List.mem_cons_of_mem _ hother)

/-- A prepared cgroup is below the root. -/
theorem heeds_prepare {ruleId : RuleId} {owner : ℕ} (hroot : EndsInName manager.root)
    (hcreate : Spares leave fun call => ∃ path, call = .createDirAll path ∧ manager.Owns path)
    (hchown : Spares leave fun call => ∃ path, call = .chown path owner ∧ manager.Owns path) :
    Heeds leave (FreeValue fun _ => True) given
      (manager.prepare ruleId owner : FileTask σ L (Except CgroupError PathBuf)) := by
  unfold ApplicationCgroupManager.prepare
  split
  · exact Heeds.pure fun _ _ => trivial
  · rename_i path hpath
    have hcreated := hcreate (.createDirAll path) ⟨path, rfl, owns_rulePath hroot hpath⟩
    refine (heeds_call (Heeds.question hcreated)).andThen fun _ _ => ?_
    have htargets : ∀ target ∈ delegationTargets path,
        ¬leave.question (.file (.chown target owner)) := by
      intro target htarget
      refine hchown _ ⟨target, rfl, ?_⟩
      rcases List.mem_pair.1 htarget with rfl | rfl
      · exact owns_rulePath hroot hpath
      · exact owns_control hroot hpath
    exact (heeds_chownTargets htargets).andThen fun _ _ => Heeds.pure fun _ _ => trivial

/-- The calls that read, or open. -/
theorem Spares.read (h : Spares leave fun call => call.changes = false) (call : FileCall)
    (hcall : call.changes = false) : Heeds leave (fun _ => True) given
      (file call : FileTask σ L call.Reply) := Heeds.question (h call hcall)

/-! ### A process that is moved -/

/-- What tells that a process is the one that was asked for. -/
inductive ProcessEvidence where
  | executable
  | startTime

/-- The answer that tells it. -/
def ProcessEvidence.Heard (manager : ApplicationCgroupManager) (identity : ProcessIdentity) :
    ProcessEvidence → (q : HelperCall) → q.Reply → Prop
  | .executable, .file (.readLink path), answer =>
    path = joinPath (joinPath manager.procRoot (toString identity.pid)) "exe" ∧
      ∃ executable, answer = .ok executable ∧
        components executable = components identity.executablePath
  | .startTime, .file (.readToString path), answer =>
    path = joinPath (joinPath manager.procRoot (toString identity.pid)) "stat" ∧
      ∃ stat, answer = .ok stat ∧ statStartTime stat = some identity.startTime
  | _, _, _ => False

/-- Nothing is changed, on the file system or elsewhere, before the evidence is there. -/
def ProcessEvidence.toWrite (L : Type) (manager : ApplicationCgroupManager)
    (identity : ProcessIdentity) (evidence : ProcessEvidence) :
    Leave L HelperCall HelperCall.Reply where
  gives := evidence.Heard manager identity
  step _ := True
  question q := ∃ call, q = .file call ∧ call.changes = true

theorem heeds_matchesProcess {identity : ProcessIdentity} {evidence : ProcessEvidence} :
    Heeds (evidence.toWrite L manager identity) (fun matched => matched = false) given
      (manager.matchesProcess identity : FileTask σ L Bool) := by
  unfold ApplicationCgroupManager.matchesProcess
  refine Heeds.question_bind (by rintro ⟨_, ⟨⟩, ⟨⟩⟩) fun answer => ?_
  cases answer with
  | error _ => exact Heeds.pure rfl
  | ok executable =>
    dsimp only
    split
    · exact Heeds.pure rfl
    · rename_i hsame
      refine Heeds.question_bind (by rintro ⟨_, ⟨⟩, ⟨⟩⟩) fun answer => ?_
      cases answer with
      | error _ => exact Heeds.pure rfl
      | ok stat =>
        by_cases hstart : statStartTime stat = some identity.startTime
        · refine Heeds.of_given ?_
          cases evidence with
          | executable => exact Or.inl (Or.inr ⟨rfl, executable, rfl, not_not.1 hsame⟩)
          | startTime => exact Or.inr ⟨rfl, stat, rfl, hstart⟩
        · exact Heeds.pure (by simp [hstart])

/-- A process is written to a cgroup only after its executable and its start time were read and
found to be those that were asked for. -/
theorem heeds_adopt {ruleId : RuleId} {identity : ProcessIdentity} {evidence : ProcessEvidence} :
    Heeds (evidence.toWrite L manager identity) (fun _ => True) given
      (manager.adopt ruleId identity : FileTask σ L (Except CgroupError Unit)) := by
  unfold ApplicationCgroupManager.adopt
  split
  · exact Heeds.pure trivial
  · refine heeds_matchesProcess.bind ?_
    rintro _ rfl
    exact Heeds.pure trivial

/-- The number of the process is written to the control file of the rule, and nothing else. -/
theorem heeds_adopt_write {ruleId : RuleId} {identity : ProcessIdentity}
    (hread : Spares leave fun call => call.changes = false)
    (hwrite : ∀ path, manager.rulePath ruleId = .ok path →
      Spares leave fun call => call = .write (joinPath path "cgroup.procs") (toString identity.pid) ∨
        call = .write (joinPath path "cgroup.procs") "\n") :
    Heeds leave (fun _ => True) given
      (manager.adopt ruleId identity : FileTask σ L (Except CgroupError Unit)) := by
  unfold ApplicationCgroupManager.adopt
  split
  · exact Heeds.pure trivial
  · rename_i path hpath
    have hmatches : Heeds leave (fun _ => True) given
        (manager.matchesProcess identity : FileTask σ L Bool) := by
      refine (hread.read (.readLink _) rfl).bind fun answer _ => ?_
      cases answer with
      | error _ => exact Heeds.pure trivial
      | ok executable =>
        dsimp only
        split
        · exact Heeds.pure trivial
        · refine (hread.read (.readToString _) rfl).bind fun answer _ => ?_
          cases answer with
          | error _ => exact Heeds.pure trivial
          | ok stat => exact Heeds.pure trivial
    refine hmatches.bind fun matched _ => ?_
    cases matched with
    | false => exact Heeds.pure trivial
    | true =>
      have hspared := hwrite path hpath
      have hcontrol : Heeds leave (FreeValue fun _ => True) given
          (io (file (.write (joinPath path "cgroup.procs") "\n")) :
            FileTask σ L (Except CgroupError Unit)) := heeds_call (Heeds.question (hspared _ (Or.inr rfl)))
      have hpid := (heeds_call (σ := σ) (Heeds.question
        (hspared _ (Or.inl rfl)))).andThen fun _ _ => hcontrol
      exact ((heeds_call (hread.read (.openWrite _) rfl)).andThen fun _ _ => hpid).weaken
        fun _ _ => trivial

/-! ### A directory that is removed -/

/-- What tells that a directory is an orphan. -/
inductive OrphanEvidence where
  | listed
  | unused
  | flat

/-- The answer that tells it of the directory with these components: the root lists it under a
name of a rule and as a directory, no process is in it, and it has no directory of its own. -/
def OrphanEvidence.Heard (manager : ApplicationCgroupManager) (target : List (List Char)) :
    OrphanEvidence → (q : HelperCall) → q.Reply → Prop
  | .listed, .file (.readDir path), answer =>
    path = manager.root ∧ ∃ entries name, answer = .ok entries ∧
      .ok ⟨some name, .ok .directory⟩ ∈ entries ∧ SafeName name ∧
        target = components manager.root ++ [name.toList]
  | .unused, .file (.readToString path), answer =>
    components path = target ++ ["cgroup.procs".toList] ∧
      ∃ members, answer = .ok members ∧ trim members.toList = []
  | .flat, .file (.readDir path), answer =>
    components path = target ∧ ∃ children, answer = .ok children ∧ checkFlat children = .ok ()
  | _, _, _ => False

/-- The directory is not removed before the evidence is there, and nothing else is changed but
other directories removed. -/
def OrphanEvidence.toRemove (L : Type) (manager : ApplicationCgroupManager)
    (target : List (List Char)) (evidence : OrphanEvidence) :
    Leave L HelperCall HelperCall.Reply where
  gives := evidence.Heard manager target
  step _ := True
  question q := ∃ call, q = .file call ∧ call.changes = true ∧
    ∀ path, call = .removeDir path → components path = target

section Orphans

variable {target : List (List Char)} {evidence : OrphanEvidence}

/-- The entries of the root list the target, or it does not matter. -/
def OrphanEvidence.Told (manager : ApplicationCgroupManager) (target : List (List Char))
    (evidence : OrphanEvidence) (given : Prop) (name : String) : Prop :=
  evidence = .listed → SafeName name → target = components manager.root ++ [name.toList] → given

theorem heeds_verifyDirectory {name : String} (hroot : EndsInName manager.root)
    (htold : evidence.Told manager target given name) :
    Heeds (evidence.toRemove L manager target) (FreeValue fun path => components path ≠ target)
      given (manager.verifyDirectory name : FileTask σ L (Except CgroupError PathBuf)) := by
  unfold ApplicationCgroupManager.verifyDirectory
  split
  · exact Heeds.pure fun _ h => by cases h
  · rename_i path hpath
    have hpathComponents := components_rulePath hroot hpath
    split
    · exact Heeds.pure fun _ h => by cases h
    · by_cases htarget : components path = target
      swap
      · -- another directory
        have hmembers : Heeds (evidence.toRemove L manager target) (fun _ => True) given
            (file (.readToString (joinPath path "cgroup.procs")) : FileTask σ L _) :=
          Heeds.question (by rintro ⟨_, ⟨⟩, ⟨⟩, _⟩)
        have hchildren : Heeds (evidence.toRemove L manager target) (fun _ => True) given
            (file (.readDir path) : FileTask σ L _) := Heeds.question (by rintro ⟨_, ⟨⟩, ⟨⟩, _⟩)
        refine (heeds_call hmembers).andThen fun members _ => ?_
        split
        · exact Heeds.pure fun _ h => by cases h
        · refine (heeds_call hchildren).andThen fun children _ => ?_
          split
          · exact Heeds.pure fun _ h => by cases h
          · exact Heeds.pure fun _ h => by cases h; exact htarget
      · have hmembers : Heeds (evidence.toRemove L manager target)
            (FreeValue fun members => evidence = .unused → trim members.toList ≠ []) given
            (file (.readToString (joinPath path "cgroup.procs")) : FileTask σ L _) := by
          refine (Heeds.asking (by rintro ⟨_, ⟨⟩, ⟨⟩, _⟩)).weaken fun answer hnot members hanswer => ?_
          rintro rfl hblank
          refine hnot ⟨?_, members, hanswer, hblank⟩
          rw [components_control hroot hpath, htarget]
        have hchildren : Heeds (evidence.toRemove L manager target)
            (FreeValue fun children => evidence = .flat → checkFlat children ≠ .ok ()) given
            (file (.readDir path) : FileTask σ L _) := by
          refine (Heeds.asking (by rintro ⟨_, ⟨⟩, ⟨⟩, _⟩)).weaken fun answer hnot children hanswer => ?_
          rintro rfl hflat
          exact hnot ⟨htarget, children, hanswer, hflat⟩
        refine (heeds_io hmembers).andThen fun members hunused => ?_
        split
        · exact Heeds.pure fun _ h => by cases h
        · rename_i hblank
          refine (heeds_io hchildren).andThen fun children hflat => ?_
          split
          · exact Heeds.pure fun _ h => by cases h
          · rename_i hok
            -- the evidence is there, of whichever kind it is
            refine Heeds.of_given ?_
            cases evidence with
            | listed =>
              exact htold rfl (rulePath_eq_ok hpath).1 (htarget.symm.trans hpathComponents)
            | unused => exact absurd (not_not.1 hblank) (hunused rfl)
            | flat => exact absurd hok (hflat rfl)

theorem heeds_verifyEntries (hroot : EndsInName manager.root)
    {entries : List (Except String DirEntry)} {paths : List PathBuf}
    (htold : ∀ name, .ok ⟨some name, .ok .directory⟩ ∈ entries →
      evidence.Told manager target given name)
    (hpaths : ∀ path ∈ paths, components path ≠ target) :
    Heeds (evidence.toRemove L manager target)
      (FreeValue fun paths => ∀ path ∈ paths, components path ≠ target) given
      (manager.verifyEntries entries paths : FileTask σ L (Except CgroupError (List PathBuf))) := by
  induction entries generalizing paths with
  | nil => exact Heeds.pure fun _ h => by cases h; exact hpaths
  | cons entry entries ih =>
    have htold' : ∀ name, .ok ⟨some name, .ok .directory⟩ ∈ entries →
        evidence.Told manager target given name :=
      fun name hmem => htold name (List.mem_cons_of_mem _ hmem)
    cases entry with
    | error message => exact Heeds.pure fun _ h => by cases h
    | ok entry =>
      obtain ⟨name, fileType⟩ := entry
      cases fileType with
      | error message => exact Heeds.pure fun _ h => by cases h
      | ok fileType =>
        cases fileType with
        | symlink => exact Heeds.pure fun _ h => by cases h
        | other => exact Heeds.pure fun _ h => by cases h
        | file => exact ih htold' hpaths
        | directory =>
          cases name with
          | none => exact Heeds.pure fun _ h => by cases h
          | some name =>
            refine (heeds_verifyDirectory hroot (htold name List.mem_cons_self)).andThen
              fun path hpath => ih htold' fun other hother => ?_
            rcases List.mem_append.1 hother with hold | hnew
            · exact hpaths other hold
            · obtain rfl := List.mem_singleton.1 hnew
              exact hpath

theorem heeds_verifiedOrphanDirectories (hroot : EndsInName manager.root) :
    Heeds (evidence.toRemove L manager target)
      (FreeValue fun paths => ∀ path ∈ paths, components path ≠ target) given
      (manager.verifiedOrphanDirectories : FileTask σ L (Except CgroupError (List PathBuf))) := by
  refine Heeds.question_bind (by rintro ⟨_, ⟨⟩, ⟨⟩, _⟩) fun present => ?_
  cases present with
  | false => exact Heeds.pure fun _ h => by cases h; simp
  | true =>
    have hentries : ∀ {given : Prop}, Heeds (evidence.toRemove L manager target)
        (FreeValue fun entries => ∀ name, .ok ⟨some name, .ok .directory⟩ ∈ entries →
          evidence.Told manager target False name) given
        (file (.readDir manager.root) : FileTask σ L _) := by
      refine (Heeds.asking (by rintro ⟨_, ⟨⟩, ⟨⟩, _⟩)).weaken fun answer hnot entries hanswer => ?_
      rintro name hmem rfl hsafe htarget
      exact hnot ⟨rfl, entries, name, hanswer, hmem, hsafe, htarget⟩
    refine (heeds_io hentries).andThen fun entries htold => ?_
    refine (heeds_verifyEntries hroot (fun name hmem hlisted hsafe htarget =>
      (htold name hmem hlisted hsafe htarget).elim) (by simp)).andThen fun paths hpaths => ?_
    refine Heeds.pure fun sorted hsorted => ?_
    cases hsorted
    exact fun path hpath => hpaths path (List.mem_mergeSort.1 hpath)

theorem heeds_removeDirectories {paths : List PathBuf}
    (h : ∀ path ∈ paths, components path ≠ target) :
    Heeds (evidence.toRemove L manager target) (FreeValue fun _ => True) given
      (removeDirectories paths : FileTask σ L (Except CgroupError Unit)) := by
  induction paths with
  | nil => exact Heeds.pure fun _ _ => trivial
  | cons path paths ih =>
    have hother : ¬(evidence.toRemove L manager target).question (.file (.removeDir path)) := by
      rintro ⟨_, ⟨⟩, -, htarget⟩
      exact h path List.mem_cons_self (htarget path rfl)
    refine (heeds_call (Heeds.question hother)).andThen fun _ _ => ?_
    exact ih fun other hmem => h other (List.mem_cons_of_mem _ hmem)

/-- A directory is removed only after the same call saw it listed, without a process and
without a directory of its own. -/
theorem heeds_removeVerifiedOrphanDirectories {paths : List PathBuf}
    (hroot : EndsInName manager.root) :
    Heeds (evidence.toRemove L manager target) (FreeValue fun _ => True) given
      (manager.removeVerifiedOrphanDirectories paths :
        FileTask σ L (Except CgroupError Unit)) := by
  refine (heeds_verifiedOrphanDirectories hroot).andThen fun verified hverified => ?_
  split
  · exact Heeds.pure fun _ _ => trivial
  · rename_i hall
    refine heeds_removeDirectories fun path hpath htarget => ?_
    have hsome : (verified.any fun other => components other == components path) = true := by
      by_contra hnone
      exact hall (List.any_eq_true.2 ⟨path, hpath, by simpa using hnone⟩)
    obtain ⟨other, hother, hsame⟩ := List.any_eq_true.1 hsome
    exact hverified other hother ((beq_iff_eq.1 hsame).trans htarget)

/-- The evidence that is never heard: nothing is listed without a name. -/
theorem not_heard_root {q : HelperCall} {answer : q.Reply} :
    ¬OrphanEvidence.listed.Heard manager [] q answer := by
  intro h
  cases q with
  | file call =>
    cases call with
    | readDir path =>
      obtain ⟨-, _, _, -, -, -, hnil⟩ := h
      exact List.append_ne_nil_of_right_ne_nil _ (List.cons_ne_nil _ _) hnil.symm
    | _ => exact h
  | _ => exact h

/-- To look for orphans changes nothing. -/
theorem heeds_verify_spared (hroot : EndsInName manager.root)
    (hquestion : ∀ q, leave.question q →
      ∃ call, q = .file call ∧ call.changes = true ∧ ∀ path, call ≠ .removeDir path) :
    Heeds leave (FreeValue fun _ => True) given
      (manager.verifiedOrphanDirectories : FileTask σ L (Except CgroupError (List PathBuf))) := by
  have hnone : Heeds (OrphanEvidence.listed.toRemove L manager []) _ given
      (manager.verifiedOrphanDirectories : FileTask σ L (Except CgroupError (List PathBuf))) :=
    heeds_verifiedOrphanDirectories hroot
  refine (hnone.of_leave (fun _ _ => trivial) ?_
    fun q a hheard => absurd hheard not_heard_root).weaken fun _ _ _ _ => trivial
  intro q hq
  obtain ⟨call, rfl, hchanges, hother⟩ := hquestion q hq
  exact ⟨call, rfl, hchanges, fun path hpath => absurd hpath (hother path)⟩

/-- Their removal changes nothing else. -/
theorem heeds_remove_spared {paths : List PathBuf} (hroot : EndsInName manager.root)
    (hquestion : ∀ q, leave.question q →
      ∃ call, q = .file call ∧ call.changes = true ∧ ∀ path, call ≠ .removeDir path) :
    Heeds leave (FreeValue fun _ => True) given
      (manager.removeVerifiedOrphanDirectories paths :
        FileTask σ L (Except CgroupError Unit)) := by
  have hnone : Heeds (OrphanEvidence.listed.toRemove L manager []) _ given
      (manager.removeVerifiedOrphanDirectories paths :
        FileTask σ L (Except CgroupError Unit)) := heeds_removeVerifiedOrphanDirectories hroot
  refine hnone.of_leave (fun _ _ => trivial) ?_
    fun q a hheard => absurd hheard not_heard_root
  intro q hq
  obtain ⟨call, rfl, hchanges, hother⟩ := hquestion q hq
  exact ⟨call, rfl, hchanges, fun path hpath => absurd hpath (hother path)⟩

end Orphans

end Heeding

end RouteLane
