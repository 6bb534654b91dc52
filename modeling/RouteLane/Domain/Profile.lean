import RouteLane.Lib.Fallible
import RouteLane.Net.Address

/-!
# Profiles

The platform-independent routing intent: lanes, rules, the policy for traffic no
rule assigns, and `validate_profile`, which every profile passes before it is
compiled.  The main facts are the shape a validated profile has — distinct lane
ids, rules and fallbacks that name lanes of the profile, application rules that
route and have no destination.
-/

namespace RouteLane

open Fallible

abbrev ProfileId := String

abbrev LaneId := String

abbrev RuleId := String

abbrev ServicePackId := String

abbrev InterfaceSelector := String

/-- The text of a path.  Paths are compared by their components. -/
abbrev PathBuf := String

/-! ## Text -/

/-- The characters `str::trim` removes: Unicode `White_Space`. -/
def isWhitespace (c : Char) : Bool :=
  let n := c.toNat
  (9 ≤ n && n ≤ 13) || n == 0x20 || n == 0x85 || n == 0xa0 || n == 0x1680 ||
    (0x2000 ≤ n && n ≤ 0x200a) || n == 0x2028 || n == 0x2029 || n == 0x202f ||
    n == 0x205f || n == 0x3000

/-- `str::trim_end_matches` for a class of characters. -/
def trimEndMatches (p : Char → Bool) (s : List Char) : List Char :=
  (s.reverse.dropWhile p).reverse

/-- `str::trim`. -/
def trim (s : List Char) : List Char := trimEndMatches isWhitespace (s.dropWhile isWhitespace)

theorem trimEndMatches_of_last {p : Char → Bool} {s : List Char}
    (h : ∀ c, s.getLast? = some c → p c = false) : trimEndMatches p s = s := by
  rcases List.eq_nil_or_concat s with rfl | ⟨before, c, rfl⟩
  · rfl
  · rw [trimEndMatches, List.concat_eq_append, List.reverse_append, List.reverse_singleton,
      List.singleton_append, List.dropWhile_cons_of_neg (by simp [h c (by simp)]),
      List.reverse_cons, List.reverse_reverse]

/-- A text without whitespace is trimmed. -/
theorem trim_eq_self {s : List Char} (h : ∀ c ∈ s, isWhitespace c = false) : trim s = s := by
  have hdrop : s.dropWhile isWhitespace = s := by
    cases s with
    | nil => rfl
    | cons c rest => rw [List.dropWhile_cons_of_neg (by simp [h c List.mem_cons_self])]
  rw [trim, hdrop]
  exact trimEndMatches_of_last fun c hc => h c (List.mem_of_getLast? hc)

/-- Trimming the end keeps a first character that stays. -/
theorem trimEndMatches_cons {p : Char → Bool} {c : Char} (h : p c = false) (rest : List Char) :
    trimEndMatches p (c :: rest) = c :: trimEndMatches p rest := by
  rw [trimEndMatches, trimEndMatches, List.reverse_cons, List.dropWhile_append]
  split
  · next hempty =>
    rw [List.isEmpty_iff.1 hempty, List.dropWhile_cons_of_neg (by simp [h])]
    rfl
  · rw [List.reverse_append]
    rfl

theorem trimEndMatches_trimEndMatches (p : Char → Bool) (s : List Char) :
    trimEndMatches p (trimEndMatches p s) = trimEndMatches p s := by
  refine trimEndMatches_of_last fun c hc => ?_
  rw [trimEndMatches, List.getLast?_reverse] at hc
  have hhead := List.head?_dropWhile_not p s.reverse
  rw [hc] at hhead
  simpa using hhead

/-- What is trimmed is trimmed once. -/
theorem trim_trim (s : List Char) : trim (trim s) = trim s := by
  have hdrop : (trim s).dropWhile isWhitespace = trim s := by
    rw [trim]
    cases hs : s.dropWhile isWhitespace with
    | nil => rfl
    | cons c rest =>
      have hc : isWhitespace c = false := by
        have hhead := List.head?_dropWhile_not isWhitespace s
        rw [hs] at hhead
        simpa using hhead
      rw [trimEndMatches_cons hc, List.dropWhile_cons_of_neg (by simp [hc])]
  rw [trim, hdrop, trim, trimEndMatches_trimEndMatches]

/-- `lane_name_key`: lane names are compared trimmed and lowercased.  The Unicode
lowercase mapping is the standard library's and stays a parameter. -/
def laneNameKey (toLowercase : String → String) (name : String) : Option String :=
  let trimmed := trim name.toList
  if trimmed.isEmpty then none else some (toLowercase (String.ofList trimmed))

/-! ## Paths -/

/-- `Path::components`: separators in a row count as one, and a `.` only at the start. -/
def components (path : PathBuf) : List (List Char) :=
  let parts := path.toList.splitOn '/'
  let start : List (List Char) :=
    if parts.head? = some [] ∧ 1 < parts.length then [['/']]
    else if parts.head? = some ['.'] then [['.']]
    else []
  start ++ parts.filter fun part => part != [] && part != ['.']

/-- `PathBuf`s are equal when their components are. -/
def samePath (a b : PathBuf) : Bool := components a == components b

/-! ## Rules -/

structure ApplicationLaunch where
  executable : PathBuf
  arguments : List String
  deriving DecidableEq, Repr

structure ApplicationSelector where
  desktopId : Option String
  executablePath : PathBuf
  includeChildren : Bool
  launch : Option ApplicationLaunch
  deriving DecidableEq, Repr

inductive RuleSource where
  | any
  | application (selector : ApplicationSelector)
  deriving DecidableEq, Repr

inductive RuleTarget where
  | any
  | domain (name : String)
  | wildcardDomain (pattern : String)
  | ip (addr : IpAddr)
  | cidr (network : IpNet)
  | servicePack (id : ServicePackId)
  deriving DecidableEq, Repr

/-- Canonical spelling without changing the target's kind or scope. -/
def RuleTarget.normalized : RuleTarget → RuleTarget
  | .domain name =>
      .domain (String.ofList ((trimEndMatches (· == '.') (trim name.toList)).map Char.toLower))
  | .cidr network => .cidr network.trunc
  | target => target

inductive RuleAction where
  | route (lane : LaneId)
  | direct
  | block
  deriving DecidableEq, Repr

def RuleAction.isRoute : RuleAction → Bool
  | .route _ => true
  | _ => false

structure Rule where
  id : RuleId
  enabled : Bool
  priority : ℕ
  source : RuleSource
  target : RuleTarget
  action : RuleAction
  deriving DecidableEq, Repr

structure RuleKey where
  /-- The path of the executable by its components, and whether children follow. -/
  source : Option (List (List Char) × Bool)
  target : RuleTarget
  action : RuleAction
  deriving DecidableEq, Repr

/-- Identity, priority and enabled state are not distinct routing intent. -/
def Rule.duplicateKey (rule : Rule) : RuleKey where
  source :=
    match rule.source with
    | .any => none
    | .application selector =>
      some (components selector.executablePath, selector.includeChildren)
  target :=
    match rule.target.normalized with
    | .ip addr => .cidr (.ofAddr addr)
    | target => target
  action := rule.action

/-- `execution_cmp`: priority, then id. -/
def Rule.executionLe (a b : Rule) : Prop :=
  a.priority < b.priority ∨ a.priority = b.priority ∧ a.id ≤ b.id

instance : DecidableRel Rule.executionLe := fun a b =>
  inferInstanceAs (Decidable (a.priority < b.priority ∨ a.priority = b.priority ∧ a.id ≤ b.id))

/-! ## Profiles -/

inductive LaneFailurePolicy where
  | block
  | direct
  | inactive
  deriving DecidableEq, Repr

structure Lane where
  id : LaneId
  name : String
  interface : InterfaceSelector
  fallbackLane : Option LaneId
  failurePolicy : LaneFailurePolicy
  deriving DecidableEq, Repr

inductive PrimarySelection where
  | followSystemDefault
  | lane (id : LaneId)
  deriving DecidableEq, Repr

inductive UnmatchedTraffic where
  | preserveSystem
  | usePrimary
  deriving DecidableEq, Repr

structure RoutingPolicy where
  unmatchedTraffic : UnmatchedTraffic
  primary : PrimarySelection
  backups : List LaneId
  automaticFailover : Bool
  deriving DecidableEq, Repr

structure Profile where
  id : ProfileId
  name : String
  enabled : Bool
  lanes : List Lane
  rules : List Rule
  routing : RoutingPolicy
  deriving DecidableEq, Repr

/-! ## Equality

What `==` says of values that hold paths. -/

def ApplicationLaunch.same (a b : ApplicationLaunch) : Bool :=
  samePath a.executable b.executable && a.arguments == b.arguments

def ApplicationSelector.same (a b : ApplicationSelector) : Bool :=
  a.desktopId == b.desktopId && samePath a.executablePath b.executablePath &&
    a.includeChildren == b.includeChildren &&
    match a.launch, b.launch with
    | none, none => true
    | some launch, some launch' => launch.same launch'
    | _, _ => false

def RuleSource.same : RuleSource → RuleSource → Bool
  | .any, .any => true
  | .application selector, .application selector' => selector.same selector'
  | _, _ => false

def Rule.same (a b : Rule) : Bool :=
  a.id == b.id && a.enabled == b.enabled && a.priority == b.priority && a.source.same b.source &&
    a.target == b.target && a.action == b.action

def Profile.same (a b : Profile) : Bool :=
  a.id == b.id && a.name == b.name && a.enabled == b.enabled && a.lanes == b.lanes &&
    a.rules.isEqv b.rules Rule.same && a.routing == b.routing

/-! ## Validation -/

inductive DomainError where
  | tooManyLanes (actual maximum : ℕ)
  | tooManyRules (actual maximum : ℕ)
  | duplicateLaneId (id : LaneId)
  | emptyLaneName (id : LaneId)
  | duplicateLaneName (name : String)
  | duplicateRuleId (id : RuleId)
  | duplicateRule (existing duplicate : RuleId)
  | invalidApplicationRule (id : RuleId)
  | emptyApplicationExecutable (id : RuleId)
  | duplicateApplicationDesktopId (id : String)
  | unknownLane (id : LaneId)
  | selfReferentialFallback (id : LaneId)
  | fallbackCycle (id : LaneId)
  | primaryIsBackup (id : LaneId)
  | duplicateBackupLane (id : LaneId)
  deriving DecidableEq, Repr

/-- The first loop of `validate_profile`: distinct ids and distinct names. -/
def checkLanes (toLowercase : String → String) :
    List LaneId → List String → List Lane → Except DomainError Unit
  | _, _, [] => .ok ()
  | ids, names, lane :: rest =>
    if lane.id ∈ ids then .error (.duplicateLaneId lane.id)
    else
      match laneNameKey toLowercase lane.name with
      | none => .error (.emptyLaneName lane.id)
      | some name =>
        if name ∈ names then .error (.duplicateLaneName name)
        else checkLanes toLowercase (lane.id :: ids) (name :: names) rest

/-- The loop of `RoutingPolicy::validate` over the backups. -/
def checkBackups (lanes : List Lane) (primary : PrimarySelection) :
    List LaneId → List LaneId → Except DomainError Unit
  | _, [] => .ok ()
  | seen, backup :: rest =>
    if backup ∉ lanes.map Lane.id then .error (.unknownLane backup)
    else if primary = .lane backup then .error (.primaryIsBackup backup)
    else if backup ∈ seen then .error (.duplicateBackupLane backup)
    else checkBackups lanes primary (backup :: seen) rest

/-- `RoutingPolicy::validate`. -/
def RoutingPolicy.validate (policy : RoutingPolicy) (lanes : List Lane) : Except DomainError Unit :=
  match policy.primary with
  | .lane id =>
    if id ∉ lanes.map Lane.id then .error (.unknownLane id)
    else checkBackups lanes policy.primary [] policy.backups
  | .followSystemDefault => checkBackups lanes policy.primary [] policy.backups

/-- The application part of the rule loop; on success the desktop ids seen so far. -/
def checkApplication (desktopIds : List String) (rule : Rule) : Except DomainError (List String) :=
  match rule.source with
  | .any => .ok desktopIds
  | .application selector =>
    if selector.executablePath.isEmpty then .error (.emptyApplicationExecutable rule.id)
    else if rule.target ≠ .any ∨ rule.action.isRoute = false then
      .error (.invalidApplicationRule rule.id)
    else
      match selector.desktopId.filter (fun id => !id.isEmpty) with
      | none => .ok desktopIds
      | some id =>
        if id ∈ desktopIds then .error (.duplicateApplicationDesktopId id)
        else .ok (id :: desktopIds)

/-- The second loop of `validate_profile`: distinct ids, well-formed application
rules and distinct routing intent. -/
def checkRules :
    List RuleId → List String → List (RuleKey × RuleId) → List Rule → Except DomainError Unit
  | _, _, _, [] => .ok ()
  | ids, desktopIds, contents, rule :: rest =>
    if rule.id ∈ ids then .error (.duplicateRuleId rule.id)
    else
      match checkApplication desktopIds rule with
      | .error e => .error e
      | .ok desktopIds' =>
        match contents.lookup rule.duplicateKey with
        | some existing => .error (.duplicateRule existing rule.id)
        | none =>
          checkRules (rule.id :: ids) desktopIds' ((rule.duplicateKey, rule.id) :: contents) rest

/-- Every route names a lane. -/
def checkRouteLanes (lanes : List Lane) : List Rule → Except DomainError Unit
  | [] => .ok ()
  | rule :: rest =>
    match rule.action with
    | .route id =>
      if id ∈ lanes.map Lane.id then checkRouteLanes lanes rest else .error (.unknownLane id)
    | _ => checkRouteLanes lanes rest

/-- Every fallback names another lane. -/
def checkFallbacks (lanes : List Lane) : List Lane → Except DomainError Unit
  | [] => .ok ()
  | lane :: rest =>
    match lane.fallbackLane with
    | none => checkFallbacks lanes rest
    | some fallback =>
      if fallback ∉ lanes.map Lane.id then .error (.unknownLane fallback)
      else if fallback = lane.id then .error (.selfReferentialFallback lane.id)
      else checkFallbacks lanes rest

/-- The fallback of the lane with this id, as the walks of the code look it up. -/
def fallbackOf (lanes : List Lane) (id : LaneId) : Option LaneId :=
  (lanes.find? fun candidate => candidate.id == id).bind Lane.fallbackLane

/-- Whether the walk from `current` runs into a lane it has already visited.  Each
round visits a new lane of the profile, so `fuel` rounds, one more than there are
lanes, always reach the end of the walk. -/
def walkCycles (lanes : List Lane) : ℕ → List LaneId → LaneId → Bool
  | 0, _, _ => true
  | fuel + 1, visited, current =>
    match fallbackOf lanes current with
    | none => false
    | some next =>
      if current ∈ visited ∨ next ∈ current :: visited then true
      else walkCycles lanes fuel (current :: visited) next

/-- The last loop of `validate_profile`. -/
def checkCycles (lanes : List Lane) : List Lane → Except DomainError Unit
  | [] => .ok ()
  | lane :: rest =>
    if walkCycles lanes (lanes.length + 1) [] lane.id then .error (.fallbackCycle lane.id)
    else checkCycles lanes rest

def validateProfile (toLowercase : String → String) (profile : Profile) :
    Except DomainError Unit := do
  failIf (100 < profile.lanes.length) (.tooManyLanes profile.lanes.length 100)
  failIf (10000 < profile.rules.length) (.tooManyRules profile.rules.length 10000)
  checkLanes toLowercase [] [] profile.lanes
  profile.routing.validate profile.lanes
  checkRules [] [] [] profile.rules
  checkRouteLanes profile.lanes profile.rules
  checkFallbacks profile.lanes profile.lanes
  checkCycles profile.lanes profile.lanes

/-! ## What validation establishes -/

/-- A validated profile passed every check. -/
theorem validateProfile_ok {toLowercase : String → String} {profile : Profile}
    (h : validateProfile toLowercase profile = .ok ()) :
    profile.lanes.length ≤ 100 ∧ profile.rules.length ≤ 10000 ∧
      checkLanes toLowercase [] [] profile.lanes = .ok () ∧
      profile.routing.validate profile.lanes = .ok () ∧
      checkRules [] [] [] profile.rules = .ok () ∧
      checkRouteLanes profile.lanes profile.rules = .ok () ∧
      checkFallbacks profile.lanes profile.lanes = .ok () ∧
      checkCycles profile.lanes profile.lanes = .ok () := by
  rw [validateProfile] at h
  obtain ⟨_, hlanes, h⟩ := bind_eq_ok.1 h
  obtain ⟨_, hrules, h⟩ := bind_eq_ok.1 h
  rw [failIf_eq_ok] at hlanes hrules
  obtain ⟨_, h1, h⟩ := bind_eq_ok.1 h
  obtain ⟨_, h2, h⟩ := bind_eq_ok.1 h
  obtain ⟨_, h3, h⟩ := bind_eq_ok.1 h
  obtain ⟨_, h4, h⟩ := bind_eq_ok.1 h
  obtain ⟨_, h5, h⟩ := bind_eq_ok.1 h
  exact ⟨by omega, by omega, h1, h2, h3, h4, h5, h⟩

theorem checkLanes_nodup {toLowercase : String → String} :
    ∀ {lanes : List Lane} {ids : List LaneId} {names : List String},
      checkLanes toLowercase ids names lanes = .ok () →
        (lanes.map Lane.id).Nodup ∧ ∀ lane ∈ lanes, lane.id ∉ ids := by
  intro lanes
  induction lanes with
  | nil => intro ids names _; simp
  | cons lane rest ih =>
    intro ids names h
    rw [checkLanes, guard_eq_ok] at h
    obtain ⟨hid, h⟩ := h
    split at h
    · exact absurd h (by simp)
    · rw [guard_eq_ok] at h
      obtain ⟨hnodup, hnew⟩ := ih h.2
      refine ⟨?_, ?_⟩
      · rw [List.map_cons, List.nodup_cons]
        refine ⟨?_, hnodup⟩
        intro hmem
        obtain ⟨other, hother, heq⟩ := List.mem_map.1 hmem
        exact hnew other hother (by simp [heq])
      · intro other hother
        rcases List.mem_cons.1 hother with rfl | hother
        · exact hid
        · exact fun hc => hnew other hother (List.mem_cons_of_mem _ hc)

/-- The lanes of a validated profile have distinct ids. -/
theorem validateProfile_lanes_nodup {toLowercase : String → String} {profile : Profile}
    (h : validateProfile toLowercase profile = .ok ()) : (profile.lanes.map Lane.id).Nodup :=
  (checkLanes_nodup (validateProfile_ok h).2.2.1).1

theorem checkRules_nodup :
    ∀ {rules : List Rule} {ids : List RuleId} {desktopIds : List String}
      {contents : List (RuleKey × RuleId)}, checkRules ids desktopIds contents rules = .ok () →
        (rules.map Rule.id).Nodup ∧ ∀ rule ∈ rules, rule.id ∉ ids := by
  intro rules
  induction rules with
  | nil => intro ids desktopIds contents _; simp
  | cons rule rest ih =>
    intro ids desktopIds contents h
    rw [checkRules, guard_eq_ok] at h
    obtain ⟨hid, h⟩ := h
    split at h
    · exact absurd h (by simp)
    · split at h
      · exact absurd h (by simp)
      · obtain ⟨hnodup, hnew⟩ := ih h
        refine ⟨?_, ?_⟩
        · rw [List.map_cons, List.nodup_cons]
          refine ⟨?_, hnodup⟩
          intro hmem
          obtain ⟨other, hother, heq⟩ := List.mem_map.1 hmem
          exact hnew other hother (by simp [heq])
        · intro other hother
          rcases List.mem_cons.1 hother with rfl | hother
          · exact hid
          · exact fun hc => hnew other hother (List.mem_cons_of_mem _ hc)

/-- The rules of a validated profile have distinct ids. -/
theorem validateProfile_rules_nodup {toLowercase : String → String} {profile : Profile}
    (h : validateProfile toLowercase profile = .ok ()) : (profile.rules.map Rule.id).Nodup :=
  (checkRules_nodup (validateProfile_ok h).2.2.2.2.1).1

end RouteLane
