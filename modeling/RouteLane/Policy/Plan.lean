import RouteLane.Domain.Profile
import RouteLane.Lib.FirstMatch
import RouteLane.Net.Topology

/-!
# Kernel plans

A compiled profile: what the helper is asked to put in force, and the checks it
makes on a plan before it touches the kernel.  The reserved resources — routing
tables, packet marks and policy-rule priorities — come in ranges of one hundred,
one of each for every lane.
-/

namespace RouteLane

open Fallible

/-! ## Reserved resources -/

/-- `TABLE_BASE`. -/
def tableBase : ℕ := 20000

/-- `TABLE_MAX`. -/
def tableMax : ℕ := 20099

/-- `MARK_BASE`. -/
def markBase : ℕ := 0x524c0001

/-- `MARK_MAX`. -/
def markMax : ℕ := 0x524c0064

/-- `RULE_PRIORITY_BASE`. -/
def rulePriorityBase : ℕ := 10000

/-- `RULE_PRIORITY_MAX`. -/
def rulePriorityMax : ℕ := 10099

/-- `MAX_LANES`. -/
def maxLanes : ℕ := 100

/-- `MAX_RULES`. -/
def maxRules : ℕ := 10000

/-! ## Plans -/

inductive LaneAvailability where
  | available
  | unavailable
  deriving DecidableEq, Repr

structure LanePlan where
  identity : Option InterfaceIdentity
  sourceV4 : List Ipv4Addr
  sourceV6 : List Ipv6Addr
  id : LaneId
  interface : String
  routeV4 : Option (RouteMode Ipv4Addr)
  routeV6 : Option (RouteMode Ipv6Addr)
  availability : LaneAvailability
  table : ℕ
  mark : ℕ
  rulePriority : ℕ
  failurePolicy : LaneFailurePolicy
  deriving DecidableEq, Repr

/-- Whether a lane has a route of this family. -/
def LanePlan.hasRoute (lane : LanePlan) : IpFamily → Bool
  | .v4 => lane.routeV4.isSome
  | .v6 => lane.routeV6.isSome

/-- Whether a lane has a source address of this family. -/
def LanePlan.hasSource (lane : LanePlan) : IpFamily → Bool
  | .v4 => !lane.sourceV4.isEmpty
  | .v6 => !lane.sourceV6.isEmpty

inductive CompiledTarget where
  | any
  | cgroup (path : String)
  | network (net : IpNet)
  deriving DecidableEq, Repr

inductive CompiledAction where
  | mark (mark : ℕ)
  | direct
  | block
  deriving DecidableEq, Repr

structure CompiledRule where
  family : IpFamily
  id : RuleId
  priority : ℕ
  target : CompiledTarget
  action : CompiledAction
  deriving DecidableEq, Repr

/-- The target of a rule with the host bits of a network cleared. -/
def CompiledTarget.canonical : CompiledTarget → CompiledTarget
  | .network net => .network net.trunc
  | target => target

/-- `CompiledRule::routing_key`: what decides a packet, without the rule's identity. -/
def CompiledRule.routingKey (rule : CompiledRule) : IpFamily × CompiledTarget × CompiledAction :=
  (rule.family, rule.target.canonical, rule.action)

/-- Whether a packet to this destination, from a process in this application cgroup,
is meant by a target. -/
def CompiledTarget.matches (destination : IpAddr) (cgroup : Option String) :
    CompiledTarget → Bool
  | .any => true
  | .cgroup path => cgroup == some path
  | .network net => net.contains destination

/-- A rule matches a packet when its family and its target do. -/
def CompiledRule.matches (destination : IpAddr) (cgroup : Option String) (rule : CompiledRule) :
    Bool := rule.family == destination.family && rule.target.matches destination cgroup

@[simp] theorem CompiledTarget.matches_canonical (target : CompiledTarget) (destination : IpAddr)
    (cgroup : Option String) :
    target.canonical.matches destination cgroup = target.matches destination cgroup := by
  cases target <;> simp [CompiledTarget.canonical, CompiledTarget.matches]

/-- Rules with one routing key match the same packets. -/
theorem CompiledRule.matches_eq_of_routingKey_eq {a b : CompiledRule}
    (h : a.routingKey = b.routingKey) (destination : IpAddr) (cgroup : Option String) :
    a.matches destination cgroup = b.matches destination cgroup := by
  simp only [CompiledRule.routingKey, Prod.mk.injEq] at h
  obtain ⟨hfamily, htarget, -⟩ := h
  rw [CompiledRule.matches, CompiledRule.matches, hfamily,
    ← CompiledTarget.matches_canonical a.target, htarget, CompiledTarget.matches_canonical]

/-- The exit of a family: a lane, or nothing at all. -/
inductive FamilyExit where
  | lane (id : LaneId)
  | blocked
  deriving DecidableEq, Repr

structure PrimaryDecision where
  preferred : FamilyPair (Option LaneId)
  effective : FamilyPair FamilyExit
  deriving DecidableEq, Repr

structure KernelPlan where
  primary : PrimaryDecision
  localNetworks : List IpNet
  localAddresses : List IpAddr
  generation : ℕ
  profileId : ProfileId
  lanes : List LanePlan
  rules : List CompiledRule
  deriving DecidableEq, Repr

/-! ## Validation -/

inductive ValidationError where
  | zeroGeneration
  | tooManyLanes (actual maximum : ℕ)
  | tooManyRules (actual maximum : ℕ)
  | tableOutOfRange (table : ℕ)
  | markOutOfRange (mark : ℕ)
  | priorityOutOfRange (priority : ℕ)
  | duplicateLaneId (id : LaneId)
  | duplicateTable (table : ℕ)
  | duplicateMark (mark : ℕ)
  | duplicatePriority (priority : ℕ)
  | duplicateCompiledRule (id : RuleId)
  | invalidInterface (name : String)
  | invalidApplicationCgroup (path : String)
  | unknownMark (mark : ℕ)
  deriving DecidableEq, Repr

/-- `is_routelane_application_cgroup`. -/
def isRoutelaneApplicationCgroup (path : String) : Bool :=
  match "routelane.apps/".toList.isPrefixOf path.toList,
      path.toList.drop "routelane.apps/".toList.length with
  | false, _ => false
  | true, ruleId => !ruleId.isEmpty && ruleId.all fun c => c.isAlphanum || c == '-' || c == '_'

/-- `is_kernel_interface_name`.  Only ASCII names pass, so their bytes are their
characters. -/
def isKernelInterfaceName (interface : String) : Bool :=
  !interface.toList.isEmpty && decide (interface.toList.length ≤ 15) &&
    interface.toList.all fun c => c.isAlphanum || c == '_' || c == '-' || c == '.'

/-- The resources and the interface name of one lane. -/
def checkLaneResources (lane : LanePlan) : Except ValidationError Unit := do
  failIf (¬ (tableBase ≤ lane.table ∧ lane.table ≤ tableMax)) (.tableOutOfRange lane.table)
  failIf (¬ (markBase ≤ lane.mark ∧ lane.mark ≤ markMax)) (.markOutOfRange lane.mark)
  failIf (¬ (rulePriorityBase ≤ lane.rulePriority ∧ lane.rulePriority ≤ rulePriorityMax))
    (.priorityOutOfRange lane.rulePriority)
  failIf (isKernelInterfaceName lane.interface = false) (.invalidInterface lane.interface)

/-- The lane loop of `validate_privileged_plan`, `seen` being the lanes before. -/
def checkLanePlans (seen : List LanePlan) : List LanePlan → Except ValidationError Unit
  | [] => .ok ()
  | lane :: rest => do
    checkLaneResources lane
    failIf (lane.id ∈ seen.map LanePlan.id) (.duplicateLaneId lane.id)
    failIf (lane.table ∈ seen.map LanePlan.table) (.duplicateTable lane.table)
    failIf (lane.mark ∈ seen.map LanePlan.mark) (.duplicateMark lane.mark)
    failIf (lane.rulePriority ∈ seen.map LanePlan.rulePriority)
      (.duplicatePriority lane.rulePriority)
    checkLanePlans (lane :: seen) rest

/-- The target of a rule names an application cgroup of RouteLane's. -/
def checkRuleTarget : CompiledTarget → Except ValidationError Unit
  | .cgroup path =>
    failIf (isRoutelaneApplicationCgroup path = false) (.invalidApplicationCgroup path)
  | _ => .ok ()

/-- The action of a rule names the mark of a lane. -/
def checkRuleAction (marks : List ℕ) : CompiledAction → Except ValidationError Unit
  | .mark mark => failIf (mark ∉ marks) (.unknownMark mark)
  | _ => .ok ()

/-- The rule loop of `validate_privileged_plan`. -/
def checkCompiledRules (marks : List ℕ) : List CompiledRule → Except ValidationError Unit
  | [] => .ok ()
  | rule :: rest => do
    checkRuleTarget rule.target
    checkRuleAction marks rule.action
    checkCompiledRules marks rest

def validatePrivilegedPlan (plan : KernelPlan) : Except ValidationError Unit := do
  failIf (plan.generation = 0) .zeroGeneration
  failIf (maxLanes < plan.lanes.length) (.tooManyLanes plan.lanes.length maxLanes)
  failIf (maxRules < plan.rules.length) (.tooManyRules plan.rules.length maxRules)
  checkLanePlans [] plan.lanes
  checkCompiledRules (plan.lanes.map LanePlan.mark) plan.rules

/-! ## What validation establishes -/

/-- The resources of a lane lie in the reserved ranges. -/
structure LanePlan.InRange (lane : LanePlan) : Prop where
  table_mem : tableBase ≤ lane.table ∧ lane.table ≤ tableMax
  mark_mem : markBase ≤ lane.mark ∧ lane.mark ≤ markMax
  rulePriority_mem : rulePriorityBase ≤ lane.rulePriority ∧ lane.rulePriority ≤ rulePriorityMax
  interface_name : isKernelInterfaceName lane.interface = true

/-- The shape of a plan that `validate_privileged_plan` accepts. -/
structure KernelPlan.WellFormed (plan : KernelPlan) : Prop where
  generation_ne_zero : plan.generation ≠ 0
  lanes_le : plan.lanes.length ≤ maxLanes
  rules_le : plan.rules.length ≤ maxRules
  inRange : ∀ lane ∈ plan.lanes, lane.InRange
  ids_nodup : (plan.lanes.map LanePlan.id).Nodup
  tables_nodup : (plan.lanes.map LanePlan.table).Nodup
  marks_nodup : (plan.lanes.map LanePlan.mark).Nodup
  priorities_nodup : (plan.lanes.map LanePlan.rulePriority).Nodup
  cgroups : ∀ rule ∈ plan.rules, ∀ path, rule.target = .cgroup path →
    isRoutelaneApplicationCgroup path = true
  marks_known : ∀ rule ∈ plan.rules, ∀ mark, rule.action = .mark mark →
    ∃ lane ∈ plan.lanes, lane.mark = mark

theorem checkLaneResources_eq_ok {lane : LanePlan} :
    checkLaneResources lane = .ok () ↔ lane.InRange := by
  rw [checkLaneResources]
  simp only [check_eq_ok, failIf_eq_ok, not_not, Bool.not_eq_false]
  constructor
  · rintro ⟨htable, hmark, hprio, hname⟩
    exact ⟨htable, hmark, hprio, hname⟩
  · rintro ⟨htable, hmark, hprio, hname⟩
    exact ⟨htable, hmark, hprio, hname⟩

/-- Freshness of a key against the lanes before, and among the lanes themselves. -/
theorem nodup_cons_fresh {κ : Type} {key : LanePlan → κ} {seen rest : List LanePlan}
    {lane : LanePlan} :
    (key lane ∉ seen.map key ∧ (rest.map key).Nodup ∧
      ∀ other ∈ rest, key other ∉ (lane :: seen).map key) ↔
    ((lane :: rest).map key).Nodup ∧ ∀ other ∈ lane :: rest, key other ∉ seen.map key := by
  simp only [List.map_cons, List.nodup_cons, List.mem_cons, not_or]
  constructor
  · rintro ⟨hfresh, hnodup, hrest⟩
    refine ⟨⟨?_, hnodup⟩, ?_⟩
    · intro hmem
      obtain ⟨other, hother, heq⟩ := List.mem_map.1 hmem
      exact (hrest other hother).1 heq
    · rintro other (rfl | hother)
      · exact hfresh
      · exact (hrest other hother).2
  · rintro ⟨⟨hhead, hnodup⟩, hall⟩
    refine ⟨hall lane (Or.inl rfl), hnodup, ?_⟩
    intro other hother
    refine ⟨?_, hall other (Or.inr hother)⟩
    intro heq
    exact hhead (List.mem_map.2 ⟨other, hother, heq⟩)

theorem checkLanePlans_eq_ok {lanes : List LanePlan} :
    ∀ {seen : List LanePlan}, checkLanePlans seen lanes = .ok () ↔
      (∀ lane ∈ lanes, lane.InRange) ∧
      ((lanes.map LanePlan.id).Nodup ∧ ∀ lane ∈ lanes, lane.id ∉ seen.map LanePlan.id) ∧
      ((lanes.map LanePlan.table).Nodup ∧ ∀ lane ∈ lanes, lane.table ∉ seen.map LanePlan.table) ∧
      ((lanes.map LanePlan.mark).Nodup ∧ ∀ lane ∈ lanes, lane.mark ∉ seen.map LanePlan.mark) ∧
      ((lanes.map LanePlan.rulePriority).Nodup ∧
        ∀ lane ∈ lanes, lane.rulePriority ∉ seen.map LanePlan.rulePriority) := by
  induction lanes with
  | nil => intro seen; simp [checkLanePlans]
  | cons lane rest ih =>
    intro seen
    rw [← nodup_cons_fresh, ← nodup_cons_fresh, ← nodup_cons_fresh, ← nodup_cons_fresh,
      checkLanePlans]
    simp only [check_eq_ok, failIf_eq_ok, checkLaneResources_eq_ok, ih, List.forall_mem_cons]
    tauto

theorem checkCompiledRules_eq_ok {marks : List ℕ} {rules : List CompiledRule} :
    checkCompiledRules marks rules = .ok () ↔
      (∀ rule ∈ rules, ∀ path, rule.target = .cgroup path →
        isRoutelaneApplicationCgroup path = true) ∧
      (∀ rule ∈ rules, ∀ mark, rule.action = .mark mark → mark ∈ marks) := by
  induction rules with
  | nil => simp [checkCompiledRules]
  | cons rule rest ih =>
    have htarget : checkRuleTarget rule.target = .ok () ↔
        ∀ path, rule.target = .cgroup path → isRoutelaneApplicationCgroup path = true := by
      cases rule.target <;> simp [checkRuleTarget, failIf_eq_ok]
    have haction : checkRuleAction marks rule.action = .ok () ↔
        ∀ mark, rule.action = .mark mark → mark ∈ marks := by
      cases rule.action <;> simp [checkRuleAction, failIf_eq_ok]
    rw [checkCompiledRules]
    simp only [check_eq_ok, ih, htarget, haction, List.forall_mem_cons]
    tauto

/-- A plan is accepted exactly when it is well formed. -/
theorem validatePrivilegedPlan_eq_ok {plan : KernelPlan} :
    validatePrivilegedPlan plan = .ok () ↔ plan.WellFormed := by
  rw [validatePrivilegedPlan]
  simp only [check_eq_ok, failIf_eq_ok, not_lt, checkLanePlans_eq_ok,
    checkCompiledRules_eq_ok, List.map_nil, List.not_mem_nil, not_false_eq_true, implies_true,
    and_true, List.mem_map]
  constructor
  · rintro ⟨hgen, hlanes, hrules, ⟨hrange, hids, htables, hmarks, hprios⟩, hcgroups, hknown⟩
    exact ⟨hgen, hlanes, hrules, hrange, hids, htables, hmarks, hprios, hcgroups, hknown⟩
  · rintro ⟨hgen, hlanes, hrules, hrange, hids, htables, hmarks, hprios, hcgroups, hknown⟩
    exact ⟨hgen, hlanes, hrules, ⟨hrange, hids, htables, hmarks, hprios⟩, hcgroups, hknown⟩

namespace KernelPlan.WellFormed

variable {plan : KernelPlan}

/-- The lanes of a plan are told apart by their marks. -/
theorem eq_of_mark_eq (h : plan.WellFormed) {a b : LanePlan} (ha : a ∈ plan.lanes)
    (hb : b ∈ plan.lanes) (heq : a.mark = b.mark) : a = b :=
  List.inj_on_of_nodup_map h.marks_nodup ha hb heq

/-- The lanes of a plan are told apart by their tables. -/
theorem eq_of_table_eq (h : plan.WellFormed) {a b : LanePlan} (ha : a ∈ plan.lanes)
    (hb : b ∈ plan.lanes) (heq : a.table = b.table) : a = b :=
  List.inj_on_of_nodup_map h.tables_nodup ha hb heq

/-- The lanes of a plan are told apart by their ids. -/
theorem eq_of_id_eq (h : plan.WellFormed) {a b : LanePlan} (ha : a ∈ plan.lanes)
    (hb : b ∈ plan.lanes) (heq : a.id = b.id) : a = b :=
  List.inj_on_of_nodup_map h.ids_nodup ha hb heq

/-- A lane's mark is never the mark of unmarked traffic. -/
theorem mark_ne_zero (h : plan.WellFormed) {lane : LanePlan} (hlane : lane ∈ plan.lanes) :
    lane.mark ≠ 0 := by
  have hbase := (h.inRange lane hlane).mark_mem.1
  have : 0 < markBase := by decide
  omega

end KernelPlan.WellFormed

end RouteLane
