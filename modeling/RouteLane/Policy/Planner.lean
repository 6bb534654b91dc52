import RouteLane.Lib.OrderedMap
import RouteLane.Policy.Plan

/-!
# The planner

`compile_profile` turns a profile, a topology and the resolved addresses of its
domain rules into a kernel plan.  Lanes are numbered in the order of their ids and
own the reserved resources of their number; rules are expanded per address, per
family and per application group, in execution order.
-/

namespace RouteLane

open Fallible FirstMatch

inductive Capability where
  | application
  | wildcardDomain
  | servicePack
  deriving DecidableEq, Repr

inductive PlanError where
  | domain (error : DomainError)
  | profileInactive
  | invalidPrimaryExit (laneId : LaneId) (family : IpFamily)
  | domainResolutionUnavailable (ruleId : RuleId)
  | unsupportedCapability (ruleId : RuleId) (capability : Capability)
  deriving DecidableEq, Repr

/-- How a compilation can end without a plan: with an error of its own, in a
failed `expect` or map index, or not at all. -/
inductive CompileFailure where
  | error (error : PlanError)
  | panic
  | diverge
  deriving DecidableEq, Repr

/-- `ResolutionSnapshot`: the resolved networks of the domain rules. -/
structure ResolutionSnapshot where
  rules : OrderedMap RuleId (List IpNet)
  deriving DecidableEq

/-- `ResolutionSnapshot::addresses`. -/
def ResolutionSnapshot.addresses (resolutions : ResolutionSnapshot) (id : RuleId) :
    Option (List IpNet) := resolutions.rules.find? id

/-! ## Lanes -/

/-- `compile_lane`: an observed topology counts a route only while the interface is
ready for its family. -/
def compileLane (topology : TopologySnapshot) (lane : Lane) (slot : ℕ) : LanePlan :=
  let entry := topology.interface lane.interface
  let routeV4 :=
    (entry.filter fun e => !topology.observed || e.ready .v4).bind InterfaceTopology.routeV4
  let routeV6 :=
    (entry.filter fun e => !topology.observed || e.ready .v6).bind InterfaceTopology.routeV6
  { identity := entry.bind InterfaceTopology.identity
    sourceV4 := (entry.map InterfaceTopology.sourceV4).getD []
    sourceV6 := (entry.map InterfaceTopology.sourceV6).getD []
    id := lane.id
    interface := lane.interface
    routeV4 := routeV4
    routeV6 := routeV6
    availability := if routeV4.isSome || routeV6.isSome then .available else .unavailable
    table := tableBase + slot
    mark := markBase + slot
    rulePriority := rulePriorityBase + slot
    failurePolicy := lane.failurePolicy }

/-- The lanes of a profile in the order they are numbered in. -/
def sortedLanes (lanes : List Lane) : List Lane :=
  lanes.insertionSort fun a b => a.id ≤ b.id

/-- The lane plans of a profile: the slot of a lane is its place among the sorted lanes. -/
def compileLanes (topology : TopologySnapshot) (lanes : List Lane) : List LanePlan :=
  (sortedLanes lanes).zipIdx.map fun slotted => compileLane topology slotted.1 slotted.2

/-- `family_available`. -/
def familyAvailable (lane : LanePlan) (family : IpFamily) : Bool :=
  lane.availability == .available && lane.hasRoute family

/-- `profile_lanes_by_id`. -/
def profileLanesById (lanes : List Lane) : OrderedMap LaneId Lane :=
  .ofList (lanes.map fun lane => (lane.id, lane))

/-- `lanes_by_id`. -/
def lanesById (plans : List LanePlan) : OrderedMap LaneId LanePlan :=
  .ofList (plans.map fun lane => (lane.id, lane))

/-! ## Actions -/

section Actions

variable (profileLanes : OrderedMap LaneId Lane) (lanePlans : OrderedMap LaneId LanePlan)
  (primary : PrimaryDecision) (family : IpFamily)

/-- `primary_action`. -/
def primaryAction : Except CompileFailure CompiledAction :=
  match primary.effective.get family with
  | .blocked => .ok .block
  | .lane id =>
    match lanePlans.find? id with
    | some lane => .ok (.mark lane.mark)
    | none => .error .panic

/-- The `while let` of `compile_route_action` over the fallback chain: the mark of
the first lane that is available.  Each round takes one step along the chain, so
it never ends when `fuel` steps are not enough for any fuel. -/
def fallbackMark : ℕ → Option LaneId → Except CompileFailure (Option ℕ)
  | _, none => .ok none
  | 0, some _ => .error .diverge
  | fuel + 1, some laneId =>
    match lanePlans.find? laneId with
    | none => .error .panic
    | some plan =>
      if familyAvailable plan family then .ok (some plan.mark)
      else
        match profileLanes.find? laneId with
        | none => .error .panic
        | some lane => fallbackMark fuel lane.fallbackLane

/-- `compile_route_action`. -/
def compileRouteAction (originalLaneId : LaneId) :
    Except CompileFailure (Option CompiledAction) :=
  match profileLanes.find? originalLaneId, lanePlans.find? originalLaneId with
  | some originalLane, some originalPlan =>
    if familyAvailable originalPlan family then .ok (some (.mark originalPlan.mark))
    else
      match fallbackMark profileLanes lanePlans family profileLanes.entries.length
          originalLane.fallbackLane with
      | .error e => .error e
      | .ok (some mark) => .ok (some (.mark mark))
      | .ok none =>
        match originalLane.failurePolicy with
        | .block => .ok (some .block)
        | .direct => (primaryAction lanePlans primary family).map some
        | .inactive => .ok none
  | _, _ => .error .panic

/-- `compile_action`. -/
def compileAction : RuleAction → Except CompileFailure (Option CompiledAction)
  | .route laneId => compileRouteAction profileLanes lanePlans primary family laneId
  | .direct => (primaryAction lanePlans primary family).map some
  | .block => .ok (some .block)

end Actions

/-! ## Rules -/

/-- The cgroup of an application rule. -/
def applicationCgroup (id : RuleId) : String := "routelane.apps/" ++ id

/-- The targets a rule expands to. -/
def compileTargets (resolutions : ResolutionSnapshot) (rule : Rule) :
    Except CompileFailure (List CompiledTarget) :=
  match rule.source, rule.target with
  | .application _, _ => .ok [.cgroup (applicationCgroup rule.id)]
  | .any, .any => .ok [.any]
  | .any, .ip address => .ok [.network (.ofAddr address)]
  | .any, .cidr network => .ok [.network network.trunc]
  | .any, .domain _ =>
    match resolutions.addresses rule.id with
    | none => .error (.error (.domainResolutionUnavailable rule.id))
    | some networks =>
      .ok ((dedupAdjacent ((networks.map IpNet.trunc).insertionSort IpNet.le)).map .network)
  | .any, .wildcardDomain _ => .error (.error (.unsupportedCapability rule.id .wildcardDomain))
  | .any, .servicePack _ => .error (.error (.unsupportedCapability rule.id .servicePack))

/-- The families a compiled target applies to. -/
def targetFamilies : CompiledTarget → List IpFamily
  | .network net => [net.family]
  | .any | .cgroup _ => families

/-- The compiled rule of a rule for one target and family. -/
def compiledRule (rule : Rule) (target : CompiledTarget) (family : IpFamily)
    (action : CompiledAction) : CompiledRule :=
  { family := family, id := rule.id, priority := rule.priority, target := target, action := action }

/-- `compile_rule`: what it pushes onto the compiled rules. -/
def compileRule (resolutions : ResolutionSnapshot) (profileLanes : OrderedMap LaneId Lane)
    (lanePlans : OrderedMap LaneId LanePlan) (primary : PrimaryDecision) (rule : Rule) :
    Except CompileFailure (List CompiledRule) := do
  let targets ← compileTargets resolutions rule
  collect (fun target =>
    collect (fun family => do
      let action ← compileAction profileLanes lanePlans primary family rule.action
      return action.toList.map (compiledRule rule target family)) (targetFamilies target)) targets

/-! ## Profiles -/

/-- The enabled rules of a profile in execution order. -/
def executionOrder (rules : List Rule) : List Rule :=
  (rules.filter Rule.enabled).insertionSort Rule.executionLe

/-- An effective primary exit needs a lane with an identity, a route and a source. -/
def checkPrimaryExit (lanePlans : OrderedMap LaneId LanePlan) (primary : PrimaryDecision)
    (family : IpFamily) : Except CompileFailure Unit :=
  match primary.effective.get family with
  | .blocked => .ok ()
  | .lane id =>
    failIf
      ((lanePlans.find? id).any (fun lane =>
        lane.identity.isSome && familyAvailable lane family && lane.hasSource family) = false)
      (.error (.invalidPrimaryExit id family))

/-- Everything a profile's rules compile to, repeated verdicts included. -/
def compileRules (topology : TopologySnapshot) (resolutions : ResolutionSnapshot)
    (primary : PrimaryDecision) (profile : Profile) : Except CompileFailure (List CompiledRule) :=
  collect (compileRule resolutions (profileLanesById profile.lanes)
    (lanesById (compileLanes topology profile.lanes)) primary) (executionOrder profile.rules)

/-- `compile_profile_with_primary`. -/
def compileProfileWithPrimary (toLowercase : String → String) (profile : Profile)
    (topology : TopologySnapshot) (resolutions : ResolutionSnapshot) (primary : PrimaryDecision)
    (generation : ℕ) : Except CompileFailure KernelPlan := do
  failIf (profile.enabled = false) (.error .profileInactive)
  (validateProfile toLowercase profile).mapError fun e => .error (.domain e)
  checkPrimaryExit (lanesById (compileLanes topology profile.lanes)) primary .v4
  checkPrimaryExit (lanesById (compileLanes topology profile.lanes)) primary .v6
  let compiled ← compileRules topology resolutions primary profile
  return {
    primary := primary
    localNetworks := topology.connectedNetworks
    localAddresses := topology.assignedAddresses
    generation := generation
    profileId := profile.id
    lanes := compileLanes topology profile.lanes
    rules := retainNew CompiledRule.routingKey [] compiled }

/-! ## The shape of a compiled plan -/

/-- What a successful compilation went through. -/
structure Compiles (toLowercase : String → String) (profile : Profile)
    (topology : TopologySnapshot) (resolutions : ResolutionSnapshot) (primary : PrimaryDecision)
    (generation : ℕ) (plan : KernelPlan) (compiled : List CompiledRule) : Prop where
  enabled : profile.enabled = true
  valid : validateProfile toLowercase profile = .ok ()
  exit : ∀ family, checkPrimaryExit (lanesById (compileLanes topology profile.lanes)) primary
    family = .ok ()
  rules_eq : compileRules topology resolutions primary profile = .ok compiled
  plan_eq : plan =
    { primary := primary
      localNetworks := topology.connectedNetworks
      localAddresses := topology.assignedAddresses
      generation := generation
      profileId := profile.id
      lanes := compileLanes topology profile.lanes
      rules := retainNew CompiledRule.routingKey [] compiled }

theorem compileProfileWithPrimary_eq_ok {toLowercase : String → String} {profile : Profile}
    {topology : TopologySnapshot} {resolutions : ResolutionSnapshot} {primary : PrimaryDecision}
    {generation : ℕ} {plan : KernelPlan}
    (h : compileProfileWithPrimary toLowercase profile topology resolutions primary generation =
      .ok plan) :
    ∃ compiled, Compiles toLowercase profile topology resolutions primary generation plan
      compiled := by
  rw [compileProfileWithPrimary] at h
  simp only [check_eq_ok, failIf_eq_ok] at h
  obtain ⟨henabled, hvalid, hv4, hv6, h⟩ := h
  obtain ⟨compiled, hcompiled, h⟩ := bind_eq_ok.1 h
  refine ⟨compiled, ⟨by simpa using henabled, ?_, ?_, hcompiled, (Except.ok.inj h).symm⟩⟩
  · cases hv : validateProfile toLowercase profile with
    | error e => simp [hv, Except.mapError] at hvalid
    | ok u => rfl
  · intro family
    cases family with
    | v4 => exact hv4
    | v6 => exact hv6

end RouteLane
