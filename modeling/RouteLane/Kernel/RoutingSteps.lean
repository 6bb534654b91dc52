import RouteLane.Policy.Plan

/-!
# Routing steps

The typed mutations of `policy_route.rs`.  A transition first installs everything the
next plan needs and later retires what only the previous plan had; both lists are
computed from the two plans alone.
-/

namespace RouteLane

/-- One owned default route of a lane table. -/
inductive OwnedRoute where
  | unicast (gateway : Option IpAddr) (interface : String)
  /-- Fails marked traffic closed once the unicast route is gone. -/
  | terminal
  deriving DecidableEq, Repr

inductive RoutingStep where
  | replaceRoute (family : IpFamily) (table : ℕ) (route : OwnedRoute)
  | deleteRoute (family : IpFamily) (table : ℕ) (route : OwnedRoute)
  | addRule (family : IpFamily) (priority table mark : ℕ)
  | deleteRule (family : IpFamily) (priority table mark : ℕ)
  | flushTable (family : IpFamily) (table : ℕ)
  deriving DecidableEq, Repr

/-- `lane_unicast_route`: the unicast default a lane owns for a family, if it is usable. -/
def laneUnicastRoute (lane : LanePlan) (f : IpFamily) : Option OwnedRoute :=
  if lane.availability ≠ .available then none
  else match f with
    | .v4 => lane.routeV4.map fun mode => .unicast (mode.gateway.map .v4) lane.interface
    | .v6 => lane.routeV6.map fun mode => .unicast (mode.gateway.map .v6) lane.interface

/-- The unicast default of a lane goes out through the lane's interface. -/
theorem exists_gateway_of_laneUnicastRoute {lane : LanePlan} {f : IpFamily} {route : OwnedRoute}
    (h : laneUnicastRoute lane f = some route) :
    ∃ gateway, route = .unicast gateway lane.interface := by
  unfold laneUnicastRoute at h
  split at h
  · cases h
  · cases f with
    | v4 =>
      obtain ⟨mode, -, rfl⟩ := Option.map_eq_some_iff.1 h
      exact ⟨mode.gateway.map .v4, rfl⟩
    | v6 =>
      obtain ⟨mode, -, rfl⟩ := Option.map_eq_some_iff.1 h
      exact ⟨mode.gateway.map .v6, rfl⟩

/-- `rule_step`. -/
def ruleStep (lane : LanePlan) (f : IpFamily) : RoutingStep :=
  .addRule f lane.rulePriority lane.table lane.mark

/-- `lane_for_table`. -/
def laneForTable (plan : KernelPlan) (table : ℕ) : Option LanePlan :=
  plan.lanes.find? fun lane => lane.table == table

theorem laneForTable_some {plan : KernelPlan} {table : ℕ} {lane : LanePlan}
    (h : laneForTable plan table = some lane) : lane ∈ plan.lanes ∧ lane.table = table := by
  refine ⟨List.mem_of_find?_eq_some h, ?_⟩
  simpa using List.find?_some h

theorem laneForTable_none {plan : KernelPlan} {table : ℕ} :
    laneForTable plan table = none ↔ ∀ lane ∈ plan.lanes, lane.table ≠ table := by
  simp [laneForTable, List.find?_eq_none]

/-- IPv6 validates a global gateway against the table first, so a table that holds
nothing but the terminal route is opened for a moment. -/
def gatewayNeedsOpenTable (previousLane : Option LanePlan) (lane : LanePlan) (f : IpFamily) : Bool :=
  f == .v6 && previousLane.isSome &&
    (previousLane.bind fun previous => laneUnicastRoute previous f).isNone &&
    match laneUnicastRoute lane f with
    | some (.unicast (some _) _) => true
    | _ => false

/-- What `transition_steps` does for one lane and one family. -/
def laneRouteSteps (previousLane : Option LanePlan) (lane : LanePlan) (f : IpFamily) :
    List RoutingStep :=
  (if gatewayNeedsOpenTable previousLane lane f then [.deleteRoute f lane.table .terminal]
    else []) ++
  ((laneUnicastRoute lane f).map fun route => .replaceRoute f lane.table route).toList ++
  [.replaceRoute f lane.table .terminal]

/-- Installing a plan from nothing never deletes a route. -/
theorem laneRouteSteps_none (lane : LanePlan) (f : IpFamily) :
    laneRouteSteps none lane f =
      ((laneUnicastRoute lane f).map fun route => .replaceRoute f lane.table route).toList ++
        [.replaceRoute f lane.table .terminal] := by
  simp [laneRouteSteps, gatewayNeedsOpenTable]

/-- `install_rules`. -/
def installRules (plan : KernelPlan) : List RoutingStep :=
  plan.lanes.flatMap fun lane => families.map (ruleStep lane)

/-- The rules of the previous plan, none if there is none. -/
def previousRules (previous : Option KernelPlan) : List RoutingStep :=
  (previous.map installRules).getD []

/-- The route part of `transition_steps`. -/
def transitionRouteSteps (previous : Option KernelPlan) (next : KernelPlan) : List RoutingStep :=
  next.lanes.flatMap fun lane =>
    families.flatMap (laneRouteSteps (previous.bind fun plan => laneForTable plan lane.table) lane)

/-- `transition_steps`. -/
def transitionSteps (previous : Option KernelPlan) (next : KernelPlan) : List RoutingStep :=
  transitionRouteSteps previous next ++
    (installRules next).filter fun rule => rule ∉ previousRules previous

/-- `install_steps`. -/
def installSteps (plan : KernelPlan) : List RoutingStep := transitionSteps none plan

/-- The step that takes a rule away again. -/
def RoutingStep.deleteOf : RoutingStep → Option RoutingStep
  | .addRule f priority table mark => some (.deleteRule f priority table mark)
  | _ => none

/-- What `retire_steps` does for one lane of the previous plan. -/
def retireLaneSteps (next : KernelPlan) (lane : LanePlan) : List RoutingStep :=
  match laneForTable next lane.table with
  | none => families.map fun f => .flushTable f lane.table
  | some nextLane =>
    families.flatMap fun f =>
      match laneUnicastRoute lane f with
      | some route =>
        if (laneUnicastRoute nextLane f).isNone then [.deleteRoute f lane.table route] else []
      | none => []

/-- `retire_steps`. -/
def retireSteps (previous next : KernelPlan) : List RoutingStep :=
  ((installRules previous).filter fun rule => rule ∉ installRules next).filterMap
      RoutingStep.deleteOf ++
    previous.lanes.flatMap (retireLaneSteps next)

theorem mem_installRules {plan : KernelPlan} {step : RoutingStep} :
    step ∈ installRules plan ↔ ∃ lane ∈ plan.lanes, ∃ f, step = ruleStep lane f := by
  simp only [installRules, List.mem_flatMap, List.mem_map]
  constructor
  · rintro ⟨lane, hlane, f, -, rfl⟩
    exact ⟨lane, hlane, f, rfl⟩
  · rintro ⟨lane, hlane, f, rfl⟩
    exact ⟨lane, hlane, f, mem_families f, rfl⟩

/-- Taking the rules of a plan away deletes the rules of its lanes. -/
theorem mem_deletes {l : List RoutingStep} {plan : KernelPlan} (hl : l ⊆ installRules plan)
    {step : RoutingStep} :
    step ∈ l.filterMap RoutingStep.deleteOf ↔
      ∃ lane ∈ plan.lanes, ∃ f, ruleStep lane f ∈ l ∧
        step = .deleteRule f lane.rulePriority lane.table lane.mark := by
  rw [List.mem_filterMap]
  constructor
  · rintro ⟨rule, hrule, hdelete⟩
    obtain ⟨lane, hlane, f, rfl⟩ := mem_installRules.1 (hl hrule)
    exact ⟨lane, hlane, f, hrule, (Option.some.inj hdelete).symm⟩
  · rintro ⟨lane, -, f, hrule, rfl⟩
    exact ⟨ruleStep lane f, hrule, rfl⟩

end RouteLane
