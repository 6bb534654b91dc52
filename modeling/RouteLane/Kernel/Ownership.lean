import RouteLane.Kernel.RoutingSteps
import RouteLane.Lib.Steps

/-!
# Routing ownership

What the kernel holds of RouteLane's routes and policy rules, and what every step does
to it.  A step list is described by the membership it leaves: a transition settles every
table of the next plan and adds its rules, retiring takes away exactly what only the
previous plan had, and together they leave what the next plan installs from nothing.
-/

namespace RouteLane

open Steps

structure RouteOwnership where
  family : IpFamily
  table : ℕ
  gateway : Option IpAddr
  interface : String
  terminal : Bool
  deriving DecidableEq, Repr

structure RuleOwnership where
  family : IpFamily
  priority : ℕ
  table : ℕ
  mark : ℕ
  deriving DecidableEq, Repr, Ord

structure RoutingOwnership where
  routes : Finset RouteOwnership
  rules : Finset RuleOwnership
  deriving DecidableEq

namespace RoutingOwnership

/-- `RoutingOwnership::default`. -/
def empty : RoutingOwnership := ⟨∅, ∅⟩

@[simp] theorem empty_routes : empty.routes = ∅ := rfl

@[simp] theorem empty_rules : empty.rules = ∅ := rfl

theorem ext_mem {s t : RoutingOwnership} (hroutes : ∀ r, r ∈ s.routes ↔ r ∈ t.routes)
    (hrules : ∀ r, r ∈ s.rules ↔ r ∈ t.rules) : s = t := by
  cases s
  cases t
  rw [mk.injEq]
  exact ⟨Finset.ext hroutes, Finset.ext hrules⟩

end RoutingOwnership

/-- `route_ownership`. -/
def routeOwnership (f : IpFamily) (table : ℕ) : OwnedRoute → RouteOwnership
  | .unicast gateway interface => ⟨f, table, gateway, interface, false⟩
  | .terminal => ⟨f, table, none, "", true⟩

/-- `rule_ownership`. -/
def ruleOwnership (f : IpFamily) (priority table mark : ℕ) : RuleOwnership :=
  ⟨f, priority, table, mark⟩

/-- `apply_routing_step`: a replace swaps the route of the same kind in the same table,
removals are idempotent. -/
def applyRoutingStep (state : RoutingOwnership) : RoutingStep → RoutingOwnership
  | .replaceRoute f table route =>
    { state with
      routes := insert (routeOwnership f table route)
        (state.routes.filter fun existing =>
          existing.family ≠ f ∨ existing.table ≠ table ∨
            existing.terminal ≠ (routeOwnership f table route).terminal) }
  | .deleteRoute f table route =>
    { state with routes := state.routes.erase (routeOwnership f table route) }
  | .addRule f priority table mark =>
    { state with rules := insert (ruleOwnership f priority table mark) state.rules }
  | .deleteRule f priority table mark =>
    { state with rules := state.rules.erase (ruleOwnership f priority table mark) }
  | .flushTable f table =>
    { state with
      routes := state.routes.filter fun route => route.family ≠ f ∨ route.table ≠ table }

/-- The ownership a list of steps leaves. -/
abbrev runSteps (state : RoutingOwnership) (steps : List RoutingStep) : RoutingOwnership :=
  run applyRoutingStep state steps

/-- `plan_routing_ownership`. -/
def planRoutingOwnership (plan : KernelPlan) : RoutingOwnership :=
  runSteps .empty (installSteps plan)

@[simp] theorem routeOwnership_family (f : IpFamily) (table : ℕ) (route : OwnedRoute) :
    (routeOwnership f table route).family = f := by
  cases route <;> rfl

@[simp] theorem routeOwnership_table (f : IpFamily) (table : ℕ) (route : OwnedRoute) :
    (routeOwnership f table route).table = table := by
  cases route <;> rfl

/-! ## Steps that only remove -/

/-- Whether a step takes things away. -/
def RoutingStep.isRemoval : RoutingStep → Bool
  | .deleteRoute .. | .deleteRule .. | .flushTable .. => true
  | _ => false

/-- The routes a removal takes away. -/
def RoutingStep.removesRoute (r : RouteOwnership) : RoutingStep → Prop
  | .deleteRoute f table route => r = routeOwnership f table route
  | .flushTable f table => r.family = f ∧ r.table = table
  | _ => False

/-- The rules a removal takes away. -/
def RoutingStep.removesRule (r : RuleOwnership) : RoutingStep → Prop
  | .deleteRule f priority table mark => r = ruleOwnership f priority table mark
  | _ => False

theorem mem_routes_removal {step : RoutingStep} (h : step.isRemoval = true)
    {s : RoutingOwnership} {r : RouteOwnership} :
    r ∈ (applyRoutingStep s step).routes ↔ r ∈ s.routes ∧ ¬ step.removesRoute r := by
  cases step with
  | replaceRoute | addRule => cases h
  | deleteRoute f table route =>
    simp only [applyRoutingStep, Finset.mem_erase, RoutingStep.removesRoute, ne_eq]
    tauto
  | deleteRule => simp [applyRoutingStep, RoutingStep.removesRoute]
  | flushTable f table =>
    simp only [applyRoutingStep, Finset.mem_filter, RoutingStep.removesRoute]
    tauto

theorem mem_rules_removal {step : RoutingStep} (h : step.isRemoval = true)
    {s : RoutingOwnership} {r : RuleOwnership} :
    r ∈ (applyRoutingStep s step).rules ↔ r ∈ s.rules ∧ ¬ step.removesRule r := by
  cases step with
  | replaceRoute | addRule => cases h
  | deleteRule f priority table mark =>
    simp only [applyRoutingStep, Finset.mem_erase, RoutingStep.removesRule, ne_eq]
    tauto
  | deleteRoute | flushTable => simp [applyRoutingStep, RoutingStep.removesRule]

/-- Removals leave what none of them takes away. -/
theorem mem_routes_removals {r : RouteOwnership} {l : List RoutingStep} :
    ∀ {s : RoutingOwnership}, (∀ x ∈ l, x.isRemoval = true) →
      (r ∈ (runSteps s l).routes ↔ r ∈ s.routes ∧ ¬ ∃ x ∈ l, x.removesRoute r) := by
  induction l with
  | nil => intro s _; simp [runSteps]
  | cons x l ih =>
    intro s h
    have hx := h x List.mem_cons_self
    have hl := ih (s := applyRoutingStep s x) fun y hy => h y (List.mem_cons_of_mem _ hy)
    rw [runSteps, run_cons, hl, mem_routes_removal hx]
    simp only [List.mem_cons, exists_eq_or_imp, not_or, and_assoc]

theorem mem_rules_removals {r : RuleOwnership} {l : List RoutingStep} :
    ∀ {s : RoutingOwnership}, (∀ x ∈ l, x.isRemoval = true) →
      (r ∈ (runSteps s l).rules ↔ r ∈ s.rules ∧ ¬ ∃ x ∈ l, x.removesRule r) := by
  induction l with
  | nil => intro s _; simp [runSteps]
  | cons x l ih =>
    intro s h
    have hx := h x List.mem_cons_self
    have hl := ih (s := applyRoutingStep s x) fun y hy => h y (List.mem_cons_of_mem _ hy)
    rw [runSteps, run_cons, hl, mem_rules_removal hx]
    simp only [List.mem_cons, exists_eq_or_imp, not_or, and_assoc]

/-- Everything here is there as well. -/
structure RoutingOwnership.Part (s t : RoutingOwnership) : Prop where
  routes : s.routes ⊆ t.routes
  rules : s.rules ⊆ t.rules

namespace RoutingOwnership.Part

variable {s t u : RoutingOwnership}

theorem refl (s : RoutingOwnership) : s.Part s := ⟨Finset.Subset.refl _, Finset.Subset.refl _⟩

theorem trans (h : s.Part t) (h' : t.Part u) : s.Part u :=
  ⟨h.routes.trans h'.routes, h.rules.trans h'.rules⟩

theorem empty : RoutingOwnership.empty.Part s :=
  ⟨Finset.empty_subset _, Finset.empty_subset _⟩

/-- Only the empty routing is a part of the empty one. -/
theorem eq_empty (h : s.Part .empty) : s = .empty :=
  RoutingOwnership.ext_mem
    (fun r => ⟨fun hr => h.routes hr, fun hr => absurd hr (Finset.notMem_empty r)⟩)
    fun r => ⟨fun hr => h.rules hr, fun hr => absurd hr (Finset.notMem_empty r)⟩

theorem removal {step : RoutingStep} (h : step.isRemoval = true) :
    (applyRoutingStep s step).Part s :=
  ⟨fun _ hr => ((mem_routes_removal h).1 hr).1, fun _ hr => ((mem_rules_removal h).1 hr).1⟩

theorem removals {l : List RoutingStep} (h : ∀ x ∈ l, x.isRemoval = true) :
    (runSteps s l).Part s :=
  ⟨fun _ hr => ((mem_routes_removals h).1 hr).1, fun _ hr => ((mem_rules_removals h).1 hr).1⟩

end RoutingOwnership.Part

/-- Removals can be run again, from wherever they were interrupted. -/
theorem repeatable_removals {l : List RoutingStep} (h : ∀ x ∈ l, x.isRemoval = true) :
    Repeatable applyRoutingStep l where
  idem x hx s := by
    have hremoval := h x hx
    apply RoutingOwnership.ext_mem
    · intro r
      rw [mem_routes_removal hremoval, mem_routes_removal hremoval]
      tauto
    · intro r
      rw [mem_rules_removal hremoval, mem_rules_removal hremoval]
      tauto
  comm x hx y hy s := by
    have hx := h x hx
    have hy := h y hy
    apply RoutingOwnership.ext_mem
    · intro r
      rw [mem_routes_removal hy, mem_routes_removal hx, mem_routes_removal hx,
        mem_routes_removal hy]
      tauto
    · intro r
      rw [mem_rules_removal hy, mem_rules_removal hx, mem_rules_removal hx,
        mem_rules_removal hy]
      tauto

/-! ## Routes after a transition -/

/-- The routes of a table that a lane has settled: the terminal route, and the unicast
route of the lane or, when it has none, whatever unicast route was there. -/
def Settled (lane : LanePlan) (prior : Prop) (r : RouteOwnership) : Prop :=
  r = routeOwnership r.family lane.table .terminal ∨
    r.terminal = false ∧
      ((∃ route, laneUnicastRoute lane r.family = some route ∧
          r = routeOwnership r.family lane.table route) ∨
        laneUnicastRoute lane r.family = none ∧ prior)

theorem mem_routes_replace {s : RoutingOwnership} {f : IpFamily} {table : ℕ} {route : OwnedRoute}
    {r : RouteOwnership} :
    r ∈ (applyRoutingStep s (.replaceRoute f table route)).routes ↔
      r = routeOwnership f table route ∨
        r ∈ s.routes ∧ (r.family ≠ f ∨ r.table ≠ table ∨
          r.terminal ≠ (routeOwnership f table route).terminal) := by
  simp [applyRoutingStep]

/-- A route elsewhere is not touched by the steps of a lane. -/
theorem mem_routes_laneRouteSteps_other {previousLane : Option LanePlan} {lane : LanePlan}
    {f : IpFamily} {s : RoutingOwnership} {r : RouteOwnership}
    (h : r.family ≠ f ∨ r.table ≠ lane.table) :
    r ∈ (runSteps s (laneRouteSteps previousLane lane f)).routes ↔ r ∈ s.routes := by
  have hother : ∀ route, r ≠ routeOwnership f lane.table route := by
    rintro route rfl
    simp at h
  have hkeep : ∀ x ∈ laneRouteSteps previousLane lane f, ∀ s,
      (r ∈ (applyRoutingStep s x).routes) = (r ∈ s.routes) := by
    intro x hx s
    simp only [laneRouteSteps, List.mem_append, Option.mem_toList, Option.map_eq_some_iff,
      List.mem_singleton] at hx
    rcases hx with (hopen | ⟨route, -, rfl⟩) | rfl
    · split at hopen
      · obtain rfl := List.mem_singleton.1 hopen
        simp [applyRoutingStep, hother]
      · cases hopen
    · rw [mem_routes_replace, eq_iff_iff]
      have := hother route
      tauto
    · rw [mem_routes_replace, eq_iff_iff]
      have := hother .terminal
      tauto
  exact Iff.of_eq (run_frame applyRoutingStep (v := fun s => r ∈ s.routes) hkeep)

/-- The steps of a lane settle its table, opened first or not. -/
theorem mem_routes_laneRouteSteps {previousLane : Option LanePlan} {lane : LanePlan}
    {s : RoutingOwnership} {r : RouteOwnership} (htable : r.table = lane.table) :
    r ∈ (runSteps s (laneRouteSteps previousLane lane r.family)).routes ↔
      Settled lane (r ∈ s.routes) r := by
  -- Opening the table only takes the terminal route away, which comes back at the end.
  have hopen : r.terminal = false →
      (r ∈ (run applyRoutingStep s (if gatewayNeedsOpenTable previousLane lane r.family then
        [.deleteRoute r.family lane.table .terminal] else [])).routes ↔ r ∈ s.routes) := by
    intro hterminal
    split
    · have hne : r ≠ routeOwnership r.family lane.table .terminal := by
        intro heq
        rw [heq] at hterminal
        cases hterminal
      simp [applyRoutingStep, hne]
    · simp
  have hterminal : (routeOwnership r.family lane.table .terminal).terminal = true := rfl
  rw [laneRouteSteps, runSteps, run_append, run_append, run_cons, run_nil, mem_routes_replace,
    Settled, hterminal]
  generalize hs : run applyRoutingStep s _ = opened at *
  cases hroute : laneUnicastRoute lane r.family with
  | none =>
    rw [Option.map_none, Option.toList_none, run_nil]
    cases hr : r.terminal with
    | true => simp [htable]
    | false => simp [htable, hopen hr]
  | some route =>
    obtain ⟨gateway, rfl⟩ := exists_gateway_of_laneUnicastRoute hroute
    rw [Option.map_some, Option.toList_some, run_cons, run_nil, mem_routes_replace]
    cases hr : r.terminal with
    | true =>
      have hne : r ≠ routeOwnership r.family lane.table (.unicast gateway lane.interface) := by
        intro heq
        rw [heq] at hr
        cases hr
      simp [htable, hne]
    | false => simp [htable, routeOwnership]

/-- The steps of a lane for both families settle its table and leave the others. -/
theorem mem_routes_lane {previousLane : Option LanePlan} {lane : LanePlan} {s : RoutingOwnership}
    {r : RouteOwnership} :
    r ∈ (runSteps s (families.flatMap (laneRouteSteps previousLane lane))).routes ↔
      if lane.table = r.table then Settled lane (r ∈ s.routes) r else r ∈ s.routes := by
  have hflat : families.flatMap (laneRouteSteps previousLane lane) =
      laneRouteSteps previousLane lane .v4 ++ laneRouteSteps previousLane lane .v6 := by
    simp [families]
  rw [hflat, runSteps, run_append]
  by_cases htable : lane.table = r.table
  · rw [if_pos htable]
    cases hf : r.family with
    | v4 =>
      rw [mem_routes_laneRouteSteps_other (Or.inl (by rw [hf]; decide)), ← hf,
        mem_routes_laneRouteSteps htable.symm]
    | v6 =>
      have hfirst : r ∈ (run applyRoutingStep s (laneRouteSteps previousLane lane .v4)).routes ↔
          r ∈ s.routes := mem_routes_laneRouteSteps_other (Or.inl (by rw [hf]; decide))
      rw [← hf, mem_routes_laneRouteSteps htable.symm, Settled, Settled, hfirst]
  · rw [if_neg htable, mem_routes_laneRouteSteps_other (Or.inr fun h => htable h.symm),
      mem_routes_laneRouteSteps_other (Or.inr fun h => htable h.symm)]

end RouteLane
