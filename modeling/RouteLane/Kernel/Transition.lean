import RouteLane.Kernel.Ownership

/-!
# Transitions

The routing state a transition leaves.  Every table of the next plan is settled, every
rule of it is there, and once the previous plan is retired nothing else is: the end is
what the next plan owns, whatever tables, marks and priorities the two plans share and
whatever unicast routes the kernel dropped from the previous one.
-/

namespace RouteLane

open Steps

/-- The policy rule of a lane for a family. -/
def laneRule (lane : LanePlan) (f : IpFamily) : RuleOwnership :=
  ruleOwnership f lane.rulePriority lane.table lane.mark

theorem ruleStep_eq_iff {lane lane' : LanePlan} {f f' : IpFamily} :
    ruleStep lane f = ruleStep lane' f' ↔ laneRule lane f = laneRule lane' f' := by
  simp [ruleStep, laneRule, ruleOwnership]

theorem applyRoutingStep_ruleStep (s : RoutingOwnership) (lane : LanePlan) (f : IpFamily) :
    applyRoutingStep s (ruleStep lane f) = { s with rules := insert (laneRule lane f) s.rules } :=
  rfl

/-! ## Routes -/

theorem Settled.mono {lane : LanePlan} {prior prior' : Prop} {r : RouteOwnership}
    (h : Settled lane prior r) (himp : prior → prior') : Settled lane prior' r := by
  rcases h with h | ⟨hunicast, h | ⟨hnone, hprior⟩⟩
  · exact Or.inl h
  · exact Or.inr ⟨hunicast, Or.inl h⟩
  · exact Or.inr ⟨hunicast, Or.inr ⟨hnone, himp hprior⟩⟩

/-- A unicast route of a table that held nothing before is the lane's own. -/
theorem settled_unicast {lane : LanePlan} {r : RouteOwnership} (h : Settled lane False r)
    (hunicast : r.terminal = false) :
    ∃ route, laneUnicastRoute lane r.family = some route ∧
      r = routeOwnership r.family lane.table route := by
  rcases h with h | ⟨-, h | ⟨-, hprior⟩⟩
  · rw [h] at hunicast
    cases hunicast
  · exact h
  · exact hprior.elim

/-- The unicast route of a lane is not a terminal route. -/
theorem terminal_of_laneUnicastRoute {lane : LanePlan} {r : RouteOwnership} {route : OwnedRoute}
    (h : laneUnicastRoute lane r.family = some route)
    (hr : r = routeOwnership r.family lane.table route) : r.terminal = false := by
  obtain ⟨gateway, rfl⟩ := exists_gateway_of_laneUnicastRoute h
  rw [hr]
  rfl

/-- The steps of some lanes settle their tables and leave the others. -/
theorem mem_routes_lanes {previousLane : LanePlan → Option LanePlan} {r : RouteOwnership}
    {lanes : List LanePlan} :
    ∀ {s : RoutingOwnership}, (lanes.map LanePlan.table).Nodup →
      (r ∈ (runSteps s (lanes.flatMap fun lane =>
          families.flatMap (laneRouteSteps (previousLane lane) lane))).routes ↔
        match lanes.find? (fun lane => lane.table == r.table) with
        | none => r ∈ s.routes
        | some lane => Settled lane (r ∈ s.routes) r) := by
  induction lanes with
  | nil => intro s _; simp [runSteps]
  | cons lane rest ih =>
    intro s hnodup
    obtain ⟨hfresh, hrest⟩ := List.nodup_cons.1 hnodup
    rw [List.flatMap_cons, runSteps, run_append, ih hrest, List.find?_cons]
    by_cases htable : lane.table = r.table
    · -- No later lane has this table.
      have hnone : rest.find? (fun lane => lane.table == r.table) = none := by
        rw [List.find?_eq_none]
        intro other hother heq
        apply hfresh
        rw [List.mem_map]
        exact ⟨other, hother, (beq_iff_eq.1 heq).trans htable.symm⟩
      have hhere : (lane.table == r.table) = true := beq_iff_eq.2 htable
      rw [hnone, hhere]
      show _ ↔ Settled lane (r ∈ s.routes) r
      rw [mem_routes_lane, if_pos htable]
    · have hhere : (lane.table == r.table) = false := beq_false_of_ne htable
      rw [hhere, mem_routes_lane, if_neg htable]

/-- A step that installs a rule leaves the routes. -/
theorem routes_installRules {l : List RoutingStep} {plan : KernelPlan}
    (hl : l ⊆ installRules plan) (s : RoutingOwnership) : (runSteps s l).routes = s.routes := by
  apply run_frame
  intro x hx s
  obtain ⟨lane, -, f, rfl⟩ := mem_installRules.1 (hl hx)
  rfl

/-- The routes after a transition. -/
theorem mem_routes_transition {previous : Option KernelPlan} {next : KernelPlan}
    (hnext : (next.lanes.map LanePlan.table).Nodup) {s : RoutingOwnership} {r : RouteOwnership} :
    r ∈ (runSteps s (transitionSteps previous next)).routes ↔
      match laneForTable next r.table with
      | none => r ∈ s.routes
      | some lane => Settled lane (r ∈ s.routes) r := by
  rw [transitionSteps, runSteps, run_append, routes_installRules List.filter_sublist.subset,
    transitionRouteSteps]
  exact mem_routes_lanes hnext

/-! ## Rules -/

/-- A step on routes leaves the rules. -/
theorem rules_routeStep {previous : Option KernelPlan} {next : KernelPlan} {step : RoutingStep}
    (hstep : step ∈ transitionRouteSteps previous next) (s : RoutingOwnership) :
    (applyRoutingStep s step).rules = s.rules := by
  simp only [transitionRouteSteps, List.mem_flatMap, laneRouteSteps, List.mem_append,
    Option.mem_toList, Option.map_eq_some_iff, List.mem_singleton] at hstep
  obtain ⟨lane, -, f, -, (hopen | ⟨route, -, rfl⟩) | rfl⟩ := hstep
  · split at hopen
    · obtain rfl := List.mem_singleton.1 hopen
      rfl
    · cases hopen
  · rfl
  · rfl

/-- Steps on routes leave the rules. -/
theorem rules_routeSteps {previous : Option KernelPlan} {next : KernelPlan}
    {steps : List RoutingStep} (hsteps : steps ⊆ transitionRouteSteps previous next)
    (s : RoutingOwnership) : (runSteps s steps).rules = s.rules :=
  run_frame applyRoutingStep fun _ hstep s => rules_routeStep (hsteps hstep) s

/-- Installing rules of a plan adds the rules of its lanes. -/
theorem mem_rules_installRules {plan : KernelPlan} {r : RuleOwnership} {l : List RoutingStep} :
    ∀ {s : RoutingOwnership}, l ⊆ installRules plan →
      (r ∈ (runSteps s l).rules ↔ r ∈ s.rules ∨ ∃ lane ∈ plan.lanes, ∃ f,
        ruleStep lane f ∈ l ∧ r = laneRule lane f) := by
  induction l with
  | nil => intro s _; simp [runSteps]
  | cons x l ih =>
    intro s hl
    obtain ⟨lane, hlane, f, rfl⟩ := mem_installRules.1 (hl List.mem_cons_self)
    rw [runSteps, run_cons, ih fun y hy => hl (List.mem_cons_of_mem _ hy),
      applyRoutingStep_ruleStep, Finset.mem_insert]
    constructor
    · rintro ((rfl | hs) | ⟨lane', hlane', f', hstep, rfl⟩)
      · exact Or.inr ⟨lane, hlane, f, List.mem_cons_self, rfl⟩
      · exact Or.inl hs
      · exact Or.inr ⟨lane', hlane', f', List.mem_cons_of_mem _ hstep, rfl⟩
    · rintro (hs | ⟨lane', hlane', f', hstep, rfl⟩)
      · exact Or.inl (Or.inr hs)
      · rcases List.mem_cons.1 hstep with heq | hstep
        · exact Or.inl (Or.inl (ruleStep_eq_iff.1 heq))
        · exact Or.inr ⟨lane', hlane', f', hstep, rfl⟩

/-- The rules after a transition from a plan whose rules are all there. -/
theorem mem_rules_transition {previous : Option KernelPlan} {next : KernelPlan}
    {s : RoutingOwnership} {r : RuleOwnership} :
    r ∈ (runSteps s (transitionSteps previous next)).rules ↔
      r ∈ s.rules ∨ ∃ lane ∈ next.lanes, ∃ f, ruleStep lane f ∉ previousRules previous ∧
        r = laneRule lane f := by
  rw [transitionSteps, runSteps, run_append,
    mem_rules_installRules List.filter_sublist.subset,
    rules_routeSteps (List.Subset.refl _)]
  have hmem : ∀ lane ∈ next.lanes, ∀ f, (ruleStep lane f ∈ (installRules next).filter
      fun rule => rule ∉ previousRules previous) ↔ ruleStep lane f ∉ previousRules previous := by
    intro lane hlane f
    rw [List.mem_filter, decide_eq_true_eq]
    exact and_iff_right (mem_installRules.2 ⟨lane, hlane, f, rfl⟩)
  constructor
  · rintro (hs | ⟨lane, hlane, f, hstep, rfl⟩)
    · exact Or.inl hs
    · exact Or.inr ⟨lane, hlane, f, (hmem lane hlane f).1 hstep, rfl⟩
  · rintro (hs | ⟨lane, hlane, f, hstep, rfl⟩)
    · exact Or.inl hs
    · exact Or.inr ⟨lane, hlane, f, (hmem lane hlane f).2 hstep, rfl⟩

/-! ## What a plan owns -/

theorem mem_routes_plan {plan : KernelPlan} (hplan : (plan.lanes.map LanePlan.table).Nodup)
    {r : RouteOwnership} :
    r ∈ (planRoutingOwnership plan).routes ↔
      ∃ lane, laneForTable plan r.table = some lane ∧ Settled lane False r := by
  rw [planRoutingOwnership, installSteps, mem_routes_transition hplan]
  cases laneForTable plan r.table with
  | none => simp
  | some lane => simp

theorem mem_rules_plan {plan : KernelPlan} {r : RuleOwnership} :
    r ∈ (planRoutingOwnership plan).rules ↔ ∃ lane ∈ plan.lanes, ∃ f, r = laneRule lane f := by
  rw [planRoutingOwnership, installSteps, mem_rules_transition]
  simp [previousRules]

/-! ## Retiring the previous plan -/

theorem isRemoval_retireSteps {previous next : KernelPlan} {step : RoutingStep}
    (h : step ∈ retireSteps previous next) : step.isRemoval = true := by
  rcases List.mem_append.1 h with h | h
  · obtain ⟨lane, -, f, -, rfl⟩ := (mem_deletes List.filter_sublist.subset).1 h
    rfl
  · obtain ⟨lane, -, hstep⟩ := List.mem_flatMap.1 h
    unfold retireLaneSteps at hstep
    split at hstep
    · obtain ⟨f, -, rfl⟩ := List.mem_map.1 hstep
      rfl
    · obtain ⟨f, -, hstep⟩ := List.mem_flatMap.1 hstep
      split at hstep
      · split at hstep
        · obtain rfl := List.mem_singleton.1 hstep
          rfl
        · cases hstep
      · cases hstep

/-- The routes retiring takes away: those of a table the next plan does not have, and
the unicast routes the next plan gives up. -/
theorem removesRoute_retireSteps {previous next : KernelPlan} {r : RouteOwnership} :
    (∃ step ∈ retireSteps previous next, step.removesRoute r) ↔
      ∃ lane ∈ previous.lanes, lane.table = r.table ∧
        match laneForTable next r.table with
        | none => True
        | some nextLane => laneUnicastRoute nextLane r.family = none ∧
            ∃ route, laneUnicastRoute lane r.family = some route ∧
              r = routeOwnership r.family lane.table route := by
  constructor
  · rintro ⟨step, hstep, hremoves⟩
    rcases List.mem_append.1 hstep with hstep | hstep
    · obtain ⟨lane, -, f, -, rfl⟩ := (mem_deletes List.filter_sublist.subset).1 hstep
      cases hremoves
    · obtain ⟨lane, hlane, hstep⟩ := List.mem_flatMap.1 hstep
      unfold retireLaneSteps at hstep
      split at hstep
      · next hnone =>
        obtain ⟨f, -, rfl⟩ := List.mem_map.1 hstep
        obtain ⟨-, htable⟩ := hremoves
        refine ⟨lane, hlane, htable.symm, ?_⟩
        rw [htable, hnone]
        trivial
      · next nextLane hnext =>
        obtain ⟨f, -, hstep⟩ := List.mem_flatMap.1 hstep
        split at hstep
        · next route hroute =>
          split at hstep
          · next hgone =>
            obtain rfl := List.mem_singleton.1 hstep
            have hr : r = routeOwnership f lane.table route := hremoves
            have hfamily : r.family = f := by rw [hr, routeOwnership_family]
            have htable : r.table = lane.table := by rw [hr, routeOwnership_table]
            refine ⟨lane, hlane, htable.symm, ?_⟩
            rw [htable, hnext, hfamily]
            exact ⟨Option.isNone_iff_eq_none.1 hgone, route, hroute, hr⟩
          · cases hstep
        · cases hstep
  · rintro ⟨lane, hlane, htable, hgone⟩
    have hstep : ∀ step ∈ retireLaneSteps next lane, step ∈ retireSteps previous next :=
      fun step h => List.mem_append.2 (Or.inr (List.mem_flatMap.2 ⟨lane, hlane, h⟩))
    unfold retireLaneSteps at hstep
    cases hnext : laneForTable next r.table with
    | none =>
      rw [htable, hnext] at hstep
      refine ⟨.flushTable r.family r.table, hstep _ ?_, rfl, rfl⟩
      exact List.mem_map.2 ⟨r.family, mem_families _, rfl⟩
    | some nextLane =>
      rw [hnext] at hgone
      obtain ⟨hnone, route, hroute, hr⟩ := hgone
      rw [htable, hnext] at hstep
      refine ⟨.deleteRoute r.family r.table route, hstep _ ?_, by rw [← htable]; exact hr⟩
      refine List.mem_flatMap.2 ⟨r.family, mem_families _, ?_⟩
      rw [hroute, hnone]
      exact List.mem_singleton.2 rfl

theorem removesRule_retireSteps {previous next : KernelPlan} {r : RuleOwnership} :
    (∃ step ∈ retireSteps previous next, step.removesRule r) ↔
      (∃ lane ∈ previous.lanes, ∃ f, r = laneRule lane f) ∧
        ¬ ∃ lane ∈ next.lanes, ∃ f, r = laneRule lane f := by
  have hnot : ∀ lane f, ruleStep lane f ∉ installRules next ↔
      ¬ ∃ other ∈ next.lanes, ∃ g, laneRule lane f = laneRule other g := by
    intro lane f
    simp only [mem_installRules, ruleStep_eq_iff]
  constructor
  · rintro ⟨step, hstep, hremoves⟩
    rcases List.mem_append.1 hstep with hstep | hstep
    · obtain ⟨lane, hlane, f, hrule, rfl⟩ := (mem_deletes List.filter_sublist.subset).1 hstep
      have hr : r = laneRule lane f := hremoves
      have hgone := of_decide_eq_true (List.mem_filter.1 hrule).2
      rw [hr]
      exact ⟨⟨lane, hlane, f, rfl⟩, (hnot lane f).1 hgone⟩
    · obtain ⟨lane, -, hstep⟩ := List.mem_flatMap.1 hstep
      unfold retireLaneSteps at hstep
      split at hstep
      · obtain ⟨f, -, rfl⟩ := List.mem_map.1 hstep
        cases hremoves
      · obtain ⟨f, -, hstep⟩ := List.mem_flatMap.1 hstep
        split at hstep
        · split at hstep
          · obtain rfl := List.mem_singleton.1 hstep
            cases hremoves
          · cases hstep
        · cases hstep
  · rintro ⟨⟨lane, hlane, f, rfl⟩, hgone⟩
    refine ⟨.deleteRule f lane.rulePriority lane.table lane.mark, ?_, rfl⟩
    refine List.mem_append.2 (Or.inl ((mem_deletes List.filter_sublist.subset).2
      ⟨lane, hlane, f, ?_, rfl⟩))
    rw [List.mem_filter, decide_eq_true_eq]
    exact ⟨mem_installRules.2 ⟨lane, hlane, f, rfl⟩, (hnot lane f).2 hgone⟩

/-! ## The whole way -/

/-- A transition from what the previous plan owns, and then retiring it, ends with what
the next plan owns. -/
theorem run_transition_retire {previous next : KernelPlan}
    (hprevious : (previous.lanes.map LanePlan.table).Nodup)
    (hnext : (next.lanes.map LanePlan.table).Nodup) :
    runSteps (planRoutingOwnership previous)
        (transitionSteps (some previous) next ++ retireSteps previous next) =
      planRoutingOwnership next := by
  rw [runSteps, run_append]
  apply RoutingOwnership.ext_mem
  · intro r
    rw [mem_routes_removals fun _ => isRemoval_retireSteps, removesRoute_retireSteps,
      mem_routes_transition hnext, mem_routes_plan hnext]
    have hprior : r ∈ (planRoutingOwnership previous).routes →
        ∃ lane ∈ previous.lanes, lane.table = r.table ∧ Settled lane False r := by
      intro hr
      obtain ⟨lane, hlane, hsettled⟩ := (mem_routes_plan hprevious).1 hr
      exact ⟨lane, (laneForTable_some hlane).1, (laneForTable_some hlane).2, hsettled⟩
    cases hlane : laneForTable next r.table with
    | none =>
      -- The table is flushed.
      constructor
      · rintro ⟨hr, hkept⟩
        obtain ⟨lane, hmem, htable, -⟩ := hprior hr
        exact absurd ⟨lane, hmem, htable, trivial⟩ hkept
      · rintro ⟨lane, hlane', -⟩
        cases hlane'
    | some nextLane =>
      constructor
      · rintro ⟨hterminal | ⟨hunicast, hroute | ⟨hnone, hr⟩⟩, hkept⟩
        · exact ⟨nextLane, rfl, Or.inl hterminal⟩
        · exact ⟨nextLane, rfl, Or.inr ⟨hunicast, Or.inl hroute⟩⟩
        · -- The unicast route the next plan gives up is deleted.
          obtain ⟨lane, hmem, htable, hsettled⟩ := hprior hr
          obtain ⟨route, hroute, hr⟩ := settled_unicast hsettled hunicast
          exact absurd ⟨lane, hmem, htable, hnone, route, hroute, hr⟩ hkept
      · rintro ⟨lane', hlane', hsettled⟩
        obtain rfl := Option.some.inj hlane'
        refine ⟨hsettled.mono False.elim, ?_⟩
        rintro ⟨lane, -, -, hnone, route, hroute, hr⟩
        have hunicast := terminal_of_laneUnicastRoute hroute hr
        obtain ⟨route', hroute', -⟩ := settled_unicast hsettled hunicast
        rw [hnone] at hroute'
        cases hroute'
  · intro r
    rw [mem_rules_removals fun _ => isRemoval_retireSteps, removesRule_retireSteps,
      mem_rules_transition, mem_rules_plan, mem_rules_plan]
    have hnew : ∀ lane f, ruleStep lane f ∉ previousRules (some previous) ↔
        ¬ ∃ other ∈ previous.lanes, ∃ g, laneRule lane f = laneRule other g := by
      intro lane f
      simp only [previousRules, Option.map_some, Option.getD_some, mem_installRules,
        ruleStep_eq_iff]
    constructor
    · rintro ⟨hold | ⟨lane, hlane, f, -, rfl⟩, hkept⟩
      · by_contra hgone
        exact hkept ⟨hold, hgone⟩
      · exact ⟨lane, hlane, f, rfl⟩
    · rintro ⟨lane, hlane, f, rfl⟩
      refine ⟨?_, fun h => h.2 ⟨lane, hlane, f, rfl⟩⟩
      by_cases hold : ∃ other ∈ previous.lanes, ∃ g, laneRule lane f = laneRule other g
      · exact Or.inl hold
      · exact Or.inr ⟨lane, hlane, f, (hnew lane f).2 hold, rfl⟩

end RouteLane
