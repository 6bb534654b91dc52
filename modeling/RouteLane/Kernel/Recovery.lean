import RouteLane.Kernel.CrashSafety

/-!
# Interrupted recoveries

A recovery is itself a list of commands and can be interrupted.  From a state with a
table, or without an active plan, every state it passes through is accepted again.  While
the active plan is being brought back there is no table, the check then knows only the
states of the installation, and a second recovery, which first removes what the first one
had installed, leaves them at once.
-/

namespace RouteLane

open Nft Faults Program Steps

/-- The kernel states a recovery of this journal can be interrupted in. -/
def InterruptedIn (blake3 : Blake3) (journal : PendingJournal) (kernel kernel' : KernelState) :
    Prop :=
  ∃ faults, ∃ e ∈ (recoverPending blake3 journal ⟨kernel, .recovering journal, faults⟩).events,
    e.state = kernel'

/-- The states whose recovery can be interrupted: with a table, without an active plan, or
with nothing of the active plan installed but IPv4 routes of its first lane. -/
def RecoveryReentrant (journal : PendingJournal) (kernel : KernelState) : Prop :=
  kernel.nft.isSome = true ∨ journal.active = none ∨
    kernel.routing.rules = ∅ ∧ ∀ route ∈ kernel.routing.routes, route.family = .v4 ∧
      (journal.active.bind fun plan => plan.lanes.head?).map LanePlan.table = some route.table

instance (journal : PendingJournal) (kernel : KernelState) :
    Decidable (RecoveryReentrant journal kernel) := by
  unfold RecoveryReentrant
  infer_instance

variable {blake3 : Blake3} {journal : PendingJournal} {kernel : KernelState}

/-! ## Rollbacks of a single table -/

/-- A rollback takes all routes of a family and table, or none. -/
theorem removesRoute_congr {plans : List KernelPlan} {x : RoutingStep} (hx : x ∈ rollbackSteps plans)
    {route route' : RouteOwnership} (hfamily : route.family = route'.family)
    (htable : route.table = route'.table) (hremoves : x.removesRoute route) :
    x.removesRoute route' := by
  rcases List.mem_append.1 hx with hx | hx
  · obtain ⟨_, -, _, -, _, rfl⟩ := mem_rollbackRuleOrder.1 hx
    cases hremoves
  · obtain ⟨_, -, _, -, f, rfl⟩ := mem_rollbackTableOrder.1 hx
    exact ⟨hfamily ▸ hremoves.1, htable ▸ hremoves.2⟩

/-- A rollback takes routes of a single table in one step. -/
theorem runSteps_oneTable {plans : List KernelPlan} {family : IpFamily} {table : ℕ}
    (hrules : kernel.routing.rules = ∅)
    (hroutes : ∀ route ∈ kernel.routing.routes, route.family = family ∧ route.table = table)
    {pre : List RoutingStep} (hpre : pre <+: rollbackSteps plans) :
    kernel.runSteps pre = kernel ∨ kernel.runSteps pre = { kernel with routing := .empty } := by
  have hremoval : ∀ x ∈ pre, x.isRemoval = true := fun x hx =>
    isRemoval_rollbackSteps (hpre.subset hx)
  have hnorules : ∀ r, r ∉ (runSteps kernel.routing pre).rules := by
    intro r hr
    rw [mem_rules_removals hremoval, hrules] at hr
    exact Finset.notMem_empty r hr.1
  by_cases hflush : ∃ x ∈ pre, ∃ route ∈ kernel.routing.routes, x.removesRoute route
  · right
    obtain ⟨x, hx, route, hroute, hremoves⟩ := hflush
    have hempty : runSteps kernel.routing pre = .empty := by
      apply RoutingOwnership.ext_mem
      · intro r
        rw [mem_routes_removals hremoval]
        refine iff_of_false ?_ (Finset.notMem_empty r)
        rintro ⟨hr, hkept⟩
        have hfamily := (hroutes route hroute).1.trans (hroutes r hr).1.symm
        have htable := (hroutes route hroute).2.trans (hroutes r hr).2.symm
        exact hkept ⟨x, hx, removesRoute_congr (hpre.subset hx) hfamily htable hremoves⟩
      · intro r
        exact iff_of_false (hnorules r) (Finset.notMem_empty r)
    rw [KernelState.runSteps, hempty]
  · left
    have hsame : runSteps kernel.routing pre = kernel.routing := by
      apply RoutingOwnership.ext_mem
      · intro r
        rw [mem_routes_removals hremoval]
        refine ⟨fun hr => hr.1, fun hr => ⟨hr, ?_⟩⟩
        rintro ⟨x, hx, hremoves⟩
        exact hflush ⟨x, hx, r, hr, hremoves⟩
      · intro r
        rw [hrules]
        exact iff_of_false (hnorules r) (Finset.notMem_empty r)
    rw [KernelState.runSteps, hsame]

/-! ## The installation of the active plan -/

section Install

variable {plan : KernelPlan} {lane : LanePlan} {rest : List LanePlan}

/-- Once a table holds a route, it does while the plan is installed. -/
theorem exists_route_installStep {step : RoutingStep} (hstep : step ∈ installSteps plan)
    {s : RoutingOwnership} {f : IpFamily} {table : ℕ}
    (h : ∃ route ∈ s.routes, route.family = f ∧ route.table = table) :
    ∃ route ∈ (applyRoutingStep s step).routes, route.family = f ∧ route.table = table := by
  obtain ⟨route, hroute, hfamily, htable⟩ := h
  rcases List.mem_append.1 hstep with hstep | hstep
  · obtain ⟨lane, -, hstep⟩ := List.mem_flatMap.1 hstep
    obtain ⟨g, -, hstep⟩ := List.mem_flatMap.1 hstep
    rw [Option.bind_none, laneRouteSteps_none] at hstep
    obtain ⟨owned, rfl⟩ : ∃ owned, step = .replaceRoute g lane.table owned := by
      rcases List.mem_append.1 hstep with hstep | hstep
      · obtain ⟨owned, -, rfl⟩ := Option.map_eq_some_iff.1 (Option.mem_toList.1 hstep)
        exact ⟨owned, rfl⟩
      · exact ⟨.terminal, List.mem_singleton.1 hstep⟩
    by_cases hsame : g = f ∧ lane.table = table
    · refine ⟨routeOwnership g lane.table owned, mem_routes_replace.2 (Or.inl rfl), ?_, ?_⟩
      · rw [routeOwnership_family, hsame.1]
      · rw [routeOwnership_table, hsame.2]
    · refine ⟨route, mem_routes_replace.2 (Or.inr ⟨hroute, ?_⟩), hfamily, htable⟩
      rcases not_and_or.1 hsame with hne | hne
      · exact Or.inl fun heq => hne (heq.symm.trans hfamily)
      · exact Or.inr (Or.inl fun heq => hne (heq.symm.trans htable))
  · obtain ⟨lane, -, g, rfl⟩ := mem_installRules.1 (List.mem_of_mem_filter hstep)
    exact ⟨route, hroute, hfamily, htable⟩

/-- The first step of an installation is an IPv4 route of the first lane. -/
theorem installSteps_cons (hlanes : plan.lanes = lane :: rest) :
    ∃ owned tail, installSteps plan = .replaceRoute .v4 lane.table owned :: tail := by
  have hsteps : installSteps plan = laneRouteSteps none lane .v4 ++
      (laneRouteSteps none lane .v6 ++ (rest.flatMap fun lane =>
        families.flatMap (laneRouteSteps none lane)) ++
        (installRules plan).filter fun rule => rule ∉ previousRules none) := by
    simp [installSteps, transitionSteps, transitionRouteSteps, hlanes, families]
  rw [hsteps, laneRouteSteps_none]
  cases laneUnicastRoute lane .v4 with
  | none => exact ⟨_, _, rfl⟩
  | some route => exact ⟨_, _, rfl⟩

/-- Every state of an installation but the first holds an IPv4 route of the first lane. -/
theorem exists_first_route (hlanes : plan.lanes = lane :: rest) {pre : List RoutingStep}
    (hpre : pre <+: installSteps plan) (hne : pre ≠ []) :
    ∃ route ∈ (runSteps .empty pre).routes, route.family = .v4 ∧ route.table = lane.table := by
  obtain ⟨owned, tail, hsteps⟩ := installSteps_cons hlanes
  cases pre with
  | nil => exact absurd rfl hne
  | cons x pre =>
    rw [hsteps] at hpre
    obtain ⟨rfl, htail⟩ := List.cons_prefix_cons.1 hpre
    have hkeep : ∀ step ∈ pre, ∀ s : RoutingOwnership,
        (∃ route ∈ s.routes, route.family = .v4 ∧ route.table = lane.table) →
        ∃ route ∈ (applyRoutingStep s step).routes,
          route.family = .v4 ∧ route.table = lane.table := by
      intro step hstep s hs
      have hinstall : step ∈ installSteps plan := by
        rw [hsteps]
        exact List.mem_cons_of_mem _ (htail.subset hstep)
      exact exists_route_installStep hinstall hs
    refine run_invariant applyRoutingStep hkeep ?_
    refine ⟨routeOwnership .v4 lane.table owned, mem_routes_replace.2 (Or.inl rfl), ?_, ?_⟩
    · exact routeOwnership_family _ _ _
    · exact routeOwnership_table _ _ _

/-- Rules come after all routes, the first lane's IPv6 routes among them. -/
theorem rules_empty_of_first_table (hplan : (plan.lanes.map LanePlan.table).Nodup)
    (hlanes : plan.lanes = lane :: rest) {pre : List RoutingStep}
    (hpre : pre <+: installSteps plan)
    (hroutes : ∀ route ∈ (runSteps .empty pre).routes, route.family = .v4) :
    (runSteps .empty pre).rules = ∅ := by
  have hroutesteps : transitionRouteSteps none plan <+: installSteps plan := List.prefix_append _ _
  rcases List.prefix_or_prefix_of_prefix hpre hroutesteps with hpre' | ⟨rules, rfl⟩
  · rw [rules_routeSteps hpre'.subset]
    rfl
  · -- Rules only come when the IPv6 terminal route of the first lane is there.
    exfalso
    have hrules : rules ⊆ installRules plan := fun x hx =>
      List.mem_of_mem_filter (((List.prefix_append_right_inj _).1 hpre).subset hx)
    have hfind : plan.lanes.find? (fun other => other.table ==
        (routeOwnership .v6 lane.table .terminal).table) = some lane := by
      rw [hlanes]
      exact List.find?_cons_of_pos (beq_iff_eq.2 rfl)
    have hmem : routeOwnership .v6 lane.table .terminal ∈
        (runSteps .empty (transitionRouteSteps none plan ++ rules)).routes := by
      rw [runSteps, run_append, routes_installRules hrules, transitionRouteSteps,
        mem_routes_lanes hplan, hfind]
      exact Or.inl rfl
    cases hroutes _ hmem

/-- A state of an installation that still is one when the first table is flushed holds
nothing but IPv4 routes of the first lane. -/
theorem firstTable_of_flushed (hplan : (plan.lanes.map LanePlan.table).Nodup)
    (hlanes : plan.lanes = lane :: rest) {pre pre' : List RoutingStep}
    (hpre : pre <+: installSteps plan) (hpre' : pre' <+: installSteps plan)
    (hflushed : ∀ route, route ∈ (runSteps .empty pre').routes ↔
      route ∈ (runSteps .empty pre).routes ∧
        ¬ (route.family = .v4 ∧ route.table = lane.table)) :
    (runSteps .empty pre).rules = ∅ ∧ ∀ route ∈ (runSteps .empty pre).routes,
      route.family = .v4 ∧ route.table = lane.table := by
  have hnil : pre' = [] := by
    by_contra hne
    obtain ⟨route, hroute, hfirst⟩ := exists_first_route hlanes hpre' hne
    exact ((hflushed route).1 hroute).2 hfirst
  have hroutes : ∀ route ∈ (runSteps .empty pre).routes,
      route.family = .v4 ∧ route.table = lane.table := by
    intro route hroute
    by_contra hother
    have hmem := (hflushed route).2 ⟨hroute, hother⟩
    rw [hnil] at hmem
    exact Finset.notMem_empty route hmem
  exact ⟨rules_empty_of_first_table hplan hlanes hpre fun route hroute => (hroutes route hroute).1,
    hroutes⟩

end Install

/-! ## Without a table -/

/-- Without a table only the states of the active plan's installation are accepted. -/
theorem accepts_absent_iff (h : journal.Valid blake3) {plan : KernelPlan}
    (hactive : journal.active = some plan) (hnone : kernel.nft = none) :
    Accepts blake3 journal kernel ↔
      ∃ pre, pre <+: installSteps (routingBasis journal.expectations.lostUnicast plan) ∧
        kernel.routing = runSteps .empty pre := by
  rw [accepts_iff h, hnone, phase_none h, PendingJournal.basis, hactive]
  constructor
  · rintro ⟨_, heq, hcrash⟩
    obtain rfl := Option.some.inj heq
    exact (mem_states _).1 hcrash
  · intro hinstalling
    exact ⟨_, rfl, (mem_states _).2 hinstalling⟩

theorem cleared_absent (h : journal.Valid blake3) (hkernel : Accepts blake3 journal kernel)
    (hnone : kernel.nft = none) {plan : KernelPlan} (hactive : journal.active = some plan) :
    kernel.cleared journal.plans = ⟨none, .empty⟩ := by
  obtain ⟨pre, hpre, hrouting⟩ := (accepts_absent_iff h hactive hnone).1 hkernel
  have hmem : kernel.routing ∈ phaseStates journal.basis journal.pending .rollbackAbsent := by
    rw [PendingJournal.basis, hactive, hrouting]
    exact (mem_states _).2 ⟨pre, hpre, rfl⟩
  have hempty := run_rollbackSteps (within_phaseStates hmem)
  rw [PendingJournal.basis, rollbackSteps_routingBasis] at hempty
  rw [KernelState.cleared, hempty]

/-- What a recovery without a table does, under any regime that its states satisfy. -/
theorem restore_absent_ensures {r : Regime KernelState} (h : journal.Valid blake3)
    (hkernel : Accepts blake3 journal kernel) (hnone : kernel.nft = none) {plan : KernelPlan}
    (hactive : journal.active = some plan) {m : CommandKernelRunner}
    (hserves : m.Serves journal kernel)
    (hfine : ∀ kernel', Accepts blake3 journal kernel' → r.Fine kernel')
    (hstates : ∀ pre, pre <+: rollbackSteps journal.plans → r.Fine (kernel.runSteps pre))
    {P : Prop} (hfailed : ∀ kernel', r.mayFail → r.known ⟨kernel', true⟩ → P)
    (hflushed : (∀ x, rollbackRuleOrder journal.plans ++ [x] <+: rollbackSteps journal.plans →
      kernel.runSteps (rollbackRuleOrder journal.plans ++ [x]) ≠
        kernel.runSteps (rollbackRuleOrder journal.plans) →
      r.known ⟨kernel.runSteps (rollbackRuleOrder journal.plans ++ [x]), false⟩) → P) :
    Ensures r kernel m (restore blake3 (some plan)) (fun _ _ _ => P) (fun _ _ => P) := by
  have hcleared := cleared_absent h hkernel hnone hactive
  refine Ensures.bind ((clearForRollback_ensures hserves.tablePresent ?_ ?_).conseq
    (fun _ _ _ hpost => hpost) ?_) ?_
  · intro pre hpre
    rw [hserves.plans_eq] at hpre
    exact hstates pre hpre
  · rw [hserves.plans_eq, hcleared]
    exact hfine _ (accepts_cleared h)
  · rintro k' m' ⟨-, -, hmay, hknown⟩
    exact hfailed k' hmay hknown
  · rintro _ k' m' ⟨rfl, rfl, -, hknown⟩
    rw [hserves.plans_eq] at hknown
    have hP : P := hflushed hknown
    rw [hserves.plans_eq, hcleared]
    have hrouting : CommandKernelRunner.restoredRouting
        { m with tablePresent := false, guardInstalled := false } plan =
        routingBasis journal.expectations.lostUnicast plan := hserves.restoredRouting_eq hactive
    refine (reinstall_ensures ?_ ?_).conseq (fun _ _ _ _ => hP) fun _ _ _ => hP
    · intro pre hpre
      rw [hrouting] at hpre
      exact hfine _ (accepts_reinstalling h hactive hpre)
    · rw [hrouting]
      exact hfine _ (accepts_restored h hactive)

theorem CommandKernelRunner.serves_recovering (journal : PendingJournal) (kernel : KernelState) :
    { CommandKernelRunner.recovering journal with
      tablePresent := kernel.nft.isSome }.Serves journal kernel :=
  ⟨rfl, rfl, rfl, rfl⟩

/-- A recovery from a state that meets the condition passes through accepted states. -/
theorem recoverPending_accepting (h : journal.Valid blake3) (hkernel : Accepts blake3 journal kernel)
    (hreentrant : RecoveryReentrant journal kernel) :
    Ensures (accepting blake3 journal) kernel (.recovering journal) (recoverPending blake3 journal)
      (fun _ _ _ => True) (fun _ _ => True) := by
  refine Ensures.bind ((snapshot_ensures (fine_accepting hkernel)).conseq
    (fun _ _ _ hpost => hpost) fun _ _ _ => trivial) ?_
  rintro _ k m ⟨rfl, rfl⟩
  have hserves := CommandKernelRunner.serves_recovering journal k
  by_cases hrollable : journal.Rollable k
  · exact (restore_accepting h hkernel hrollable hserves).conseq (fun _ _ _ _ => trivial)
      fun _ _ _ => trivial
  · obtain ⟨htable, hsome⟩ := not_or.1 hrollable
    have hnone : k.nft = none := Option.not_isSome_iff_eq_none.1 htable
    obtain ⟨plan, hactive⟩ := Option.ne_none_iff_exists'.1 hsome
    obtain ⟨hrules, hroutes⟩ := (hreentrant.resolve_left htable).resolve_left hsome
    rw [hactive]
    refine restore_absent_ensures h hkernel hnone hactive hserves (fun _ => fine_accepting) ?_
      (fun _ _ _ => trivial) fun _ => trivial
    intro pre hpre
    -- All routes are in one table, so the rollback takes all of them or none.
    have htables : ∀ route ∈ k.routing.routes, route.family = .v4 ∧
        route.table = ((plan.lanes.head?).map LanePlan.table).getD 0 := by
      intro route hroute
      obtain ⟨hfamily, htable⟩ := hroutes route hroute
      rw [hactive, Option.bind_some] at htable
      rw [htable]
      exact ⟨hfamily, rfl⟩
    rcases runSteps_oneTable hrules htables hpre with hsame | hempty
    · rw [hsame]
      exact fine_accepting hkernel
    · rw [hempty]
      have hcleared := accepts_cleared h
      rw [← hnone] at hcleared
      exact fine_accepting hcleared

/-! ## The condition is needed -/

/-- Runs in which no command fails, and of which every event is known to be accepted. -/
def unhindered (blake3 : Blake3) (journal : PendingJournal) : Regime KernelState :=
  ⟨False, fun e => Accepts blake3 journal e.state, fun _ => True⟩

/-- The tables go in the order of the plans, the active plan's first lane first. -/
theorem rollbackTableOrder_cons {plan : KernelPlan} {lane : LanePlan} {rest : List LanePlan}
    (hactive : journal.active = some plan) (hlanes : plan.lanes = lane :: rest) :
    ∃ tail, rollbackTableOrder journal.plans = .flushTable .v4 lane.table :: tail := by
  have hflushes : ∃ flushes, (journal.plans.flatMap fun plan => plan.lanes.flatMap fun lane =>
      families.map fun f => RoutingStep.flushTable f lane.table) =
        .flushTable .v4 lane.table :: flushes := by
    rw [PendingJournal.plans, rollbackPlans, hactive, Option.toList_some, List.singleton_append,
      List.flatMap_cons, hlanes]
    exact ⟨_, rfl⟩
  obtain ⟨flushes, hflushes⟩ := hflushes
  rw [rollbackTableOrder, hflushes, FirstMatch.retainNew, if_neg List.not_mem_nil]
  exact ⟨_, rfl⟩

theorem mem_routes_rollbackRuleOrder {plans : List KernelPlan} {route : RouteOwnership} :
    route ∈ (kernel.runSteps (rollbackRuleOrder plans)).routing.routes ↔
      route ∈ kernel.routing.routes := by
  have hrules : ∀ x ∈ rollbackRuleOrder plans, x.isRemoval = true ∧ ¬ x.removesRoute route := by
    intro x hx
    obtain ⟨_, -, _, -, _, rfl⟩ := mem_rollbackRuleOrder.1 hx
    exact ⟨rfl, id⟩
  rw [KernelState.runSteps, mem_routes_removals fun x hx => (hrules x hx).1]
  refine and_iff_left ?_
  rintro ⟨x, hx, hremoves⟩
  exact (hrules x hx).2 hremoves

/-- Rules gone and one table flushed: the routes left are those of the other tables. -/
theorem mem_routes_firstFlush {plans : List KernelPlan} {f : IpFamily} {table : ℕ}
    {route : RouteOwnership} :
    route ∈ (kernel.runSteps (rollbackRuleOrder plans ++ [.flushTable f table])).routing.routes ↔
      route ∈ kernel.routing.routes ∧ ¬ (route.family = f ∧ route.table = table) := by
  rw [KernelState.runSteps_snoc, KernelState.step, mem_routes_removal rfl,
    mem_routes_rollbackRuleOrder]
  exact Iff.rfl

/-- A recovery whose states are all accepted flushes its first table in one of them. -/
theorem accepts_firstFlush (h : journal.Valid blake3) (hkernel : Accepts blake3 journal kernel)
    (hnone : kernel.nft = none) {plan : KernelPlan} (hactive : journal.active = some plan)
    (hall : ∀ kernel', InterruptedIn blake3 journal kernel kernel' →
      Accepts blake3 journal kernel') {x : RoutingStep} {tail : List RoutingStep}
    (htables : rollbackTableOrder journal.plans = x :: tail)
    (hchanges : kernel.runSteps (rollbackRuleOrder journal.plans ++ [x]) ≠
      kernel.runSteps (rollbackRuleOrder journal.plans)) :
    Accepts blake3 journal (kernel.runSteps (rollbackRuleOrder journal.plans ++ [x])) := by
  have hfirst : rollbackRuleOrder journal.plans ++ [x] <+: rollbackSteps journal.plans := by
    rw [rollbackSteps, htables]
    exact (List.prefix_append_right_inj _).2 ⟨tail, rfl⟩
  have hfine : ∀ k, (unhindered blake3 journal).Fine k := fun _ _ _ => trivial
  have hrun : Ensures (unhindered blake3 journal) kernel (.recovering journal)
      (recoverPending blake3 journal)
      (fun _ _ _ => Accepts blake3 journal (kernel.runSteps (rollbackRuleOrder journal.plans ++ [x])))
      (fun _ _ => Accepts blake3 journal
        (kernel.runSteps (rollbackRuleOrder journal.plans ++ [x]))) := by
    refine Ensures.bind ((snapshot_ensures (hfine _)).conseq (fun _ _ _ hpost => hpost) ?_) ?_
    · rintro _ _ ⟨-, -, hmay, -⟩
      exact hmay.elim
    rintro _ k m ⟨rfl, rfl⟩
    rw [hactive]
    exact restore_absent_ensures h hkernel hnone hactive
      (CommandKernelRunner.serves_recovering journal k)
      (fun _ _ => hfine _) (fun _ _ => hfine _) (fun _ hmay => hmay.elim)
      fun hflushed => hflushed x hfirst hchanges
  obtain ⟨-, -, hpost⟩ := hrun (fun _ => false) (fun _ hfault => by cases hfault)
    fun e he => hall _ ⟨_, e, he, rfl⟩
  split at hpost
  · exact hpost
  · exact hpost

/-- If every state of the recovery is accepted, the condition holds. -/
theorem reentrant_of_interrupted (h : journal.Valid blake3) (hkernel : Accepts blake3 journal kernel)
    (hall : ∀ kernel', InterruptedIn blake3 journal kernel kernel' →
      Accepts blake3 journal kernel') : RecoveryReentrant journal kernel := by
  by_cases hrollable : journal.Rollable kernel
  · exact hrollable.imp_right Or.inl
  obtain ⟨htable, hsome⟩ := not_or.1 hrollable
  have hnone : kernel.nft = none := Option.not_isSome_iff_eq_none.1 htable
  obtain ⟨plan, hactive⟩ := Option.ne_none_iff_exists'.1 hsome
  obtain ⟨pre, hpre, hrouting⟩ := (accepts_absent_iff h hactive hnone).1 hkernel
  refine Or.inr (Or.inr ?_)
  rw [hactive, Option.bind_some]
  cases hlanes : plan.lanes with
  | nil =>
    have hnothing : installSteps (routingBasis journal.expectations.lostUnicast plan) = [] := by
      simp [installSteps, transitionSteps, transitionRouteSteps, installRules, routingBasis, hlanes]
    rw [hnothing] at hpre
    rw [hrouting, List.prefix_nil.1 hpre]
    exact ⟨rfl, fun route hroute => absurd hroute (Finset.notMem_empty route)⟩
  | cons lane rest =>
    obtain ⟨tail, htables⟩ := rollbackTableOrder_cons hactive hlanes
    have hnodup : ((routingBasis journal.expectations.lostUnicast plan).lanes.map
        LanePlan.table).Nodup := h.basis_tables _ (by rw [PendingJournal.basis, hactive]; rfl)
    obtain ⟨first, others, hbasis, hfirst⟩ : ∃ first others,
        (routingBasis journal.expectations.lostUnicast plan).lanes = first :: others ∧
          first.table = lane.table := by
      rw [routingBasis, hlanes]
      exact ⟨_, _, rfl, rfl⟩
    obtain ⟨pre', hpre', hflushed⟩ : ∃ pre',
        pre' <+: installSteps (routingBasis journal.expectations.lostUnicast plan) ∧
          ∀ route, route ∈ (runSteps .empty pre').routes ↔
            route ∈ (runSteps .empty pre).routes ∧
              ¬ (route.family = .v4 ∧ route.table = first.table) := by
      have hflush : ∀ route, route ∈ (kernel.runSteps (rollbackRuleOrder journal.plans ++
          [.flushTable .v4 lane.table])).routing.routes ↔
            route ∈ kernel.routing.routes ∧ ¬ (route.family = .v4 ∧ route.table = lane.table) :=
        fun _ => mem_routes_firstFlush
      rw [hfirst, ← hrouting]
      by_cases hchanges : kernel.runSteps (rollbackRuleOrder journal.plans ++
          [.flushTable .v4 lane.table]) = kernel.runSteps (rollbackRuleOrder journal.plans)
      · rw [hchanges] at hflush
        refine ⟨pre, hpre, fun route => ?_⟩
        rw [← hrouting, ← hflush, mem_routes_rollbackRuleOrder]
      · have haccepts := accepts_firstFlush h hkernel hnone hactive hall htables hchanges
        have habsent : (kernel.runSteps (rollbackRuleOrder journal.plans ++
          [.flushTable .v4 lane.table])).nft = none := hnone
        obtain ⟨pre', hpre', heq⟩ := (accepts_absent_iff h hactive habsent).1 haccepts
        refine ⟨pre', hpre', fun route => ?_⟩
        rw [← heq, hflush]
    obtain ⟨hrules, hroutes⟩ := firstTable_of_flushed hnodup hbasis hpre hpre' hflushed
    rw [hrouting]
    refine ⟨hrules, fun route hroute => ⟨(hroutes route hroute).1, ?_⟩⟩
    rw [(hroutes route hroute).2, hfirst]
    rfl

/-! ## Recovery after recovery -/

/-- One more recovery was begun, and interrupted. -/
def InterruptedAgain (blake3 : Blake3) (journal : PendingJournal) (kernel kernel' : KernelState) :
    Prop :=
  RecoveryReentrant journal kernel ∧ InterruptedIn blake3 journal kernel kernel'

/-- **Re-entrant recovery.**  The states a recovery can be interrupted in are all accepted
exactly when the condition holds of the state it started from; and a series of interrupted
recoveries, begun in states that all meet the condition, never leaves the accepted states. -/
theorem recovery_reentrant_iff
    (hvalid : (∀ plan ∈ journal.active, validatePrivilegedPlan plan = .ok ()) ∧
      validatePrivilegedPlan journal.pending = .ok ())
    (hfingerprint : journal.activeNftFingerprint = journal.active.map fun plan =>
      nftDocumentFingerprint blake3 (renderNftDocument blake3 (some plan) none false))
    (hkernel : verifyPendingTableOwnership blake3 journal kernel = .ok ()) :
    ((∀ kernel', InterruptedIn blake3 journal kernel kernel' →
        verifyPendingTableOwnership blake3 journal kernel' = .ok ()) ↔
      RecoveryReentrant journal kernel) ∧
    ∀ kernel', Relation.ReflTransGen (InterruptedAgain blake3 journal) kernel kernel' →
      verifyPendingTableOwnership blake3 journal kernel' = .ok () := by
  have h : journal.Valid blake3 :=
    ⟨fun plan hplan => validatePrivilegedPlan_eq_ok.1 (hvalid.1 plan hplan),
      validatePrivilegedPlan_eq_ok.1 hvalid.2, hfingerprint⟩
  have hstep : ∀ k, Accepts blake3 journal k → RecoveryReentrant journal k →
      ∀ k', InterruptedIn blake3 journal k k' → Accepts blake3 journal k' := by
    rintro k hk hreentrant k' ⟨faults, e, he, rfl⟩
    exact (recoverPending_accepting h hk hreentrant faults (fun _ _ => trivial)
      fun _ _ => trivial).1 e he
  refine ⟨⟨reentrant_of_interrupted h hkernel, hstep kernel hkernel⟩, ?_⟩
  intro kernel' hruns
  induction hruns with
  | refl => exact hkernel
  | tail _ hagain ih => exact hstep _ ih hagain.1 _ hagain.2

/-- The journal of the handover from the stand-in plan to its successor. -/
def handoverJournal : PendingJournal :=
  transitionJournal lengthDigests (some standInPlan) ∅ successorPlan

/-- The stand-in plan half brought back: both routes of its first lane and one of its second. -/
def halfRestored : KernelState := ⟨none, runSteps .empty ((installSteps standInPlan).take 3)⟩

/-- The same, once the first table is flushed again. -/
def halfFlushed : KernelState := halfRestored.step (.flushTable .v4 20000)

theorem recovery_reentrant_iff_handover :
    ((∀ kernel', InterruptedIn lengthDigests handoverJournal
          (committedKernel lengthDigests standInPlan) kernel' →
        verifyPendingTableOwnership lengthDigests handoverJournal kernel' = .ok ()) ↔
      RecoveryReentrant handoverJournal (committedKernel lengthDigests standInPlan)) ∧
    ∀ kernel', Relation.ReflTransGen (InterruptedAgain lengthDigests handoverJournal)
        (committedKernel lengthDigests standInPlan) kernel' →
      verifyPendingTableOwnership lengthDigests handoverJournal kernel' = .ok () := by
  have hactive : ∀ plan ∈ handoverJournal.active, validatePrivilegedPlan plan = .ok () := by
    intro plan hplan
    obtain rfl := Option.mem_some_iff.1 hplan
    decide
  exact recovery_reentrant_iff ⟨hactive, by decide⟩ rfl (by decide +kernel)

/-- A recovery is interrupted while it brings the plan back; the next one is interrupted
after its first flush, and leaves a kernel that the check refuses. -/
theorem second_recovery_refused :
    verifyPendingTableOwnership lengthDigests handoverJournal
        (committedKernel lengthDigests standInPlan) = .ok () ∧
      InterruptedIn lengthDigests handoverJournal (committedKernel lengthDigests standInPlan)
        halfRestored ∧
      verifyPendingTableOwnership lengthDigests handoverJournal halfRestored = .ok () ∧
      InterruptedIn lengthDigests handoverJournal halfRestored halfFlushed ∧
      verifyPendingTableOwnership lengthDigests handoverJournal halfFlushed ≠ .ok () := by
  refine ⟨by decide +kernel, ⟨fun _ => false, ?_⟩, by decide +kernel, ⟨fun _ => false, ?_⟩,
    by decide +kernel⟩
  · decide +kernel
  · decide +kernel

end RouteLane
