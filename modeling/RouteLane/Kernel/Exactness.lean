import RouteLane.Kernel.CrashSafety
import RouteLane.Nft.Flows

/-!
# Exact transitions and rollbacks

The routing steps of a transition end with what the next plan owns, whatever the two plans
share, swap or drop; and a rollback that completes, from any routing state on the way, ends
with what the previous plan had.  A unicast route the kernel had dropped stays away.
-/

namespace RouteLane

open Nft Faults Program Steps

variable {active : Option KernelPlan} {pending : KernelPlan} {lost : LostUnicast}

theorem tables_nodup_of_valid {plan : KernelPlan} (h : validatePrivilegedPlan plan = .ok ()) :
    (plan.lanes.map LanePlan.table).Nodup :=
  (validatePrivilegedPlan_eq_ok.1 h).tables_nodup

/-! ## Forward -/

/-- The steps of a transition and of the retirement after it, applied to what is left of the
previous plan, yield exactly what the next plan owns; and the states on the way can always
be derived. -/
theorem forward_steps_exact (hactive : ∀ plan ∈ active, validatePrivilegedPlan plan = .ok ())
    (hpending : validatePrivilegedPlan pending = .ok ()) (lost : LostUnicast) :
    runSteps (startingRouting (active.map (routingBasis lost)))
        (transitionSteps (active.map (routingBasis lost)) pending ++
          retireActive (active.map (routingBasis lost)) pending) =
      planRoutingOwnership pending ∧
      ∀ phase ∈ [PendingNftPhase.untouched, .guard, .activated, .committed],
        ∃ states, buildForwardRoutingStates (active.map (routingBasis lost)) pending phase =
          .ok states := by
  have hbasis : ∀ plan ∈ active.map (routingBasis lost),
      (plan.lanes.map LanePlan.table).Nodup := by
    intro plan hplan
    obtain ⟨previous, hprevious, rfl⟩ := Option.mem_map.1 hplan
    rw [tables_routingBasis]
    exact tables_nodup_of_valid (hactive previous hprevious)
  have hnext := tables_nodup_of_valid hpending
  refine ⟨?_, fun phase hphase => ?_⟩
  · rw [runSteps, run_append]
    exact run_forward hbasis hnext
  · simp only [List.mem_cons, List.not_mem_nil, or_false] at hphase
    rcases hphase with rfl | rfl | rfl | rfl
    · exact ⟨_, rfl⟩
    · exact ⟨_, rfl⟩
    · exact ⟨_, buildForwardRoutingStates_activated hbasis hnext⟩
    · exact ⟨_, buildForwardRoutingStates_committed hbasis hnext⟩

/-- Two lanes that swap their tables, marks and priorities while the kernel has dropped the
default route of one of them. -/
def swappedPlan : KernelPlan :=
  linkPlan [compileLane twoLinks laneB 0, compileLane twoLinks laneA 1] 0x524c0001 3

theorem forward_steps_exact_swapped :
    let basis := routingBasis {(.v4, 20000)} afterPlan
    runSteps (planRoutingOwnership basis)
        (transitionSteps (some basis) swappedPlan ++ retireSteps basis swappedPlan) =
      planRoutingOwnership swappedPlan := by
  have hactive : ∀ plan ∈ some afterPlan, validatePrivilegedPlan plan = .ok () := by
    intro plan hplan
    obtain rfl := Option.mem_some_iff.1 hplan
    decide
  have hpending : validatePrivilegedPlan swappedPlan = .ok () := by decide
  have h := (forward_steps_exact hactive hpending {(.v4, 20000)}).1
  simpa only [Option.map_some, startingRouting, retireActive, Option.getD_some] using h

/-! ## Back -/

/-- No route of these steps' state is a dropped one that was not there at the start. -/
def NothingBack (lost : LostUnicast) (start s : RoutingOwnership) : Prop :=
  ∀ route ∈ s.routes, (route.family, route.table) ∈ lost → route.terminal = false →
    route ∈ start.routes

/-- A lane of a basis has no unicast route where the kernel dropped it. -/
theorem notMem_lost_of_unicast {plan : KernelPlan} {lane : LanePlan} {f : IpFamily}
    {route : OwnedRoute} (hlane : lane ∈ (routingBasis lost plan).lanes)
    (hroute : laneUnicastRoute lane f = some route) : (f, lane.table) ∉ lost := by
  obtain ⟨original, -, rfl⟩ := List.mem_map.1 hlane
  intro hlost
  have htable : (f, original.table) ∈ lost := hlost
  cases f with
  | v4 => simp [laneUnicastRoute, htable] at hroute
  | v6 => simp [laneUnicastRoute, htable] at hroute

namespace NothingBack

variable {start s : RoutingOwnership}

theorem removal (h : NothingBack lost start s) {step : RoutingStep}
    (hstep : step.isRemoval = true) : NothingBack lost start (applyRoutingStep s step) := by
  intro route hroute
  exact h route ((mem_routes_removal hstep).1 hroute).1

theorem install (h : NothingBack lost start s) {plan : KernelPlan} {step : RoutingStep}
    (hstep : step ∈ installSteps (routingBasis lost plan)) :
    NothingBack lost start (applyRoutingStep s step) := by
  rcases List.mem_append.1 hstep with hstep | hstep
  · simp only [transitionRouteSteps, List.mem_flatMap, Option.bind_none, laneRouteSteps_none,
      List.mem_append, Option.mem_toList, Option.map_eq_some_iff, List.mem_singleton] at hstep
    obtain ⟨lane, hlane, f, -, ⟨route, hroute, rfl⟩ | rfl⟩ := hstep
    · intro other hother hlost hunicast
      rcases mem_routes_replace.1 hother with rfl | ⟨hother, -⟩
      · rw [routeOwnership_family, routeOwnership_table] at hlost
        exact absurd hlost (notMem_lost_of_unicast hlane hroute)
      · exact h other hother hlost hunicast
    · intro other hother hlost hunicast
      rcases mem_routes_replace.1 hother with rfl | ⟨hother, -⟩
      · exact absurd hunicast Bool.noConfusion
      · exact h other hother hlost hunicast
  · obtain ⟨lane, -, f, rfl⟩ := mem_installRules.1 (List.mem_of_mem_filter hstep)
    rw [applyRoutingStep_ruleStep]
    exact h

theorem empty : NothingBack lost start .empty := by
  intro route hroute
  exact absurd hroute (Finset.notMem_empty route)

/-- Installing what is left of a plan brings nothing back. -/
theorem installs {plan : KernelPlan} {steps : List RoutingStep}
    (hsteps : steps ⊆ installSteps (routingBasis lost plan)) :
    NothingBack lost start (runSteps .empty steps) :=
  run_invariant applyRoutingStep (fun _ hstep _ h => NothingBack.install h (hsteps hstep)) empty

end NothingBack

/-- The kernel a rollback is to end with: the committed table of the previous plan and the
routing that was left of it, or nothing. -/
def rolledBackKernel (blake3 : Blake3) (active : Option KernelPlan) (lost : LostUnicast) :
    KernelState :=
  match active with
  | none => ⟨none, .empty⟩
  | some plan => restoredKernel blake3 plan (routingBasis lost plan)

/-- The unicast routes the kernel had dropped are missing in it. -/
theorem terminal_of_lost {plan : KernelPlan} {route : RouteOwnership}
    (hroute : route ∈ (planRoutingOwnership (routingBasis lost plan)).routes)
    (hlost : (route.family, route.table) ∈ lost) : route.terminal = true := by
  have hback : NothingBack lost .empty (planRoutingOwnership (routingBasis lost plan)) :=
    NothingBack.installs (List.Subset.refl _)
  by_contra hunicast
  have hempty := hback route hroute hlost (Bool.eq_false_of_not_eq_true hunicast)
  exact Finset.notMem_empty route hempty

/-- A restore, from a routing state that its removals empty, behind any table. -/
theorem restore_exact {blake3 : Blake3} {kernel : KernelState} (guard : Bool)
    (hempty : runSteps kernel.routing (rollbackSteps (rollbackPlans active pending)) = .empty) :
    Ensures (always fun e => NothingBack lost kernel.routing e.state.routing) kernel
      ⟨active, active.map (routingBasis lost), some pending, kernel.nft.isSome, guard⟩
      (restore blake3 active)
      (fun _ k' _ => k' = rolledBackKernel blake3 active lost) (fun _ _ => True) := by
  set m : CommandKernelRunner :=
    ⟨active, active.map (routingBasis lost), some pending, kernel.nft.isSome, guard⟩ with hm
  have hplans : m.plans = rollbackPlans active pending := rfl
  have hremoved : ∀ pre, pre <+: rollbackSteps m.plans →
      NothingBack lost kernel.routing (runSteps kernel.routing pre) := by
    intro pre hpre
    exact run_invariant applyRoutingStep
      (fun step hstep s h => h.removal (isRemoval_rollbackSteps (hpre.subset hstep)))
      fun route hroute _ _ => hroute
  have hcleared : kernel.cleared m.plans = ⟨none, .empty⟩ := by
    rw [KernelState.cleared, hplans, hempty]
  have hclear := clearForRollback_ensures (m := m)
    (r := always fun e => NothingBack lost kernel.routing e.state.routing) rfl
    (fun pre hpre _ _ => hremoved pre hpre)
    (by rw [hcleared]; exact fun _ _ => .empty)
  cases hactive : active with
  | none =>
    refine hclear.conseq ?_ fun _ _ _ => trivial
    rintro _ k' m' ⟨rfl, -⟩
    exact hcleared
  | some plan =>
    refine Ensures.bind (hclear.conseq (fun _ _ _ h => h) fun _ _ _ => trivial) ?_
    rintro _ k' m' ⟨rfl, rfl, -⟩
    rw [hcleared]
    have hrouting : ({ m with tablePresent := false, guardInstalled := false } :
        CommandKernelRunner).restoredRouting plan = routingBasis lost plan := by
      simp [CommandKernelRunner.restoredRouting, hm, hactive]
    refine (reinstall_ensures ?_ ?_).conseq ?_ fun _ _ _ => trivial
    · intro pre hpre _ _
      rw [hrouting] at hpre
      exact NothingBack.installs hpre.subset
    · intro _ _
      rw [hrouting]
      exact NothingBack.installs (List.Subset.refl _)
    · rintro _ k' m' ⟨rfl, -⟩
      rw [hrouting]
      rfl

/-- From every routing state on the way from the previous plan to the next, behind any nft
table, a rollback that completes ends with the routing that was left of the previous plan
and its committed table, or with nothing; and whatever becomes of it, it never brings a
unicast route back that the kernel had dropped. -/
theorem rollback_exact (blake3 : Blake3) (lost : LostUnicast) {phase : PendingNftPhase}
    {kernel : KernelState}
    (hrouting : kernel.routing ∈ phaseStates (active.map (routingBasis lost)) pending phase)
    (guard : Bool) (faults : ℕ → Bool) :
    let rollback := restore blake3 active ⟨kernel,
      ⟨active, active.map (routingBasis lost), some pending, kernel.nft.isSome, guard⟩, faults⟩
    (rollback.result = .ok () →
        rollback.world.machine = rolledBackKernel blake3 active lost ∧
          ∀ route ∈ rollback.world.machine.routing.routes,
            (route.family, route.table) ∈ lost → route.terminal = true) ∧
      ∀ e ∈ rollback.events, NothingBack lost kernel.routing e.state.routing := by
  have hempty : runSteps kernel.routing (rollbackSteps (rollbackPlans active pending)) =
      .empty := by
    rw [← rollbackSteps_routingBasis lost]
    exact RollsBackTo.run_all (.of_mem hrouting)
  intro rollback
  have hexact : Ensures (always fun e => NothingBack lost kernel.routing e.state.routing) kernel
      ⟨active, active.map (routingBasis lost), some pending, kernel.nft.isSome, guard⟩
      (restore blake3 active) (fun _ k' _ => k' = rolledBackKernel blake3 active lost)
      (fun _ _ => True) := restore_exact guard hempty
  obtain ⟨hevents, -, hend⟩ := hexact faults (fun _ _ => trivial) fun _ _ => trivial
  refine ⟨fun hok => ?_, hevents⟩
  have hmachine : rollback.world.machine = rolledBackKernel blake3 active lost := by
    rw [show (restore blake3 active _).result = .ok () from hok] at hend
    exact hend
  refine ⟨hmachine, fun route hroute hlost => ?_⟩
  rw [hmachine] at hroute
  cases active with
  | none => exact absurd hroute (Finset.notMem_empty route)
  | some plan => exact terminal_of_lost hroute hlost

/-- The kernel once the routes and rules of that swap are prepared. -/
def preparedSwap : KernelState where
  nft := some (renderNftDocument blankDigests (some afterPlan) (some swappedPlan) true)
  routing :=
    runSteps (startingRouting ((some afterPlan).map (routingBasis {(.v4, 20000)})))
      (transitionSteps ((some afterPlan).map (routingBasis {(.v4, 20000)})) swappedPlan)

theorem rollback_exact_swapped :
    let rollback := restore blankDigests (some afterPlan) ⟨preparedSwap,
      ⟨some afterPlan, (some afterPlan).map (routingBasis {(.v4, 20000)}), some swappedPlan,
        preparedSwap.nft.isSome, true⟩, fun _ => false⟩
    rollback.result = .ok () ∧
      rollback.world.machine = rolledBackKernel blankDigests (some afterPlan) {(.v4, 20000)} := by
  intro rollback
  have hok : rollback.result = .ok () := by decide +kernel
  have hrouting : preparedSwap.routing ∈ phaseStates
      ((some afterPlan).map (routingBasis {(.v4, 20000)})) swappedPlan .guard :=
    (mem_states _).2 ⟨_, List.prefix_refl _, rfl⟩
  have hexact := rollback_exact blankDigests {(.v4, 20000)} hrouting true fun _ => false
  exact ⟨hok, (hexact.1 hok).1⟩

end RouteLane
