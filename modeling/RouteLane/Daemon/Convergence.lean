import RouteLane.Daemon.Order

/-!
# Convergence of the daemon

A resync reads the helper anew and goes by what it tells, whatever the daemon held before —
unless the helper's generation is the smaller one.  Generations restart after a cleanup, so
what looks stale may be the present: a daemon that holds a larger generation than the
helper keeps a plan that is gone, and one that learns the helper is inactive never takes
its own generation back to zero.
-/

namespace RouteLane

open Tasks

/-! ## What an inspection tells -/

/-- The generation an inspection tells: that of the plan, and zero where there is none. -/
def InspectResponse.heldGeneration (inspected : InspectResponse) : ℕ :=
  (inspected.appliedPlan.map KernelPlan.generation).getD 0

/-- Plan, generation, hash and runtime agree. -/
def InspectResponse.Paired (blake3 : Blake3) (inspected : InspectResponse) : Prop :=
  ∃ plan, inspected.appliedPlan = some plan ∧ inspected.PairsWith blake3 plan

/-- No plan and no grant. -/
def InspectResponse.Inactive (inspected : InspectResponse) : Prop :=
  inspected.appliedPlan = none ∧ inspected.runtime.grant = none

/-- The state holds the plan and the generation an inspection tells. -/
def DaemonState.AgreesWith (state : DaemonState) (inspected : InspectResponse) : Prop :=
  state.applied.map AppliedKernelState.plan = inspected.appliedPlan ∧
    state.generation = inspected.heldGeneration

instance (state : DaemonState) (inspected : InspectResponse) :
    Decidable (state.AgreesWith inspected) := inferInstanceAs (Decidable (_ ∧ _))

/-! ## A resync alone -/

variable {p : Primitives} {texts : ProbeTexts} {answers : ℕ → (call : Call) → call.Reply}

/-- A last write under the mutation leaves what the write does, announced or not. -/
theorem state_exec_write (n : ℕ) (w : StateWrite) (daemon : Daemon) :
    (Tasks.exec service answers n ((Service.write w).guarded .unlockMutation) daemon).state.state =
      (daemon.write w).state := by
  unfold Service.write
  rw [Task.step_bind, Task.guarded_act, exec_act rfl]
  split <;> rfl

/-- The topology asked for, an operation goes on with some snapshot. -/
theorem exec_followedSnapshot (n : ℕ) (profile : Option Profile) (snapshot : KernelSnapshot)
    (next : KernelSnapshot → ServiceTask Unit) (daemon : Daemon) :
    ∃ (m : ℕ) (observed : KernelSnapshot),
      Tasks.exec service answers n
        ((Service.followedSnapshot profile snapshot >>= next).guarded .unlockMutation) daemon =
      Tasks.exec service answers m ((next observed).guarded .unlockMutation) daemon := by
  cases profile with
  | none => exact ⟨n, snapshot, rfl⟩
  | some profile =>
    cases htopology : answers n (.topology profile) with
    | error error =>
      refine ⟨n + 1, snapshot, ?_⟩
      simp [Service.followedSnapshot, Service.withLiveTopology, Service.topology, htopology,
        service, Call.hear]
    | ok topology =>
      refine ⟨n + 1, snapshot.withTopology topology, ?_⟩
      simp [Service.followedSnapshot, Service.withLiveTopology, Service.topology, htopology,
        service, Call.hear]

/-- A resync that nothing delays ends in one write, by the plan the inspection pairs with. -/
theorem state_exec_resyncRuntime {daemon : Daemon} (hfree : daemon.mutation = false)
    {inspected : InspectResponse} (hinspect : answers 0 .inspect = .ok inspected) :
    ∃ (paired : Option (KernelPlan × HealthReport)) (found : Daemon),
      found.state = daemon.state ∧
      paired.map Prod.fst = Service.pairedPlan p none inspected ∧
      (Tasks.exec service answers 0 (Service.resyncRuntime p texts) daemon).state.state =
        (found.write (.follow paired inspected)).state := by
  unfold Service.resyncRuntime Service.followRuntime Service.withMutation Service.readState
    Service.inspect
  rw [exec_act (by simp [service, Section.ready, hfree])]
  simp only [Task.step_bind, Task.pure_eq, Task.act_bind, Task.done_bind, Option.any_none,
    Bool.false_eq_true, if_false, Task.question_bind, Task.guarded_act, Task.guarded_ask]
  rw [exec_act rfl, exec_ask, hinspect]
  cases hpaired : Service.pairedPlan p none inspected with
  | none =>
    simp only [hpaired]
    refine ⟨none, _, ?_, rfl, state_exec_write 1 _ _⟩
    rfl
  | some plan =>
    simp only [hpaired]
    obtain ⟨m, observed, hexec⟩ := exec_followedSnapshot 1 _ _ _ _
    rw [hexec]
    refine ⟨some (plan, _), _, ?_, rfl, state_exec_write m _ _⟩
    rfl

/-! ## When a resync converges -/

/-- Without an announcement, an inspection pairs with its plan. -/
theorem pairedPlan_of_paired {inspected : InspectResponse} {plan : KernelPlan}
    (hplan : inspected.appliedPlan = some plan) (h : inspected.PairsWith p.blake3 plan) :
    Service.pairedPlan p none inspected = some plan := by
  simp [Service.pairedPlan, hplan, h]

theorem pairedPlan_of_inactive {inspected : InspectResponse}
    (hplan : inspected.appliedPlan = none) : Service.pairedPlan p none inspected = none := by
  simp [Service.pairedPlan, hplan]

/-- Whether the state agrees does not depend on the sequence. -/
theorem Daemon.agreesWith_write {daemon : Daemon} {w : StateWrite}
    {inspected : InspectResponse} :
    (daemon.write w).state.AgreesWith inspected ↔
      (daemon.state.write w).1.AgreesWith inspected := by
  rw [daemon.state_write]
  split <;> rfl

/-- A resync brings the daemon to the plan and the generation the helper tells exactly when
the daemon holds no larger generation. -/
theorem resync_converges_iff (p : Primitives) (texts : ProbeTexts) {daemon : Daemon}
    (hfree : daemon.mutation = false) {inspected : InspectResponse}
    (hinspect : answers 0 .inspect = .ok inspected)
    (htold : inspected.Paired p.blake3 ∨ inspected.Inactive) :
    (Tasks.exec service answers 0 (Service.resyncRuntime p texts) daemon).state.state.AgreesWith
        inspected ↔
      daemon.state.generation ≤ inspected.heldGeneration := by
  obtain ⟨paired, found, hfound, hpaired, hstate⟩ :=
    state_exec_resyncRuntime hfree hinspect
  rw [hstate, Daemon.agreesWith_write, hfound]
  rcases htold with ⟨plan, hplan, hpairs⟩ | ⟨hplan, hgrant⟩
  · have hheld : inspected.heldGeneration = plan.generation := by
      simp [InspectResponse.heldGeneration, hplan]
    have hruntime : inspected.runtime.generation = plan.generation := hpairs.2.2
    rw [pairedPlan_of_paired hplan hpairs] at hpaired
    obtain ⟨⟨_, health⟩, rfl, rfl⟩ := Option.map_eq_some_iff.1 hpaired
    rcases lt_or_ge inspected.runtime.generation daemon.state.generation with hstale | hfresh
    · rw [DaemonState.write_follow_stale _ hstale]
      refine iff_of_false (fun hagrees => ?_) (by omega)
      have hgeneration := hagrees.2
      omega
    · rw [DaemonState.write_follow_fresh _ hfresh]
      exact iff_of_true ⟨hplan.symm, hheld.symm⟩ (by omega)
  · have hheld : inspected.heldGeneration = 0 := by
      simp [InspectResponse.heldGeneration, hplan]
    rw [pairedPlan_of_inactive hplan, Option.map_eq_none_iff] at hpaired
    subst hpaired
    rcases lt_or_ge inspected.runtime.generation daemon.state.generation with hstale | hfresh
    · rw [DaemonState.write_follow_stale _ hstale]
      refine iff_of_false (fun hagrees => ?_) (by omega)
      have hgeneration := hagrees.2
      omega
    · rw [DaemonState.write_follow_fresh _ hfresh]
      have hfollowed : daemon.state.followed none inspected =
          { daemon.state with
            applied := none, appliedProfile := none, health := .inactive
            primary := inspected.runtime } := by
        simp [DaemonState.followed, hplan, hgrant]
      rw [hfollowed, hheld, Nat.le_zero]
      constructor
      · intro hagrees
        exact hagrees.2.trans hheld
      · intro hzero
        exact ⟨hplan.symm, hzero.trans hheld.symm⟩

/-- The first resync of a daemon, with a plan of generation five at the helper. -/
theorem resync_converges_startup :
    (Tasks.exec service (fun _ => world (emptiedInspection 5)) 0
      (Service.resyncRuntime countPrimitives plainTexts) (Daemon.new none)).state.state.AgreesWith
        (emptiedInspection 5) :=
  (resync_converges_iff countPrimitives plainTexts rfl rfl
    (Or.inl ⟨barePlan 5 [], rfl, by decide +kernel⟩)).2 (by decide)

/-- The daemon after that resync. -/
def followingDaemon : Daemon := (Daemon.new none).after .helperAppeared (emptiedInspection 5)

/-- Another client cleans up on the helper, or cleans up and activates again: the resync
after it takes the present for stale, and the daemon keeps the plan that is gone. -/
theorem cleanup_unseen :
    InspectResponse.empty.Inactive ∧ (emptiedInspection 1).Paired countPrimitives.blake3 ∧
      (∀ inspected ∈ [InspectResponse.empty, emptiedInspection 1],
        ¬(Tasks.exec service (fun _ => world inspected) 0
          (Service.resyncRuntime countPrimitives plainTexts)
          followingDaemon).state.state.AgreesWith inspected) ∧
      (Tasks.exec service (fun _ => world .empty) 0
        (Service.resyncRuntime countPrimitives plainTexts) followingDaemon).state.state.applied =
          some (.fromPlan (barePlan 5 [])) := by
  refine ⟨⟨rfl, rfl⟩, ⟨barePlan 1 [], rfl, by decide +kernel⟩, ?_, by decide +kernel⟩
  intro inspected hinspected
  rcases List.mem_pair.1 hinspected with rfl | rfl
  · decide +kernel
  · decide +kernel

end RouteLane
