import RouteLane.Daemon.Convergence

/-!
# The generation of the daemon

An activation tells the helper which generation it expects to replace, and the daemon takes
it from the generation it stores.  That one is written beside the applied plan, and every
write but one keeps the two together: the generation of the plan, and zero without one.
The exception is an inspection that tells of neither a plan nor a grant.  Following it
forgets the plan and leaves its generation, where `deactivate`, orphan recovery and
reconciliation go back to zero.
-/

namespace RouteLane

open Tasks

/-! ## What belongs to the applied plan -/

/-- The generation of the applied plan, and zero where none is applied. -/
def DaemonState.appliedGeneration (state : DaemonState) : ℕ :=
  (state.applied.map fun applied => applied.plan.generation).getD 0

/-- The stored generation is that of the applied plan. -/
def DaemonState.GenerationAgrees (state : DaemonState) : Prop :=
  state.generation = state.appliedGeneration

instance (state : DaemonState) : Decidable state.GenerationAgrees :=
  inferInstanceAs (Decidable (_ = _))

theorem DaemonState.generationAgrees_iff {state : DaemonState} :
    state.GenerationAgrees ↔
      (∀ applied, state.applied = some applied →
        state.generation = applied.plan.generation) ∧
      (state.applied = none → state.generation = 0) := by
  unfold GenerationAgrees appliedGeneration
  cases state.applied with
  | none => simp
  | some applied => simp

theorem DaemonState.generationAgrees_new (desired : Option Profile) :
    (DaemonState.new desired).GenerationAgrees := rfl

/-- The sequence has no part in it. -/
theorem Daemon.generationAgrees_write {daemon : Daemon} {w : StateWrite} :
    (daemon.write w).state.GenerationAgrees ↔
      (daemon.state.write w).1.GenerationAgrees := by
  rw [daemon.state_write]
  split <;> rfl

/-! ## The write that forgets the plan only -/

/-- An inspection that is followed and tells of neither a plan nor a grant finds no
generation to forget. -/
def StateWrite.KeepsGeneration (state : DaemonState) : StateWrite → Prop
  | .follow none inspected =>
    inspected.Inactive → state.generation ≤ inspected.runtime.generation → state.generation = 0
  | _ => True

instance (inspected : InspectResponse) : Decidable inspected.Inactive :=
  decidable_of_iff (inspected.appliedPlan.isNone = true ∧ inspected.runtime.grant.isNone = true)
    (by simp [InspectResponse.Inactive])

instance (state : DaemonState) (w : StateWrite) : Decidable (w.KeepsGeneration state) :=
  match w with
  | .follow none inspected => inferInstanceAs (Decidable (inspected.Inactive → _ → _))
  | .follow (some _) _ | .beginApply _ | .commit _ _ | .recordFailure _
  | .recordRolledBackFailure _ | .recordKernelRestoreFailure _ | .recordVerificationFailure _ _
  | .deactivated | .recovered | .reconciliationFailed _ | .reconciledInactive _
  | .reconciledPlan _ _ _ _ | .drift _ _ _ => inferInstanceAs (Decidable True)

/-- The condition on the steps of the service. -/
def Section.KeepsGeneration (l : Section) (daemon : Daemon) : Prop :=
  ∀ w ∈ l.stateWrite, w.KeepsGeneration daemon.state

instance (l : Section) (daemon : Daemon) : Decidable (l.KeepsGeneration daemon) :=
  inferInstanceAs (Decidable (∀ w ∈ l.stateWrite, _))

/-- What following an inspection without a plan that pairs leaves. -/
theorem DaemonState.followed_none (state : DaemonState) (inspected : InspectResponse) :
    (state.followed none inspected).generation = state.generation ∧
      (state.followed none inspected).applied =
        if inspected.Inactive then none else state.applied := by
  have htold : (inspected.appliedPlan.isNone && inspected.runtime.grant.isNone) = true ↔
      inspected.Inactive := by
    simp [InspectResponse.Inactive]
  unfold followed
  by_cases hinactive : inspected.Inactive
  · rw [if_pos hinactive, if_pos (htold.2 hinactive)]
    exact ⟨rfl, rfl⟩
  · rw [if_neg hinactive, if_neg (mt htold.1 hinactive)]
    exact ⟨rfl, rfl⟩

/-- An inspection without a plan that pairs keeps them together exactly under the
condition. -/
theorem DaemonState.agrees_follow_none_iff {state : DaemonState} (h : state.GenerationAgrees)
    (inspected : InspectResponse) :
    (state.write (.follow none inspected)).1.GenerationAgrees ↔
      (StateWrite.follow none inspected).KeepsGeneration state := by
  rcases lt_or_ge inspected.runtime.generation state.generation with hstale | hfresh
  · rw [write_follow_stale none hstale]
    exact iff_of_true h fun _ hfresh => absurd hstale (not_lt.2 hfresh)
  · rw [write_follow_fresh none hfresh]
    obtain ⟨hgeneration, happlied⟩ := state.followed_none inspected
    rw [GenerationAgrees, appliedGeneration, hgeneration, happlied]
    by_cases hinactive : inspected.Inactive
    · rw [if_pos hinactive]
      constructor
      · intro hzero _ _
        exact hzero
      · intro hkeeps
        exact hkeeps hinactive hfresh
    · rw [if_neg hinactive]
      exact iff_of_true h fun htold => absurd htold hinactive

/-- Any other write sets both or neither. -/
theorem DaemonState.agrees_write_iff {state : DaemonState} (h : state.GenerationAgrees)
    (w : StateWrite) :
    (state.write w).1.GenerationAgrees ↔ w.KeepsGeneration state := by
  cases w with
  | follow paired inspected =>
    cases paired with
    | none => exact agrees_follow_none_iff h inspected
    | some plan =>
      refine iff_of_true ?_ trivial
      rcases lt_or_ge inspected.runtime.generation state.generation with hstale | hfresh
      · rw [write_follow_stale _ hstale]
        exact h
      · rw [write_follow_fresh _ hfresh]
        rfl
  | drift plan code detail =>
    refine iff_of_true ?_ trivial
    cases plan with
    | none => exact h
    | some plan => rfl
  | commit profile verified => exact iff_of_true rfl trivial
  | deactivated => exact iff_of_true rfl trivial
  | recovered => exact iff_of_true rfl trivial
  | reconciledInactive runtime => exact iff_of_true rfl trivial
  | reconciledPlan plan profile health runtime => exact iff_of_true rfl trivial
  | _ => exact iff_of_true h trivial

/-! ## Runs -/

theorem agrees_perform {l : Section} {daemon : Daemon} (hkeeps : l.KeepsGeneration daemon)
    (h : daemon.state.GenerationAgrees) :
    (service.perform l daemon).state.GenerationAgrees := by
  cases l with
  | write w =>
    rw [show service.perform (.write w) daemon = daemon.write w from rfl,
      Daemon.generationAgrees_write]
    exact (DaemonState.agrees_write_iff h w).2 (hkeeps w rfl)
  | _ => exact h

/-- In any run of the service whose steps meet the condition, whatever operations overlap
in it and whatever the helper replies, the stored generation is that of the applied plan
and zero without one.  And there the condition is exact: the next write keeps this if and
only if it meets it. -/
theorem daemon_generation (p : Primitives) (texts : ProbeTexts) (desired : Option Profile)
    {c : Config Daemon Section Call Call.Reply (Option DaemonResponse)}
    (hruns : Runs service (Service.IsOperation p texts) Section.KeepsGeneration
      ⟨Daemon.new desired, [], []⟩ c) :
    (∀ applied, c.state.state.applied = some applied →
        c.state.state.generation = applied.plan.generation) ∧
      (c.state.state.applied = none → c.state.state.generation = 0) ∧
      ∀ w : StateWrite, (c.state.write w).state.GenerationAgrees ↔
        w.KeepsGeneration c.state.state := by
  have hagrees : c.state.state.GenerationAgrees := by
    refine Runs.relates
      (R := fun daemon later => daemon.state.GenerationAgrees → later.state.GenerationAgrees)
      (fun _ h => h) (fun h h' hfirst => h' (h hfirst)) ?_ ?_ hruns
      (DaemonState.generationAgrees_new desired)
    · exact fun l daemon _ hkeeps => agrees_perform hkeeps
    · intro q a daemon h
      rw [state_hear]
      exact h
  obtain ⟨hsome, hnone⟩ := DaemonState.generationAgrees_iff.1 hagrees
  refine ⟨hsome, hnone, fun w => ?_⟩
  rw [Daemon.generationAgrees_write]
  exact DaemonState.agrees_write_iff hagrees w

/-- The daemon follows a plan of generation five, and then its client deactivates. -/
theorem daemon_generation_deactivation :
    let daemon := followingDaemon.after deactivation (emptiedInspection 5)
    followingDaemon.state.generation = 5 ∧
      (daemon.state.applied = none → daemon.state.generation = 0) := by
  obtain ⟨first, hfirst⟩ := (Daemon.new none).runs_after Section.KeepsGeneration .helperAppeared
    (emptiedInspection 5) [] (by decide +kernel) (by decide +kernel)
  obtain ⟨second, hsecond⟩ := followingDaemon.runs_after Section.KeepsGeneration deactivation
    (emptiedInspection 5) [first] (by decide +kernel) (by decide +kernel)
  exact ⟨by decide +kernel,
    (daemon_generation countPrimitives plainTexts none (hfirst.trans hsecond)).2.1⟩

/-- What a helper tells that has no plan and counts on. -/
def forgottenInspection : InspectResponse :=
  { InspectResponse.empty with runtime := .inactive 5 }

/-- The helper announces that nothing is armed in generation five, and tells of no plan
either: the daemon forgets the plan and keeps its generation. -/
theorem forgotten_plan_generation :
    ∃ c, Runs service (Service.IsOperation countPrimitives plainTexts) (fun _ _ => True)
        ⟨Daemon.new none, [], []⟩ c ∧
      c.state.state.applied = none ∧ c.state.state.generation = 5 := by
  obtain ⟨first, hfirst⟩ := (Daemon.new none).runs_after (fun _ _ => True) .helperAppeared
    (emptiedInspection 5) [] obeys_true (by decide +kernel)
  obtain ⟨second, hsecond⟩ := followingDaemon.runs_after (fun _ _ => True)
    (.runtimeChanged (.inactive 5)) forgottenInspection [first] obeys_true (by decide +kernel)
  have hforgotten : (followingDaemon.after (.runtimeChanged (.inactive 5))
      forgottenInspection).state.applied = none := by
    decide +kernel
  have hkept : (followingDaemon.after (.runtimeChanged (.inactive 5))
      forgottenInspection).state.generation = 5 := by
    decide +kernel
  exact ⟨_, hfirst.trans hsecond, hforgotten, hkept⟩

end RouteLane
