import RouteLane.Health.Probes
import RouteLane.Ipc.Protocol

/-!
# The state of the daemon

What `DaemonState` holds, and the writes the service makes to it.  Each write is one
critical section of `service.rs`: the service holds the lock of the state from its first
assignment to its last.  Some of them advance the event sequence and publish an event;
recovery and reconciliation write the generation and publish none.
-/

namespace RouteLane

/-- `u64::MAX`. -/
def u64Max : ℕ := 2 ^ 64 - 1

/-! ## Errors -/

structure DaemonError where
  code : String
  message : String
  deriving DecidableEq, Repr

namespace DaemonError

def helper (message : String) : DaemonError := ⟨"DAEMON_HELPER_FAILED", message⟩

def validation (message : String) : DaemonError := ⟨"DAEMON_PROFILE_INVALID", message⟩

/-- `IpcError::from`. -/
def toIpc (error : DaemonError) : IpcError := ⟨error.code, error.message⟩

/-- `Display`. -/
def text (error : DaemonError) : String := s!"{error.code}: {error.message}"

def needsAuthorization (error : DaemonError) : Bool := error.code == "DAEMON_NEEDS_AUTHORIZATION"

end DaemonError

/-! ## What the helper replies -/

structure InspectResponse where
  generation : Option ℕ
  planHash : Option PlanHash
  appliedPlan : Option KernelPlan
  routelaneTablePresent : Bool
  snapshot : KernelSnapshot
  diagnostics : List String
  runtime : RuntimeStatus

/-- `InspectResponse::empty`. -/
def InspectResponse.empty : InspectResponse where
  generation := none
  planHash := none
  appliedPlan := none
  routelaneTablePresent := false
  snapshot := .empty
  diagnostics := []
  runtime := .inactive 0

/-- Generation, hash and runtime of an inspection are those of one plan. -/
def InspectResponse.PairsWith (blake3 : Blake3) (inspected : InspectResponse)
    (plan : KernelPlan) : Prop :=
  inspected.generation = some plan.generation ∧
    inspected.planHash = some (plan.contentHash blake3) ∧
    inspected.runtime.generation = plan.generation

instance (blake3 : Blake3) (inspected : InspectResponse) (plan : KernelPlan) :
    Decidable (inspected.PairsWith blake3 plan) := inferInstanceAs (Decidable (_ ∧ _))

structure RuntimeApplyResponse where
  status : RuntimeStatus
  plan : KernelPlan
  /-- Single-use token for restoring the previous runtime record. -/
  rollbackReceipt : String

/-! ## The state -/

/-- Its generation and hash are those of the plan: `from_plan` is the only way to one. -/
structure AppliedKernelState where
  fromPlan ::
  plan : KernelPlan
  deriving DecidableEq

structure DaemonState where
  desired : Option Profile
  applied : Option AppliedKernelState
  appliedProfile : Option Profile
  generation : ℕ
  eventSequence : ℕ
  health : HealthReport
  lastError : Option IpcError
  primary : RuntimeStatus
  deriving DecidableEq

namespace DaemonState

def new (desired : Option Profile) : DaemonState where
  desired := desired
  applied := none
  appliedProfile := none
  generation := 0
  eventSequence := 0
  health := .inactive
  lastError := none
  primary := .inactive 0

def status (state : DaemonState) : DaemonStatus where
  generation := state.generation
  eventSequence := state.eventSequence
  health := state.health
  desiredProfileId := state.desired.map Profile.id
  appliedProfileId := state.applied.map fun applied => applied.plan.profileId
  lastError := state.lastError
  primary := state.primary

end DaemonState

/-- A plan, its health and the runtime, all of one inspection. -/
structure VerifiedRuntime where
  plan : KernelPlan
  health : HealthReport
  runtime : RuntimeStatus

/-! ## Writes -/

/-- What a critical section does to the state. -/
inductive StateWrite where
  /-- `apply_profile_locked`, once the desired profile is saved. -/
  | beginApply (profile : Profile)
  /-- `apply_profile_locked`, once the live kernel matches. -/
  | commit (profile : Profile) (verified : VerifiedRuntime)
  | recordFailure (error : DaemonError)
  | recordRolledBackFailure (error : DaemonError)
  | recordKernelRestoreFailure (error : DaemonError)
  | recordVerificationFailure (error : DaemonError) (report : HealthReport)
  /-- `follow_runtime`, with the plan the inspection pairs with and its health. -/
  | follow (paired : Option (KernelPlan × HealthReport)) (inspected : InspectResponse)
  /-- `deactivate`, once the helper has cleaned up. -/
  | deactivated
  /-- `recover_orphaned_resources`, once the helper has recovered. -/
  | recovered
  /-- `reconcile_from_helper`, when the helper cannot be inspected. -/
  | reconciliationFailed (error : DaemonError)
  /-- `reconcile_from_helper`, when the helper holds nothing. -/
  | reconciledInactive (runtime : RuntimeStatus)
  /-- `reconcile_from_helper`, when the helper holds a plan. -/
  | reconciledPlan (plan : KernelPlan) (profile : Option Profile) (health : HealthReport)
      (runtime : RuntimeStatus)
  /-- `record_reconciliation_drift_with_code`. -/
  | drift (plan : Option KernelPlan) (code detail : String)

namespace DaemonState

/-- The state of the health after a failure. -/
def failureState (state : DaemonState) : HealthState :=
  if state.applied.isSome then .degraded else .failed

/-- The state of the health after a failure that may be one of authorization. -/
def failureStateFor (state : DaemonState) (error : DaemonError) : HealthState :=
  if error.needsAuthorization then .needsAuthorization else state.failureState

/-- Records a failure, and what is published of it. -/
def fail (state : DaemonState) (health : HealthReport) (error : DaemonError) :
    DaemonState × Option (ℕ → DaemonEvent) :=
  ({ state with health := health, lastError := some error.toIpc },
    some fun sequence => .operationFailed sequence state.generation health error.toIpc)

def recordFailure (state : DaemonState) (error : DaemonError) :
    DaemonState × Option (ℕ → DaemonEvent) :=
  state.fail (.fromParts (state.failureStateFor error) .empty []) error

def recordRolledBackFailure (state : DaemonState) (error : DaemonError) :
    DaemonState × Option (ℕ → DaemonEvent) :=
  state.fail
    (.failure (state.failureStateFor error) .policyApplyRolledBack .policy
      "RouteLane restored the previous policy" error.text
      (some "Review the technical detail and retry the operation."))
    error

def recordKernelRestoreFailure (state : DaemonState) (error : DaemonError) :
    DaemonState × Option (ℕ → DaemonEvent) :=
  state.fail
    (.failure .failed .routingResourceConflict .policy
      "RouteLane could not restore the previous kernel policy" error.message
      (some "Stop policy changes and inspect privileged helper state."))
    error

def recordVerificationFailure (state : DaemonState) (error : DaemonError)
    (report : HealthReport) : DaemonState × Option (ℕ → DaemonEvent) :=
  state.fail
    (.fromParts state.failureState report.lanes
      (report.diagnostics ++
        [{ code := .policyApplyRolledBack
           summary := "Applied policy failed live verification"
           technicalDetail := error.message
           severity := if state.failureState = .failed then .error else .warning
           subject := .policy
           suggestedAction :=
             some "Reapply the profile after resolving the reported health diagnostics." }]))
    error

def commit (state : DaemonState) (profile : Profile) (verified : VerifiedRuntime) :
    DaemonState × Option (ℕ → DaemonEvent) :=
  ({ state with
      applied := some (.fromPlan verified.plan)
      appliedProfile := some profile
      generation := verified.plan.generation
      health := verified.health
      primary := verified.runtime
      lastError := none },
    some fun sequence => .stateChanged sequence verified.plan.generation verified.health)

/-- The state after an inspection that `follow_runtime` goes by.  Where the plan does not
pair, neither it nor its generation is taken over; where there is none, the generation of
the one before stays. -/
def followed (state : DaemonState) (paired : Option (KernelPlan × HealthReport))
    (inspected : InspectResponse) : DaemonState :=
  match paired with
  | some (plan, health) =>
    { state with
      applied := some (.fromPlan plan)
      generation := plan.generation
      health :=
        if inspected.runtime.phase ≠ .armed ∧ health.state = .healthy then
          .fromParts .degraded health.lanes health.diagnostics
        else health
      primary := inspected.runtime }
  | none =>
    if inspected.appliedPlan.isNone && inspected.runtime.grant.isNone then
      { state with
        applied := none, appliedProfile := none, health := .inactive
        primary := inspected.runtime }
    else { state with health := .fromParts .degraded .empty [], primary := inspected.runtime }

/-- The last section of `follow_runtime`: an inspection of an older runtime is dropped. -/
def follow (state : DaemonState) (paired : Option (KernelPlan × HealthReport))
    (inspected : InspectResponse) : DaemonState × Option (ℕ → DaemonEvent) :=
  if inspected.runtime.generation < state.generation then (state, none)
  else
    let state := state.followed paired inspected
    (state, some fun sequence => .primaryChanged sequence state.generation state.primary)

/-- Cleanup removed the helper's plan, so its next activation expects generation zero. -/
def deactivated (state : DaemonState) : DaemonState × Option (ℕ → DaemonEvent) :=
  ({ state with
      applied := none, appliedProfile := none, generation := 0, health := .inactive
      primary := .inactive 0, lastError := none },
    some fun sequence => .stateChanged sequence 0 .inactive)

def reconciliationFailed (state : DaemonState) (error : DaemonError) : DaemonState :=
  { state with
    health := .failure (if error.needsAuthorization then .needsAuthorization else .failed)
      .routingResourceConflict .healthInspection
      "RouteLane could not reconcile persisted routing state" error.text
      (some "Authorize or repair the privileged helper before changing policy.")
    lastError := some error.toIpc }

/-- `record_reconciliation_drift_with_code`: a plan is taken over with its generation, and
the runtime stays what it was. -/
def drift (state : DaemonState) (plan : Option KernelPlan) (code detail : String) :
    DaemonState :=
  { state with
    applied := (plan.map AppliedKernelState.fromPlan).or state.applied
    generation := (plan.map KernelPlan.generation).getD state.generation
    health := .failure .failed .routingResourceConflict .healthInspection
      "Persisted routing state differs from the live kernel" detail
      (some "Inspect RouteLane-owned routes and rules before applying another profile.")
    lastError := some ⟨code, detail⟩ }

/-- What a write leaves, and the event it publishes under the next sequence number. -/
def write (state : DaemonState) : StateWrite → DaemonState × Option (ℕ → DaemonEvent)
  | .beginApply profile =>
    ({ state with desired := some profile, health := .applying }, none)
  | .commit profile verified => state.commit profile verified
  | .recordFailure error => state.recordFailure error
  | .recordRolledBackFailure error => state.recordRolledBackFailure error
  | .recordKernelRestoreFailure error => state.recordKernelRestoreFailure error
  | .recordVerificationFailure error report => state.recordVerificationFailure error report
  | .follow paired inspected => state.follow paired inspected
  | .deactivated => state.deactivated
  | .recovered =>
    ({ state with applied := none, appliedProfile := none, generation := 0, lastError := none },
      none)
  | .reconciliationFailed error => (state.reconciliationFailed error, none)
  | .reconciledInactive runtime =>
    ({ state with
        applied := none, appliedProfile := none, generation := 0, health := .inactive
        primary := runtime, lastError := none },
      none)
  | .reconciledPlan plan profile health runtime =>
    ({ state with
        applied := some (.fromPlan plan), appliedProfile := profile
        generation := plan.generation, health := health, primary := runtime
        lastError := none },
      none)
  | .drift plan code detail => (state.drift plan code detail, none)

end DaemonState

/-! ## What a write stores and whether it announces -/

/-- The generation a write stores, if it stores one. -/
def StateWrite.stores (state : DaemonState) : StateWrite → Option ℕ
  | .commit _ verified => some verified.plan.generation
  | .follow (some (plan, _)) inspected =>
    if inspected.runtime.generation < state.generation then none else some plan.generation
  | .deactivated | .recovered | .reconciledInactive _ => some 0
  | .reconciledPlan plan _ _ _ | .drift (some plan) _ _ => some plan.generation
  | _ => none

/-- Whether a write advances the event sequence and publishes an event. -/
def StateWrite.announces (state : DaemonState) : StateWrite → Bool
  | .beginApply _ | .recovered | .reconciliationFailed _ | .reconciledInactive _
  | .reconciledPlan _ _ _ _ | .drift _ _ _ => false
  | .follow _ inspected => state.generation ≤ inspected.runtime.generation
  | _ => true

namespace DaemonState

/-- No write itself touches the sequence. -/
@[simp] theorem write_eventSequence (state : DaemonState) (w : StateWrite) :
    (state.write w).1.eventSequence = state.eventSequence := by
  cases w with
  | follow paired inspected =>
    simp only [write, follow]
    split
    · rfl
    · cases paired with
      | some plan => rfl
      | none =>
        simp only [followed]
        split <;> rfl
  | _ => rfl

@[simp] theorem write_generation (state : DaemonState) (w : StateWrite) :
    (state.write w).1.generation = (w.stores state).getD state.generation := by
  cases w with
  | follow paired inspected =>
    simp only [write, follow]
    cases paired with
    | some plan =>
      simp only [StateWrite.stores]
      split <;> rfl
    | none =>
      simp only [StateWrite.stores, followed]
      split
      · rfl
      · split <;> rfl
  | drift plan code detail => cases plan <;> rfl
  | _ => rfl

@[simp] theorem write_announces (state : DaemonState) (w : StateWrite) :
    (state.write w).2.isSome = w.announces state := by
  cases w with
  | follow paired inspected =>
    simp only [write, follow, StateWrite.announces]
    split
    · rename_i hstale
      rw [Option.isSome_none, eq_comm, decide_eq_false_iff_not, not_le]
      exact hstale
    · rename_i hfresh
      rw [Option.isSome_some, eq_comm, decide_eq_true_eq]
      exact not_lt.1 hfresh
  | _ => rfl

/-- A stale inspection leaves the state. -/
theorem write_follow_stale {state : DaemonState}
    (paired : Option (KernelPlan × HealthReport)) {inspected : InspectResponse}
    (hstale : inspected.runtime.generation < state.generation) :
    (state.write (.follow paired inspected)).1 = state := by
  simp [DaemonState.write, DaemonState.follow, hstale]

/-- Another inspection is followed. -/
theorem write_follow_fresh {state : DaemonState}
    (paired : Option (KernelPlan × HealthReport)) {inspected : InspectResponse}
    (hfresh : state.generation ≤ inspected.runtime.generation) :
    (state.write (.follow paired inspected)).1 = state.followed paired inspected := by
  simp [DaemonState.write, DaemonState.follow, not_lt.2 hfresh]

end DaemonState

end RouteLane
