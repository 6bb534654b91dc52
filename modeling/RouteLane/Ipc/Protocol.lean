import RouteLane.Health.Report
import RouteLane.Runtime.Authority

/-!
# The daemon's protocol

The requests a client sends, the replies, the status of the daemon and the events it
publishes.
-/

namespace RouteLane

/-- 2: runtime authority. -/
def ipcProtocolVersion : ℕ := 2

structure IpcError where
  code : String
  message : String
  deriving DecidableEq, Repr

inductive DaemonRequest where
  | getStatus
  | listProfiles
  | applyProfile (profile : Profile)
  | setRuleEnabled (profileId : ProfileId) (ruleId : RuleId) (enabled : Bool)
  | launchApplication (profileId : ProfileId) (ruleId : RuleId)
  | adoptApplicationProcesses (profileId : ProfileId) (ruleId : RuleId)
  | recoverOrphanedResources
  | deactivate
  | subscribe
  deriving DecidableEq, Repr

structure DaemonEnvelope where
  protocolVersion : ℕ
  requestId : String
  request : DaemonRequest
  deriving DecidableEq, Repr

structure DaemonStatus where
  generation : ℕ
  eventSequence : ℕ
  health : HealthReport
  desiredProfileId : Option ProfileId
  appliedProfileId : Option ProfileId
  lastError : Option IpcError
  /-- The helper's runtime, never derived from the configuration. -/
  primary : RuntimeStatus
  deriving DecidableEq

structure ApplyProfileResult where
  generation : ℕ
  planHash : PlanHash
  deriving DecidableEq, Repr

structure ApplicationLaunchResult where
  pid : ℕ
  deriving DecidableEq, Repr

structure ApplicationAdoptionResult where
  adoptedCount : ℕ
  skippedCount : ℕ
  deriving DecidableEq, Repr

structure OrphanRecoveryResult where
  cleaned : Bool
  deriving DecidableEq, Repr

inductive DaemonResult where
  | status (status : DaemonStatus)
  | profiles (profiles : List Profile)
  | applied (result : ApplyProfileResult)
  | applicationLaunched (result : ApplicationLaunchResult)
  | applicationProcessesAdopted (result : ApplicationAdoptionResult)
  | orphanedResourcesRecovered (result : OrphanRecoveryResult)
  | deactivated
  | subscribed
  deriving DecidableEq

structure DaemonResponse where
  protocolVersion : ℕ
  requestId : String
  result : Option DaemonResult
  error : Option IpcError
  deriving DecidableEq

namespace DaemonResponse

def success (requestId : String) (result : DaemonResult) : DaemonResponse :=
  ⟨ipcProtocolVersion, requestId, some result, none⟩

def failure (requestId : String) (error : IpcError) : DaemonResponse :=
  ⟨ipcProtocolVersion, requestId, none, some error⟩

end DaemonResponse

inductive DaemonEvent where
  | stateChanged (sequence generation : ℕ) (health : HealthReport)
  | operationFailed (sequence generation : ℕ) (health : HealthReport) (error : IpcError)
  /-- The helper changed the effective exit on its own. -/
  | primaryChanged (sequence generation : ℕ) (primary : RuntimeStatus)
  deriving DecidableEq

/-! ## The order of statuses -/

/-- Whether a status is older than one seen before: by the event sequence, and by the
generation within one event. -/
def DaemonStatus.OlderThan (status : DaemonStatus) (generation sequence : ℕ) : Prop :=
  status.eventSequence < sequence ∨
    status.eventSequence = sequence ∧ status.generation < generation

instance (status : DaemonStatus) (generation sequence : ℕ) :
    Decidable (status.OlderThan generation sequence) :=
  inferInstanceAs (Decidable (_ ∨ _))

end RouteLane
