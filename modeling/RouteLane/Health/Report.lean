import RouteLane.Lib.OrderedMap
import RouteLane.Domain.Profile

/-!
# Health reports

What the daemon tells about the routing it applied: one state for the whole policy, one
for each lane, and the diagnostics behind them in a fixed order.
-/

namespace RouteLane

inductive HealthState where
  | inactive
  | applying
  | healthy
  | degraded
  | failed
  | needsAuthorization
  deriving DecidableEq, Repr

abbrev LaneHealth := OrderedMap LaneId HealthState

inductive DiagnosticCode where
  | laneInterfaceMissing
  | laneGatewayUnreachable
  | nftablesFeatureMissing
  | policyApplyRolledBack
  | routingResourceConflict
  deriving DecidableEq, Repr, Ord

inductive Severity where
  | info
  | warning
  | error
  deriving DecidableEq, Repr

def Severity.healthState : Severity → HealthState
  | .info => .healthy
  | .warning => .degraded
  | .error => .failed

inductive DiagnosticSubject where
  | lane (id : LaneId)
  | nftablesTable
  | policy
  | healthInspection
  deriving DecidableEq, Repr, Ord

structure Diagnostic where
  code : DiagnosticCode
  summary : String
  technicalDetail : String
  severity : Severity
  subject : DiagnosticSubject
  suggestedAction : Option String
  deriving DecidableEq, Repr

/-- Code, then subject, then detail. -/
def Diagnostic.le (left right : Diagnostic) : Bool :=
  ((compare left.code right.code).then
    ((compare left.subject right.subject).then
      (compare left.technicalDetail right.technicalDetail))).isLE

structure HealthReport where
  state : HealthState
  lanes : LaneHealth
  diagnostics : List Diagnostic
  deriving DecidableEq

namespace HealthReport

def fromParts (state : HealthState) (lanes : LaneHealth) (diagnostics : List Diagnostic) :
    HealthReport := ⟨state, lanes, diagnostics.mergeSort Diagnostic.le⟩

def inactive : HealthReport := fromParts .inactive .empty []

def applying : HealthReport := fromParts .applying .empty []

def failure (state : HealthState) (code : DiagnosticCode) (subject : DiagnosticSubject)
    (summary technicalDetail : String) (suggestedAction : Option String) : HealthReport :=
  fromParts state .empty
    [{ code := code, summary := summary, technicalDetail := technicalDetail
       severity := if state = .failed ∨ state = .needsAuthorization then .error else .warning
       subject := subject, suggestedAction := suggestedAction }]

@[simp] theorem fromParts_state (state : HealthState) (lanes : LaneHealth)
    (diagnostics : List Diagnostic) : (fromParts state lanes diagnostics).state = state := rfl

end HealthReport

/-- How much a state weighs against another. -/
def HealthState.precedence : HealthState → ℕ
  | .inactive => 0
  | .healthy => 1
  | .applying => 2
  | .degraded => 3
  | .needsAuthorization => 4
  | .failed => 5

/-- The last of the weightiest states, as `max_by_key` picks it. -/
def aggregateHealth (states : List HealthState) : HealthState :=
  (states.foldl (fun best state =>
    match best with
    | none => some state
    | some b => if b.precedence ≤ state.precedence then some state else some b) none).getD .inactive

/-- The state picked is one of those there are. -/
theorem aggregateHealth_mem {states : List HealthState} (h : states ≠ []) :
    aggregateHealth states ∈ states := by
  have hfold : ∀ (rest : List HealthState) (best : HealthState), ∃ last ∈ best :: rest,
      rest.foldl (fun best state =>
        match best with
        | none => some state
        | some b => if b.precedence ≤ state.precedence then some state else some b)
        (some best) = some last := by
    intro rest
    induction rest with
    | nil => exact fun best => ⟨best, List.mem_cons_self, rfl⟩
    | cons state rest ih =>
      intro best
      rw [List.foldl_cons]
      by_cases hle : best.precedence ≤ state.precedence
      · obtain ⟨last, hlast, heq⟩ := ih state
        exact ⟨last, List.mem_cons_of_mem _ hlast, by simpa only [if_pos hle] using heq⟩
      · obtain ⟨last, hlast, heq⟩ := ih best
        refine ⟨last, ?_, by simpa only [if_neg hle] using heq⟩
        rcases List.mem_cons.1 hlast with rfl | hrest
        · exact List.mem_cons_self
        · exact List.mem_cons_of_mem _ (List.mem_cons_of_mem _ hrest)
  obtain ⟨first, rest, rfl⟩ := List.exists_cons_of_ne_nil h
  obtain ⟨last, hlast, heq⟩ := hfold rest first
  have hvalue : aggregateHealth (first :: rest) = last :=
    congrArg (fun best => Option.getD best HealthState.inactive) heq
  rwa [hvalue]

end RouteLane
