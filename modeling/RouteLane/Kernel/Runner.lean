import RouteLane.Kernel.CrashModel
import RouteLane.Lib.Faults

/-!
# The kernel runner

The commands of a transition, in the order the helper sends them: the runner's stages,
the rollback a failed stage starts, and the recovery of a pending transition after a
restart.  Every read and every mutation is a command that can fail.
-/

namespace RouteLane

open Nft Faults Program

/-! ## Commands -/

inductive TableMode where
  | create
  | replace
  deriving DecidableEq, Repr

/-- A batch for `nft -f -`, which the kernel carries out as a whole or not at all. -/
inductive NftBatch where
  /-- Add every object of a document, in mode `replace` to a fresh table. -/
  | table (mode : TableMode) (document : Document)
  /-- `delete table inet routelane` -/
  | deleteTable
  /-- `flush chain inet routelane guard`, `delete chain inet routelane guard` -/
  | deleteGuard
  deriving DecidableEq, Repr

/-- The guard chain and its rules. -/
def Nft.Object.ofGuard : Object → Bool
  | .chain .guard _ _ => true
  | .rule .guard _ _ => true
  | _ => false

/-- What the kernel makes of a batch; `none` when it refuses it. -/
def NftBatch.apply (batch : NftBatch) (kernel : KernelState) : Option KernelState :=
  match batch, kernel.nft with
  | .table .create document, nft => some { kernel with nft := some (nft.getD [] ++ document) }
  | .table .replace document, some _ => some { kernel with nft := some document }
  | .deleteTable, some _ => some { kernel with nft := none }
  | .deleteGuard, some document =>
    if .guard ∈ chainNames document then
      some { kernel with nft := some (document.filter fun o => !o.ofGuard) }
    else none
  | _, none => none

/-- `RunnerError`. -/
abbrev RunnerError := String

structure CommandKernelRunner where
  previous : Option KernelPlan
  /-- Routing the previous generation actually has. -/
  previousRouting : Option KernelPlan
  next : Option KernelPlan
  tablePresent : Bool
  guardInstalled : Bool
  deriving DecidableEq

/-- `CommandKernelRunner::new` and `with_lost_unicast`. -/
def CommandKernelRunner.new (previous : Option KernelPlan) (lost : LostUnicast) :
    CommandKernelRunner :=
  ⟨previous, previous.map (routingBasis lost), none, false, false⟩

abbrev Runner := Program KernelState CommandKernelRunner RunnerError

def runNftBatch (batch : NftBatch) (context : String) : Runner Unit := command context batch.apply

/-- `capture_snapshot`. -/
def captureSnapshot : Runner KernelState := do
  forEach (fun context => inspect context fun _ => ())
    ["inspect IPv4 routing tables", "inspect IPv6 routing tables", "inspect IPv4 policy rules",
      "inspect IPv6 policy rules"]
  inspect "inspect nftables tables" id

/-! ## Routing steps -/

/-- `live_family_ownership`. -/
def liveFamilyOwnership (f : IpFamily) : Runner RoutingOwnership := do
  let routes ← inspect "inspect RouteLane routes" fun kernel =>
    kernel.routing.routes.filter fun route => route.family = f
  let rules ← inspect "inspect RouteLane policy rules" fun kernel =>
    kernel.routing.rules.filter fun rule => rule.family = f
  return ⟨routes, rules⟩

/-- Whether the resource of a removal is still there. -/
def stepPresent : RoutingStep → Runner Bool
  | .deleteRoute f table route => do
    let live ← liveFamilyOwnership f
    return decide (routeOwnership f table route ∈ live.routes)
  | .deleteRule f priority table mark => do
    let live ← liveFamilyOwnership f
    return decide (ruleOwnership f priority table mark ∈ live.rules)
  | .flushTable f table =>
    inspect "inspect RouteLane routing table" fun kernel =>
      decide (∃ route ∈ kernel.routing.routes, route.family = f ∧ route.table = table)
  | .replaceRoute .. | .addRule .. => return true

/-- The kernel carries a routing step out as `apply_routing_step` models it. -/
def sendStep (step : RoutingStep) (context : String) : Runner Unit :=
  command context fun kernel =>
    some { kernel with routing := applyRoutingStep kernel.routing step }

/-- A removal that is sent without a look at what is there: the kernel refuses it where it
finds nothing to remove. -/
def sendRemoval (step : RoutingStep) (context : String) : Runner Unit :=
  command context fun kernel =>
    if applyRoutingStep kernel.routing step = kernel.routing then none
    else some { kernel with routing := applyRoutingStep kernel.routing step }

/-- `run_routing_step`: removals are skipped when the resource is already absent. -/
def runRoutingStep (context : String) (step : RoutingStep) : Runner Unit := do
  let present ← stepPresent step
  if present then sendStep step context else return ()

/-- The attempts of `remove_plan_policy_rules` at one rule. -/
def removeRuleTries (step : RoutingStep) : ℕ → Runner Unit
  | 0 => return ()
  | tries + 1 => do
    let present ← stepPresent step
    if present then
      sendStep step "remove RouteLane policy rule during rollback"
      removeRuleTries step tries
    else return ()

/-- The loop body of `remove_plan_policy_rules`. -/
def removeRule (step : RoutingStep) : Runner Unit := do
  removeRuleTries step 3
  let present ← stepPresent step
  if present then fail "too many duplicate RouteLane policy rules during rollback" else return ()

/-- `remove_plan_policy_rules`. -/
def removePlanPolicyRules (plans : List KernelPlan) : Runner Unit :=
  forEach removeRule (rollbackRuleOrder plans)

/-! ## Stages -/

section Stages

variable (blake3 : Blake3)

/-- `snapshot`. -/
def snapshot : Runner KernelState := do
  let captured ← captureSnapshot
  modify fun runner => { runner with tablePresent := captured.nft.isSome }
  return captured

/-- `install_guard`. -/
def installGuard (next : KernelPlan) : Runner Unit := do
  modify fun runner => { runner with next := some next }
  let runner ← get
  let mode := if runner.tablePresent then .replace else .create
  runNftBatch (.table mode (renderNftDocument blake3 runner.previous (some next) true))
    "install temporary RouteLane guard"
  modify fun runner => { runner with tablePresent := true, guardInstalled := true }

/-- `prepare_routes`. -/
def prepareRoutes (next : KernelPlan) : Runner Unit := do
  let runner ← get
  forEach (runRoutingStep "prepare RouteLane route or policy rule")
    (transitionSteps runner.previousRouting next)

/-- `activate_nft`. -/
def activateNft (next : KernelPlan) : Runner Unit := do
  runNftBatch (.table .replace (renderNftDocument blake3 (some next) none true))
    "activate generated RouteLane nftables ruleset"
  modify fun runner => { runner with tablePresent := true, guardInstalled := true }

/-- `captured_plan_present`. -/
def capturedPlanPresent (captured : KernelState) (plan : KernelPlan) : Bool :=
  captured.nft.isSome &&
    decide ((planRoutingOwnership plan).routes ⊆ captured.routing.routes ∧
      (planRoutingOwnership plan).rules ⊆ captured.routing.rules)

/-- `verify_plan_basis`. -/
def verifyPlanBasis (plan routing : KernelPlan) : Runner Unit := do
  let captured ← captureSnapshot
  if capturedPlanPresent captured routing then
    let table ← inspect "inspect exact RouteLane nftables table" KernelState.nft
    if stateChainName blake3 plan ∈ chainNames (table.getD []) then return ()
    else fail "generated RouteLane nftables ownership marker is not active"
  else fail "generated RouteLane route or policy resources are incomplete"

/-- `verify_plan`. -/
def verifyPlan (plan : KernelPlan) : Runner Unit := verifyPlanBasis blake3 plan plan

/-- `remove_generation`. -/
def removeGeneration (generation : ℕ) : Runner Unit := do
  let runner ← get
  match runner.previous.filter fun plan => plan.generation = generation, runner.next with
  | none, _ => fail "previous applied generation is unavailable"
  | some _, none => fail "next plan is unavailable during cleanup"
  | some previous, some next =>
    forEach (runRoutingStep "remove previous RouteLane route, policy rule or table")
      (retireSteps (runner.previousRouting.getD previous) next)

/-- `remove_guard`. -/
def removeGuard : Runner Unit := do
  let runner ← get
  if runner.guardInstalled then
    runNftBatch .deleteGuard "remove temporary RouteLane guard"
    modify fun runner => { runner with guardInstalled := false }
  else return ()

/-- The plans whose rules and tables `restore` removes. -/
def CommandKernelRunner.plans (runner : CommandKernelRunner) : List KernelPlan :=
  runner.previous.toList ++ runner.next.toList

/-- The routing `restore` brings back: what the previous generation actually had. -/
def CommandKernelRunner.restoredRouting (runner : CommandKernelRunner) (state : KernelPlan) :
    KernelPlan :=
  match runner.previous, runner.previousRouting with
  | some previous, some basis => if previous = state then basis else state
  | _, _ => state

/-- The first half of `restore`: RouteLane's rules, tables and nft table go. -/
def clearForRollback : Runner Unit := do
  let runner ← get
  removePlanPolicyRules runner.plans
  forEach (runRoutingStep "flush RouteLane table during rollback")
    (rollbackTableOrder runner.plans)
  let runner ← get
  if runner.tablePresent then
    runNftBatch .deleteTable "clear RouteLane nftables state for rollback"
    modify fun runner => { runner with tablePresent := false, guardInstalled := false }
  else modify fun runner => { runner with guardInstalled := false }

/-- The second half of `restore`: the previous generation comes back. -/
def reinstall (state : KernelPlan) : Runner Unit := do
  let runner ← get
  forEach (runRoutingStep "restore previous RouteLane route or policy rule")
    (installSteps (runner.restoredRouting state))
  runNftBatch (.table .create (renderNftDocument blake3 (some state) none false))
    "restore previous RouteLane nftables ruleset"
  modify fun runner => { runner with tablePresent := true }
  verifyPlanBasis blake3 state (runner.restoredRouting state)

/-- `restore`. -/
def restore : Option KernelPlan → Runner Unit
  | none => clearForRollback
  | some state => do
    clearForRollback
    reinstall blake3 state

end Stages

/-! ## Transitions -/

inductive ApplyStage where
  | installGuard
  | prepareRoutes
  | activateNft
  | verify
  | removeOldGeneration
  | removeGuard
  deriving DecidableEq, Repr

inductive ApplyError where
  | staleGeneration (current requested : ℕ)
  | generationConflict (generation : ℕ) (currentHash requestedHash : PlanHash)
  | snapshot (error : RunnerError)
  | resourceConflict (conflict : String)
  | mutation (stage : ApplyStage) (primary : RunnerError) (rollback cleanup : Option RunnerError)
  deriving DecidableEq, Repr

abbrev Transition := Program KernelState CommandKernelRunner ApplyError

/-- The error of a result, if it is one. -/
def errorOf {α : Type} : Except RunnerError α → Option RunnerError
  | .ok _ => none
  | .error e => some e

section Transitions

variable (blake3 : Blake3)

/-- `run_mutating_stage`: a stage that fails is rolled back, and the guard removed. -/
def runMutatingStage (current : Option KernelPlan) (stage : ApplyStage) (action : Runner Unit) :
    Transition Unit := do
  match ← attempt action with
  | .ok () => return ()
  | .error primary =>
    let rollback ← attempt (restore blake3 current)
    let cleanup ← attempt removeGuard
    fail (.mutation stage primary (errorOf rollback) (errorOf cleanup))

/-- The stage that only a transition from an active plan has. -/
def retireCurrent : Option KernelPlan → Transition Unit
  | none => return ()
  | some plan =>
    runMutatingStage blake3 (some plan) .removeOldGeneration (removeGeneration plan.generation)

/-- The mutating stages of `transition_plan`. -/
def transitionStages (current : Option KernelPlan) (next : KernelPlan) : Transition Unit := do
  runMutatingStage blake3 current .installGuard (installGuard blake3 next)
  runMutatingStage blake3 current .prepareRoutes (prepareRoutes next)
  runMutatingStage blake3 current .activateNft (activateNft blake3 next)
  runMutatingStage blake3 current .verify (verifyPlan blake3 next)
  retireCurrent blake3 current
  runMutatingStage blake3 current .removeGuard removeGuard

/-- `transition_plan`.  `conflict` stands for the check against routes and rules that are
not RouteLane's. -/
def transitionPlan (conflict : KernelState → Option String) (current : Option KernelPlan)
    (next : KernelPlan) : Transition KernelPlan := do
  match ← attempt snapshot with
  | .error e => fail (.snapshot e)
  | .ok captured =>
    match conflict captured with
    | some c => fail (.resourceConflict c)
    | none =>
      transitionStages blake3 current next
      return next

/-- `apply_plan`. -/
def applyPlan (conflict : KernelState → Option String) (current : Option KernelPlan)
    (next : KernelPlan) : Transition KernelPlan :=
  match current with
  | none => transitionPlan blake3 conflict current next
  | some plan =>
    if next.generation < plan.generation then
      fail (.staleGeneration plan.generation next.generation)
    else if next.generation = plan.generation then
      if next.contentHash blake3 = plan.contentHash blake3 then return plan
      else fail (.generationConflict next.generation (plan.contentHash blake3)
        (next.contentHash blake3))
    else transitionPlan blake3 conflict current next

/-! ## Commit -/

/-- Why `transition_with` gave up after the journal was saved.  From `notRecorded` on the
kernel had already taken the new plan, and the result of its rollback is told. -/
inductive TransitionError where
  | notApplied (error : ApplyError)
  | notRecorded (error : RunnerError) (rollback : Option RunnerError)
  | mismatch (rollback : Option RunnerError)
  | notPersisted (error : RunnerError) (rollback : Option RunnerError)
  deriving DecidableEq, Repr

/-- `live_nft_fingerprint`. -/
def liveNftFingerprint : Runner String := do
  match ← inspect "inspect exact RouteLane nftables table" KernelState.nft with
  | some document => return nftDocumentFingerprint blake3 document
  | none => fail "inspect exact RouteLane nftables table"

/-- Whether the live state is exactly the one the journal expects to commit. -/
def exactCommittedState (routingFingerprint : RoutingOwnership → String)
    (expectations : PendingExpectations) (plan : KernelPlan) (appliedNftFingerprint : String) :
    Except RunnerError KernelState → Bool
  | .error _ => false
  | .ok captured =>
    routingFingerprint captured.routing == routingFingerprint (planRoutingOwnership plan) &&
      appliedNftFingerprint == expectations.committedNftFingerprint

/-- Roll back a transition the kernel has already taken, and report it. -/
def undoCommitted (previous : Option KernelPlan)
    (error : Option RunnerError → TransitionError) :
    Program KernelState CommandKernelRunner TransitionError Unit := do
  let rollback ← attempt (restore blake3 previous)
  fail (error (errorOf rollback))

/-- `transition_with` once the kernel has taken the plan: the live state is compared with
the journaled expectations, and the journal committed.  The store is not the kernel, but
saving to it can fail like any command. -/
def commitTransition (routingFingerprint : RoutingOwnership → String)
    (previous : Option KernelPlan) (expectations : PendingExpectations) (plan : KernelPlan) :
    Program KernelState CommandKernelRunner TransitionError Unit := do
  match ← attempt (liveNftFingerprint blake3) with
  | .error e => undoCommitted blake3 previous (.notRecorded e)
  | .ok applied =>
    let captured ← attempt captureSnapshot
    if exactCommittedState routingFingerprint expectations plan applied captured then
      match ← attempt (inspect "persist committed state" fun _ => () : Runner Unit) with
      | .ok () => return ()
      | .error e => undoCommitted blake3 previous (.notPersisted e)
    else undoCommitted blake3 previous .mismatch

/-- The commands of `transition_with` from the saved journal on.  `restoring` tells a
restore of an earlier plan, which skips the generation check, from an apply. -/
def transitionWith (routingFingerprint : RoutingOwnership → String)
    (conflict : KernelState → Option String) (previous : Option KernelPlan) (lost : LostUnicast)
    (restoring : Bool) (plan : KernelPlan) :
    Program KernelState CommandKernelRunner TransitionError Unit := do
  let transition :=
    if restoring then transitionPlan blake3 conflict previous plan
    else applyPlan blake3 conflict previous plan
  match ← attempt transition with
  | .error e => fail (.notApplied e)
  | .ok _ =>
    commitTransition blake3 routingFingerprint previous
      (buildPendingExpectationsFrom blake3 previous lost plan) plan

/-! ## Recovery -/

/-- The runner `ensure_reconciled` starts a recovery with. -/
def CommandKernelRunner.recovering (journal : PendingJournal) : CommandKernelRunner :=
  { CommandKernelRunner.new journal.active journal.expectations.lostUnicast with
    next := some journal.pending }

/-- The recovery of a pending transition: the active plan is restored. -/
def recoverPending (journal : PendingJournal) : Runner Unit := do
  let _ ← snapshot
  restore blake3 journal.active

end Transitions

end RouteLane
