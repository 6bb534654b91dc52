import RouteLane.Kernel.Checks
import RouteLane.Policy.PrimarySelector

/-!
# The system around the backend

What the privileged backend works on: the kernel, the journal on disk, the settings of the
interfaces and the facts a grant is bound to.  Every access is a command that can fail,
and the process can be killed between any two.  Replacing the journal is one command and
making the replacement durable another, so a save can fail after it took effect.
-/

namespace RouteLane

open Nft Faults Program

/-- Time is in nanoseconds. -/
def asMillis (duration : ℕ) : ℕ := duration / 1000000

/-- The settings of the interfaces, by name; `none` where there is nothing to read. -/
structure InterfaceSettings where
  identity : String → Option InterfaceIdentity
  rpFilter : String → Option ℕ
  srcValidMark : String → Option ℕ

structure System where
  kernel : KernelState
  /-- The tables whose unicast default has no carrier. -/
  linkdown : List (IpFamily × ℕ)
  store : Option StoredAppliedState
  /-- Whether the next syncs of the state directory fail. -/
  syncFaults : ℕ → Bool
  settings : InterfaceSettings
  /-- `none` when it is malformed. -/
  bootId : Option String
  networkNamespace : ℕ
  /-- The next restore token. -/
  token : String

/-- The last candidate that failed to commit. -/
structure HeldBackCandidate where
  planHash : PlanHash
  retryAt : ℕ
  wait : ℕ
  deriving DecidableEq

structure ArmedRuntime where
  record : RuntimeRecord
  selector : Option PrimarySelector
  phase : RuntimePhase
  lastError : Option String
  failbackInMs : Option ℕ
  heldBack : Option HeldBackCandidate
  deriving DecidableEq

/-- The memory of `CommandPrivilegedBackend`. -/
structure Backend where
  current : Option KernelPlan
  currentNftFingerprint : Option String
  interfaceSettings : List InterfaceSettingReceipt
  restoreReceipt : Option RestoreReceipt
  legacy : Option LegacyJournalV1
  legacyV2 : Option LegacyJournalV2
  initialized : Bool
  runtime : Option ArmedRuntime
  runtimeRestore : Option RuntimeRestoreReceipt
  runtimeLoaded : Bool
  /-- When the next automatic recovery may run, and the wait it had. -/
  recoveryHeldBack : Option (ℕ × ℕ)
  deriving DecidableEq

/-- A process that has just been started. -/
def Backend.fresh : Backend :=
  ⟨none, none, [], none, none, none, false, none, none, false, none⟩

abbrev BackendM := Program System Backend PrivilegedError

/-- Give up unless a condition holds. -/
def require (c : Prop) [Decidable c] (e : PrivilegedError) : BackendM Unit :=
  if c then return () else fail e

/-- Take the result of a pure check. -/
def lift {α : Type} : Except PrivilegedError α → BackendM α
  | .ok a => return a
  | .error e => fail e

/-! ## The kernel -/

/-- Run kernel commands with a runner, which is handed back. -/
def withRunner {ε α : Type} (runner : CommandKernelRunner)
    (p : Program KernelState CommandKernelRunner ε α) :
    BackendM (Except ε α × CommandKernelRunner) :=
  within System.kernel (fun system kernel => { system with kernel := kernel }) runner p

/-- Run kernel commands that need no runner. -/
def onKernel {α : Type} (p : Runner α) : BackendM α := do
  let (result, _) ← withRunner (.new none ∅) p
  lift result

/-! ## The store -/

section Store

variable (p : Primitives)

/-- `store.load`. -/
def load : BackendM (Option StoredAppliedState) :=
  inspect "applied-state persistence failed: open persisted applied state" System.store

/-- `sync_directory`. -/
def syncDirectory : BackendM Unit :=
  ask "applied-state persistence failed: sync state directory" fun system =>
    (!system.syncFaults 0, { system with syncFaults := fun i => system.syncFaults (i + 1) })

/-- `store.save`: whatever fails before the rename leaves the journal as it was. -/
def save (record : StoredAppliedState) : BackendM Unit := do
  require (p.stateBytes record ≤ maxStateBytes)
    "applied-state persistence failed: applied state exceeds the persistence size limit"
  command "applied-state persistence failed: atomically replace applied state"
    fun system => some { system with store := some record }
  syncDirectory

/-- `store.clear`. -/
def clear : BackendM Unit := do
  if ← inspect "applied-state persistence failed: create state directory"
      (fun system => system.store.isSome) then
    command "applied-state persistence failed: remove persisted applied state"
      fun system => some { system with store := none }
    syncDirectory
  else return ()

end Store

/-! ## Interface settings -/

/-- `valid_interface_name` of the settings adapter. -/
def validInterfaceName (name : String) : Bool :=
  name ≠ "all" && name ≠ "default" && name ≠ "." && name ≠ ".." && isKernelInterfaceName name

/-- `valid_interface_scope`. -/
def validInterfaceScope (identity : InterfaceIdentity) : Bool :=
  identity.ifindex ≠ 0 && validInterfaceName identity.name

/-- `SystemMarkAwareRpfBackend::identity`. -/
def readIdentity (name : String) : BackendM InterfaceIdentity :=
  if validInterfaceName name then
    inspectSome "inspect links" "interface for mark-aware filtering no longer exists"
      fun system => system.settings.identity name
  else fail "interface setting requires a non-global interface"

def readRpFilter (name : String) : BackendM ℕ :=
  inspectSome "read interface rp_filter" "read interface rp_filter"
    fun system => system.settings.rpFilter name

def readSrcValidMark (name : String) : BackendM ℕ :=
  inspectSome "read interface src_valid_mark" "read interface src_valid_mark"
    fun system => system.settings.srcValidMark name

/-- `SystemMarkAwareRpfBackend::revalidate`. -/
def revalidateIdentity (identity : InterfaceIdentity) : BackendM Unit := do
  if validInterfaceScope identity then
    let live ← readIdentity identity.name
    require (live = identity) "interface setting write identity is invalid or changed"
  else fail "interface setting write identity is invalid or changed"

/-- `SystemMarkAwareRpfBackend::set_src_valid_mark`. -/
def setSrcValidMark (identity : InterfaceIdentity) (value : ℕ) : BackendM Unit := do
  require (validInterfaceScope identity = true ∧ value ≤ 1)
    "mark-aware setting forbids global/default/invalid targets and values"
  revalidateIdentity identity
  revalidateIdentity identity
  command "write interface src_valid_mark" fun system =>
    (system.settings.srcValidMark identity.name).map fun _ =>
      { system with
        settings := { system.settings with
          srcValidMark := Function.update system.settings.srcValidMark identity.name (some value) } }

/-- `MarkAwareRpf::validate_identity`. -/
def validateIdentity (identity : InterfaceIdentity) : BackendM Unit := do
  require (validInterfaceScope identity = true)
    "interface setting requires an exact non-global kernel interface identity"
  let live ← readIdentity identity.name
  require (live = identity)
    "interface identity changed; refusing a setting mutation on another device"

/-- `ensure_mark_aware_rpf` up to the journal: the receipt of the change to make, if the
interface needs one. -/
def proposeMarkAwareRpf (identity : InterfaceIdentity) :
    BackendM (Option InterfaceSettingReceipt) := do
  validateIdentity identity
  let global ← readRpFilter "all"
  let onInterface ← readRpFilter identity.name
  require (global ≤ 2 ∧ onInterface ≤ 2) "invalid observed reverse-path filtering value"
  if max global onInterface ≠ 1 then return none
  else
    let global ← readSrcValidMark "all"
    let previous ← readSrcValidMark identity.name
    require (global ≤ 1 ∧ previous ≤ 1) "invalid observed mark-aware filtering value"
    if max global previous = 1 then return none
    else return some ⟨identity, previous, 1⟩

/-- `ensure_mark_aware_rpf` from the saved journal on. -/
def writeMarkAwareRpf (receipt : InterfaceSettingReceipt) : BackendM Unit := do
  validateIdentity receipt.identity
  let observed ← readSrcValidMark receipt.identity.name
  require (observed = receipt.previous)
    "interface setting changed after journaling; refusing to overwrite it"
  setSrcValidMark receipt.identity receipt.applied
  let written ← readSrcValidMark receipt.identity.name
  require (written = receipt.applied) "mark-aware interface setting failed read-back verification"

/-- `restore_mark_aware_rpf`. -/
def restoreMarkAwareRpf (receipt : InterfaceSettingReceipt) : BackendM Unit := do
  require (receipt.previous = 0 ∧ receipt.applied = 1)
    "invalid mark-aware interface setting receipt"
  validateIdentity receipt.identity
  let observed ← readSrcValidMark receipt.identity.name
  if observed = receipt.previous then return ()
  else
    require (observed = receipt.applied)
      "administrator changed interface setting; preserving current value"
    validateIdentity receipt.identity
    setSrcValidMark receipt.identity receipt.previous
    let written ← readSrcValidMark receipt.identity.name
    require (written = receipt.previous) "restored interface setting failed read-back verification"

/-- `mark_aware_identities`: the devices of the lanes that can take IPv4 traffic. -/
def markAwareIdentities (plan : KernelPlan) : List InterfaceIdentity :=
  FirstMatch.retainNew id [] ((plan.lanes.filter fun lane =>
    lane.availability == .available && lane.routeV4.isSome).filterMap LanePlan.identity)

/-- `restore_setting_receipts`: what could not be restored is reported. -/
def restoreSettingReceipts : List InterfaceSettingReceipt → BackendM (List String)
  | [] => return []
  | receipt :: receipts => do
    let outcome : Except PrivilegedError Unit ← attempt (restoreMarkAwareRpf receipt)
    let rest ← restoreSettingReceipts receipts
    match outcome with
    | .ok () => return rest
    | .error e =>
      return ("interface " ++ receipt.identity.name ++ " src_valid_mark left unchanged: " ++ e) ::
        rest

section EnsureSettings

variable (p : Primitives)

/-- The loop of `ensure_interface_settings`.  Each intent is journaled before its write, and
the journal it got to is handed back, also with an error. -/
def ensureSettingsOf (applied : List InterfaceSettingReceipt) (record : StoredAppliedState) :
    List InterfaceIdentity →
      BackendM (StoredAppliedState × Except PrivilegedError (List InterfaceSettingReceipt))
  | [] => return (record, .ok applied)
  | identity :: rest => do
    if record.interfaceSettings.any fun receipt => decide (receipt.identity = identity) then
      ensureSettingsOf applied record rest
    else match ← attempt (proposeMarkAwareRpf identity) with
      | .error e => return (record, .error e)
      | .ok none => ensureSettingsOf applied record rest
      | .ok (some receipt) =>
        let journaled := { record with
          pendingInterfaceSettings := record.pendingInterfaceSettings ++ [receipt] }
        match ← attempt (save p journaled) with
        | .error e => return (journaled, .error ("interface setting journal: " ++ e))
        | .ok () =>
          match ← attempt (writeMarkAwareRpf receipt) with
          | .error e => return (journaled, .error e)
          | .ok () => ensureSettingsOf (applied ++ [receipt]) journaled rest

/-- `ensure_interface_settings`. -/
def ensureInterfaceSettings (record : StoredAppliedState) (plan : KernelPlan) :
    BackendM (StoredAppliedState × Except PrivilegedError (List InterfaceSettingReceipt)) :=
  ensureSettingsOf p [] record (markAwareIdentities plan)

end EnsureSettings

/-! ## The environment -/

/-- `boot_id`. -/
def readBootId : BackendM String :=
  inspectSome "read boot id" "kernel boot id is malformed" System.bootId

/-- `network_namespace`. -/
def readNetworkNamespace : BackendM ℕ := inspect "read network namespace" System.networkNamespace

/-- `new_token`. -/
def newToken : BackendM String := inspect "read restore token entropy" System.token

end RouteLane
