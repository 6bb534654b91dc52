import RouteLane.Backend.Operations
import RouteLane.Lib.Heeding

/-!
# Requests of the helper

What callers on the system bus ask the helper for, what the helper asks in its turn, of the
bus, of polkit, of the kernel and of the file system, and the errors it answers with.
Anything may be answered.
-/

namespace RouteLane

/-! ## Requests -/

/-- The methods of `io.github.routelane.Helper1`. -/
inductive Helper1Request where
  | applyPlan (planJson : String)
  | inspect
  | restorePlan (failedCandidateJson previousJson : String)
  | cleanup
  | recoverOrphanedResources
  | prepareApplicationCgroup (ruleId : RuleId)
  | adoptApplicationProcess (ruleId : RuleId) (pid startTime : ℕ) (executablePath : PathBuf)
  deriving DecidableEq, Repr

/-- The methods of `io.github.routelane.Helper2`. -/
inductive Helper2Request where
  | activateRuntime (activationJson : String)
  | restoreRuntime (receipt : String)
  | inspect
  | cleanup
  deriving DecidableEq, Repr

inductive HelperRequest where
  | helper1 (request : Helper1Request)
  | helper2 (request : Helper2Request)
  deriving DecidableEq, Repr

/-! ## Errors -/

inductive AuthorizationError where
  | uidLookup (message : String)
  | policyCheck (message : String)
  | denied
  | challenge
  deriving DecidableEq, Repr

def AuthorizationError.text : AuthorizationError → String
  | .uidLookup message => "caller UID lookup failed: " ++ message
  | .policyCheck message => "authorization check failed: " ++ message
  | .denied => "caller is not authorized"
  | .challenge => "authorization requires an unmet challenge"

/-- `authorization_result`. -/
def authorizationResult (authorized challenge : Bool) : Except AuthorizationError Unit :=
  if challenge then .error .challenge
  else if authorized then .ok ()
  else .error .denied

/-- Of a validation error its text is kept. -/
inductive ServiceError where
  | missingSender
  | authorization (error : AuthorizationError)
  | planTooLarge (actual maximum : ℕ)
  | invalidPlanJson (message : String)
  | validation (message : String)
  | backend (message : String)
  | statePoisoned
  deriving DecidableEq, Repr

def ServiceError.text : ServiceError → String
  | .missingSender => "D-Bus method call has no unique sender"
  | .authorization error => error.text
  | .planTooLarge actual maximum =>
    "plan JSON is " ++ toString actual ++ " bytes; maximum is " ++ toString maximum ++ " bytes"
  | .invalidPlanJson message => "invalid plan JSON: " ++ message
  | .validation message => message
  | .backend message => "privileged backend failed: " ++ message
  | .statePoisoned => "privileged helper state is unavailable"

/-- The errors of `zbus::fdo::Error` the helper answers with. -/
inductive FdoError where
  | accessDenied (message : String)
  | invalidArgs (message : String)
  | failed (message : String)
  deriving DecidableEq, Repr

/-- `to_fdo_error`. -/
def toFdoError (error : ServiceError) : FdoError :=
  match error with
  | .missingSender | .authorization _ => .accessDenied error.text
  | .planTooLarge _ _ | .invalidPlanJson _ | .validation _ => .invalidArgs error.text
  | .backend _ | .statePoisoned => .failed error.text

inductive CgroupError where
  | invalidRuleId
  | processIdentityMismatch (pid : ℕ)
  | cgroupNotEmpty (ruleId : RuleId)
  | io (message : String)
  deriving DecidableEq, Repr

def CgroupError.text : CgroupError → String
  | .invalidRuleId => "application rule ID is unsafe for cgroup use"
  | .processIdentityMismatch pid =>
    "process " ++ toString pid ++ " no longer matches the requested application"
  | .cgroupNotEmpty ruleId => "application cgroup for " ++ ruleId ++ " is not empty"
  | .io message => message

/-! ## What the helper asks -/

/-- What a directory lists an entry as; links are not followed. -/
inductive FileType where
  | directory
  | file
  | symlink
  | other
  deriving DecidableEq, Repr

/-- An entry of a directory: its name, where it is UTF-8, and what it is, where that can be
told. -/
structure DirEntry where
  name : Option String
  fileType : Except String FileType

/-- Calls of the file system; they return the text of an error. -/
inductive FileCall where
  | «exists» (path : PathBuf)
  | createDirAll (path : PathBuf)
  | chown (path : PathBuf) (owner : ℕ)
  | readLink (path : PathBuf)
  | readToString (path : PathBuf)
  | readDir (path : PathBuf)
  /-- Opens an existing file to write to it. -/
  | openWrite (path : PathBuf)
  | write (path : PathBuf) (text : String)
  | removeDir (path : PathBuf)
  deriving DecidableEq, Repr

@[reducible] def FileCall.Reply : FileCall → Type
  | .exists _ => Bool
  | .readLink _ => Except String PathBuf
  | .readToString _ => Except String String
  | .readDir _ => Except String (List (Except String DirEntry))
  | .createDirAll _ | .chown _ _ | .openWrite _ | .write _ _ | .removeDir _ => Except String Unit

/-- The call changes the file system.  To open a file changes nothing yet. -/
def FileCall.changes : FileCall → Bool
  | .createDirAll _ | .chown _ _ | .write _ _ | .removeDir _ => true
  | .exists _ | .readLink _ | .readToString _ | .readDir _ | .openWrite _ => false

/-- The file a call is about. -/
def FileCall.path : FileCall → PathBuf
  | .exists path | .createDirAll path | .chown path _ | .readLink path | .readToString path
  | .readDir path | .openWrite path | .write path _ | .removeDir path => path

inductive HelperCall where
  /-- `get_connection_unix_user`. -/
  | connectionUnixUser (sender : String)
  /-- polkit's `CheckAuthorization` of the sender.  It is not told the request, which is here
  for the history alone. -/
  | checkAuthorization (sender : String) (request : HelperRequest)
  | captureTopology
  /-- `started.elapsed()`. -/
  | elapsed
  | file (call : FileCall)

/-- polkit answers whether the sender is authorized, and whether it is challenged. -/
@[reducible] def HelperCall.Reply : HelperCall → Type
  | .connectionUnixUser _ => Except String ℕ
  | .checkAuthorization _ _ => Except String (Bool × Bool)
  | .captureTopology => Except String TopologySnapshot
  | .elapsed => ℕ
  | .file call => call.Reply

end RouteLane
