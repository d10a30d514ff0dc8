import Segwire.Common.Error
import Segwire.Foundation.HashMap

/-!
# PolicyKit authorization

The check that a D-Bus call passes before it is served. The message bus tells who
the caller is, unless its lookup fails, and PolicyKit decides, unless it cannot be
reached; then only root is authorized.

## Main definitions

* `PolicyKitAuthorizer` — the authorizer and its action mappings
* `PolicyKitAuthorizer.checkAuthorization` — the check
* `Caller`, `Bus` — who calls, and what the bus and PolicyKit answer

## Main results

* `PolicyKitAuthorizer.checkAuthorization_eq_ok_iff` — when the check passes
-/

namespace Segwire.Daemon

open Foundation Segwire.Common

/-! ### PolicyKit action definitions -/

namespace Actions

/-- View namespace status and list namespaces. -/
def status : String := "org.segwire.namespace.status"

/-- Create new namespaces. -/
def create : String := "org.segwire.namespace.create"

/-- Delete existing namespaces. -/
def delete : String := "org.segwire.namespace.delete"

/-- Manage daemon configuration and reload. -/
def manage : String := "org.segwire.namespace.manage"

/-- Execute a command inside a namespace. -/
def exec : String := "org.segwire.namespace.exec"

end Actions

/-- The sender of a message, as the bus knows it. A message may lack a sender name. -/
structure Caller where
  sender : Option String
  pid : Nat
  uid : Nat
  deriving DecidableEq, Repr

/-- What the bus and PolicyKit answer: the errors of the two lookups of a sender, and
the reply to `CheckAuthorization` for a process and an action. -/
structure Bus where
  processIdError : Option String
  unixUserError : Option String
  checkAuthorization : Nat → String → Except String (Bool × Bool)

/-- PolicyKit authorization checker. -/
structure PolicyKitAuthorizer where
  actionMappings : HashMap String String
  deriving DecidableEq

/-- Process information for authorization checks. -/
structure ProcessInfo where
  pid : Nat
  uid : Nat
  deriving DecidableEq, Repr

/-- Result of a PolicyKit authorization check. -/
inductive AuthorizationResult
  | authorized | notAuthorized | authenticationRequired | failed (reason : String)
  deriving DecidableEq, Repr

namespace PolicyKitAuthorizer

/-- The mapping of D-Bus operations to PolicyKit actions. -/
def defaultMappings : HashMap String String :=
  [("list", Actions.status), ("status", Actions.status), ("create", Actions.create),
    ("delete", Actions.delete), ("restart", Actions.delete), ("reload", Actions.manage),
    ("validate", Actions.status), ("exec", Actions.exec)].foldl
      (fun mappings (operation, action) => mappings.insert operation action) ∅

/-- Create a new PolicyKit authorizer, given how opening its connection goes. -/
def new (connection : Except String Unit) : SegwireResult PolicyKitAuthorizer :=
  match connection with
  | .error e => .error (.dbus ("Failed to open auth D-Bus connection: " ++ e))
  | .ok () => .ok ⟨defaultMappings⟩

/-- Get the process information for a D-Bus sender. -/
def getSenderProcessInfo (bus : Bus) (caller : Caller) : SegwireResult ProcessInfo :=
  match bus.processIdError, bus.unixUserError with
  | some e, _ => .error (.dbus ("Failed to get sender PID: " ++ e))
  | none, some e => .error (.dbus ("Failed to get sender UID: " ++ e))
  | none, none => .ok ⟨caller.pid, caller.uid⟩

/-- Simple UID-based fallback when PolicyKit is not available. -/
def uidFallback (processInfo : ProcessInfo) : AuthorizationResult :=
  if processInfo.uid = 0 then .authorized else .notAuthorized

/-- Call PolicyKit to check authorization. -/
def callPolicykitCheckAuthorization (bus : Bus) (processInfo : ProcessInfo) (actionId : String) :
    SegwireResult AuthorizationResult :=
  match bus.checkAuthorization processInfo.pid actionId with
  | .ok (isAuthorized, isChallenge) =>
    if isAuthorized then .ok .authorized
    else if isChallenge then .ok .authenticationRequired
    else .ok .notAuthorized
  -- an error of the call means that PolicyKit is not available
  | .error _ => .ok (uidFallback processInfo)

/-- Check that a caller may perform an operation. -/
def checkAuthorization (authorizer : PolicyKitAuthorizer) (bus : Bus) (action : String)
    (caller : Caller) : SegwireResult Unit :=
  -- an operation without a mapping is refused before anybody is asked
  match authorizer.actionMappings.lookup action with
  | none => .error (.permission ("Unknown action: " ++ action))
  | some actionId =>
    match getSenderProcessInfo bus caller with
    | .error e => .error e
    | .ok processInfo =>
      match callPolicykitCheckAuthorization bus processInfo actionId with
      | .ok .authorized => .ok ()
      | .ok .notAuthorized => .error (.permission ("Not authorized to perform action: " ++ action))
      | .ok .authenticationRequired =>
        .error (.permission ("Interactive authentication required for action: " ++ action))
      | .ok (.failed reason) => .error (.permission reason)
      | .error e => .error e

end PolicyKitAuthorizer

/-- PolicyKit authorized the caller for an action. -/
def Bus.Authorizes (bus : Bus) (caller : Caller) (actionId : String) : Prop :=
  ∃ isChallenge, bus.checkAuthorization caller.pid actionId = .ok (true, isChallenge)

/-- PolicyKit cannot be asked whether the caller is authorized for an action. -/
def Bus.PolicyKitUnreachable (bus : Bus) (caller : Caller) (actionId : String) : Prop :=
  ∃ e, bus.checkAuthorization caller.pid actionId = .error e

namespace PolicyKitAuthorizer

variable {bus : Bus} {caller : Caller} {actionId : String}

theorem callPolicykit_eq_authorized_iff :
    callPolicykitCheckAuthorization bus ⟨caller.pid, caller.uid⟩ actionId = .ok .authorized ↔
      bus.Authorizes caller actionId ∨
        (bus.PolicyKitUnreachable caller actionId ∧ caller.uid = 0) := by
  unfold callPolicykitCheckAuthorization Bus.Authorizes Bus.PolicyKitUnreachable
  rcases bus.checkAuthorization caller.pid actionId with e | ⟨isAuthorized, isChallenge⟩
  · simp [uidFallback]
  · cases isAuthorized <;> cases isChallenge <;> simp

/-- The check passes iff the bus knows the caller, and PolicyKit authorizes it or is
unreachable and the caller is root. -/
theorem checkAuthorization_eq_ok_iff {authorizer : PolicyKitAuthorizer} {action : String}
    (haction : authorizer.actionMappings.lookup action = some actionId) :
    authorizer.checkAuthorization bus action caller = .ok () ↔
      (bus.processIdError = none ∧ bus.unixUserError = none) ∧
        (bus.Authorizes caller actionId ∨
          (bus.PolicyKitUnreachable caller actionId ∧ caller.uid = 0)) := by
  rw [checkAuthorization, haction]
  dsimp only
  unfold getSenderProcessInfo
  -- both lookups of the sender come before PolicyKit is asked
  cases bus.processIdError with
  | some e => simp
  | none =>
    cases bus.unixUserError with
    | some e => simp
    | none =>
      rw [← callPolicykit_eq_authorized_iff]
      dsimp only
      rcases callPolicykitCheckAuthorization bus ⟨caller.pid, caller.uid⟩ actionId with
        e | _ | _ | _ | reason <;> simp

end PolicyKitAuthorizer

end Segwire.Daemon
