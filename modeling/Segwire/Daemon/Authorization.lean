import Segwire.Daemon.DbusService

/-!
# Authorization of method calls

A handler must not touch the managers for a caller whom PolicyKit did not authorize,
unless PolicyKit is unavailable and the caller is root. The handlers of a service
with an authorizer keep to this. A service whose authorizer could not be built
serves everybody.

The authorizer has a connection of its own, to the bus that the service is on. A daemon with
`SEGWIRE_SIMULATION` but without the address of a session bus, whose authorizer goes to another
bus than its service, is left out.

## Main definitions

* `Method.requiredAction` — the PolicyKit action of each method
* `Allowed` — the caller may be served
* `FailsClosed` — a call is served only if it is allowed

## Main results

* `failsClosed_iff` — when a call fails closed
* `not_failsClosed_delete` — a deletion for an unauthorized user
-/

namespace Segwire.Daemon

open Foundation Segwire.Common

/-- The PolicyKit action that covers a method. -/
def Method.requiredAction : Method → String
  | listNamespaces | getNamespaceStatus _ | getDaemonStatus | validateConfiguration _ =>
    Actions.status
  | deleteNamespace _ | restartNamespace _ => Actions.delete
  | reloadConfiguration => Actions.manage
  | execAuthorize _ => Actions.exec

/-- PolicyKit authorized the caller for the method's action, or it is unavailable and
the caller is root. It is unavailable when the daemon has no connection for it. -/
def Allowed (authConnection : Except String Unit) (bus : Bus) (caller : Caller) (method : Method) :
    Prop :=
  match authConnection with
  | .ok () => bus.Authorizes caller method.requiredAction ∨
      (bus.PolicyKitUnreachable caller method.requiredAction ∧ caller.uid = 0)
  | .error _ => caller.uid = 0

/-- A daemon on the system bus touches its managers for a call only if it is allowed. -/
def FailsClosed (authConnection : Except String Unit) (startTime : SystemTime) (sur : Surroundings)
    (caller : Caller) (method : Method) : Prop :=
  ((ServiceState.new false authConnection startTime).handle sur caller method).Accesses →
    Allowed authConnection sur.bus caller method

variable {sur : Surroundings} {caller : Caller} {method : Method}

/-- Every method reads or changes what the managers hold. -/
theorem accesses_serve (svc : ServiceState) : (svc.serve sur method).Accesses := by
  cases method <;> exact ⟨_, _, rfl⟩

/-- A call is served iff its argument and the caller pass their checks. -/
theorem accesses_handle_iff (svc : ServiceState) :
    (svc.handle sur caller method).Accesses ↔
      method.checkArgument sur.platform = .ok () ∧
        checkAuthorization svc sur.bus method.action caller = .ok () := by
  unfold ServiceState.handle
  cases method.checkArgument sur.platform with
  | error e => simp
  | ok accepted =>
    cases checkAuthorization svc sur.bus method.action caller with
    | error e => simp
    | ok authorized => simp [accesses_serve]

/-- The authorizer asks for the action that covers the method. -/
theorem lookup_action (method : Method) :
    PolicyKitAuthorizer.defaultMappings.lookup method.action = some method.requiredAction := by
  cases method <;> rfl

/-- With an authorizer, whoever passes the check is allowed. -/
theorem allowed_of_checkAuthorization {startTime : SystemTime}
    (h : checkAuthorization (ServiceState.new false (.ok ()) startTime) sur.bus method.action
      caller = .ok ()) :
    Allowed (.ok ()) sur.bus caller method := by
  rw [checkAuthorization] at h
  have hcheck := Except.mapError_eq_ok_iff.mp h
  exact ((PolicyKitAuthorizer.checkAuthorization_eq_ok_iff (lookup_action method)).mp hcheck).2

/-- A call fails closed iff the authorizer could be built, or the caller is root, or
the method's argument is rejected before the authorization is checked. -/
theorem failsClosed_iff {authConnection : Except String Unit} {startTime : SystemTime} :
    FailsClosed authConnection startTime sur caller method ↔
      authConnection = .ok () ∨ caller.uid = 0 ∨ method.checkArgument sur.platform ≠ .ok () := by
  rw [FailsClosed, accesses_handle_iff]
  -- an authorizer is built exactly when the connection could be opened
  cases authConnection with
  | ok connected => simp only [true_or, iff_true]; exact fun h => allowed_of_checkAuthorization h.2
  | error e =>
    have hunchecked : checkAuthorization (ServiceState.new false (.error e) startTime) sur.bus
        method.action caller = .ok () := rfl
    simp only [hunchecked, and_true, Allowed, reduceCtorEq, false_or]
    exact imp_iff_or_not

/-- A bus on which PolicyKit denies everything. -/
def denyingBus : Bus := ⟨none, none, fun _ _ => .ok (false, false)⟩

/-- An unprivileged user. -/
def user : Caller := ⟨some ":1.42", 4242, 1000⟩

/-- A daemon that could not connect for PolicyKit deletes namespaces for anyone. -/
theorem not_failsClosed_delete :
    ¬ FailsClosed (.error "Failed to open socket") 0
      ⟨.ofTables [] [], fun _ => ⟨[]⟩, .sorted, denyingBus⟩ user (.deleteNamespace "app") := by
  intro h
  have hroot : user.uid = 0 := h ((accesses_handle_iff _).mpr ⟨by decide, rfl⟩)
  exact absurd hroot (by decide)

end Segwire.Daemon
