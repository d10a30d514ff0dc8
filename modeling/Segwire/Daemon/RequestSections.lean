import Segwire.Daemon.RestartAgreement
import Segwire.Daemon.SyncInterruptions

/-!
# The sections and calls of a request

`DeleteNamespace` and `RestartNamespace` hold a lock while they access the managers, and
hold none while their calls to the netlink layer delete or create a namespace. So a call may
be made in the middle of a synchronization. An interleaving of a request with a
synchronization is serial if it does what one of them does after the other.

## Main definitions

* `Request`, `Request.handle` — the requests and their sections and calls
* `Managers.observed` — what is observed of a name
* `SerialOutcome` — the outcome is that of a serial order

## Main results

* `Request.erase_handle` — without its locks it is the handler
* `Managers.observed_synchronize` — what a synchronization does to what is observed
-/

namespace Segwire.Daemon

open Foundation Segwire.Common

/-- What a request does: it accesses the managers, deletes or creates a namespace, or
records the one that it has created. -/
inductive RequestStep
  | access
  | deleteNamespace (fullName : String)
  | createNamespace (fullName : String)
  | record (fullName : String)
  deriving DecidableEq, Repr

/-- A handler with its locks. -/
abbrev GuardedHandler (α : Type) := GuardedTask RequestStep Managers α

/-! ### The handlers -/

namespace Guarded

/-- The end of a creation from a configuration, after the call. -/
def recordCreated (config : NamespaceConfig) (fullName : String) :
    SegwireResult NamespaceInfo → GuardedHandler (SegwireResult String)
  | .error e => return .error e
  | .ok _ => do
    let configPath ← .read .access fun m =>
      (m.configManager.getNamespaceConfig fullName).elim "" (·.filePath.display)
    .atomic (.record fullName) fun m =>
      (.ok fullName, m.recordCreation config.namespace_.name fullName configPath)

/-- Create a namespace from configuration. -/
def createNamespaceFromConfig (config : NamespaceConfig) :
    GuardedHandler (SegwireResult String) := do
  let fullName ← .read .access fun m =>
    m.configManager.generateFullNamespaceName config.namespace_.name
  let created ← .unlocked (.createNamespace fullName)
    (Managers.onMachine (·.createNamespace fullName))
  recordCreated config fullName created

/-- The end of a deletion by name, after the call. -/
def forgetDeleted (name fullName : String) :
    SegwireResult Unit → GuardedHandler (SegwireResult Unit)
  | .error e => return .error e
  | .ok () => .atomic .access fun m => (.ok (), m.forgetBoth name fullName)

/-- Delete a namespace by name. -/
def deleteNamespaceByName (name : String) : GuardedHandler (SegwireResult Unit) := do
  let fullName ← .read .access fun m => m.configManager.generateFullNamespaceName name
  let tracked ← .read .access fun m =>
    (m.stateManager.getNamespaceState name).isSome ||
      (m.stateManager.getNamespaceState fullName).isSome
  if !tracked then return .error (.network ("Namespace '" ++ name ++ "' not found"))
  else
    let deleted ← .unlocked (.deleteNamespace fullName)
      (Managers.onMachine (·.deleteNamespace fullName))
    forgetDeleted name fullName deleted

/-- The answer to `DeleteNamespace` -/
def deleteReply (name : String) (deleted : SegwireResult Unit) : Except MethodErr Reply :=
  match deleted with
  | .ok () => .ok (.operation ((OperationResult.successful
      ("Namespace '" ++ name ++ "' deleted successfully")).withDetail "namespace" name))
  | .error e => .ok (.operation (.failure ("Failed to delete namespace: " ++ e.display)))

/-- `DeleteNamespace` -/
def deleteNamespace (name : String) : GuardedHandler (Except MethodErr Reply) := do
  let deleted ← deleteNamespaceByName name
  return deleteReply name deleted

/-- The answer to `RestartNamespace` after the deletion -/
def restartReply : SegwireResult String → Except MethodErr Reply
  | .ok fullName => .ok (.operation (.successful
      ("Namespace '" ++ fullName ++ "' restarted successfully")))
  | .error e => .ok (.operation (.failure ("Restart failed during recreation: " ++ e.display)))

/-- The rest of a restart after the deletion. -/
def recreate (config : NamespaceConfig) :
    SegwireResult Unit → GuardedHandler (Except MethodErr Reply)
  | .error e => return .ok (.operation (.failure ("Restart failed during deletion: " ++ e.display)))
  | .ok () => do
    let created ← createNamespaceFromConfig config
    return restartReply created

/-- The rest of a restart after the lookup of the configuration. -/
def restartWith (name : String) : Option NamespaceConfig → GuardedHandler (Except MethodErr Reply)
  | none => return .ok (.operation (.failure
      ("No configuration found for namespace '" ++ name ++ "', cannot restart")))
  | some config => do
    let deleted ← deleteNamespaceByName name
    recreate config deleted

/-- `RestartNamespace` -/
def restartNamespace (name : String) : GuardedHandler (Except MethodErr Reply) := do
  let config ← .read .access fun m => (m.restartEntry name).map NamespaceConfigEntry.config
  restartWith name config

theorem erase_createNamespaceFromConfig (config : NamespaceConfig) :
    (createNamespaceFromConfig config).erase = Daemon.createNamespaceFromConfig config := by
  refine GuardedTask.erase_bind rfl fun fullName => GuardedTask.erase_bind rfl fun created => ?_
  cases created with
  | error e => rfl
  | ok info => exact GuardedTask.erase_bind rfl fun configPath => rfl

theorem erase_deleteNamespaceByName (name : String) :
    (deleteNamespaceByName name).erase = Daemon.deleteNamespaceByName name := by
  refine GuardedTask.erase_bind rfl fun fullName => GuardedTask.erase_bind rfl fun tracked => ?_
  cases tracked with
  | false => rfl
  | true =>
    refine GuardedTask.erase_bind rfl fun deleted => ?_
    cases deleted <;> rfl

theorem erase_deleteNamespace (name : String) :
    (deleteNamespace name).erase = Daemon.deleteNamespace name := by
  refine GuardedTask.erase_bind (erase_deleteNamespaceByName name) fun deleted => ?_
  cases deleted <;> rfl

theorem erase_restartNamespace (name : String) :
    (restartNamespace name).erase = Daemon.restartNamespace name := by
  refine GuardedTask.erase_bind rfl fun config => ?_
  cases config with
  | none => rfl
  | some config =>
    refine GuardedTask.erase_bind (erase_deleteNamespaceByName name) fun deleted => ?_
    cases deleted with
    | error e => rfl
    | ok accepted =>
      refine GuardedTask.erase_bind (erase_createNamespaceFromConfig config) fun created => ?_
      cases created <;> rfl

end Guarded

/-! ### Requests -/

/-- A request that deletes a namespace: `DeleteNamespace` or `RestartNamespace`. -/
inductive Request
  | delete (name : String)
  | restart (name : String)
  deriving DecidableEq, Repr

namespace Request

/-- The method of a request. -/
def method : Request → Method
  | delete name => .deleteNamespace name
  | restart name => .restartNamespace name

/-- The name that a request is about. -/
def name : Request → String
  | delete name | restart name => name

/-- The sections and calls of a request, once it is authorized. -/
def serve : Request → GuardedHandler (Except MethodErr Reply)
  | delete name => Guarded.deleteNamespace name
  | restart name => Guarded.restartNamespace name

/-- The sections and calls of a request. -/
def handle (svc : ServiceState) (sur : Surroundings) (caller : Caller) (request : Request) :
    GuardedHandler (Except MethodErr Reply) :=
  match request.method.checkArgument sur.platform with
  | .error e => .done (.error (createMethodErr e.toSegwireError))
  | .ok () =>
    match checkAuthorization svc sur.bus request.method.action caller with
    | .error e => .done (.error e)
    | .ok () => request.serve

variable {svc : ServiceState} {sur : Surroundings} {caller : Caller}

theorem erase_serve (request : Request) : request.serve.erase = svc.serve sur request.method := by
  cases request with
  | delete name => exact Guarded.erase_deleteNamespace name
  | restart name => exact Guarded.erase_restartNamespace name

/-- Without its locks, a request is what its handler does. -/
theorem erase_handle (request : Request) :
    (request.handle svc sur caller).erase = svc.handle sur caller request.method := by
  unfold handle ServiceState.handle
  cases request.method.checkArgument sur.platform with
  | error e => rfl
  | ok accepted =>
    cases checkAuthorization svc sur.bus request.method.action caller with
    | error e => rfl
    | ok authorized => exact erase_serve request

theorem handle_of_served {request : Request} (h : Served svc sur caller request.method) :
    request.handle svc sur caller = request.serve := by
  rw [handle, h.argument]
  dsimp only
  rw [h.authorized]

/-- A request that is not served is answered with an error before anything is done. -/
theorem exists_handle_of_not_served {request : Request}
    (h : ¬ Served svc sur caller request.method) :
    ∃ e, request.handle svc sur caller = .done (.error e) := by
  unfold handle
  cases hargument : request.method.checkArgument sur.platform with
  | error e => exact ⟨_, rfl⟩
  | ok accepted =>
    cases hauthorized : checkAuthorization svc sur.bus request.method.action caller with
    | error e => exact ⟨e, rfl⟩
    | ok authorized => exact absurd ⟨hargument, hauthorized⟩ h

end Request

/-! ### Outcomes -/

/-- The success flag of an answer; an error is none. -/
def succeeds : Except MethodErr Reply → Bool
  | .ok (.operation result) => result.success
  | _ => false

namespace Managers

variable {m m' : Managers} {k : String}

/-- Whether the daemon works on a simulation. -/
abbrev isSimulated (m : Managers) : Bool := m.stateManager.netlinkManager.isSimulated

/-- What is observed of a name: its tracked state without time stamps, and whether its
namespace is in the daemon's system and on the machine. -/
def observed (k : String) (m : Managers) : (Option NamespaceState × Bool) × Bool :=
  ((viewOf k m).observed, m.host.netnsPathExists k)

/-- What is observed of a name after a synchronization. -/
def afterSync (k : String) (m : Managers) : (Option NamespaceState × Bool) × Bool :=
  let synchronized := (viewOf k m).synchronized m.configManager k
  (synchronized, if m.isSimulated then m.host.netnsPathExists k else synchronized.2)

/-- The same answers, up to their text, and the same states and namespaces, up to time
stamps. -/
def SameOutcome (out out' : Except MethodErr Reply × Managers) : Prop :=
  succeeds out.1 = succeeds out'.1 ∧ ∀ k, observed k out.2 = observed k out'.2

/-- The outcome is that of the request after the synchronization, or before it. -/
def SerialOutcome (handler : Handler (Except MethodErr Reply)) (orders : SyncOrders) (m : Managers)
    (out : Except MethodErr Reply × Managers) : Prop :=
  SameOutcome out (handler.run (m.synchronize orders).2) ∨
    SameOutcome out ((handler.run m).1, ((handler.run m).2.synchronize orders).2)

/-- On the machine itself, the daemon's system is the machine. -/
theorem netnsPathExists_of_real (hreal : m.isSimulated = false) :
    m.host.netnsPathExists k = (viewOf k m).isPresent := (namespaceExists_of_real hreal k).symm

/-- What is observed after a synchronization depends on what belongs to the name. -/
theorem afterSync_congr (hconfig : m'.configManager = m.configManager)
    (hview : viewOf k m' = viewOf k m)
    (hpath : m'.host.netnsPathExists k = m.host.netnsPathExists k) :
    afterSync k m' = afterSync k m := by
  have hsimulated : m'.isSimulated = m.isSimulated := congrArg (·.environment.simulated) hview
  unfold afterSync
  rw [hconfig, hview, hsimulated, hpath]

variable {orders : SyncOrders}

theorem guaranteed_true_synchronize (orders : SyncOrders) (m : Managers) :
    Guaranteed (fun _ => True) m (m.synchronize orders).2 :=
  guaranteed_synchronize (settled_true m.configManager m) orders

/-- What is observed of a name after a synchronization that leaves off at `mid` and goes on
at `mid'`, where it finds of the name what it left. -/
theorem observed_of_interrupted {mid mid' : Managers}
    (hinterrupted : Interrupted mid mid' (listedSections orders m.configManager
      m.stateManager.netlinkManager.listNamespaces) m m')
    (hstates : mid'.stateManager.namespaceStates = mid.stateManager.namespaceStates)
    (hsimulated : mid'.isSimulated = mid.isSimulated) (hview : viewOf k mid' = viewOf k mid) :
    let synchronized := (viewOf k m).synchronized m.configManager k
    observed k m' =
      (synchronized, if m.isSimulated then mid'.host.netnsPathExists k else synchronized.2) := by
  intro synchronized
  obtain ⟨hbefore, hafter⟩ := guaranteed_of_interrupted hinterrupted
    (settled_true m.configManager m) hstates
  have hobserved : (viewOf k m').observed = synchronized :=
    viewOf_of_interrupted hinterrupted hview
  refine Prod.ext hobserved ?_
  cases hkind : m.isSimulated with
  | true =>
    have hkept := hafter.kept k (.inr ((hsimulated.trans hbefore.simulated).trans hkind))
    exact congrArg Option.isSome hkept
  | false =>
    have hreal : m'.isSimulated = false :=
      hafter.simulated.trans ((hsimulated.trans hbefore.simulated).trans hkind)
    exact (netnsPathExists_of_real hreal).trans (congrArg Prod.snd hobserved)

/-- What a synchronization does to what is observed of a name. -/
theorem observed_synchronize (orders : SyncOrders) (k : String) (m : Managers) :
    observed k (m.synchronize orders).2 = afterSync k m := by
  have hrun : (listedSections orders m.configManager
      m.stateManager.netlinkManager.listNamespaces).run m = m.synchronize orders := by
    rw [← run_synchronizeSections]
    rfl
  rw [← hrun]
  exact observed_of_interrupted .here rfl rfl rfl

end Managers

end Segwire.Daemon
