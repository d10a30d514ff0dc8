import Mathlib.Data.Fintype.EquivFin
import Segwire.Daemon.EventLoop
import Segwire.Foundation.Locks

/-!
# The locks of the D-Bus handlers

A handler holds the lock of the service from its authorization to its end. For most of what it
does it takes the lock of the configuration manager or that of the state manager, one after the
other; the calls to the machine take neither. The daemon documents an order of its locks, by
which the configuration manager comes before the state manager.

## Main definitions

* `Lock` — the locks of the daemon, in their order
* `Locked.handle` — the handlers with their locks

## Main results

* `Locked.erase_handle` — without its locks this is the handler
* `Locked.balanced_handle` — it takes its locks in their order
-/

namespace Segwire.Daemon

open Foundation Segwire.Common

/-- The threads of the daemon. -/
inductive DaemonThread
  | configMonitor | stateSync | main
  deriving DecidableEq, Repr

namespace DaemonThread

/-- The place of a thread among the threads. -/
def index : DaemonThread → Fin 3
  | configMonitor => 0
  | stateSync => 1
  | main => 2

theorem index_injective : Function.Injective index := by
  intro thread thread' h
  cases thread <;> cases thread' <;> first | rfl | exact absurd h (by decide)

instance : Finite DaemonThread := .of_injective index index_injective

instance : LinearOrder DaemonThread := LinearOrder.lift' index index_injective

end DaemonThread

/-- The locks of the daemon. A thread that is joined holds a lock for as long as it is alive. -/
inductive Lock
  | alive (thread : DaemonThread)
  | service
  | config
  | state
  deriving DecidableEq, Repr

namespace Lock

/-- Where a lock stands in the order. -/
def rank : Lock → ℕ
  | alive _ => 0
  | service => 1
  | config => 2
  | state => 3

instance : Preorder Lock := Preorder.lift rank

theorem lt_iff {lock lock' : Lock} : lock < lock' ↔ lock.rank < lock'.rank := Iff.rfl

instance (lock lock' : Lock) : Decidable (lock < lock') := decidable_of_iff _ lt_iff.symm

theorem rank_le (lock : Lock) : lock.rank ≤ 3 := by
  cases lock <;> simp [rank]

/-- There is no endless ascent. -/
instance : WellFoundedGT Lock where
  wf := by
    refine Subrelation.wf (fun {lock lock'} h => ?_) (measure fun lock : Lock => 3 - lock.rank).wf
    have hlt : lock'.rank < lock.rank := h
    have hle := rank_le lock
    change 3 - lock.rank < 3 - lock'.rank
    omega

end Lock

/-- What a handler does, with the locks that it takes. -/
abbrev LockedHandler (α : Type) := LockedTask Unit Lock Managers α

namespace Locked

/-- An action on the managers. -/
def change {α : Type} (body : Managers → α × Managers) : LockedHandler α := .atomic fun _ => body

/-- An action that only looks at the managers. -/
def look {α : Type} (f : Managers → α) : LockedHandler α := .atomic fun _ m => (f m, m)

/-! ### Helpers of the handlers -/

/-- Record a namespace that has been created. -/
def recordCreated (config : NamespaceConfig) (fullName : String) :
    SegwireResult NamespaceInfo → LockedHandler (SegwireResult String)
  | .error e => return .error e
  | .ok _ => do
    let configPath ← .locked .config (look fun m =>
      (m.configManager.getNamespaceConfig fullName).elim "" (·.filePath.display))
    .locked .state (change fun m =>
      let (now, m) := m.now
      let namespaceState := NamespaceState.new config.namespace_.name fullName configPath now
      (.ok fullName, { m with stateManager := m.stateManager.updateNamespaceState namespaceState }))

/-- Create a namespace from configuration. -/
def createNamespaceFromConfig (config : NamespaceConfig) :
    LockedHandler (SegwireResult String) := do
  let fullName ← .locked .config (look fun m =>
    m.configManager.generateFullNamespaceName config.namespace_.name)
  let created ← change (Managers.onMachine (·.createNamespace fullName))
  recordCreated config fullName created

/-- Forget a namespace that has been deleted. -/
def forgetDeleted (name fullName : String) :
    SegwireResult Unit → LockedHandler (SegwireResult Unit)
  | .error e => return .error e
  | .ok () => .locked .state (change fun m =>
      let stateManager := (m.stateManager.removeNamespaceState name).removeNamespaceState fullName
      (.ok (), { m with stateManager }))

/-- Delete a namespace by name. -/
def deleteNamespaceByName (name : String) : LockedHandler (SegwireResult Unit) := do
  let fullName ← .locked .config (look fun m => m.configManager.generateFullNamespaceName name)
  let tracked ← .locked .state (look fun m =>
    (m.stateManager.getNamespaceState name).isSome ||
      (m.stateManager.getNamespaceState fullName).isSome)
  if !tracked then return .error (.network ("Namespace '" ++ name ++ "' not found"))
  else
    let deleted ← change (Managers.onMachine (·.deleteNamespace fullName))
    forgetDeleted name fullName deleted

/-! ### Handlers -/

/-- `ListNamespaces` -/
def listNamespaces (order : IterOrder String) : LockedHandler (Except MethodErr Reply) := do
  let pfx ← .locked .config (look fun m => m.configManager.namespacePrefix)
  .locked .state (look fun m =>
    .ok (.namespaces ((m.stateManager.namespaceStates.iter order).map fun (_, ns) =>
      (ns.name, ns.status.asStr, ns.configPath, "Namespace managed by " ++ pfx))))

/-- `GetNamespaceStatus` -/
def getNamespaceStatus (name : String) : LockedHandler (Except MethodErr Reply) := do
  let fullName ← .locked .config (look fun m => m.configManager.generateFullNamespaceName name)
  .locked .state (look fun m =>
    match findNamespaceState fullName name m with
    | some ns => .ok (.namespaceStatus ns.name ns.fullName ns.status.asStr ns.configPath
        ns.createdAt ns.lastUpdated)
    | none => .error (namespaceNotFound name))

/-- The answer to `DeleteNamespace` -/
def deleteReply (name : String) : SegwireResult Unit → Except MethodErr Reply
  | .ok () => .ok (.operation ((OperationResult.successful
      ("Namespace '" ++ name ++ "' deleted successfully")).withDetail "namespace" name))
  | .error e => .ok (.operation (.failure ("Failed to delete namespace: " ++ e.display)))

/-- `DeleteNamespace` -/
def deleteNamespace (name : String) : LockedHandler (Except MethodErr Reply) := do
  let deleted ← deleteNamespaceByName name
  return deleteReply name deleted

/-- `ReloadConfiguration`; the files are read without a lock. -/
def reloadConfiguration (platform : Platform) : LockedHandler (Except MethodErr Reply) := do
  let configDir ← .locked .config (look fun m => m.configManager.configDirectory)
  look fun m =>
    match reloadAllConfigurations platform m.host.files configDir with
    | .ok (loadedCount, errorCount) =>
      .ok (.operation (reloadResult (loadedCount % 2 ^ 32) (errorCount % 2 ^ 32)))
    | .error e => .ok (.operation (.failure ("Configuration reload failed: " ++ e.display)))

/-- `ValidateConfiguration` -/
def validateConfiguration (platform : Platform) (parsePath : String → PathBuf)
    (configPath : String) : LockedHandler (Except MethodErr Reply) :=
  look fun m => .ok (.validation (validateConfigFile platform m.host.files (parsePath configPath)))

/-- `GetDaemonStatus`; here the lock of the states comes first, but is given back. -/
def getDaemonStatus (svc : ServiceState) : LockedHandler (Except MethodErr Reply) := do
  let now ← change Managers.now
  let uptime := (now - svc.daemonStartTime).toNat / 10 ^ 9
  let stateStats ← .locked .state (look fun m => m.stateManager.getStateStats)
  let totalConfigs ← .locked .config (look fun m =>
    m.configManager.namespaceConfigs.toMap.keys.card)
  return .ok (.daemonStatus "0.1.0" uptime (totalConfigs % 2 ^ 32)
    (stateStats.activeNamespaces % 2 ^ 32))

/-- The answer to `RestartNamespace` -/
def restartReply : SegwireResult String → Except MethodErr Reply
  | .ok fullName => .ok (.operation (.successful
      ("Namespace '" ++ fullName ++ "' restarted successfully")))
  | .error e => .ok (.operation (.failure ("Restart failed during recreation: " ++ e.display)))

/-- Recreate from config. -/
def recreate (config : NamespaceConfig) :
    SegwireResult Unit → LockedHandler (Except MethodErr Reply)
  | .error e => return .ok (.operation (.failure ("Restart failed during deletion: " ++ e.display)))
  | .ok () => do
    let created ← createNamespaceFromConfig config
    return restartReply created

/-- The restart with the configuration that was found. -/
def restartWith (name : String) : Option NamespaceConfig → LockedHandler (Except MethodErr Reply)
  | none => return .ok (.operation (.failure
      ("No configuration found for namespace '" ++ name ++ "', cannot restart")))
  | some config => do
    let deleted ← deleteNamespaceByName name
    recreate config deleted

/-- `RestartNamespace` -/
def restartNamespace (name : String) : LockedHandler (Except MethodErr Reply) := do
  let config ← .locked .config (look fun m =>
    ((m.configManager.getNamespaceConfig (m.configManager.generateFullNamespaceName name)).or
      (m.configManager.getNamespaceConfig name)).map NamespaceConfigEntry.config)
  restartWith name config

/-- `ExecAuthorize`, once the state has been looked up. -/
def authorizeActive (namespaceName fullName : String) :
    Option NamespaceState → LockedHandler (Except MethodErr Reply)
  | none => return .error (namespaceNotFound namespaceName)
  | some ns =>
    if ns.isActive then do
      let pathExists ← look fun m => m.host.netnsPathExists fullName
      if pathExists then return .ok (.nsPath ("/run/netns/" ++ fullName))
      else
        return .error (createMethodErr
          (.network ("Namespace path '" ++ ("/run/netns/" ++ fullName) ++ "' not found")))
    else
      return .error
        (createMethodErr (.network ("Namespace '" ++ namespaceName ++ "' is not active")))

/-- `ExecAuthorize` -/
def execAuthorize (namespaceName : String) : LockedHandler (Except MethodErr Reply) := do
  let fullName ← .locked .config (look fun m =>
    m.configManager.generateFullNamespaceName namespaceName)
  let nsState ← .locked .state (look (findNamespaceState fullName namespaceName))
  authorizeActive namespaceName fullName nsState

/-! ### Dispatch -/

/-- What a method does once its call is authorized. -/
def serve (svc : ServiceState) (sur : Surroundings) :
    Method → LockedHandler (Except MethodErr Reply)
  | .listNamespaces => listNamespaces sur.order
  | .getNamespaceStatus name => getNamespaceStatus name
  | .deleteNamespace name => deleteNamespace name
  | .reloadConfiguration => reloadConfiguration sur.platform
  | .validateConfiguration configPath =>
    validateConfiguration sur.platform sur.parsePath configPath
  | .getDaemonStatus => getDaemonStatus svc
  | .restartNamespace name => restartNamespace name
  | .execAuthorize namespaceName => execAuthorize namespaceName

/-- Serve a call that is authorized. -/
def authorize (svc : ServiceState) (sur : Surroundings) (caller : Caller) (method : Method) :
    LockedHandler (Except MethodErr Reply) :=
  match checkAuthorization svc sur.bus method.action caller with
  | .error e => return .error e
  | .ok () => serve svc sur method

/-- Handle a method call. The argument is checked before the service is locked. -/
def handle (svc : ServiceState) (sur : Surroundings) (caller : Caller) (method : Method) :
    LockedHandler (Except MethodErr Reply) :=
  match method.checkArgument sur.platform with
  | .error e => return .error (createMethodErr e.toSegwireError)
  | .ok () => .locked .service (authorize svc sur caller method)

/-! ### Without the locks -/

theorem erase_locked_bind {α β : Type} {lock : Lock} {t : LockedHandler α} {u : Handler α}
    {f : α → LockedHandler β} {g : α → Handler β} (ht : t.erase () = u)
    (hf : ∀ result, (f result).erase () = g result) :
    ((LockedTask.locked lock t) >>= f).erase () = u >>= g :=
  LockedTask.erase_bind_eq ((LockedTask.erase_locked t).trans ht) hf

theorem erase_createNamespaceFromConfig (config : NamespaceConfig) :
    (createNamespaceFromConfig config).erase () = Daemon.createNamespaceFromConfig config := by
  refine erase_locked_bind rfl fun fullName => LockedTask.erase_bind_eq rfl fun created => ?_
  cases created with
  | error e => rfl
  | ok info => rfl

theorem erase_deleteNamespaceByName (name : String) :
    (deleteNamespaceByName name).erase () = Daemon.deleteNamespaceByName name := by
  refine erase_locked_bind rfl fun fullName => erase_locked_bind rfl fun tracked => ?_
  cases tracked with
  | false => rfl
  | true =>
    refine LockedTask.erase_bind_eq rfl fun deleted => ?_
    cases deleted <;> rfl

theorem erase_deleteNamespace (name : String) :
    (deleteNamespace name).erase () = Daemon.deleteNamespace name := by
  refine LockedTask.erase_bind_eq (erase_deleteNamespaceByName name) fun deleted => ?_
  cases deleted <;> rfl

theorem erase_restartNamespace (name : String) :
    (restartNamespace name).erase () = Daemon.restartNamespace name := by
  refine erase_locked_bind rfl fun config => ?_
  cases config with
  | none => rfl
  | some config =>
    refine LockedTask.erase_bind_eq (erase_deleteNamespaceByName name) fun deleted => ?_
    cases deleted with
    | error e => rfl
    | ok accepted =>
      refine LockedTask.erase_bind_eq (erase_createNamespaceFromConfig config) fun created => ?_
      cases created <;> rfl

theorem erase_execAuthorize (namespaceName : String) :
    (execAuthorize namespaceName).erase () = Daemon.execAuthorize namespaceName := by
  refine erase_locked_bind rfl fun fullName => erase_locked_bind rfl fun nsState => ?_
  cases nsState with
  | none => rfl
  | some ns =>
    unfold authorizeActive
    dsimp only
    split_ifs
    · refine LockedTask.erase_bind_eq rfl fun pathExists => ?_
      cases pathExists <;> rfl
    · rfl

theorem erase_serve (svc : ServiceState) (sur : Surroundings) (method : Method) :
    (serve svc sur method).erase () = svc.serve sur method := by
  cases method with
  | listNamespaces => rfl
  | getNamespaceStatus name => rfl
  | deleteNamespace name => exact erase_deleteNamespace name
  | reloadConfiguration => rfl
  | validateConfiguration configPath => rfl
  | getDaemonStatus => rfl
  | restartNamespace name => exact erase_restartNamespace name
  | execAuthorize namespaceName => exact erase_execAuthorize namespaceName

/-- Without its locks, this is the handler. -/
theorem erase_handle (svc : ServiceState) (sur : Surroundings) (caller : Caller)
    (method : Method) :
    (handle svc sur caller method).erase () = svc.handle sur caller method := by
  unfold handle ServiceState.handle
  cases method.checkArgument sur.platform with
  | error e => rfl
  | ok accepted =>
    refine (LockedTask.erase_locked _).trans ?_
    unfold authorize
    cases checkAuthorization svc sur.bus method.action caller with
    | error e => rfl
    | ok authorized => exact erase_serve svc sur method

/-! ### The order of the locks -/

open LockedTask (balanced_pure)

theorem balanced_change {α : Type} {held : Set Lock} (body : Managers → α × Managers) :
    (change body).Balanced held := LockedTask.balanced_atomic _

theorem balanced_look {α : Type} {held : Set Lock} (f : Managers → α) : (look f).Balanced held :=
  LockedTask.balanced_atomic _

/-- A section under the lock of a manager, in a handler that holds the lock of the service. -/
theorem balanced_section {α : Type} {t : LockedHandler α} {lock : Lock}
    (h : t.Balanced {lock, .service}) (hlt : .service < lock) :
    (LockedTask.locked lock t).Balanced {.service} :=
  h.locked fun _ hmem => Set.mem_singleton_iff.mp hmem ▸ hlt

theorem balanced_lookConfig {α : Type} (f : Managers → α) :
    (LockedTask.locked .config (look f)).Balanced {.service} :=
  balanced_section (balanced_look f) (by decide)

theorem balanced_lookState {α : Type} (f : Managers → α) :
    (LockedTask.locked .state (look f)).Balanced {.service} :=
  balanced_section (balanced_look f) (by decide)

theorem balanced_recordCreated (config : NamespaceConfig) (fullName : String)
    (created : SegwireResult NamespaceInfo) :
    (recordCreated config fullName created).Balanced {.service} := by
  cases created with
  | error e => exact balanced_pure _
  | ok info =>
    refine (balanced_lookConfig _).bind fun configPath => ?_
    exact balanced_section (balanced_change _) (by decide)

theorem balanced_createNamespaceFromConfig (config : NamespaceConfig) :
    (createNamespaceFromConfig config).Balanced {.service} := by
  refine (balanced_lookConfig _).bind fun fullName => ?_
  exact (balanced_change _).bind fun created => balanced_recordCreated _ _ _

theorem balanced_deleteNamespaceByName (name : String) :
    (deleteNamespaceByName name).Balanced {.service} := by
  refine (balanced_lookConfig _).bind fun fullName => ?_
  refine (balanced_lookState _).bind fun tracked => ?_
  split_ifs
  · exact balanced_pure _
  · refine (balanced_change _).bind fun deleted => ?_
    cases deleted with
    | error e => exact balanced_pure _
    | ok deletion => exact balanced_section (balanced_change _) (by decide)

theorem balanced_restartNamespace (name : String) :
    (restartNamespace name).Balanced {.service} := by
  refine (balanced_lookConfig _).bind fun config => ?_
  cases config with
  | none => exact balanced_pure _
  | some config =>
    refine (balanced_deleteNamespaceByName name).bind fun deleted => ?_
    cases deleted with
    | error e => exact balanced_pure _
    | ok deletion =>
      exact (balanced_createNamespaceFromConfig config).bind fun _ => balanced_pure _

theorem balanced_execAuthorize (namespaceName : String) :
    (execAuthorize namespaceName).Balanced {.service} := by
  refine (balanced_lookConfig _).bind fun fullName => ?_
  refine (balanced_lookState _).bind fun nsState => ?_
  cases nsState with
  | none => exact balanced_pure _
  | some ns =>
    unfold authorizeActive
    dsimp only
    split_ifs
    · refine (balanced_look _).bind fun pathExists => ?_
      split_ifs <;> exact balanced_pure _
    · exact balanced_pure _

theorem balanced_serve (svc : ServiceState) (sur : Surroundings) (method : Method) :
    (serve svc sur method).Balanced {.service} := by
  -- most methods read the configurations and then the states
  have hread {α β : Type} (f : Managers → α) (g : α → Managers → β) :
      (do
        let result ← .locked .config (look f)
        .locked .state (look (g result)) : LockedHandler β).Balanced {.service} :=
    (balanced_lookConfig _).bind fun _ =>
      balanced_lookState _
  cases method with
  | listNamespaces => exact hread _ _
  | getNamespaceStatus name => exact hread _ _
  | deleteNamespace name =>
    exact (balanced_deleteNamespaceByName name).bind fun _ => balanced_pure _
  | reloadConfiguration =>
    exact (balanced_lookConfig _).bind fun _ => balanced_look _
  | validateConfiguration configPath => exact balanced_look _
  | getDaemonStatus =>
    refine (balanced_change _).bind fun now => ?_
    refine (balanced_lookState _).bind fun stateStats => ?_
    exact (balanced_lookConfig _).bind fun _ => balanced_pure _
  | restartNamespace name => exact balanced_restartNamespace name
  | execAuthorize namespaceName => exact balanced_execAuthorize namespaceName

/-- A handler takes its locks in their order, and gives all of them back. -/
theorem balanced_handle (svc : ServiceState) (sur : Surroundings) (caller : Caller)
    (method : Method) : (handle svc sur caller method).Balanced ∅ := by
  unfold handle
  cases method.checkArgument sur.platform with
  | error e => exact balanced_pure _
  | ok accepted =>
    refine LockedTask.Balanced.locked ?_ fun _ hmem => hmem.elim
    rw [insert_empty_eq]
    unfold authorize
    cases checkAuthorization svc sur.bus method.action caller with
    | error e => exact balanced_pure _
    | ok authorized => exact balanced_serve svc sur method

end Locked

end Segwire.Daemon
