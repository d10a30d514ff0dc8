import Segwire.Daemon.NamespaceState
import Segwire.Daemon.PolicyKit
import Segwire.Daemon.DbusConfigFiles
import Segwire.Foundation.Task

/-!
# The D-Bus service

The handlers of the service's methods. A handler checks its argument and the
caller's authorization, and then works on what the configuration manager and the
state manager hold, locking one of them at a time: other threads may act between
two sections of a handler.

## Main definitions

* `Managers` — what the locks guard
* `ServiceState`, `ServiceState.new` — the service and its authorizer
* `Method`, `Reply`, `ServiceState.handle` — the methods and their handlers
-/

namespace Segwire.Daemon

open Foundation Segwire.Common

/-- What the locks guard. -/
structure Managers where
  configManager : ConfigManager
  stateManager : NamespaceStateManager

namespace Managers

/-- The machine that the daemon runs on. -/
def host (m : Managers) : Host := m.stateManager.netlinkManager.host

/-- The managers on a changed machine. -/
def setHost (m : Managers) (host : Host) : Managers :=
  let netlinkManager := { m.stateManager.netlinkManager with host }
  { m with stateManager := { m.stateManager with netlinkManager } }

/-- The tracked status of a name is active. -/
def IsActive (m : Managers) (k : String) : Prop :=
  ∃ state, m.stateManager.namespaceStates.lookup k = some state ∧ state.status = .active

/-- `SystemTime::now()` -/
def now (m : Managers) : SystemTime × Managers :=
  let (time, host) := m.host.now
  (time, m.setHost host)

/-- An operation of a netlink manager of its own, `NetlinkManager::new()?`. -/
def onMachine {α : Type} (operation : NetlinkManager → SegwireResult α × NetlinkManager)
    (m : Managers) : SegwireResult α × Managers :=
  match NetlinkManager.new m.host with
  | (.error e, host) => (.error e, m.setHost host)
  | (.ok netlinkManager, _) =>
    -- the manager made here is dropped, and its effects on the machine remain
    let (result, netlinkManager) := operation netlinkManager
    (result, m.setHost netlinkManager.host)

theorem configManager_onMachine {α : Type}
    (operation : NetlinkManager → SegwireResult α × NetlinkManager) (m : Managers) :
    (onMachine operation m).2.configManager = m.configManager := by
  unfold onMachine
  split <;> rfl

theorem namespaceStates_onMachine {α : Type}
    (operation : NetlinkManager → SegwireResult α × NetlinkManager) (m : Managers) :
    (onMachine operation m).2.stateManager.namespaceStates = m.stateManager.namespaceStates := by
  unfold onMachine
  split <;> rfl

end Managers

/-- The message of a `dbus_crossroads::MethodErr`. -/
abbrev MethodErr := String

/-- What a handler does. -/
abbrev Handler (α : Type) := Task Managers α

/-- Shared state of the method handlers, apart from the managers. -/
structure ServiceState where
  daemonStartTime : SystemTime
  authorizer : Option PolicyKitAuthorizer

/-- Build the service state. The authorizer is left out on the session bus, and when
its connection cannot be opened. -/
def ServiceState.new (useSessionBus : Bool) (authConnection : Except String Unit)
    (daemonStartTime : SystemTime) : ServiceState where
  daemonStartTime
  authorizer :=
    if useSessionBus then none
    else
      match PolicyKitAuthorizer.new authConnection with
      | .ok auth => some auth
      -- the error is logged, and the service goes without authorization
      | .error _ => none

/-- Create a dbus-crossroads MethodErr from a SegwireError. -/
def createMethodErr (error : SegwireError) : MethodErr := error.toDbusError.message

/-- Check authorization for a D-Bus method call. -/
def checkAuthorization (svc : ServiceState) (bus : Bus) (action : String) (caller : Caller) :
    Except MethodErr Unit :=
  match svc.authorizer with
  | some authorizer => (authorizer.checkAuthorization bus action caller).mapError createMethodErr
  -- without an authorizer everybody passes
  | none => .ok ()

/-- The methods of the interface with their arguments. -/
inductive Method
  | listNamespaces
  | getNamespaceStatus (name : String)
  | deleteNamespace (name : String)
  | reloadConfiguration
  | validateConfiguration (configPath : String)
  | getDaemonStatus
  | restartNamespace (name : String)
  | execAuthorize (namespaceName : String)
  deriving DecidableEq, Repr

/-- The operation that authorization is checked for. -/
def Method.action : Method → String
  | listNamespaces => "list"
  | getNamespaceStatus _ | getDaemonStatus => "status"
  | deleteNamespace _ => "delete"
  | reloadConfiguration => "reload"
  | validateConfiguration _ => "validate"
  | restartNamespace _ => "restart"
  | execAuthorize _ => "exec"

/-- What the methods return. -/
inductive Reply
  | namespaces (namespaces : List (String × String × String × String))
  | namespaceStatus (name fullName status configPath : String) (createdAt lastUpdated : Nat)
  | operation (result : OperationResult)
  | validation (result : ValidationResult)
  | daemonStatus (version : String) (uptime managedCount activeCount : Nat)
  | nsPath (path : String)
  deriving DecidableEq

/-! ### Helpers of the handlers -/

/-- Create a namespace from configuration. -/
def createNamespaceFromConfig (config : NamespaceConfig) : Handler (SegwireResult String) := do
  let fullName ← .read fun m => m.configManager.generateFullNamespaceName config.namespace_.name
  let created ← .atomic (Managers.onMachine (·.createNamespace fullName))
  match created with
  | .error e => return .error e
  | .ok _ =>
    let configPath ← .read fun m =>
      (m.configManager.getNamespaceConfig fullName).elim "" (·.filePath.display)
    .atomic fun m =>
      let (now, m) := m.now
      -- the state stays as it is made, being created
      let namespaceState := NamespaceState.new config.namespace_.name fullName configPath now
      (.ok fullName, { m with stateManager := m.stateManager.updateNamespaceState namespaceState })

/-- Delete a namespace by name. -/
def deleteNamespaceByName (name : String) : Handler (SegwireResult Unit) := do
  let fullName ← .read fun m => m.configManager.generateFullNamespaceName name
  let tracked ← .read fun m =>
    -- a state under either name will do, but the namespace of the full name is deleted
    (m.stateManager.getNamespaceState name).isSome ||
      (m.stateManager.getNamespaceState fullName).isSome
  if !tracked then return .error (.network ("Namespace '" ++ name ++ "' not found"))
  else
    let deleted ← .atomic (Managers.onMachine (·.deleteNamespace fullName))
    match deleted with
    | .error e => return .error e
    | .ok () =>
      .atomic fun m =>
        let stateManager := (m.stateManager.removeNamespaceState name).removeNamespaceState fullName
        (.ok (), { m with stateManager })

/-- The state found under the full name, else under the name itself. -/
def findNamespaceState (fullName name : String) (m : Managers) : Option NamespaceState :=
  (m.stateManager.getNamespaceState fullName).or (m.stateManager.getNamespaceState name)

/-- The error for a name without state. -/
def namespaceNotFound (name : String) : MethodErr :=
  createMethodErr
    (DbusError.namespaceNotFound ("Namespace '" ++ name ++ "' not found")).toSegwireError

/-! ### Handlers, once the call is authorized -/

/-- `ListNamespaces`; the states come in the order of the map. -/
def listNamespaces (order : IterOrder String) : Handler (Except MethodErr Reply) := do
  let pfx ← .read fun m => m.configManager.namespacePrefix
  .read fun m => .ok (.namespaces ((m.stateManager.namespaceStates.iter order).map fun (_, ns) =>
    (ns.name, ns.status.asStr, ns.configPath, "Namespace managed by " ++ pfx)))

/-- `GetNamespaceStatus` -/
def getNamespaceStatus (name : String) : Handler (Except MethodErr Reply) := do
  let fullName ← .read fun m => m.configManager.generateFullNamespaceName name
  .read fun m =>
    match findNamespaceState fullName name m with
    | some ns => .ok (.namespaceStatus ns.name ns.fullName ns.status.asStr ns.configPath
        ns.createdAt ns.lastUpdated)
    | none => .error (namespaceNotFound name)

/-- `DeleteNamespace` -/
def deleteNamespace (name : String) : Handler (Except MethodErr Reply) := do
  match ← deleteNamespaceByName name with
  | .ok () => return .ok (.operation ((OperationResult.successful
      ("Namespace '" ++ name ++ "' deleted successfully")).withDetail "namespace" name))
  | .error e => return .ok (.operation (.failure ("Failed to delete namespace: " ++ e.display)))

/-- The result of a reload with its counts. -/
def reloadResult (loadedCount errorCount : Nat) : OperationResult :=
  let message :=
    if errorCount = 0 then "Successfully reloaded " ++ toString loadedCount ++ " configurations"
    else "Reloaded " ++ toString loadedCount ++ " configurations with " ++ toString errorCount ++
      " errors"
  ((OperationResult.successful message).withDetail "loaded_count" (toString loadedCount)).withDetail
    "error_count" (toString errorCount)

/-- `ReloadConfiguration` -/
def reloadConfiguration (platform : Platform) : Handler (Except MethodErr Reply) := do
  let configDir ← .read fun m => m.configManager.configDirectory
  .read fun m =>
    -- the files are counted; the loaded entries are not replaced
    match reloadAllConfigurations platform m.host.files configDir with
    | .ok (loadedCount, errorCount) =>
      .ok (.operation (reloadResult (loadedCount % 2 ^ 32) (errorCount % 2 ^ 32)))
    | .error e => .ok (.operation (.failure ("Configuration reload failed: " ++ e.display)))

/-- `ValidateConfiguration` -/
def validateConfiguration (platform : Platform) (parsePath : String → PathBuf)
    (configPath : String) : Handler (Except MethodErr Reply) :=
  .read fun m => .ok (.validation (validateConfigFile platform m.host.files (parsePath configPath)))

/-- `GetDaemonStatus` -/
def getDaemonStatus (svc : ServiceState) : Handler (Except MethodErr Reply) := do
  let now ← .atomic Managers.now
  let uptime := (now - svc.daemonStartTime).toNat / 10 ^ 9
  let stateStats ← .read fun m => m.stateManager.getStateStats
  let totalConfigs ← .read fun m => m.configManager.namespaceConfigs.toMap.keys.card
  return .ok (.daemonStatus "0.1.0" uptime (totalConfigs % 2 ^ 32)
    (stateStats.activeNamespaces % 2 ^ 32))

/-- `RestartNamespace` -/
def restartNamespace (name : String) : Handler (Except MethodErr Reply) := do
  let config ← .read fun m =>
    ((m.configManager.getNamespaceConfig (m.configManager.generateFullNamespaceName name)).or
      (m.configManager.getNamespaceConfig name)).map NamespaceConfigEntry.config
  match config with
  | none => return .ok (.operation (.failure
      ("No configuration found for namespace '" ++ name ++ "', cannot restart")))
  | some config =>
    match ← deleteNamespaceByName name with
    | .error e =>
      return .ok (.operation (.failure ("Restart failed during deletion: " ++ e.display)))
    | .ok () =>
      match ← createNamespaceFromConfig config with
      | .ok fullName => return .ok (.operation (.successful
          ("Namespace '" ++ fullName ++ "' restarted successfully")))
      | .error e =>
        return .ok (.operation (.failure ("Restart failed during recreation: " ++ e.display)))

/-- `ExecAuthorize` -/
def execAuthorize (namespaceName : String) : Handler (Except MethodErr Reply) := do
  let fullName ← .read fun m => m.configManager.generateFullNamespaceName namespaceName
  let nsState ← .read (findNamespaceState fullName namespaceName)
  match nsState with
  | none => return .error (namespaceNotFound namespaceName)
  | some ns =>
    if ns.isActive then
      let nsPath := "/run/netns/" ++ fullName
      -- the path is built from the full name, under whichever name the state was found
      let pathExists ← .read fun m => m.host.netnsPathExists fullName
      if pathExists then return .ok (.nsPath nsPath)
      else
        return .error (createMethodErr (.network ("Namespace path '" ++ nsPath ++ "' not found")))
    else
      return .error
        (createMethodErr (.network ("Namespace '" ++ namespaceName ++ "' is not active")))

/-! ### Dispatch -/

/-- What the service does not determine: the third-party code, how a path is parsed,
the iteration order of the states, and what the bus answers. -/
structure Surroundings where
  platform : Platform
  parsePath : String → PathBuf
  order : IterOrder String
  bus : Bus

/-- The check of a method's argument. -/
def Method.checkArgument (platform : Platform) : Method → Except DbusError Unit
  | getNamespaceStatus name | deleteNamespace name | restartNamespace name | execAuthorize name =>
    InterfaceHelpers.validateNamespaceName platform.isAlphanumeric name
  | validateConfiguration configPath => InterfaceHelpers.validateConfigPath configPath
  | listNamespaces | reloadConfiguration | getDaemonStatus => .ok ()

/-- What a method does once its call is authorized. -/
def ServiceState.serve (svc : ServiceState) (sur : Surroundings) :
    Method → Handler (Except MethodErr Reply)
  | .listNamespaces => Daemon.listNamespaces sur.order
  | .getNamespaceStatus name => Daemon.getNamespaceStatus name
  | .deleteNamespace name => Daemon.deleteNamespace name
  | .reloadConfiguration => Daemon.reloadConfiguration sur.platform
  | .validateConfiguration configPath =>
    Daemon.validateConfiguration sur.platform sur.parsePath configPath
  | .getDaemonStatus => Daemon.getDaemonStatus svc
  | .restartNamespace name => Daemon.restartNamespace name
  | .execAuthorize namespaceName => Daemon.execAuthorize namespaceName

/-- Handle a method call: check its argument, then the caller's authorization, and
only then serve it. -/
def ServiceState.handle (svc : ServiceState) (sur : Surroundings) (caller : Caller)
    (method : Method) : Handler (Except MethodErr Reply) :=
  match method.checkArgument sur.platform with
  | .error e => .done (.error (createMethodErr e.toSegwireError))
  | .ok () =>
    match checkAuthorization svc sur.bus method.action caller with
    | .error e => .done (.error e)
    | .ok () => svc.serve sur method

end Segwire.Daemon
