import Segwire.Daemon.ConfigManager
import Segwire.Daemon.NetlinkManager
import Segwire.Common.Dbus

/-!
# Namespace state management

The states that the daemon tracks for its namespaces, and their synchronization
with the loaded configurations and with the namespaces in the system. A namespace
is created with its interfaces, routes and DNS settings; the requests for these may
fail without the creation failing.

## Main definitions

* `NamespaceStateManager` — the tracked states and the netlink manager
* `NamespaceStateManager.createNewNamespace`, `updateExistingNamespace`
* `NamespaceStateManager.processConfiguredNamespace` — one configured namespace
* `NamespaceStateManager.synchronizeState` — the synchronization
* `NamespaceStateManager.resolveConflict`, `performMaintenance`
-/

namespace Segwire.Daemon

open Foundation Foundation.Text Segwire.Common

/-- The tracked states by their full names. -/
abbrev NamespaceStates := KeyedMap NamespaceState.fullName

/-- In-memory state manager for network namespaces. -/
structure NamespaceStateManager where
  namespaceStates : NamespaceStates
  netlinkManager : NetlinkManager
  lastSync : SystemTime
  syncInterval : Duration

/-- Possible resolutions for conflicts. -/
inductive ConflictResolution
  | createNamespace | deleteNamespace
  deriving DecidableEq, Repr

/-- A conflict between configuration and actual state. -/
structure StateConflict where
  namespaceName : String
  description : String
  resolution : ConflictResolution
  deriving DecidableEq, Repr

/-- Result of state synchronization operation. -/
structure SyncResult where
  created : List String
  updated : List String
  deleted : List String
  conflicts : List StateConflict
  errors : List String
  deriving DecidableEq, Repr

/-- Action taken during state synchronization. -/
inductive SyncAction
  | created | updated | conflict (conflict : StateConflict) | noChange
  deriving DecidableEq, Repr

/-- The orders in which a synchronization iterates over the configurations, the
actual namespaces and the tracked states. -/
structure SyncOrders where
  configs : IterOrder String
  actual : IterOrder String
  states : IterOrder String

/-! ### The settings of a namespace -/

/-- The interfaces that a configuration gives, up or down. -/
def configuredInterfaces (config : NamespaceConfig) (active : Bool) : List InterfaceInfo :=
  let status := if active then "up" else "down"
  config.interfaces.moveInterfaces.map (fun name => ⟨name, "physical", status, []⟩) ++
    config.interfaces.virtualInterfaces.map fun vif => ⟨vif.name, vif.interfaceType, status, []⟩

/-- The routes that a configuration gives, the default gateway last. -/
def configuredRoutes (config : NamespaceConfig) : List RouteInfo :=
  config.routing.routes.map (fun route =>
    ⟨route.destination, route.gateway, route.metric.getD 0, ""⟩) ++
    config.routing.defaultGateway.toList.map fun gateway => ⟨"default", gateway, 0, ""⟩

/-- Update state information from configuration and actual namespace data. -/
def updateStateFromConfigAndActual (configEntry : NamespaceConfigEntry)
    (actualInfo : NamespaceInfo) (now : SystemTime) (state : NamespaceState) : NamespaceState :=
  -- the settings are those of the configuration, whatever the system has; an inactive namespace
  -- keeps its status
  { state with
    interfaces := configuredInterfaces configEntry.config actualInfo.active
    routes := configuredRoutes configEntry.config
    dnsConfig := ⟨configEntry.config.dns.servers, configEntry.config.dns.search⟩
    status := if actualInfo.active then .active else state.status }.touch now

/-- The drift that is detected: a namespace of the system that is not active. -/
def hasConfigurationDrift (actualInfo : NamespaceInfo) : Bool := !actualInfo.active

/-- Check if a namespace needs to be updated based on configuration changes. -/
def needsNamespaceUpdate (currentState : NamespaceState) (configEntry : NamespaceConfigEntry)
    (actualInfo : NamespaceInfo) : Bool :=
  -- both sides are whole seconds
  decide (currentState.lastUpdated < unixSeconds configEntry.lastModified) ||
    hasConfigurationDrift actualInfo

namespace NetlinkManager

variable (netlink : NetlinkManager) (fullName : String)

/-- The reason why a text is no `u8`. -/
def u8ParseError (text : List Char) : String :=
  match text with
  | [] => "cannot parse integer from empty string"
  | '+' :: digits => go 0 digits
  | digits => go 0 digits
where
  go (value : Nat) : List Char → String
    | [] => "invalid digit found in string"
    | c :: rest =>
      if !c.isDigit then "invalid digit found in string"
      else if 255 < 10 * value + (c.toNat - '0'.toNat) then "number too large to fit in target type"
      else go (10 * value + (c.toNat - '0'.toNat)) rest

/-- Parse a CIDR address string and apply it to an interface inside a namespace. -/
def applyAddressInNamespace (ifname addrCidr : String) : SegwireResult Unit × NetlinkManager :=
  match splitOnce ['/'] addrCidr.toList with
  | none =>
    (.error (.config (.invalidValue "addresses" ("missing prefix length in '" ++ addrCidr ++ "'"))),
      netlink)
  | some (ipStr, prefixStr) =>
    match IpAddr.parse ipStr with
    | none =>
      (.error (.config (.invalidValue "addresses"
        ("invalid IP '" ++ String.ofList ipStr ++ "': invalid IP address syntax"))), netlink)
    | some addr =>
      match parseU8 prefixStr with
      | none =>
        (.error (.config (.invalidValue "addresses" ("invalid prefix length '" ++
          String.ofList prefixStr ++ "': " ++ u8ParseError prefixStr))), netlink)
      | some prefixLen => netlink.addAddressInNamespace fullName ifname addr prefixLen

/-- Assign the addresses of an interface and bring it up. -/
def bringUp (vif : VirtualInterface) : NetlinkManager :=
  let netlink := vif.addresses.foldl
    (fun netlink addrCidr => (netlink.applyAddressInNamespace fullName vif.name addrCidr).2) netlink
  (netlink.setLinkUpInNamespace fullName vif.name).2

/-- A veth pair: one end is moved into the namespace and brought up there, the other
is brought up on the host. -/
def applyVeth (vif : VirtualInterface) (peer : String) : NetlinkManager :=
  match netlink.createVethPair vif.name peer with
  | (.error _, netlink) => netlink
  | (.ok (), netlink) =>
    let netlink :=
      match netlink.moveInterfaceToNamespace vif.name fullName with
      | (.error _, netlink) => netlink
      | (.ok (), netlink) => netlink.bringUp fullName vif
    -- the host end is brought up even if the other one could not be moved
    (netlink.setLinkUp peer).2

/-- A WireGuard interface: it is created, brought up and configured. -/
def applyWireguard (config : NamespaceConfig) (vif : VirtualInterface) : NetlinkManager :=
  match netlink.createWireguardInterface fullName vif.name with
  | (.error _, netlink) => netlink
  | (.ok (), netlink) =>
    let netlink := netlink.bringUp fullName vif
    match config.wireguard with
    | none => netlink
    | some wgConfig => (netlink.configureWireguard fullName vif.name wgConfig).2

/-- Any other interface: it is created and brought up. -/
def applyOther (vif : VirtualInterface) : NetlinkManager :=
  match netlink.createVirtualInterface fullName vif.name vif.interfaceType with
  | (.error _, netlink) => netlink
  | (.ok (), netlink) => netlink.bringUp fullName vif

/-- Apply a virtual interface. -/
def applyVirtualInterface (config : NamespaceConfig) (vif : VirtualInterface) : NetlinkManager :=
  if vif.interfaceType = "veth" then
    -- without a peer the interface is passed over
    match vif.peer with
    | none => netlink
    | some peer => netlink.applyVeth fullName vif peer
  else if vif.interfaceType = "wireguard" then netlink.applyWireguard fullName config vif
  else netlink.applyOther fullName vif

/-- Apply the interfaces: the virtual ones, then the moved ones. -/
def applyInterfaces (config : NamespaceConfig) : NetlinkManager :=
  let netlink := config.interfaces.virtualInterfaces.foldl
    (fun netlink vif => netlink.applyVirtualInterface fullName config vif) netlink
  config.interfaces.moveInterfaces.foldl
    (fun netlink iface => (netlink.moveInterfaceToNamespace iface fullName).2) netlink

/-- Apply the routes, the default gateway and the DNS settings. -/
def applyRoutesAndDns (config : NamespaceConfig) : NetlinkManager :=
  let routes : List RouteConfig :=
    config.routing.routes.map
        (fun route => ⟨route.destination, route.gateway, none, route.metric⟩) ++
      config.routing.defaultGateway.toList.map fun gateway => ⟨"default", gateway, none, none⟩
  let netlink := routes.foldl
    (fun netlink route => (netlink.addRouteToNamespace fullName route).2) netlink
  if config.dns.servers = [] then netlink
  else (netlink.configureNamespaceDns fullName ⟨config.dns.servers, config.dns.search, []⟩).2

end NetlinkManager

namespace NamespaceStateManager

/-- Create a new namespace state manager over a netlink manager. -/
def new (netlinkManager : NetlinkManager) : NamespaceStateManager :=
  ⟨.empty, netlinkManager, 0, Duration.fromSecs 30⟩

variable (manager : NamespaceStateManager)

/-- `SystemTime::now()` -/
def now : SystemTime × NamespaceStateManager :=
  let (time, host) := manager.netlinkManager.host.now
  (time, { manager with netlinkManager := { manager.netlinkManager with host } })

/-- Get the state of a specific namespace. -/
def getNamespaceState (name : String) : Option NamespaceState :=
  manager.namespaceStates.lookup name

/-- Add or update a namespace state. -/
def updateNamespaceState (state : NamespaceState) : NamespaceStateManager :=
  { manager with namespaceStates := manager.namespaceStates.insert state }

/-- Remove a namespace state. -/
def removeNamespaceState (name : String) : NamespaceStateManager :=
  { manager with namespaceStates := manager.namespaceStates.erase name }

/-- Change a tracked state in place, at the time of the change. -/
def modifyState (name : String) (change : SystemTime → NamespaceState → NamespaceState) :
    NamespaceStateManager :=
  match manager.getNamespaceState name with
  | none => manager
  | some state =>
    let (now, manager) := manager.now
    manager.updateNamespaceState (change now state)

/-- Track the namespace of a configuration as being created. -/
def trackCreation (configEntry : NamespaceConfigEntry) : NamespaceStateManager :=
  let (now, manager) := manager.now
  let state := NamespaceState.new configEntry.config.namespace_.name configEntry.fullName
    configEntry.filePath.display now
  let (now, manager) := manager.now
  manager.updateNamespaceState (state.setStatus .creating now)

/-- Create a new namespace from configuration. -/
def createNewNamespace (configEntry : NamespaceConfigEntry) :
    SegwireResult SyncAction × NamespaceStateManager :=
  let fullName := configEntry.fullName
  let manager := manager.trackCreation configEntry
  match manager.netlinkManager.createNamespace fullName with
  | (.ok namespaceInfo, netlink) =>
    -- from here on failures are logged, and the creation succeeds all the same
    let netlink := netlink.applyInterfaces fullName configEntry.config
    let netlink := netlink.applyRoutesAndDns fullName configEntry.config
    let manager := { manager with netlinkManager := netlink }
    let manager := manager.modifyState fullName fun now state => state.setStatus .active now
    let manager := manager.modifyState fullName
      (updateStateFromConfigAndActual configEntry namespaceInfo)
    (.ok .created, manager)
  | (.error e, netlink) =>
    let manager := { manager with netlinkManager := netlink }
    let manager := manager.modifyState fullName fun now state => state.setStatus .failed now
    (.error e, manager)

/-- Update an existing namespace to match configuration. Interface moves are not
idempotent, so they are skipped. -/
def updateExistingNamespace (configEntry : NamespaceConfigEntry) (actualInfo : NamespaceInfo) :
    SegwireResult SyncAction × NamespaceStateManager :=
  let fullName := configEntry.fullName
  let netlink := manager.netlinkManager.applyRoutesAndDns fullName configEntry.config
  let manager := { manager with netlinkManager := netlink }
  let manager := manager.modifyState fullName fun now state => state.touch now
  let manager := manager.modifyState fullName
    (updateStateFromConfigAndActual configEntry actualInfo)
  (.ok .updated, manager)

/-- Create state entry from existing namespace. -/
def createStateFromActual (configEntry : NamespaceConfigEntry) (actualInfo : NamespaceInfo) :
    NamespaceState × NamespaceStateManager :=
  let (now, manager) := manager.now
  let state := NamespaceState.new configEntry.config.namespace_.name configEntry.fullName
    configEntry.filePath.display now
  let (now, manager) := manager.now
  let state := state.setStatus .active now
  let (now, manager) := manager.now
  (updateStateFromConfigAndActual configEntry actualInfo now state, manager)

/-- The conflict of a tracked namespace that is not in the system. -/
def missingConflict (fullName : String) : StateConflict where
  namespaceName := fullName
  description := "Namespace '" ++ fullName ++ "' is tracked but doesn't exist in system"
  resolution := .createNamespace

/-- The conflict of a namespace in the system that has no configuration. -/
def orphanConflict (actualName : String) : StateConflict where
  namespaceName := actualName
  description := "Namespace '" ++ actualName ++ "' exists in system but has no configuration file"
  resolution := .deleteNamespace

/-- Process a single configured namespace during synchronization. -/
def processConfiguredNamespace (configEntry : NamespaceConfigEntry)
    (actualNamespaces : KeyedMap NamespaceInfo.name) :
    SegwireResult SyncAction × NamespaceStateManager :=
  let fullName := configEntry.fullName
  match manager.getNamespaceState fullName, actualNamespaces.lookup fullName with
  | some state, some actual =>
    if needsNamespaceUpdate state configEntry actual then
      manager.updateExistingNamespace configEntry actual
    else (.ok .noChange, manager.modifyState fullName fun now state => state.touch now)
  -- the namespace is not created again; that is left to whoever resolves the conflict
  | some _, none => (.ok (.conflict (missingConflict fullName)), manager)
  -- a namespace found in the system is adopted as it is
  | none, some actual =>
    let (state, manager) := manager.createStateFromActual configEntry actual
    (.ok .updated, manager.updateNamespaceState state)
  | none, none => manager.createNewNamespace configEntry

end NamespaceStateManager

namespace SyncResult

/-- The result before anything is done. -/
def empty : SyncResult := ⟨[], [], [], [], []⟩

/-- Record the action taken for a configured namespace. -/
def record (result : SyncResult) (configName : String) : SegwireResult SyncAction → SyncResult
  | .ok .created => { result with created := result.created ++ [configName] }
  | .ok .updated => { result with updated := result.updated ++ [configName] }
  | .ok (.conflict conflict) => { result with conflicts := result.conflicts ++ [conflict] }
  | .ok .noChange => result
  | .error e =>
    { result with
      errors := result.errors ++ ["Failed to process " ++ configName ++ ": " ++ e.display] }

end SyncResult

namespace NamespaceStateManager

/-- One iteration of the loop over the configurations. -/
def syncConfigured (managed : KeyedMap NamespaceInfo.name)
    (acc : SyncResult × NamespaceStateManager)
    (entry : String × NamespaceConfigEntry) : SyncResult × NamespaceStateManager :=
  let (action, manager) := acc.2.processConfiguredNamespace entry.2 managed
  (acc.1.record entry.1 action, manager)

/-- The actual namespaces that carry the daemon's prefix. -/
def managedActual (configManager : ConfigManager) (actual : KeyedMap NamespaceInfo.name) :
    KeyedMap NamespaceInfo.name :=
  actual.retain fun name _ => configManager.matchesNamespacePrefix name

/-- The conflicts of the managed actual namespaces without configuration. -/
def orphanConflicts (order : IterOrder String) (configManager : ConfigManager)
    (managed : KeyedMap NamespaceInfo.name) : List StateConflict :=
  (((managed.iter order).map Prod.fst).filter fun name =>
    !configManager.namespaceConfigs.contains name).map orphanConflict

variable (manager : NamespaceStateManager)

/-- The tracked names that are neither configured nor managed in the system. -/
def staleNames (order : IterOrder String) (configManager : ConfigManager)
    (managed : KeyedMap NamespaceInfo.name) : List String :=
  ((manager.namespaceStates.iter order).map Prod.fst).filter fun name =>
    !configManager.namespaceConfigs.contains name && !managed.contains name

/-- Synchronize in-memory state with configuration and actual namespaces. A list
that cannot be obtained is reported among the errors of the result. -/
def synchronizeState (orders : SyncOrders) (configManager : ConfigManager) :
    SegwireResult SyncResult × NamespaceStateManager :=
  match manager.netlinkManager.listNamespaces with
  | .error e =>
    (.ok { SyncResult.empty with errors := ["Failed to list system namespaces: " ++ e.display] },
      manager)
  | .ok actualNamespaces =>
    let managed := managedActual configManager actualNamespaces
    let (result, manager) := (configManager.namespaceConfigs.iter orders.configs).foldl
      (syncConfigured managed) (.empty, manager)
    let orphans := orphanConflicts orders.actual configManager managed
    -- the loop has tracked every configured name by now
    let toRemove := manager.staleNames orders.states configManager managed
    let manager := toRemove.foldl removeNamespaceState manager
    let (lastSync, manager) := manager.now
    (.ok { result with conflicts := result.conflicts ++ orphans, deleted := toRemove },
      { manager with lastSync })

/-- Force a state synchronization regardless of timing. -/
def forceSync (orders : SyncOrders) (configManager : ConfigManager) :
    SegwireResult SyncResult × NamespaceStateManager :=
  manager.synchronizeState orders configManager

/-- Check if state synchronization is needed. -/
def needsSync : Bool × NamespaceStateManager :=
  let (now, updated) := manager.now
  -- a clock that went back makes a synchronization necessary
  (if manager.lastSync ≤ now then decide (manager.syncInterval ≤ (now - manager.lastSync).toNat)
    else true, updated)

/-- Resolve conflicts by applying the suggested resolution. -/
def resolveConflict (conflict : StateConflict) (configManager : ConfigManager) :
    SegwireResult Unit × NamespaceStateManager :=
  match conflict.resolution with
  | .createNamespace =>
    match configManager.getNamespaceConfig conflict.namespaceName with
    | some configEntry =>
      match manager.createNewNamespace configEntry with
      | (.ok _, manager) => (.ok (), manager)
      | (.error e, manager) => (.error e, manager)
    | none =>
      (.error (.config (.invalidValue "namespace_name"
        ("No configuration found for " ++ conflict.namespaceName))), manager)
  | .deleteNamespace =>
    match manager.netlinkManager.deleteNamespace conflict.namespaceName with
    | (.ok (), netlinkManager) =>
      (.ok (), { manager with netlinkManager }.removeNamespaceState conflict.namespaceName)
    | (.error e, netlinkManager) => (.error e, { manager with netlinkManager })

/-- Statistics about namespace state. -/
structure StateStats where
  totalNamespaces : Nat
  activeNamespaces : Nat
  creatingNamespaces : Nat
  failedNamespaces : Nat
  deletingNamespaces : Nat
  deriving DecidableEq, Repr

/-- The number of namespaces with a status. -/
def countStatus (status : NamespaceStatus) : Nat :=
  manager.namespaceStates.toMap.entries.countP fun entry => entry.2.status = status

/-- Get statistics about current state. -/
def getStateStats : StateStats where
  totalNamespaces := manager.namespaceStates.toMap.keys.card
  activeNamespaces := manager.countStatus .active
  creatingNamespaces := manager.countStatus .creating
  failedNamespaces := manager.countStatus .failed
  deletingNamespaces := manager.countStatus .deleting

/-- Perform periodic maintenance: forget failed states older than an hour. -/
def performMaintenance : NamespaceStateManager :=
  let (now, manager) := manager.now
  let cutoffTime := now - (Duration.fromSecs 3600 : Nat)
  let expired (state : NamespaceState) : Bool :=
    state.isFailed &&
      decide (((Duration.fromSecs state.lastUpdated : Nat) : SystemTime) < cutoffTime)
  { manager with namespaceStates := manager.namespaceStates.retain fun _ state => !expired state }

end NamespaceStateManager

end Segwire.Daemon
