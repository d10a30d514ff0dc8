import Segwire.Daemon.Host

/-!
# The netlink manager

Namespace life-cycle operations and network requests, on the machine or on an
in-memory simulation of it. A request passes the textual checks of its method;
from the first question to the kernel on, the answer is the machine's.

## Main definitions

* `NetlinkManager` — a backend and the machine
* `NetlinkManager.createNamespace`, `deleteNamespace`, `listNamespaces`
* `NetlinkManager.request` — the common shape of the network requests
-/

namespace Segwire.Daemon

open Foundation Segwire.Common

/-- In-memory state for simulation mode. A simulated namespace is active. -/
structure SimulatedState where
  namespaces : KeyedMap NamespaceInfo.name
  nextId : Nat
  active : ∀ name info, namespaces.lookup name = some info → info.active = true

namespace SimulatedState

/-- `SimulatedState::new` -/
def new : SimulatedState where
  namespaces := .empty
  nextId := 1000
  active name info h := by simp at h

/-- Add an active namespace under the next id. -/
def add (state : SimulatedState) (info : NamespaceInfo) (h : info.active = true) :
    SimulatedState where
  namespaces := state.namespaces.insert info
  -- the counter is a `u32`
  nextId := (state.nextId + 1) % 2 ^ 32
  active name stored hstored := by
    rw [KeyedMap.lookup_insert] at hstored
    split_ifs at hstored
    · exact Option.some.inj hstored ▸ h
    · exact state.active name stored hstored

/-- Take a namespace out. -/
def remove (state : SimulatedState) (removed : String) : SimulatedState where
  namespaces := state.namespaces.erase removed
  nextId := state.nextId
  active name stored hstored := by
    rw [KeyedMap.lookup_erase] at hstored
    split_ifs at hstored
    exact state.active name stored hstored

end SimulatedState

/-- Backend selection for NetlinkManager. -/
inductive NetlinkBackend
  | real
  | simulated (state : SimulatedState)

/-- High-level interface for network namespace operations, together with the
machine that its operations act on. -/
structure NetlinkManager where
  backend : NetlinkBackend
  host : Host

namespace NetlinkManager

/-- Create a new NetlinkManager instance, which needs root. -/
def new (host : Host) : SegwireResult NetlinkManager × Host :=
  if !host.isRoot then (.error NetlinkError.insufficientPrivileges.toSegwireError, host)
  else
    match host.netns with
    | some _ => (.ok ⟨.real, host⟩, host)
    | none =>
      match host.faults .createNetnsDir with
      | some e => (.error (NetlinkError.createFailed "netns directory"
          ("failed to create /var/run/netns: " ++ e)).toSegwireError, host)
      | none =>
        let host := { host with netns := some ∅ }
        (.ok ⟨.real, host⟩, host)

/-- Create a simulated NetlinkManager. -/
def newSimulated (host : Host) : NetlinkManager := ⟨.simulated .new, host⟩

/-- Whether `/var/run/netns/name` exists, or `name` is simulated. -/
def namespaceExists (manager : NetlinkManager) (name : String) : Bool :=
  match manager.backend with
  | .simulated state => state.namespaces.contains name
  | .real => manager.host.netnsPathExists name

/-- What the daemon knows of a namespace in the namespace directory. -/
def realInfo (host : Host) (name : String) : NamespaceInfo where
  name
  id := host.nsInode name
  path := ⟨["var", "run", "netns", name]⟩
  active := true

/-- The real branch of `create_namespace`. -/
def createReal (manager : NetlinkManager) (name : String) :
    SegwireResult NamespaceInfo × NetlinkManager :=
  if manager.host.netnsPathExists name then
    (.error (NetlinkError.namespaceExists name).toSegwireError, manager)
  else
    match manager.host.createFile name with
    | (.error e, host) =>
      (.error (NetlinkError.createFailed name ("create file: " ++ e)).toSegwireError,
        { manager with host })
    | (.ok (), host) =>
      match host.createNetns name with
      | (.error e, host) =>
        -- the placeholder is removed again, and a failure of that is ignored
        (.error (NetlinkError.createFailed name e).toSegwireError,
          { manager with host := (host.removeFile name).2 })
      | (.ok (), host) => (.ok (realInfo host name), { manager with host })

/-- The simulated branch of `create_namespace`. -/
def createSimulated (manager : NetlinkManager) (state : SimulatedState) (name : String) :
    SegwireResult NamespaceInfo × NetlinkManager :=
  if state.namespaces.contains name then
    (.error (NetlinkError.namespaceExists name).toSegwireError, manager)
  else
    let info : NamespaceInfo :=
      { name, id := state.nextId, path := ⟨["sim", "netns", name]⟩, active := true }
    (.ok info, { manager with backend := .simulated (state.add info rfl) })

/-- Create a new network namespace. -/
def createNamespace (manager : NetlinkManager) (name : String) :
    SegwireResult NamespaceInfo × NetlinkManager :=
  match validateNamespaceName name with
  | .error e => (.error e, manager)
  | .ok () =>
    match manager.backend with
    | .simulated state => manager.createSimulated state name
    | .real => manager.createReal name

/-- Delete a network namespace. -/
def deleteNamespace (manager : NetlinkManager) (name : String) :
    SegwireResult Unit × NetlinkManager :=
  match validateNamespaceName name with
  | .error e => (.error e, manager)
  | .ok () =>
    match manager.backend with
    | .simulated state =>
      if state.namespaces.contains name then
        (.ok (), { manager with backend := .simulated (state.remove name) })
      else (.error (NetlinkError.namespaceNotFound name).toSegwireError, manager)
    | .real =>
      if !manager.host.netnsPathExists name then
        (.error (NetlinkError.namespaceNotFound name).toSegwireError, manager)
      else
        match manager.host.deleteNetns name with
        | (.error e, host) =>
          (.error (NetlinkError.deleteFailed name e).toSegwireError, { manager with host })
        | (.ok (), host) => (.ok (), { manager with host })

/-- The entries of the namespace directory, without those that cannot be read. -/
def listReal (host : Host) (files : HashMap String NetnsFile) : KeyedMap NamespaceInfo.name where
  toMap := (files.retain fun name _ => (host.faults (.readNetnsEntry name)).isNone).mapVal
    fun name _ => realInfo host name
  keyed name info h := by
    rw [HashMap.lookup_mapVal, Option.map_eq_some_iff] at h
    obtain ⟨file, -, rfl⟩ := h
    rfl

/-- List all named network namespaces. -/
def listNamespaces (manager : NetlinkManager) : SegwireResult (KeyedMap NamespaceInfo.name) :=
  match manager.backend with
  | .simulated state => .ok state.namespaces
  | .real =>
    match manager.host.netns with
    -- a missing directory holds no namespaces
    | none => .ok .empty
    | some files =>
      match manager.host.faults .readNetnsDir with
      | some e => .error (NetlinkError.createFailed "list"
          ("read_dir failed: " ++ e)).toSegwireError
      | none => .ok (listReal manager.host files)

/-- Get information about a specific namespace. -/
def getNamespaceInfo (manager : NetlinkManager) (name : String) : SegwireResult NamespaceInfo :=
  match validateNamespaceName name with
  | .error e => .error e
  | .ok () =>
    match manager.backend with
    | .simulated state =>
      match state.namespaces.lookup name with
      | some info => .ok info
      | none => .error (NetlinkError.namespaceNotFound name).toSegwireError
    | .real =>
      if !manager.host.netnsPathExists name then
        .error (NetlinkError.namespaceNotFound name).toSegwireError
      else .ok (realInfo manager.host name)

/-! ### Network requests -/

/-- Record a request and answer it: the simulation accepts everything, the machine
first makes the checks of the method. -/
def request (manager : NetlinkManager) (check : SegwireResult Unit) (request : NetlinkRequest) :
    SegwireResult Unit × NetlinkManager :=
  let host := { manager.host with requests := manager.host.requests ++ [request] }
  let answer :=
    match manager.backend with
    | .simulated _ => .ok ()
    | .real =>
      match check with
      | .error e => .error e
      | .ok () =>
        -- the kernel may answer each request differently
        match manager.host.answers manager.host.requests.length with
        | some e => .error e
        | none => .ok ()
  (answer, { manager with host })

/-- The check that a namespace exists. -/
def requireNamespace (manager : NetlinkManager) (name : String) : SegwireResult Unit :=
  if manager.namespaceExists name then .ok ()
  else .error (NetlinkError.namespaceNotFound name).toSegwireError

/-- Move a network interface to a namespace. -/
def moveInterfaceToNamespace (manager : NetlinkManager) (interfaceName namespaceName : String) :
    SegwireResult Unit × NetlinkManager :=
  manager.request
    (do
      validateNamespaceName namespaceName
      validateInterfaceName interfaceName)
    (.moveInterface interfaceName namespaceName)

/-- Move a network interface from a namespace back to the default namespace. -/
def moveInterfaceFromNamespaceToDefault (manager : NetlinkManager)
    (namespaceName interfaceName : String) : SegwireResult Unit × NetlinkManager :=
  manager.request
    (do
      validateNamespaceName namespaceName
      validateInterfaceName interfaceName
      manager.requireNamespace namespaceName)
    (.moveInterfaceToDefault namespaceName interfaceName)

/-- Create a generic virtual interface (dummy, bridge, macvlan, ipvlan) inside a namespace. -/
def createVirtualInterface (manager : NetlinkManager) (namespaceName vifName vifType : String) :
    SegwireResult Unit × NetlinkManager :=
  manager.request
    (do
      validateNamespaceName namespaceName
      validateInterfaceName vifName
      manager.requireNamespace namespaceName)
    (.createVirtualInterface namespaceName vifName vifType)

/-- Create a WireGuard interface inside a namespace. -/
def createWireguardInterface (manager : NetlinkManager) (namespaceName wgName : String) :
    SegwireResult Unit × NetlinkManager :=
  manager.request
    (do
      validateNamespaceName namespaceName
      validateInterfaceName wgName
      manager.requireNamespace namespaceName)
    (.createWireguardInterface namespaceName wgName)

/-- Configure a WireGuard device (keys, peers, endpoints) inside a namespace. -/
def configureWireguard (manager : NetlinkManager) (namespaceName wgName : String)
    (config : WireguardConfig) : SegwireResult Unit × NetlinkManager :=
  manager.request (validateNamespaceName namespaceName)
    (.configureWireguard namespaceName wgName config)

/-- Create a virtual ethernet (veth) pair. -/
def createVethPair (manager : NetlinkManager) (vethName peerName : String) :
    SegwireResult Unit × NetlinkManager :=
  manager.request
    (do
      validateInterfaceName vethName
      validateInterfaceName peerName)
    (.createVethPair vethName peerName)

/-- Add an IP address to an interface inside a namespace. -/
def addAddressInNamespace (manager : NetlinkManager) (namespaceName ifname : String)
    (addr : IpAddr) (prefixLen : Nat) : SegwireResult Unit × NetlinkManager :=
  manager.request (validateNamespaceName namespaceName)
    (.addAddress namespaceName ifname addr prefixLen)

/-- Bring a network interface UP inside a namespace. -/
def setLinkUpInNamespace (manager : NetlinkManager) (namespaceName ifname : String) :
    SegwireResult Unit × NetlinkManager :=
  manager.request (validateNamespaceName namespaceName) (.setLinkUpInNamespace namespaceName ifname)

/-- Bring a network interface UP in the host (default) namespace. -/
def setLinkUp (manager : NetlinkManager) (ifname : String) : SegwireResult Unit × NetlinkManager :=
  manager.request (.ok ()) (.setLinkUp ifname)

/-- Add a single route inside a namespace using netlink. -/
def addRouteToNamespace (manager : NetlinkManager) (namespaceName : String) (route : RouteConfig) :
    SegwireResult Unit × NetlinkManager :=
  manager.request route.validate (.addRoute namespaceName route)

/-- Configure DNS resolution in a namespace. -/
def configureNamespaceDns (manager : NetlinkManager) (namespaceName : String)
    (dnsConfig : NetlinkDnsConfig) : SegwireResult Unit × NetlinkManager :=
  manager.request
    (do
      validateNamespaceName namespaceName
      dnsConfig.validate
      manager.requireNamespace namespaceName)
    (.configureDns namespaceName dnsConfig)

end NetlinkManager

end Segwire.Daemon
