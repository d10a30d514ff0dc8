import Segwire.Daemon.NetworkSettings

/-!
# The second checks

A configuration is validated when it is loaded. The methods of the netlink manager then check
again what they are given: interface names, routes, and DNS settings, in types of their own. A
rejection there is only logged, and the namespace would come up without the setting. None of the
requests that are made for a validated configuration is rejected.

## Main definitions

* `layerCheck` — what the method for a request checks of its interfaces, its route or its settings
* `LayerAccepts` — a request passes it, and all its interface names are well formed
* `NetlinkManager.make` — the method for a request

## Main results

* `NetlinkManager.make_of_layerCheck` — only the namespace and the kernel are left to refuse it
* `NamespaceStateManager.layerAccepts_of_validate`
-/

namespace Segwire.Daemon

open Foundation Segwire.Common

/-- The interface names that a request passes on. -/
def interfaceNames : NetlinkRequest → List String
  | .createVethPair vethName peerName => [vethName, peerName]
  | .moveInterface interfaceName _ => [interfaceName]
  | .moveInterfaceToDefault _ interfaceName => [interfaceName]
  | .addAddress _ ifname _ _ => [ifname]
  | .setLinkUpInNamespace _ ifname => [ifname]
  | .setLinkUp ifname => [ifname]
  | .createWireguardInterface _ wgName => [wgName]
  | .configureWireguard _ wgName _ => [wgName]
  | .createVirtualInterface _ vifName _ => [vifName]
  | .addRoute _ route => route.interface.toList
  | .configureDns _ _ => []

/-- What the method for a request checks besides the namespace. -/
def layerCheck : NetlinkRequest → SegwireResult Unit
  | .createVethPair vethName peerName => do
    validateInterfaceName vethName
    validateInterfaceName peerName
  | .moveInterface interfaceName _ => validateInterfaceName interfaceName
  | .moveInterfaceToDefault _ interfaceName => validateInterfaceName interfaceName
  | .createWireguardInterface _ wgName => validateInterfaceName wgName
  | .createVirtualInterface _ vifName _ => validateInterfaceName vifName
  | .addRoute _ route => route.validate
  | .configureDns _ dnsConfig => dnsConfig.validate
  | .addAddress _ _ _ _ | .setLinkUpInNamespace _ _ | .setLinkUp _ | .configureWireguard _ _ _ =>
    .ok ()

/-- The request passes the checks of its method, and its interface names are well formed, also
where the method does not check them. -/
structure LayerAccepts (r : NetlinkRequest) : Prop where
  check : layerCheck r = .ok ()
  names : ∀ name ∈ interfaceNames r, validateInterfaceName name = .ok ()

/-! ### The methods -/

namespace NetlinkManager

variable (netlink : NetlinkManager)

/-- What the method for a request checks of the namespace. -/
def namespaceCheck : NetlinkRequest → SegwireResult Unit
  | .moveInterface _ namespaceName | .addAddress namespaceName _ _ _
  | .setLinkUpInNamespace namespaceName _ | .configureWireguard namespaceName _ _ =>
    validateNamespaceName namespaceName
  | .moveInterfaceToDefault namespaceName _ | .createWireguardInterface namespaceName _
  | .createVirtualInterface namespaceName _ _ | .configureDns namespaceName _ => do
    validateNamespaceName namespaceName
    netlink.requireNamespace namespaceName
  | .createVethPair _ _ | .setLinkUp _ | .addRoute _ _ => .ok ()

/-- The method for a request. -/
def make : NetlinkRequest → SegwireResult Unit × NetlinkManager
  | .createVethPair vethName peerName => netlink.createVethPair vethName peerName
  | .moveInterface interfaceName namespaceName =>
    netlink.moveInterfaceToNamespace interfaceName namespaceName
  | .moveInterfaceToDefault namespaceName interfaceName =>
    netlink.moveInterfaceFromNamespaceToDefault namespaceName interfaceName
  | .addAddress namespaceName ifname addr prefixLen =>
    netlink.addAddressInNamespace namespaceName ifname addr prefixLen
  | .setLinkUpInNamespace namespaceName ifname => netlink.setLinkUpInNamespace namespaceName ifname
  | .setLinkUp ifname => netlink.setLinkUp ifname
  | .createWireguardInterface namespaceName wgName =>
    netlink.createWireguardInterface namespaceName wgName
  | .configureWireguard namespaceName wgName config =>
    netlink.configureWireguard namespaceName wgName config
  | .createVirtualInterface namespaceName vifName vifType =>
    netlink.createVirtualInterface namespaceName vifName vifType
  | .addRoute namespaceName route => netlink.addRouteToNamespace namespaceName route
  | .configureDns namespaceName config => netlink.configureNamespaceDns namespaceName config

/-- A method records its request, and its checks are those of the namespace and of the rest. -/
theorem exists_check_make (r : NetlinkRequest) :
    ∃ check, netlink.make r = netlink.request check r ∧
      (check = .ok () ↔ netlink.namespaceCheck r = .ok () ∧ layerCheck r = .ok ()) := by
  have hnone : (.ok () : SegwireResult Unit) = .ok () := rfl
  cases r with
  | configureDns =>
    -- the settings are checked before the namespace is looked for
    refine ⟨_, rfl, ?_⟩
    simp only [namespaceCheck, layerCheck, Except.check_bind_eq_ok_iff]
    tauto
  | moveInterface | moveInterfaceToDefault | createWireguardInterface | createVirtualInterface =>
    refine ⟨_, rfl, ?_⟩
    simp only [namespaceCheck, layerCheck, Except.check_bind_eq_ok_iff, and_comm, and_left_comm]
  | createVethPair | addRoute => exact ⟨_, rfl, (and_iff_right hnone).symm⟩
  | addAddress | setLinkUpInNamespace | configureWireguard =>
    exact ⟨_, rfl, (and_iff_left hnone).symm⟩
  | setLinkUp => exact ⟨.ok (), rfl, (and_iff_left hnone).symm⟩

/-- A request that passes the checks is refused for its namespace or by the kernel only. -/
theorem make_of_layerCheck {r : NetlinkRequest} (hreal : netlink.backend = .real)
    (hcheck : layerCheck r = .ok ()) (hnamespace : netlink.namespaceCheck r = .ok ()) :
    (netlink.make r).1 =
      match netlink.host.answers netlink.host.requests.length with
      | some e => .error e
      | none => .ok () := by
  obtain ⟨check, hmake, hiff⟩ := netlink.exists_check_make r
  rw [hmake, hiff.mpr ⟨hnamespace, hcheck⟩]
  unfold request
  generalize netlink.backend = backend at hreal
  subst hreal
  rfl

end NetlinkManager

/-! ### Requests for a validated configuration -/

section Validated

variable {config : NamespaceConfig} (hvalid : config.validate = .ok ())
include hvalid

theorem validate_routeConfigs : ∀ route ∈ routeConfigs config, route.validate = .ok () := by
  obtain ⟨-, -, hrouting, -⟩ := NamespaceConfig.validate_eq_ok_iff.mp hvalid
  obtain ⟨hgateway, hroutes, -⟩ := RoutingConfig.validate_eq_ok_iff.mp hrouting
  intro route hroute
  rcases List.mem_append.mp hroute with hstatic | hdefault
  · obtain ⟨configured, hmem, rfl⟩ := List.mem_map.mp hstatic
    obtain ⟨hdestination, hvia, -⟩ := Route.validate_eq_ok_iff.mp (hroutes configured hmem)
    refine RouteConfig.validate_eq_ok_iff.mpr ⟨?_, fun _ => hdestination, hvia, nofun⟩
    -- an accepted CIDR is not empty
    intro hempty
    dsimp only at hempty
    rw [hempty] at hdestination
    cases hdestination
  · obtain ⟨gateway, hmem, rfl⟩ := List.mem_map.mp hdefault
    have hvia := hgateway gateway (Option.mem_toList.mp hmem)
    have hnamed : "default" ≠ "" := by decide
    exact RouteConfig.validate_eq_ok_iff.mpr ⟨hnamed, fun hne => absurd rfl hne, hvia, nofun⟩

theorem layerAccepts_of_settingRequests {fullName : String} {r : NetlinkRequest}
    (h : r ∈ settingRequests fullName config) : LayerAccepts r := by
  obtain ⟨-, -, -, hdns, -⟩ := NamespaceConfig.validate_eq_ok_iff.mp hvalid
  rcases List.mem_append.mp h with hroute | hsettings
  · obtain ⟨route, hmem, rfl⟩ := List.mem_map.mp hroute
    have haccepted := validate_routeConfigs hvalid route hmem
    obtain ⟨-, -, -, hinterface⟩ := RouteConfig.validate_eq_ok_iff.mp haccepted
    exact ⟨haccepted, fun name hname => hinterface name (Option.mem_toList.mp hname)⟩
  · split_ifs at hsettings with hservers
    · cases hsettings
    · obtain rfl := List.mem_singleton.mp hsettings
      exact ⟨validate_dnsSettings hdns hservers, List.forall_mem_nil _⟩

theorem layerAccepts_of_isInterfaceRequest {fullName : String} {r : NetlinkRequest}
    (h : NetlinkManager.IsInterfaceRequest fullName config r) : LayerAccepts r := by
  obtain ⟨-, hinterfaces, -⟩ := NamespaceConfig.validate_eq_ok_iff.mp hvalid
  obtain ⟨hmove, hvirtual, -⟩ := InterfaceConfig.validate_eq_ok_iff.mp hinterfaces
  rcases h with ⟨vif, hvif, h⟩ | ⟨iface, hiface, rfl⟩
  · obtain ⟨hname, -, hpeer, -⟩ := VirtualInterface.validate_eq_ok_iff.mp (hvirtual vif hvif)
    have hpeerName (peer : String) (hsome : vif.peer = some peer) :=
      (VirtualInterface.validatePeer_eq_ok_iff.mp hpeer peer hsome).1
    cases r with
    | createVethPair vethName peerName =>
      obtain ⟨rfl, hsome⟩ := h
      have hsecond := hpeerName peerName hsome
      exact ⟨Except.check_bind_eq_ok_iff.mpr ⟨hname, hsecond⟩,
        List.forall_mem_cons.mpr ⟨hname, List.forall_mem_singleton.mpr hsecond⟩⟩
    | moveInterface interfaceName _ =>
      obtain ⟨rfl, -⟩ := h
      exact ⟨hname, List.forall_mem_singleton.mpr hname⟩
    | addAddress _ ifname | setLinkUpInNamespace _ ifname =>
      obtain ⟨-, rfl⟩ := h
      exact ⟨rfl, List.forall_mem_singleton.mpr hname⟩
    | setLinkUp ifname => exact ⟨rfl, List.forall_mem_singleton.mpr (hpeerName ifname h)⟩
    | createWireguardInterface _ wgName =>
      obtain ⟨-, rfl⟩ := h
      exact ⟨hname, List.forall_mem_singleton.mpr hname⟩
    | configureWireguard _ wgName =>
      obtain ⟨-, rfl, -⟩ := h
      exact ⟨rfl, List.forall_mem_singleton.mpr hname⟩
    | createVirtualInterface _ vifName =>
      obtain ⟨-, rfl, -⟩ := h
      exact ⟨hname, List.forall_mem_singleton.mpr hname⟩
    | moveInterfaceToDefault | addRoute | configureDns => exact h.elim
  · exact ⟨hmove iface hiface, List.forall_mem_singleton.mpr (hmove iface hiface)⟩

end Validated

/-- The second checks reject nothing of a validated configuration: the routes and the DNS
settings that are built from it pass theirs, and so does every request of a creation and of an
update, with all its interface names. -/
theorem NamespaceStateManager.layerAccepts_of_validate (manager : NamespaceStateManager)
    (entry : NamespaceConfigEntry) (hvalid : entry.config.validate = .ok ()) :
    (∀ route ∈ routeConfigs entry.config, route.validate = .ok ()) ∧
      (entry.config.dns.servers ≠ [] → (dnsSettings entry.config).validate = .ok ()) ∧
      (∀ r ∈ manager.creationRequests entry, LayerAccepts r) ∧
      ∀ actualInfo, ∀ r ∈ manager.updateRequests entry actualInfo, LayerAccepts r := by
  obtain ⟨-, -, -, hdns, -⟩ := NamespaceConfig.validate_eq_ok_iff.mp hvalid
  refine ⟨validate_routeConfigs hvalid, validate_dnsSettings hdns, fun r hr => ?_,
    fun actualInfo r hr => ?_⟩
  · rcases mem_creationRequests hr with hinterface | hsetting
    · exact layerAccepts_of_isInterfaceRequest hvalid hinterface
    · exact layerAccepts_of_settingRequests hvalid hsetting
  · rw [updateRequests_eq] at hr
    exact layerAccepts_of_settingRequests hvalid hr

section Fixture

/-- A configuration with a veth pair, a default gateway and a DNS server. -/
def connectedEntry : NamespaceConfigEntry :=
  { routedThrough "" with
    config := { NamespaceConfig.bare "one" with
      interfaces := ⟨["eth1"], [⟨"veth0", "veth", some "veth1", ["10.0.0.2/24"]⟩]⟩
      routing := ⟨some "10.0.0.1", [⟨"10.1.0.0/16", "10.0.0.3", some 5⟩]⟩
      dns := ⟨["10.0.0.53"], ["lab.example.org"]⟩ } }

end Fixture

theorem NamespaceStateManager.layerAccepts_connected :
    (∀ route ∈ routeConfigs connectedEntry.config, route.validate = .ok ()) ∧
      (connectedEntry.config.dns.servers ≠ [] →
        (dnsSettings connectedEntry.config).validate = .ok ()) ∧
      (∀ r ∈ beforeCreation.creationRequests connectedEntry, LayerAccepts r) ∧
      ∀ actualInfo, ∀ r ∈ beforeCreation.updateRequests connectedEntry actualInfo,
        LayerAccepts r :=
  beforeCreation.layerAccepts_of_validate connectedEntry (by decide)

end Segwire.Daemon
