import Segwire.Daemon.NamespaceHandlers
import Segwire.Daemon.NetworkRequests
import Segwire.Foundation.ExclusiveTable

/-!
# Routes and DNS settings of a namespace

The requests that the daemon makes for a namespace add routes, exclusively, and write its
`resolv.conf`. Nothing is ever taken back. So an update reaches the settings of a fresh
creation only if the earlier configuration left nothing that the later one does not give.

The daemon is not the only source of routes. A namespace begins with those of what is mounted,
and the kernel adds some itself when interfaces are set up. Both are left open here.

## Main definitions

* `RouteMessage`, `addRouteFresh` — the message that asks for a route
* `NetworkSettings`, `Kernel.perform` — the settings, and what a request does to them
* `createdSettings`, `updatedSettings` — the settings after a creation and an update
* `linkedSettings` — the settings when the interfaces of a configuration have been set up
* `UpdateReachesCreation` — an update reaches the settings of a creation

## Main results

* `createdSettings_eq`, `updatedSettings_eq` — the settings, from the configuration
* `updateReachesCreation_iff`, `not_reaches_moved_gateway`
-/

namespace Segwire.Daemon

open Foundation Foundation.Text Segwire.Common

/-! ### Route messages -/

/-- `netlink_packet_route::AddressFamily`, as far as it is used. -/
inductive AddressFamily
  | inet | inet6
  deriving DecidableEq, Repr

/-- A message that asks for a new route: a static unicast route of the main table. -/
structure RouteMessage where
  addressFamily : AddressFamily
  destinationPrefixLength : Nat
  destination : Option IpAddr
  gateway : Option IpAddr
  priority : Option Nat
  oif : Option Nat
  deriving DecidableEq, Repr

/-- `family_for` -/
def familyFor : IpAddr → AddressFamily
  | .v4 _ => .inet
  | .v6 _ => .inet6

/-- The prefix length of a single address. -/
def fullPrefixLength : IpAddr → Nat
  | .v4 _ => 32
  | .v6 _ => 128

/-- Parse an address of a route. -/
def parseRouteAddress (role : String) (text : List Char) : Except String IpAddr :=
  match IpAddr.parse text with
  | some ip => .ok ip
  | none => .error ("invalid " ++ role ++ " IP: invalid IP address syntax")

/-- Parse a destination: its prefix length and, unless it is `default`, its address. -/
def parseDestination (destination : String) : Except String (Nat × Option IpAddr) :=
  if destination = "default" then .ok (0, none)
  else
    match splitOnce ['/'] destination.toList with
    | some (ipStr, prefixLenStr) =>
      match parseU8 prefixLenStr with
      | none => .error ("invalid prefix length: " ++ NetlinkManager.u8ParseError prefixLenStr)
      | some prefixLen => do
        let ip ← parseRouteAddress "destination" ipStr
        return (prefixLen, some ip)
    | none => do
      let ip ← parseRouteAddress "destination" destination.toList
      return (fullPrefixLength ip, some ip)

/-- `add_route_fresh`, up to the message that it sends, which is answered by the kernel. -/
def addRouteFresh (interfaceIndex : String → Except String Nat) (params : RouteConfig) :
    Except String RouteMessage := do
  let (destinationPrefixLength, destination) ← parseDestination params.destination
  let gateway ←
    if params.gateway = "" then pure none
    else some <$> parseRouteAddress "gateway" params.gateway.toList
  -- the gateway gives the family of a default route only
  let detectedFamily := (destination.map familyFor).or (gateway.map familyFor)
  let oif ← params.interface.mapM interfaceIndex
  return {
    addressFamily := detectedFamily.getD .inet
    destinationPrefixLength
    destination
    gateway
    priority := params.metric
    oif }

/-! ### What requests do -/

/-- What a namespace has: its routes, by what tells them apart, its interfaces, and its
`resolv.conf`. -/
structure NetworkSettings (κ ρ σ : Type) where
  routes : κ → Option ρ
  links : σ
  resolvConf : Option String

/-- The kernel as the requests meet it. `key` is what it tells routes apart by, that is
destination and metric, and `route` is what it makes of a message. A request about interfaces
may change the routes, too: an address brings the route to its network with it. -/
structure Kernel (κ ρ σ : Type) where
  key : RouteMessage → κ
  route : RouteMessage → ρ
  link : NetlinkRequest → σ → (κ → Option ρ) → σ × (κ → Option ρ)
  interfaceIndex : String → Except String Nat

/-- The contents of `resolv.conf`. -/
def resolvConfContent (dnsConfig : NetlinkDnsConfig) : String :=
  String.join (dnsConfig.servers.map fun server => "nameserver " ++ server ++ "\n") ++
    (if dnsConfig.searchDomains = [] then ""
      else "search " ++ String.intercalate " " dnsConfig.searchDomains ++ "\n") ++
    String.join (dnsConfig.options.map fun opt => "options " ++ opt ++ "\n")

section Settings

variable {κ ρ σ : Type} [DecidableEq κ] (kernel : Kernel κ ρ σ)

/-- The message for a route, if the route passes its check and can be parsed. -/
def Kernel.message (route : RouteConfig) : Option RouteMessage :=
  match route.validate with
  | .error _ => none
  | .ok () => (addRouteFresh kernel.interfaceIndex route).toOption

/-- What a request about interfaces does. -/
def Kernel.setLink (settings : NetworkSettings κ ρ σ) (request : NetlinkRequest) :
    NetworkSettings κ ρ σ :=
  let (links, routes) := kernel.link request settings.links settings.routes
  { settings with links, routes }

/-- What a request to the machine does to the settings of the namespace `k`. A route is
added from inside the namespace, which has to be mounted for that. -/
def Kernel.perform (netlink : NetlinkManager) (k : String) (settings : NetworkSettings κ ρ σ) :
    NetlinkRequest → NetworkSettings κ ρ σ
  | .addRoute name route =>
    if name = k ∧ netlink.host.netnsFile k = some ⟨true⟩ then
      match kernel.message route with
      | none => settings
      | some message =>
        { settings with
          routes := addExclusive kernel.key kernel.route settings.routes message }
    else settings
  | .configureDns name dnsConfig =>
    if name = k ∧ validateNamespaceName k = .ok () ∧ dnsConfig.validate = .ok () ∧
        netlink.namespaceExists k = true then
      { settings with resolvConf := some (resolvConfContent dnsConfig) }
    else settings
  | request => kernel.setLink settings request

/-- The settings of `k` after the requests that lead from one manager to another. The
simulation performs none of them. -/
def settingsAfter (k : String) (before after : NamespaceStateManager)
    (settings : NetworkSettings κ ρ σ) : NetworkSettings κ ρ σ :=
  if after.netlinkManager.isSimulated then settings
  else (after.requests.drop before.requests.length).foldl
    (kernel.perform after.netlinkManager k) settings

/-- The settings after `create_new_namespace`, which begins with those of what it mounts. -/
def createdSettings (manager : NamespaceStateManager) (entry : NamespaceConfigEntry)
    (settings : NetworkSettings κ ρ σ) : NetworkSettings κ ρ σ :=
  settingsAfter kernel entry.fullName manager (manager.createNewNamespace entry).2 settings

/-- The settings after `update_existing_namespace`. -/
def updatedSettings (manager : NamespaceStateManager) (entry : NamespaceConfigEntry)
    (actualInfo : NamespaceInfo) (settings : NetworkSettings κ ρ σ) : NetworkSettings κ ρ σ :=
  settingsAfter kernel entry.fullName manager
    (manager.updateExistingNamespace entry actualInfo).2 settings

/-- A creation with the first entry and an update with the second one lead to the routes and
the `resolv.conf` of a creation with the second one. -/
def UpdateReachesCreation (manager : NamespaceStateManager) (entry₁ entry₂ : NamespaceConfigEntry)
    (actualInfo : NamespaceInfo) (settings : NetworkSettings κ ρ σ) : Prop :=
  let updated := updatedSettings kernel (manager.createNewNamespace entry₁).2 entry₂ actualInfo
    (createdSettings kernel manager entry₁ settings)
  let created := createdSettings kernel manager entry₂ settings
  updated.routes = created.routes ∧ updated.resolvConf = created.resolvConf

end Settings

/-! ### The requests of a configuration -/

/-- The routes that a configuration gives, the default gateway last. -/
def routeConfigs (config : NamespaceConfig) : List RouteConfig :=
  config.routing.routes.map
      (fun route => ⟨route.destination, route.gateway, none, route.metric⟩) ++
    config.routing.defaultGateway.toList.map fun gateway => ⟨"default", gateway, none, none⟩

/-- The DNS settings that a configuration gives. -/
def dnsSettings (config : NamespaceConfig) : NetlinkDnsConfig :=
  ⟨config.dns.servers, config.dns.search, []⟩

/-- The requests for routes and DNS settings. -/
def settingRequests (fullName : String) (config : NamespaceConfig) : List NetlinkRequest :=
  (routeConfigs config).map (.addRoute fullName) ++
    if config.dns.servers = [] then [] else [.configureDns fullName (dnsSettings config)]

namespace NetlinkManager

theorem requests_foldl_addRoute (netlink : NetlinkManager) (fullName : String)
    (routes : List RouteConfig) :
    (routes.foldl (fun netlink route => (netlink.addRouteToNamespace fullName route).2)
      netlink).host.requests = netlink.host.requests ++ routes.map (.addRoute fullName) := by
  induction routes generalizing netlink with
  | nil => simp
  | cons route routes ih =>
    rw [List.foldl_cons, ih, List.map_cons, ← List.singleton_append, ← List.append_assoc]
    rfl

theorem requests_applyRoutesAndDns (netlink : NetlinkManager) (fullName : String)
    (config : NamespaceConfig) :
    (netlink.applyRoutesAndDns fullName config).host.requests =
      netlink.host.requests ++ settingRequests fullName config := by
  have hroutes := netlink.requests_foldl_addRoute fullName (routeConfigs config)
  unfold applyRoutesAndDns settingRequests
  dsimp only
  split_ifs with hservers
  · rw [List.append_nil]
    exact hroutes
  · rw [← List.append_assoc, ← hroutes]
    rfl

end NetlinkManager

namespace NamespaceStateManager

variable {manager : NamespaceStateManager} {entry : NamespaceConfigEntry}

/-- An update makes the requests of its configuration, and nothing else. -/
theorem updateExistingNamespace_requests (manager : NamespaceStateManager)
    (entry : NamespaceConfigEntry) (actualInfo : NamespaceInfo) :
    (manager.updateExistingNamespace entry actualInfo).2.requests =
        manager.requests ++ settingRequests entry.fullName entry.config ∧
      manager.netlinkManager.SameSystem
        (manager.updateExistingNamespace entry actualInfo).2.netlinkManager := by
  refine ⟨?_, sameSystem_updateExistingNamespace manager entry actualInfo⟩
  unfold updateExistingNamespace
  dsimp only
  rw [requests_modifyState, requests_modifyState]
  exact NetlinkManager.requests_applyRoutesAndDns _ _ _

/-- The requests that `create_new_namespace` makes for the interfaces. -/
def interfaceRequests (manager : NamespaceStateManager) (entry : NamespaceConfigEntry) :
    List NetlinkRequest :=
  let netlink := ((manager.trackCreation entry).netlinkManager.createNamespace entry.fullName).2
  (netlink.applyInterfaces entry.fullName entry.config).host.requests.drop manager.requests.length

/-- A creation that succeeds makes requests for the interfaces, and then those of its
configuration. The namespace is mounted before that. -/
theorem createNewNamespace_requests (h : (manager.createNewNamespace entry).1 = .ok .created) :
    (∀ r ∈ manager.interfaceRequests entry,
      NetlinkManager.IsInterfaceRequest entry.fullName entry.config r) ∧
    (manager.createNewNamespace entry).2.requests = manager.requests ++
      (manager.interfaceRequests entry ++ settingRequests entry.fullName entry.config) ∧
    validateNamespaceName entry.fullName = .ok () ∧
    (manager.createNewNamespace entry).2.netlinkManager.isSimulated =
      manager.netlinkManager.isSimulated ∧
    (manager.netlinkManager.isSimulated = false →
      (manager.createNewNamespace entry).2.netlinkManager.host.netnsFile entry.fullName =
        some ⟨true⟩) := by
  let tracked := manager.trackCreation entry
  have hspec := tracked.netlinkManager.createNamespace_spec entry.fullName
  have hrequests := tracked.netlinkManager.requests_createNamespace entry.fullName
  unfold createNewNamespace at h ⊢
  unfold interfaceRequests
  dsimp only at h ⊢
  rcases hresult : tracked.netlinkManager.createNamespace entry.fullName with
    ⟨e | info, netlink⟩ <;> rw [hresult] at h hspec hrequests
  · cases h
  · dsimp only at hspec hrequests ⊢
    replace hrequests : netlink.host.requests = manager.requests := hrequests
    obtain ⟨ticks, links, hlinks, happlied⟩ :=
      (netlink.requestsOnly_applyInterfaces entry.fullName entry.config).issues
    have hsettled := sameSystem_apply netlink entry
    -- the two changes of the state that follow read the clock only
    have hinterfaces : (netlink.applyInterfaces entry.fullName entry.config).host.requests.drop
        manager.requests.length = links := by
      rw [happlied, ← hrequests]
      exact List.drop_left
    rw [hinterfaces]
    refine ⟨hlinks, ?_, ?_, ?_, fun hreal => ?_⟩
    · rw [requests_modifyState, requests_modifyState]
      change ((netlink.applyInterfaces entry.fullName entry.config).applyRoutesAndDns
        entry.fullName entry.config).host.requests = _
      rw [NetlinkManager.requests_applyRoutesAndDns, ← List.append_assoc, happlied, ← hrequests]
    · have haccepted := Environment.valid_of_creates (hspec.ok_iff.mp ⟨info, rfl⟩)
      cases hvalid : validateNamespaceName entry.fullName with
      | ok accepted => rfl
      | error e =>
        rw [hvalid] at haccepted
        cases haccepted
    · refine ((sameSystem_modifyState _ _ _).trans
        (sameSystem_modifyState _ _ _)).isSimulated.trans ?_
      rw [hsettled.isSimulated]
      exact congrArg Environment.simulated hspec.environment
    · refine (NetlinkManager.SameSystem.netnsFile
        ((sameSystem_modifyState _ _ _).trans (sameSystem_modifyState _ _ _)) _).trans ?_
      rw [hsettled.netnsFile]
      have hbackend : tracked.netlinkManager.backend = .real :=
        NetlinkManager.isSimulated_eq_false_iff.mp hreal
      have hmounted :=
        NetlinkManager.netnsFile_createNamespace hbackend (congrArg Prod.fst hresult)
      rw [hresult] at hmounted
      exact hmounted

/-- The requests that a creation makes. -/
def creationRequests (manager : NamespaceStateManager) (entry : NamespaceConfigEntry) :
    List NetlinkRequest :=
  (manager.createNewNamespace entry).2.requests.drop manager.requests.length

/-- The requests that an update makes. -/
def updateRequests (manager : NamespaceStateManager) (entry : NamespaceConfigEntry)
    (actualInfo : NamespaceInfo) : List NetlinkRequest :=
  (manager.updateExistingNamespace entry actualInfo).2.requests.drop manager.requests.length

/-- What a creation requests: something for the interfaces, a route, or the DNS settings. -/
theorem mem_creationRequests {r : NetlinkRequest} (h : r ∈ manager.creationRequests entry) :
    NetlinkManager.IsInterfaceRequest entry.fullName entry.config r ∨
      r ∈ settingRequests entry.fullName entry.config := by
  unfold creationRequests at h
  by_cases hcreated : (manager.createNewNamespace entry).1 = .ok .created
  · obtain ⟨hlinks, hrequests, -⟩ := createNewNamespace_requests hcreated
    rw [hrequests, List.drop_left, List.mem_append] at h
    exact h.imp_left (hlinks r)
  · have hnone := (requests_createNewNamespace_iff manager entry).mpr (.inl hcreated)
    rw [hnone, List.drop_length] at h
    cases h

theorem updateRequests_eq (manager : NamespaceStateManager) (entry : NamespaceConfigEntry)
    (actualInfo : NamespaceInfo) :
    manager.updateRequests entry actualInfo = settingRequests entry.fullName entry.config := by
  rw [updateRequests, (manager.updateExistingNamespace_requests entry actualInfo).1,
    List.drop_left]

end NamespaceStateManager

/-! ### The settings of a configuration -/

section Reached

variable {κ ρ σ : Type} [DecidableEq κ] {kernel : Kernel κ ρ σ} {netlink : NetlinkManager}
  {k : String} {config : NamespaceConfig} {settings : NetworkSettings κ ρ σ}

/-- The messages for the routes that a configuration gives, in their order. -/
def Kernel.messages (kernel : Kernel κ ρ σ) (config : NamespaceConfig) : List RouteMessage :=
  (routeConfigs config).filterMap kernel.message

/-- The first route that a configuration requests under a key. -/
def Kernel.requested (kernel : Kernel κ ρ σ) (config : NamespaceConfig) : κ → Option ρ :=
  firstUnder kernel.key kernel.route (kernel.messages config)

/-- The route under a key where a configuration meets these routes: the one that stands there,
or else the first one that is requested. -/
def Kernel.routeUnder (kernel : Kernel κ ρ σ) (config : NamespaceConfig) (routes : κ → Option ρ)
    (k : κ) : Option ρ :=
  (routes k).or (kernel.requested config k)

/-- The settings when `create_new_namespace` has made its requests for the interfaces. -/
def linkedSettings (kernel : Kernel κ ρ σ) (manager : NamespaceStateManager)
    (entry : NamespaceConfigEntry) (settings : NetworkSettings κ ρ σ) : NetworkSettings κ ρ σ :=
  (manager.interfaceRequests entry).foldl kernel.setLink settings

/-- The settings after a configuration has been applied to a namespace. -/
def Kernel.applied (kernel : Kernel κ ρ σ) (config : NamespaceConfig)
    (settings : NetworkSettings κ ρ σ) : NetworkSettings κ ρ σ where
  routes := (kernel.messages config).foldl (addExclusive kernel.key kernel.route) settings.routes
  links := settings.links
  resolvConf :=
    if config.dns.servers = [] then settings.resolvConf
    else some (resolvConfContent (dnsSettings config))

/-- Accepted DNS settings pass the check before the request, unless there are none. -/
theorem validate_dnsSettings (h : config.dns.validate = .ok ())
    (hservers : config.dns.servers ≠ []) : (dnsSettings config).validate = .ok () := by
  obtain ⟨hips, hdomains, -, -⟩ := DnsConfig.validate_eq_ok_iff.mp h
  exact NetlinkDnsConfig.validate_eq_ok_iff.mpr ⟨hservers, hips, hdomains⟩

theorem foldl_perform_links {links : List NetlinkRequest}
    (h : ∀ r ∈ links, NetlinkManager.IsLinkRequest r) (settings : NetworkSettings κ ρ σ) :
    links.foldl (kernel.perform netlink k) settings = links.foldl kernel.setLink settings := by
  induction links generalizing settings with
  | nil => rfl
  | cons r links ih =>
    obtain ⟨hr, hlinks⟩ := List.forall_mem_cons.mp h
    have hsame : kernel.perform netlink k settings r = kernel.setLink settings r := by
      cases r with
      | addRoute | configureDns => exact hr.elim
      | _ => rfl
    rw [List.foldl_cons, List.foldl_cons, hsame, ih hlinks]

omit [DecidableEq κ] in
theorem resolvConf_linkedSettings (manager : NamespaceStateManager) (entry : NamespaceConfigEntry)
    (settings : NetworkSettings κ ρ σ) :
    (linkedSettings kernel manager entry settings).resolvConf = settings.resolvConf := by
  unfold linkedSettings
  induction manager.interfaceRequests entry generalizing settings with
  | nil => rfl
  | cons r links ih => exact ih (kernel.setLink settings r)

theorem applied_routes (k : κ) :
    (kernel.applied config settings).routes k = kernel.routeUnder config settings.routes k :=
  foldl_addExclusive _ _ _

theorem namespaceExists_of_mounted (hreal : netlink.isSimulated = false) {file : NetnsFile}
    (hfile : netlink.host.netnsFile k = some file) : netlink.namespaceExists k = true := by
  rw [Managers.namespaceExists_of_real hreal, Host.netnsPathExists_eq, hfile, Option.isSome_some]

section Mounted

variable (hmounted : netlink.host.netnsFile k = some ⟨true⟩)
include hmounted

theorem foldl_perform_addRoute (routes : List RouteConfig) (settings : NetworkSettings κ ρ σ) :
    (routes.map (.addRoute k)).foldl (kernel.perform netlink k) settings =
      { settings with
        routes := (routes.filterMap kernel.message).foldl (addExclusive kernel.key kernel.route)
          settings.routes } := by
  induction routes generalizing settings with
  | nil => rfl
  | cons route routes ih =>
    rw [List.map_cons, List.foldl_cons, ih, List.filterMap_cons, Kernel.perform,
      if_pos ⟨rfl, hmounted⟩]
    cases kernel.message route <;> rfl

/-- The requests of an accepted configuration apply it. -/
theorem foldl_perform_settingRequests (hvalid : validateNamespaceName k = .ok ())
    (hexists : netlink.namespaceExists k = true) (hdns : config.dns.validate = .ok ()) :
    (settingRequests k config).foldl (kernel.perform netlink k) settings =
      kernel.applied config settings := by
  rw [settingRequests, List.foldl_append, foldl_perform_addRoute hmounted]
  unfold Kernel.applied
  split_ifs with hservers
  · rfl
  · rw [List.foldl_cons, List.foldl_nil, Kernel.perform,
      if_pos ⟨rfl, hvalid, validate_dnsSettings hdns hservers, hexists⟩]
    rfl

end Mounted

variable {manager : NamespaceStateManager} {entry entry₁ entry₂ : NamespaceConfigEntry}

/-- What an update does to a namespace that is mounted. -/
theorem updatedSettings_eq (actualInfo : NamespaceInfo) (settings : NetworkSettings κ ρ σ)
    (hdns : entry.config.dns.validate = .ok ())
    (hvalid : validateNamespaceName entry.fullName = .ok ())
    (hmounted : manager.netlinkManager.isSimulated = false →
      manager.netlinkManager.host.netnsFile entry.fullName = some ⟨true⟩) :
    updatedSettings kernel manager entry actualInfo settings =
      if manager.netlinkManager.isSimulated then settings
      else kernel.applied entry.config settings := by
  obtain ⟨hrequests, hsame⟩ := manager.updateExistingNamespace_requests entry actualInfo
  rw [updatedSettings, settingsAfter, hsame.isSimulated, hrequests, List.drop_left]
  cases hsimulated : manager.netlinkManager.isSimulated with
  | true => rfl
  | false =>
    rw [if_neg Bool.false_ne_true, if_neg Bool.false_ne_true]
    have hmounted' := (hsame.netnsFile entry.fullName).trans (hmounted hsimulated)
    exact foldl_perform_settingRequests hmounted' hvalid
      (namespaceExists_of_mounted (hsame.isSimulated.trans hsimulated) hmounted') hdns

/-- What a creation that succeeds does. -/
theorem createdSettings_eq (settings : NetworkSettings κ ρ σ)
    (hdns : entry.config.dns.validate = .ok ())
    (hcreated : (manager.createNewNamespace entry).1 = .ok .created) :
    createdSettings kernel manager entry settings =
      if manager.netlinkManager.isSimulated then settings
      else kernel.applied entry.config (linkedSettings kernel manager entry settings) := by
  obtain ⟨hlinks, hrequests, hvalid, hsame, hmounted⟩ :=
    NamespaceStateManager.createNewNamespace_requests hcreated
  rw [createdSettings, settingsAfter, hsame, hrequests, List.drop_left, List.foldl_append,
    foldl_perform_links fun r hr => (hlinks r hr).isLinkRequest]
  cases hsimulated : manager.netlinkManager.isSimulated with
  | true => rfl
  | false =>
    rw [if_neg Bool.false_ne_true, if_neg Bool.false_ne_true]
    have hmounted' := hmounted hsimulated
    exact foldl_perform_settingRequests hmounted' hvalid
      (namespaceExists_of_mounted (hsame.trans hsimulated) hmounted') hdns

/-- A configuration leads to the same routes from two starts iff the routes of the first one
stay with the second one, and those of the second one are with the first one or requested. -/
theorem applied_routes_eq_iff {settings settings' : NetworkSettings κ ρ σ} :
    (kernel.applied config settings).routes = (kernel.applied config settings').routes ↔
      (∀ k route, settings.routes k = some route →
        kernel.routeUnder config settings'.routes k = some route) ∧
      ∀ k route, settings'.routes k = some route →
        settings.routes k = some route ∨ kernel.requested config k = some route := by
  have happlied (k : κ) : (kernel.applied config settings').routes k =
      kernel.routeUnder config settings'.routes k := applied_routes k
  simp only [← happlied]
  exact foldl_addExclusive_eq_iff

/-- DNS settings that are applied before those of another configuration make no difference iff
there are none, the other configuration has some, or they were there already. -/
theorem applied_resolvConf_eq_iff {config₁ config₂ : NamespaceConfig}
    {settings settings' : NetworkSettings κ ρ σ}
    (hsame : settings.resolvConf = settings'.resolvConf) :
    (kernel.applied config₂ (kernel.applied config₁ settings)).resolvConf =
        (kernel.applied config₂ settings').resolvConf ↔
      config₁.dns.servers = [] ∨ config₂.dns.servers ≠ [] ∨
        settings'.resolvConf = some (resolvConfContent (dnsSettings config₁)) := by
  simp only [Kernel.applied]
  by_cases hservers₂ : config₂.dns.servers = []
  · rw [if_pos hservers₂, if_pos hservers₂]
    by_cases hservers₁ : config₁.dns.servers = []
    · simp [hservers₁, hsame]
    · simp only [hservers₁, hservers₂, if_false, false_or, ne_eq, not_true_eq_false]
      exact eq_comm
  · simp [hservers₂]

/-- An update reaches the settings of a creation iff, under each destination and metric, the
route that the first configuration leads to is the one that the second one leads to, a route
that comes with the interfaces of the second one comes from the first one or is requested, and
DNS settings are not given by the first one only. In the simulation it always does. -/
theorem updateReachesCreation_iff (actualInfo : NamespaceInfo) (settings : NetworkSettings κ ρ σ)
    (hname : entry₁.fullName = entry₂.fullName) (hvalid₁ : entry₁.config.validate = .ok ())
    (hvalid₂ : entry₂.config.validate = .ok ())
    (hcreated : (manager.createNewNamespace entry₂).1 = .ok .created) :
    UpdateReachesCreation kernel manager entry₁ entry₂ actualInfo settings ↔
      manager.netlinkManager.isSimulated = true ∨
        (∀ k route,
          kernel.routeUnder entry₁.config (linkedSettings kernel manager entry₁ settings).routes k =
              some route →
            kernel.routeUnder entry₂.config
              (linkedSettings kernel manager entry₂ settings).routes k = some route) ∧
        (∀ k route, (linkedSettings kernel manager entry₂ settings).routes k = some route →
          kernel.routeUnder entry₁.config (linkedSettings kernel manager entry₁ settings).routes k =
              some route ∨
            kernel.requested entry₂.config k = some route) ∧
        (entry₁.config.dns.servers = [] ∨ entry₂.config.dns.servers ≠ [] ∨
          settings.resolvConf = some (resolvConfContent (dnsSettings entry₁.config))) := by
  obtain ⟨-, -, -, hdns₁, -⟩ := NamespaceConfig.validate_eq_ok_iff.mp hvalid₁
  obtain ⟨-, -, -, hdns₂, -⟩ := NamespaceConfig.validate_eq_ok_iff.mp hvalid₂
  -- whether the namespace can be created does not depend on the configuration
  have hcreated₁ : (manager.createNewNamespace entry₁).1 = .ok .created := by
    rw [NamespaceStateManager.createNewNamespace_ok_iff] at hcreated ⊢
    rw [hname]
    exact hcreated
  obtain ⟨-, -, hvalid, hsimulated, hmounted⟩ :=
    NamespaceStateManager.createNewNamespace_requests hcreated₁
  rw [hname] at hvalid hmounted
  rw [← hsimulated] at hmounted
  unfold UpdateReachesCreation
  rw [updatedSettings_eq actualInfo _ hdns₂ hvalid hmounted, createdSettings_eq _ hdns₁ hcreated₁,
    createdSettings_eq _ hdns₂ hcreated, hsimulated]
  cases manager.netlinkManager.isSimulated with
  | true => exact iff_of_true ⟨rfl, rfl⟩ (.inl rfl)
  | false =>
    -- the second configuration is applied to what the first one left, or to what was there
    have hresolv : (linkedSettings kernel manager entry₁ settings).resolvConf =
        (linkedSettings kernel manager entry₂ settings).resolvConf := by
      rw [resolvConf_linkedSettings, resolvConf_linkedSettings]
    simp only [Bool.false_eq_true, if_false, false_or]
    rw [applied_routes_eq_iff, applied_resolvConf_eq_iff hresolv, resolvConf_linkedSettings,
      and_assoc]
    simp only [applied_routes]

end Reached

/-! ### A gateway that moves -/

section Gateway

/-- Family, prefix length, destination and metric of a route. -/
abbrev RouteKey := AddressFamily × Nat × Option IpAddr × Option Nat

/-- What tells routes apart, as they are sent. -/
def routeKey (message : RouteMessage) : RouteKey :=
  (message.addressFamily, message.destinationPrefixLength, message.destination, message.priority)

/-- The route to the network of an address, for prefixes of whole octets or groups. -/
def connectedRoute (addr : IpAddr) (prefixLen : Nat) : RouteMessage :=
  let network (width : Nat) (parts : List Nat) : List Nat :=
    parts.mapIdx fun i part => if i < prefixLen / width then part else 0
  match addr with
  | .v4 octets => ⟨.inet, prefixLen, some (.v4 (network 8 octets)), none, none, none⟩
  | .v6 groups => ⟨.inet6, prefixLen, some (.v6 (network 16 groups)), none, none, none⟩

/-- A kernel where an address brings the route to its network with it, and nothing else that is
done to interfaces matters. -/
def plainKernel : Kernel RouteKey RouteMessage Unit where
  key := routeKey
  route message := message
  link
    | .addAddress _ _ addr prefixLen, _, routes =>
      ((), addExclusive routeKey id routes (connectedRoute addr prefixLen))
    | _, _, routes => ((), routes)
  interfaceIndex name := .error ("interface '" ++ name ++ "' not found")

/-- A configuration with one interface, in whose network the gateway of its route is. -/
def routedThrough (gateway : String) : NamespaceConfigEntry where
  config := { NamespaceConfig.bare "one" with
    interfaces := ⟨[], [⟨"dummy0", "dummy", none, ["10.0.0.5/24"]⟩]⟩
    routing := ⟨none, [⟨"10.1.0.0/16", gateway, none⟩]⟩ }
  filePath := ⟨["etc", "segwire", "namespaces", "one.toml"]⟩
  fullName := "new-one"
  lastModified := 0

/-- The configuration without its route. -/
def unrouted : NamespaceConfigEntry :=
  { routedThrough "" with config := { (routedThrough "").config with routing := ⟨none, []⟩ } }

/-- A daemon on a machine without namespaces. -/
def beforeCreation : NamespaceStateManager :=
  .new ⟨.real, .quiet 0 (Disk.fileSystem ⟨∅, ∅⟩ .sorted)⟩

/-- What is mounted has the default route of the machine. -/
def machineSettings : NetworkSettings RouteKey RouteMessage Unit where
  routes := addExclusive routeKey id (fun _ => none)
    ⟨.inet, 0, none, some (.v4 [192, 168, 0, 1]), none, none⟩
  links := ()
  resolvConf := none

/-- What the daemon finds of the namespace after its creation. -/
def foundInfo : NamespaceInfo :=
  NetlinkManager.realInfo beforeCreation.netlinkManager.host "new-one"

end Gateway

/-- A route that is added leaves the other routes where they are. -/
theorem reaches_added_route :
    UpdateReachesCreation plainKernel beforeCreation unrouted (routedThrough "10.0.0.1") foundInfo
      machineSettings := by
  have hname : unrouted.fullName = (routedThrough "10.0.0.1").fullName := rfl
  have hcreated : (beforeCreation.createNewNamespace (routedThrough "10.0.0.1")).1 =
      .ok .created := by decide
  have hlinked : linkedSettings plainKernel beforeCreation unrouted machineSettings =
      linkedSettings plainKernel beforeCreation (routedThrough "10.0.0.1") machineSettings := rfl
  refine (updateReachesCreation_iff foundInfo machineSettings hname (by decide) (by decide)
    hcreated).mpr (.inr ⟨fun k route hroute => ?_, fun k route hroute => .inl ?_, .inl rfl⟩)
  · -- without routes of its own, the first configuration leads to what is there
    have hnone : plainKernel.requested unrouted.config k = none := rfl
    rw [Kernel.routeUnder, hnone, Option.or_none, hlinked] at hroute
    exact Option.or_eq_some_iff.mpr (.inl hroute)
  · rw [← hlinked] at hroute
    exact Option.or_eq_some_iff.mpr (.inl hroute)

/-- The route keeps the gateway that it was created with. -/
theorem not_reaches_moved_gateway :
    (routedThrough "10.0.0.1").config.validate = .ok () ∧
      (routedThrough "10.0.0.2").config.validate = .ok () ∧
      ¬ UpdateReachesCreation plainKernel beforeCreation (routedThrough "10.0.0.1")
        (routedThrough "10.0.0.2") foundInfo machineSettings := by
  refine ⟨by decide, by decide, fun hreaches => ?_⟩
  have hgateway := congrArg (fun routes => (routes
    (.inet, 16, some (.v4 [10, 1, 0, 0]), none)).bind RouteMessage.gateway) hreaches.1
  revert hgateway
  decide

end Segwire.Daemon
