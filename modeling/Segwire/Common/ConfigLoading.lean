import Segwire.Common.Config

/-!
# Loading configurations

Configurations are read from TOML files; a namespace configuration then has its
environment variables substituted before it is validated. What third-party code
contributes is a `Platform`: the `toml` crate, the process environment and the
Unicode table behind `char::is_alphanumeric`.

## Main definitions

* `Platform` — third-party behaviour
* `NamespaceConfig.substituteEnvironmentVariables` — the substitution
* `NamespaceConfig.fromFile`, `DaemonConfig.fromFile` — loading

## Main results

* `NamespaceConfig.substitute_of_validate` — substitution touches nothing but the
  description and the endpoints of a configuration that passes its checks
* `NamespaceConfig.loads_of_validate_iff` — when such a configuration passes them
  again after substitution
-/

namespace Segwire.Common

open Foundation Foundation.Text

/-- The behaviour of code outside the repository. `toml::from_str` parses a text
and then decodes the value at the requested type. -/
structure Platform where
  TomlValue : Type
  parseToml : String → Except TomlError TomlValue
  toNamespaceConfig : TomlValue → Except TomlError NamespaceConfig
  toDaemonConfig : TomlValue → Except TomlError DaemonConfig
  envVar : String → Option String
  isAlphanumeric : Char → Bool
  isAlphanumeric_of_ascii : ∀ c : Char, c.toNat < 128 → isAlphanumeric c = c.isAlphanum

/-- `toml::from_str::<NamespaceConfig>(content)` -/
def Platform.namespaceConfigFromStr (platform : Platform) (content : String) :
    Except TomlError NamespaceConfig := do
  let value ← platform.parseToml content
  platform.toNamespaceConfig value

/-- `toml::from_str::<DaemonConfig>(content)` -/
def Platform.daemonConfigFromStr (platform : Platform) (content : String) :
    Except TomlError DaemonConfig := do
  let value ← platform.parseToml content
  platform.toDaemonConfig value

/-- A platform whose `toml` crate knows the texts of two tables. -/
def Platform.ofTables (namespaceTexts : List (String × NamespaceConfig))
    (daemonTexts : List (String × DaemonConfig)) : Platform where
  TomlValue := String
  parseToml := .ok
  toNamespaceConfig text :=
    match namespaceTexts.lookup text with
    | some config => .ok config
    | none => .error ⟨"missing field"⟩
  toDaemonConfig text :=
    match daemonTexts.lookup text with
    | some config => .ok config
    | none => .error ⟨"missing field"⟩
  envVar _ := none
  isAlphanumeric := Char.isAlphanum
  isAlphanumeric_of_ascii _ _ := rfl

/-- The text of a namespace file that gives nothing but a name. -/
def bareText (name : String) : String := "namespace.name = '" ++ name ++ "'\n"

/-- The text of a master file that gives nothing but what it has to. -/
def masterText (pfx : String) : String :=
  "daemon.namespace_prefix = '" ++ pfx ++ "'\n" ++
    "daemon.config_dir = '/etc/segwire/namespaces'\n[dbus]\n"

/-! ### Substitution -/

/-- Substitute in a value that may be missing. -/
def substituteOption (subst : String → SegwireResult String) :
    Option String → SegwireResult (Option String)
  | none => .ok none
  | some value => return some (← subst value)

/-- Substitute in a virtual interface. -/
def VirtualInterface.substitute (subst : String → SegwireResult String) (vif : VirtualInterface) :
    SegwireResult VirtualInterface := do
  let name ← subst vif.name
  let interfaceType ← subst vif.interfaceType
  let peer ← substituteOption subst vif.peer
  let addresses ← vif.addresses.mapM subst
  return { name, interfaceType, peer, addresses }

/-- Substitute in a route. -/
def Route.substitute (subst : String → SegwireResult String) (route : Route) :
    SegwireResult Route := do
  let destination ← subst route.destination
  let gateway ← subst route.gateway
  return { route with destination, gateway }

/-- Substitute in a WireGuard peer. -/
def WireguardPeerConfig.substitute (subst : String → SegwireResult String)
    (peer : WireguardPeerConfig) : SegwireResult WireguardPeerConfig := do
  let publicKey ← subst peer.publicKey
  let presharedKey ← substituteOption subst peer.presharedKey
  let endpoint ← substituteOption subst peer.endpoint
  let allowedIps ← peer.allowedIps.mapM subst
  return { peer with publicKey, presharedKey, endpoint, allowedIps }

/-- Substitute in the WireGuard section if there is one. -/
def substituteWireguard (subst : String → SegwireResult String) :
    Option WireguardConfig → SegwireResult (Option WireguardConfig)
  | none => .ok none
  | some wg => do
    let privateKey ← subst wg.privateKey
    let peers ← wg.peers.mapM (WireguardPeerConfig.substitute subst)
    return some { wg with privateKey, peers }

namespace NamespaceConfig

/-- Substitute environment variables in configuration values. -/
def substituteEnvironmentVariables (systemEnv : String → Option String)
    (config : NamespaceConfig) : SegwireResult NamespaceConfig := do
  let subst := substituteEnvVars systemEnv config.environment
  let name ← subst config.namespace_.name
  let description ← subst config.namespace_.description
  let moveInterfaces ← config.interfaces.moveInterfaces.mapM subst
  let virtualInterfaces ←
    config.interfaces.virtualInterfaces.mapM (VirtualInterface.substitute subst)
  let defaultGateway ← substituteOption subst config.routing.defaultGateway
  let routes ← config.routing.routes.mapM (Route.substitute subst)
  let servers ← config.dns.servers.mapM subst
  let search ← config.dns.search.mapM subst
  let wireguard ← substituteWireguard subst config.wireguard
  return { config with
    namespace_ := { name, description }
    interfaces := { moveInterfaces, virtualInterfaces }
    routing := { defaultGateway, routes }
    dns := { servers, search }
    wireguard }

/-- Load namespace configuration from TOML file. -/
def fromFile (platform : Platform) (fs : FileSystem) (path : PathBuf) :
    SegwireResult NamespaceConfig := do
  let content ← (fs.readToString path).mapError fun _ => .config (.fileNotFound path.display)
  let config ← (platform.namespaceConfigFromStr content).mapError fun e => .config (.invalidToml e)
  let config ← config.substituteEnvironmentVariables platform.envVar
  -- the values are checked as they are after the substitution
  config.validate
  return config

end NamespaceConfig

/-- A configuration that a file gives passes its checks. -/
theorem NamespaceConfig.validate_of_fromFile {platform : Platform} {fs : FileSystem}
    {path : PathBuf} {config : NamespaceConfig} (h : fromFile platform fs path = .ok config) :
    config.validate = .ok () := by
  obtain ⟨content, -, h⟩ := Except.bind_eq_ok_iff.mp h
  obtain ⟨parsed, -, h⟩ := Except.bind_eq_ok_iff.mp h
  obtain ⟨substituted, -, h⟩ := Except.bind_eq_ok_iff.mp h
  obtain ⟨hvalid, h⟩ := Except.check_bind_eq_ok_iff.mp h
  exact Except.pure_eq_ok_iff.mp h ▸ hvalid

/-- Load daemon configuration from TOML file. -/
def DaemonConfig.fromFile (platform : Platform) (fs : FileSystem) (path : PathBuf) :
    SegwireResult DaemonConfig := do
  let content ← (fs.readToString path).mapError fun _ => .config (.fileNotFound path.display)
  let config ← (platform.daemonConfigFromStr content).mapError fun e => .config (.invalidToml e)
  config.validate fs
  return config

theorem DaemonConfig.validate_of_fromFile {platform : Platform} {fs : FileSystem} {path : PathBuf}
    {config : DaemonConfig} (h : fromFile platform fs path = .ok config) :
    config.validate fs = .ok () := by
  obtain ⟨content, -, h⟩ := Except.bind_eq_ok_iff.mp h
  obtain ⟨parsed, -, h⟩ := Except.bind_eq_ok_iff.mp h
  obtain ⟨hvalid, h⟩ := Except.check_bind_eq_ok_iff.mp h
  exact Except.pure_eq_ok_iff.mp h ▸ hvalid

/-! ### Substitution in a configuration that passes its checks

A validated field contains no `$`, so substitution can only change the fields that
validation does not restrict: the description, and the host of an endpoint. -/

theorem VirtualInterface.referenceFree_of_validate {vif : VirtualInterface}
    (h : vif.validate = .ok ()) :
    ReferenceFree vif.name ∧ ReferenceFree vif.interfaceType ∧
      (∀ peer, vif.peer = some peer → ReferenceFree peer) ∧
      ∀ address ∈ vif.addresses, ReferenceFree address := by
  obtain ⟨hname, htype, hpeer, -, haddresses⟩ := validate_eq_ok_iff.mp h
  -- the type is one of a fixed list
  have hall : ∀ t ∈ validTypes, ReferenceFree t := by decide
  exact ⟨.of_validateInterfaceName hname, hall _ htype,
    fun peer hp => .of_validateInterfaceName (validatePeer_eq_ok_iff.mp hpeer peer hp).1,
    fun address haddress => .of_validateCidr (haddresses address haddress)⟩

theorem Route.referenceFree_of_validate {route : Route} (h : route.validate = .ok ()) :
    ReferenceFree route.destination ∧ ReferenceFree route.gateway := by
  obtain ⟨hdestination, hgateway, -⟩ := validate_eq_ok_iff.mp h
  exact ⟨.of_validateCidr hdestination, .of_validateIpAddress hgateway⟩

section Validated

variable {subst : String → SegwireResult String} (hsubst : ∀ s, ReferenceFree s → subst s = .ok s)
include hsubst

theorem substituteOption_of_referenceFree {value : Option String}
    (h : ∀ s, value = some s → ReferenceFree s) : substituteOption subst value = .ok value := by
  cases value with
  | none => rfl
  | some s =>
    rw [substituteOption, hsubst s (h s rfl)]
    rfl

theorem mapM_of_referenceFree {values : List String} (h : ∀ s ∈ values, ReferenceFree s) :
    values.mapM subst = .ok values :=
  Except.mapM_eq_self fun s hs => hsubst s (h s hs)

theorem VirtualInterface.substitute_of_validate {vif : VirtualInterface}
    (h : vif.validate = .ok ()) : vif.substitute subst = .ok vif := by
  obtain ⟨hname, htype, hpeer, haddresses⟩ := referenceFree_of_validate h
  rw [substitute, hsubst _ hname, hsubst _ htype, substituteOption_of_referenceFree hsubst hpeer,
    mapM_of_referenceFree hsubst haddresses]
  rfl

theorem Route.substitute_of_validate {route : Route} (h : route.validate = .ok ()) :
    route.substitute subst = .ok route := by
  obtain ⟨hdestination, hgateway⟩ := referenceFree_of_validate h
  rw [substitute, hsubst _ hdestination, hsubst _ hgateway]
  rfl

/-- Only the endpoint of a validated peer can change. -/
theorem WireguardPeerConfig.substitute_of_validate {peer : WireguardPeerConfig}
    (h : peer.validate = .ok ()) :
    peer.substitute subst = do
      let endpoint ← substituteOption subst peer.endpoint
      return { peer with endpoint } := by
  obtain ⟨hkey, hpsk, -, hips⟩ := validate_eq_ok_iff.mp h
  rw [substitute, hsubst _ (.of_validateWgKey hkey),
    substituteOption_of_referenceFree hsubst fun s hs => .of_validateWgKey (hpsk s hs),
    mapM_of_referenceFree hsubst fun s hs => .of_validateCidr (hips s hs)]
  rfl

/-- The endpoint of a peer, if it has one, resolves to a well-formed one. -/
def WireguardPeerConfig.EndpointResolves (subst : String → SegwireResult String)
    (peer : WireguardPeerConfig) : Prop :=
  ∀ endpoint, peer.endpoint = some endpoint →
    ∃ resolved, subst endpoint = .ok resolved ∧ validateEndpoint resolved = .ok ()

theorem WireguardPeerConfig.exists_substitute_iff {peer : WireguardPeerConfig}
    (h : peer.validate = .ok ()) :
    (∃ peer', peer.substitute subst = .ok peer' ∧ peer'.validate = .ok ()) ↔
      peer.EndpointResolves subst := by
  obtain ⟨hkey, hpsk, -, hips⟩ := validate_eq_ok_iff.mp h
  rw [substitute_of_validate hsubst h, EndpointResolves]
  cases hendpoint : peer.endpoint with
  | none =>
    -- without an endpoint nothing is substituted
    have hsame : { peer with endpoint := none } = peer := by rw [← hendpoint]
    simp [substituteOption, bind, Except.bind, pure, Except.pure, hsame, h]
  | some endpoint =>
    simp only [substituteOption, Option.some.injEq, forall_eq']
    constructor
    · rintro ⟨peer', hpeer', hvalid⟩
      obtain ⟨endpoint', hendpoint', heq⟩ := Except.bind_eq_ok_iff.mp hpeer'
      obtain ⟨resolved, hresolved, hsome⟩ := Except.bind_eq_ok_iff.mp hendpoint'
      rw [Except.pure_eq_ok_iff] at heq hsome
      subst heq hsome
      exact ⟨resolved, hresolved, (validate_eq_ok_iff.mp hvalid).2.2.1 resolved rfl⟩
    · rintro ⟨resolved, hresolved, hvalid⟩
      refine ⟨{ peer with endpoint := some resolved }, ?_, ?_⟩
      · rw [hresolved]
        rfl
      · exact validate_eq_ok_iff.mpr
          ⟨hkey, hpsk, fun e he => Option.some.inj he ▸ hvalid, hips⟩

theorem exists_substituteWireguard_iff {wireguard : Option WireguardConfig}
    (h : ∀ wg, wireguard = some wg → wg.validate = .ok ()) :
    (∃ wireguard', substituteWireguard subst wireguard = .ok wireguard' ∧
        ∀ wg', wireguard' = some wg' → wg'.validate = .ok ()) ↔
      ∀ wg, wireguard = some wg → ∀ peer ∈ wg.peers, peer.EndpointResolves subst := by
  cases wireguard with
  | none => simp [substituteWireguard]
  | some wg =>
    obtain ⟨hkey, hpeers⟩ := WireguardConfig.validate_eq_ok_iff.mp (h wg rfl)
    -- peer by peer, the templates resolve iff the substituted list is good
    have hresolve : (∀ peer ∈ wg.peers, peer.EndpointResolves subst) ↔
        ∃ peers, wg.peers.mapM (WireguardPeerConfig.substitute subst) = .ok peers ∧
          ∀ peer ∈ peers, peer.validate = .ok () := by
      rw [Except.exists_mapM_eq_ok_iff]
      exact forall₂_congr fun peer hpeer =>
        (WireguardPeerConfig.exists_substitute_iff hsubst (hpeers peer hpeer)).symm
    rw [substituteWireguard, hsubst _ (.of_validateWgKey hkey)]
    simp only [Except.ok_bind, Option.some.injEq, forall_eq', hresolve]
    constructor
    · rintro ⟨wireguard', hok, hvalid⟩
      obtain ⟨peers, hmap, heq⟩ := Except.bind_eq_ok_iff.mp hok
      rw [Except.pure_eq_ok_iff] at heq
      exact ⟨peers, hmap, (WireguardConfig.validate_eq_ok_iff.mp (hvalid _ heq.symm)).2⟩
    · rintro ⟨peers, hmap, hvalid⟩
      refine ⟨some { wg with peers }, Except.bind_eq_ok_iff.mpr ⟨peers, hmap, rfl⟩, ?_⟩
      rintro wg' ⟨⟩
      exact WireguardConfig.validate_eq_ok_iff.mpr ⟨hkey, hvalid⟩

end Validated

namespace NamespaceConfig

variable {config : NamespaceConfig} {systemEnv : String → Option String}

/-- The references in the fields that validation leaves free resolve, the ones in
endpoints to well-formed endpoints. -/
def TemplatesResolve (systemEnv : String → Option String) (config : NamespaceConfig) : Prop :=
  let subst := substituteEnvVars systemEnv config.environment
  (∃ description, subst config.namespace_.description = .ok description) ∧
    ∀ wg, config.wireguard = some wg → ∀ peer ∈ wg.peers, peer.EndpointResolves subst

/-- Substitution touches nothing but the description and the WireGuard section of
a validated configuration. -/
theorem substitute_of_validate (h : config.validate = .ok ()) :
    config.substituteEnvironmentVariables systemEnv = do
      let subst := substituteEnvVars systemEnv config.environment
      let description ← subst config.namespace_.description
      let wireguard ← substituteWireguard subst config.wireguard
      return { config with namespace_ := { config.namespace_ with description }, wireguard } := by
  obtain ⟨hname, hinterfaces, hrouting, hdns, -⟩ := validate_eq_ok_iff.mp h
  obtain ⟨hmove, hvirtual, -⟩ := InterfaceConfig.validate_eq_ok_iff.mp hinterfaces
  obtain ⟨hgateway, hroutes, -⟩ := RoutingConfig.validate_eq_ok_iff.mp hrouting
  obtain ⟨hservers, hsearch, -⟩ := DnsConfig.validate_eq_ok_iff.mp hdns
  have hsubst : ∀ s, ReferenceFree s → substituteEnvVars systemEnv config.environment s = .ok s :=
    fun _ => substituteEnvVars_of_referenceFree
  rw [substituteEnvironmentVariables]
  simp only [hsubst _ (.of_validateNamespaceName hname),
    mapM_of_referenceFree hsubst fun s hs => .of_validateInterfaceName (hmove s hs),
    Except.mapM_eq_self fun vif hvif =>
      VirtualInterface.substitute_of_validate hsubst (hvirtual vif hvif),
    substituteOption_of_referenceFree hsubst fun s hs => .of_validateIpAddress (hgateway s hs),
    Except.mapM_eq_self fun route hr => Route.substitute_of_validate hsubst (hroutes route hr),
    mapM_of_referenceFree hsubst fun s hs => .of_validateIpAddress (hservers s hs),
    mapM_of_referenceFree hsubst fun s hs => .of_validateDomainName (hsearch s hs)]
  rfl

/-- A validated configuration passes its checks again after substitution iff its
templates resolve. -/
theorem loads_of_validate_iff (h : config.validate = .ok ()) :
    (∃ config', config.substituteEnvironmentVariables systemEnv = .ok config' ∧
        config'.validate = .ok ()) ↔
      config.TemplatesResolve systemEnv := by
  obtain ⟨hname, hinterfaces, hrouting, hdns, hwireguard⟩ := validate_eq_ok_iff.mp h
  rw [substitute_of_validate h, TemplatesResolve,
    ← exists_substituteWireguard_iff (fun _ => substituteEnvVars_of_referenceFree) hwireguard]
  constructor
  · rintro ⟨config', hok, hvalid⟩
    obtain ⟨description, hdescription, hok⟩ := Except.bind_eq_ok_iff.mp hok
    obtain ⟨wireguard, hwg, heq⟩ := Except.bind_eq_ok_iff.mp hok
    rw [Except.pure_eq_ok_iff] at heq
    subst heq
    exact ⟨⟨description, hdescription⟩, wireguard, hwg, (validate_eq_ok_iff.mp hvalid).2.2.2.2⟩
  · rintro ⟨⟨description, hdescription⟩, wireguard, hwg, hvalid⟩
    refine ⟨{ config with namespace_ := { config.namespace_ with description }, wireguard }, ?_, ?_⟩
    · exact Except.bind_eq_ok_iff.mpr
        ⟨description, hdescription, Except.bind_eq_ok_iff.mpr ⟨wireguard, hwg, rfl⟩⟩
    · exact validate_eq_ok_iff.mpr ⟨hname, hinterfaces, hrouting, hdns, hvalid⟩

end NamespaceConfig

end Segwire.Common
