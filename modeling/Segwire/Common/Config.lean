import Segwire.Common.EnvSubst
import Segwire.Foundation.Base64
import Mathlib.Data.List.Destutter

/-!
# Configuration structures

The daemon and namespace configurations and their validation. Every check names
the field it rejects; the checks of list elements add the index, and the checks of
a route or a peer the place of the route or peer.

## Main definitions

* `NamespaceConfig`, `DaemonConfig` — the two kinds of configuration
* `NamespaceConfig.validate`, `DaemonConfig.validate` — the checks

## Main results

* `NamespaceConfig.validate_eq_ok_iff` — an accepted configuration, section by section
* the `validate_eq_ok_iff` of each section
* `hasDuplicates_eq_false_iff`, `adjacentRepeat_insertionSort_eq_none_iff` — the two ways of
  looking for duplicates both find one whenever there is one
-/

namespace Segwire.Common

open Foundation Foundation.Text

/-- Logging configuration settings. -/
structure LoggingConfig where
  level : String
  deriving DecidableEq, Repr

/-- Daemon-specific settings. -/
structure DaemonSettings where
  namespacePrefix : String
  configDir : PathBuf
  cleanupOnShutdown : Bool
  logging : LoggingConfig
  deriving DecidableEq, Repr

/-- D-Bus service settings. -/
structure DBusSettings where
  serviceName : String
  objectPath : String
  deriving DecidableEq, Repr

/-- Master daemon configuration structure. -/
structure DaemonConfig where
  daemon : DaemonSettings
  dbus : DBusSettings
  deriving DecidableEq, Repr

/-- Namespace-specific settings. -/
structure NamespaceSettings where
  name : String
  description : String
  deriving DecidableEq, Repr

/-- Virtual interface definition. -/
structure VirtualInterface where
  name : String
  interfaceType : String
  peer : Option String
  addresses : List String
  deriving DecidableEq, Repr

/-- Network interface configuration. -/
structure InterfaceConfig where
  moveInterfaces : List String
  virtualInterfaces : List VirtualInterface
  deriving DecidableEq, Repr

/-- Static route definition. -/
structure Route where
  destination : String
  gateway : String
  metric : Option Nat
  deriving DecidableEq, Repr

/-- Routing configuration. -/
structure RoutingConfig where
  defaultGateway : Option String
  routes : List Route
  deriving DecidableEq, Repr

/-- DNS configuration. -/
structure DnsConfig where
  servers : List String
  search : List String
  deriving DecidableEq, Repr

/-- WireGuard peer definition. -/
structure WireguardPeerConfig where
  publicKey : String
  presharedKey : Option String
  endpoint : Option String
  allowedIps : List String
  persistentKeepalive : Nat
  deriving DecidableEq, Repr

/-- WireGuard tunnel configuration. -/
structure WireguardConfig where
  privateKey : String
  listenPort : Nat
  fwmark : Nat
  peers : List WireguardPeerConfig
  deriving DecidableEq, Repr

/-- Individual namespace configuration. -/
structure NamespaceConfig where
  namespace_ : NamespaceSettings
  interfaces : InterfaceConfig
  routing : RoutingConfig
  dns : DnsConfig
  wireguard : Option WireguardConfig
  environment : HashMap String String
  deriving DecidableEq

/-- The settings of a daemon with the standard paths, for the prefix `pfx`. -/
def DaemonConfig.standard (pfx : String) : DaemonConfig where
  daemon := ⟨pfx, ⟨["etc", "segwire", "namespaces"]⟩, true, ⟨"info"⟩⟩
  dbus := ⟨"org.segwire.NamespaceManager", "/org/segwire/NamespaceManager"⟩

/-- A configuration that gives nothing but a name. -/
def NamespaceConfig.bare (name : String) : NamespaceConfig where
  namespace_ := ⟨name, ""⟩
  interfaces := ⟨[], []⟩
  routing := ⟨none, []⟩
  dns := ⟨[], []⟩
  wireguard := none
  environment := ∅

/-! ### Validation -/

/-- `check(value).map_err(|_| ConfigError::InvalidValue { field, value })` -/
def checkField (check : String → SegwireResult Unit) (field value : String) : SegwireResult Unit :=
  (check value).mapError fun _ => .config (.invalidValue field value)

/-- `if bad { return Err(error.into()); }` -/
def rejectIf (bad : Bool) (error : ConfigError) : SegwireResult Unit :=
  if bad then .error (.config error) else .ok ()

/-- `field[i]` -/
def indexed (field : String) (i : Nat) : String := field ++ "[" ++ toString i ++ "]"

/-- The checks of a list of values, each under its index in `field`. -/
def checkEach (check : String → SegwireResult Unit) (field : String) (values : List String) :
    SegwireResult Unit :=
  forM values.zipIdx fun (value, i) => checkField check (indexed field i) value

/-- The sort-and-dedup comparison of lengths. -/
def hasDuplicates (values : List String) : Bool :=
  ((values.insertionSort (· ≤ ·)).destutter (· ≠ ·)).length != values.length

/-- Prefix the field of an invalid value with the place it was found in. -/
def inField (place : String) : SegwireError → SegwireError
  | .config (.invalidValue field value) => .config (.invalidValue (place ++ "." ++ field) value)
  | other => other

namespace VirtualInterface

/-- The interface types a configuration may name. -/
def validTypes : List String := ["veth", "bridge", "dummy", "macvlan", "ipvlan", "wireguard"]

/-- Validate the peer's name if there is a peer. -/
def validatePeer (vif : VirtualInterface) : SegwireResult Unit :=
  match vif.peer with
  | none => .ok ()
  | some peer => do
    checkField validateInterfaceName "interfaces.virtual.peer" peer
    rejectIf (peer == vif.name) (.invalidValue "interfaces.virtual.peer"
      "Peer name cannot be the same as interface name")

/-- Validate virtual interface configuration. -/
def validate (vif : VirtualInterface) : SegwireResult Unit := do
  checkField validateInterfaceName "interfaces.virtual.name" vif.name
  rejectIf (!validTypes.contains vif.interfaceType)
    (.invalidValue "interfaces.virtual.type" vif.interfaceType)
  -- any type may have a peer; only a veth pair must
  vif.validatePeer
  rejectIf (vif.interfaceType == "veth" && vif.peer.isNone)
    (.missingField "interfaces.virtual.peer")
  checkEach validateCidr "interfaces.virtual.addresses" vif.addresses

end VirtualInterface

namespace InterfaceConfig

/-- Every interface name of the configuration: moved, virtual and peers. -/
def allInterfaces (config : InterfaceConfig) : List String :=
  config.moveInterfaces ++ config.virtualInterfaces.flatMap fun vif => vif.name :: vif.peer.toList

/-- Validate interface configuration. -/
def validate (config : InterfaceConfig) : SegwireResult Unit := do
  forM config.moveInterfaces (checkField validateInterfaceName "interfaces.move_interfaces")
  forM config.virtualInterfaces VirtualInterface.validate
  rejectIf (hasDuplicates config.allInterfaces)
    (.invalidValue "interfaces" "Duplicate interface names found")

end InterfaceConfig

namespace Route

/-- Validate individual route configuration. -/
def validate (route : Route) : SegwireResult Unit := do
  checkField validateCidr "destination" route.destination
  checkField validateIpAddress "gateway" route.gateway
  rejectIf (route.metric == some 0) (.invalidValue "metric" "Route metric cannot be zero")

end Route

/-- The first pair of equal neighbours. -/
def adjacentRepeat : List String → Option String
  | a :: b :: rest => if a = b then some a else adjacentRepeat (b :: rest)
  | _ => none

namespace RoutingConfig

/-- Validate the default gateway if there is one. -/
def validateDefaultGateway (config : RoutingConfig) : SegwireResult Unit :=
  match config.defaultGateway with
  | none => .ok ()
  | some gateway => checkField validateIpAddress "routing.default_gateway" gateway

/-- Validate routing configuration. -/
def validate (config : RoutingConfig) : SegwireResult Unit := do
  config.validateDefaultGateway
  forM config.routes.zipIdx fun (route, index) =>
    -- a route does not know its index, so its errors get their place here
    route.validate.mapError (inField (indexed "routing.routes" index))
  match adjacentRepeat ((config.routes.map Route.destination).insertionSort (· ≤ ·)) with
  | some destination =>
    .error (.config (.invalidValue "routing.routes"
      ("Duplicate route destination: " ++ destination)))
  | none => .ok ()

end RoutingConfig

namespace DnsConfig

/-- Validate DNS configuration. -/
def validate (config : DnsConfig) : SegwireResult Unit := do
  checkEach validateIpAddress "dns.servers" config.servers
  checkEach validateDomainName "dns.search" config.search
  rejectIf (hasDuplicates config.servers)
    (.invalidValue "dns.servers" "Duplicate DNS servers found")
  rejectIf (hasDuplicates config.search)
    (.invalidValue "dns.search" "Duplicate search domains found")

end DnsConfig

/-- Validate a base64-encoded WireGuard key (must decode to exactly 32 bytes). -/
def validateWgKey (key fieldName : String) : SegwireResult Unit :=
  if key = "" then .error (.config (.missingField fieldName))
  else
    match Base64.decode key.toList with
    | none => .error (.config (.invalidValue fieldName "invalid base64 encoding"))
    | some decoded =>
      if decoded.length ≠ 32 then
        .error (.config (.invalidValue fieldName ("key must be 32 bytes (got " ++
          toString decoded.length ++ " bytes after base64 decode)")))
      else .ok ()

/-- `text.rfind(c)`, as the text before and after the last occurrence. -/
def splitLast (c : Char) (text : List Char) : Option (List Char × List Char) :=
  if c ∈ text then
    let after := (text.reverse.takeWhile (· ≠ c)).reverse
    some (text.take (text.length - after.length - 1), after)
  else none

theorem splitLast_append {c : Char} {after : List Char} (h : c ∉ after) (before : List Char) :
    splitLast c (before ++ c :: after) = some (before, after) := by
  have hafter : (before ++ c :: after).reverse.takeWhile (· ≠ c) = after.reverse := by
    rw [List.reverse_append, List.reverse_cons, List.append_assoc,
      List.takeWhile_append_of_pos (by simpa using fun x hx => ne_of_mem_of_not_mem hx h)]
    simp
  have hlength : (before ++ c :: after).length - after.length - 1 = before.length := by
    rw [List.length_append, List.length_cons]
    omega
  unfold splitLast
  rw [if_pos (by simp), hafter, List.reverse_reverse]
  dsimp only
  rw [hlength, List.take_left]

theorem splitLast_eq_some_iff {c : Char} {text before after : List Char} :
    splitLast c text = some (before, after) ↔ text = before ++ c :: after ∧ c ∉ after := by
  constructor
  · intro h
    have hc : c ∈ text := by
      by_contra hc
      rw [splitLast, if_neg hc] at h
      cases h
    -- the last occurrence is the first one from the end
    obtain ⟨front, back, hsplit, hfresh⟩ := List.eq_append_cons_of_mem (List.mem_reverse.mpr hc)
    have htext : text = back.reverse ++ c :: front.reverse := by
      rw [← List.reverse_reverse text, hsplit]
      simp
    have hlast : c ∉ front.reverse := fun hmem => hfresh (List.mem_reverse.mp hmem)
    rw [htext, splitLast_append hlast] at h
    obtain ⟨rfl, rfl⟩ := Prod.mk.inj (Option.some.inj h)
    exact ⟨htext, hlast⟩
  · rintro ⟨rfl, h⟩
    exact splitLast_append h before

namespace WireguardPeerConfig

/-- Validate endpoint format: `host:port` where port is a valid u16. -/
def validateEndpoint (endpoint : String) : SegwireResult Unit :=
  match splitLast ':' endpoint.toList with
  | none => .error (.config (.invalidValue "endpoint"
      ("expected host:port format, got '" ++ endpoint ++ "'")))
  | some (host, portStr) =>
    match parseU16 portStr with
    | none => .error (.config (.invalidValue "endpoint" ("invalid port '" ++
        String.ofList portStr ++ "' in endpoint '" ++ endpoint ++ "'")))
    | some port =>
      if port = 0 then .error (.config (.invalidValue "endpoint" "port cannot be 0"))
      else if host = [] then
        .error (.config (.invalidValue "endpoint" "host part of endpoint is empty"))
      else .ok ()

/-- Validate a single WireGuard peer configuration. -/
def validate (peer : WireguardPeerConfig) : SegwireResult Unit := do
  validateWgKey peer.publicKey "public_key"
  forM peer.presharedKey.toList fun psk => validateWgKey psk "preshared_key"
  forM peer.endpoint.toList validateEndpoint
  checkEach validateCidr "allowed_ips" peer.allowedIps

end WireguardPeerConfig

namespace WireguardConfig

/-- Validate WireGuard configuration. -/
def validate (config : WireguardConfig) : SegwireResult Unit := do
  validateWgKey config.privateKey "wireguard.private_key"
  forM config.peers.zipIdx fun (peer, index) =>
    peer.validate.mapError (inField (indexed "wireguard.peers" index))

end WireguardConfig

namespace LoggingConfig

/-- Validate logging configuration. -/
def validate (config : LoggingConfig) : SegwireResult Unit :=
  rejectIf (! (["error", "warn", "info", "debug", "trace"].contains config.level))
    (.invalidValue "logging.level" config.level)

end LoggingConfig

namespace DaemonConfig

/-- Validate daemon configuration. -/
def validate (fs : FileSystem) (config : DaemonConfig) : SegwireResult Unit := do
  validateNamespacePrefix config.daemon.namespacePrefix
  -- the directory has to exist when the configuration is validated
  rejectIf (!fs.pathExists config.daemon.configDir)
    (.invalidValue "config_dir" config.daemon.configDir.display)
  config.daemon.logging.validate
  rejectIf (!containsChar config.dbus.serviceName '.' || startsWith config.dbus.serviceName ".")
    (.invalidValue "service_name" config.dbus.serviceName)
  rejectIf (!startsWith config.dbus.objectPath "/")
    (.invalidValue "object_path" config.dbus.objectPath)

end DaemonConfig

namespace NamespaceConfig

/-- Validate namespace configuration. -/
def validate (config : NamespaceConfig) : SegwireResult Unit := do
  validateNamespaceName config.namespace_.name
  config.interfaces.validate
  config.routing.validate
  config.dns.validate
  forM config.wireguard.toList WireguardConfig.validate

end NamespaceConfig

/-! ### Accepted configurations -/

@[simp] theorem checkField_eq_ok_iff {check : String → SegwireResult Unit} {field value : String} :
    checkField check field value = .ok () ↔ check value = .ok () := by
  rw [checkField, Except.mapError_eq_ok_iff]

@[simp] theorem rejectIf_eq_ok_iff {bad : Bool} {error : ConfigError} :
    rejectIf bad error = .ok () ↔ bad = false := by
  cases bad <;> simp [rejectIf]

theorem forall_mem_zipIdx {α : Type} {xs : List α} (P : α → Prop) :
    (∀ x ∈ xs.zipIdx, P x.1) ↔ ∀ x ∈ xs, P x := by
  conv_rhs => rw [← List.zipIdx_map_fst 0 xs]
  rw [List.forall_mem_map]

@[simp] theorem checkEach_eq_ok_iff {check : String → SegwireResult Unit} {field : String}
    {values : List String} :
    checkEach check field values = .ok () ↔ ∀ value ∈ values, check value = .ok () := by
  rw [checkEach, Except.forM_eq_ok_iff]
  simp only [checkField_eq_ok_iff]
  exact forall_mem_zipIdx (check · = .ok ())

/-- A sorted list has no equal neighbours if and only if it has no duplicates at all. -/
theorem isChain_ne_iff_nodup {values : List String} (h : values.Pairwise (· ≤ ·)) :
    values.IsChain (· ≠ ·) ↔ values.Nodup := by
  constructor
  · intro hne
    have hlt : values.IsChain (· < ·) := by
      rw [List.isChain_iff_forall_rel_of_append_cons_cons] at hne ⊢
      intro a b front back hsplit
      rw [hsplit, List.pairwise_append, List.pairwise_cons] at h
      exact lt_of_le_of_ne (h.2.1.1 b List.mem_cons_self) (hne hsplit)
    exact (List.isChain_iff_pairwise.mp hlt).imp fun hlt => ne_of_lt hlt
  · exact fun hnodup => List.Pairwise.isChain hnodup

theorem hasDuplicates_eq_false_iff {values : List String} :
    hasDuplicates values = false ↔ values.Nodup := by
  have hperm := List.perm_insertionSort (· ≤ ·) values
  have hsorted := List.pairwise_insertionSort (· ≤ ·) values
  rw [hasDuplicates, bne_eq_false_iff_eq, ← hperm.length_eq, ← hperm.nodup_iff,
    ← isChain_ne_iff_nodup hsorted, ← List.destutter_eq_self_iff]
  constructor
  · exact (List.destutter_sublist _ _).eq_of_length
  · intro h
    rw [h]

theorem adjacentRepeat_eq_none_iff {values : List String} :
    adjacentRepeat values = none ↔ values.IsChain (· ≠ ·) := by
  induction values with
  | nil => simp [adjacentRepeat]
  | cons a rest ih =>
    cases rest with
    | nil => simp [adjacentRepeat]
    | cons b rest =>
      rw [adjacentRepeat, List.isChain_cons_cons]
      split_ifs with hsame
      · simp [hsame]
      · rw [ih, and_iff_right hsame]

theorem adjacentRepeat_insertionSort_eq_none_iff {values : List String} :
    adjacentRepeat (values.insertionSort (· ≤ ·)) = none ↔ values.Nodup := by
  rw [adjacentRepeat_eq_none_iff, isChain_ne_iff_nodup (List.pairwise_insertionSort _ values),
    (List.perm_insertionSort _ values).nodup_iff]

theorem VirtualInterface.validatePeer_eq_ok_iff {vif : VirtualInterface} :
    vif.validatePeer = .ok () ↔
      ∀ peer, vif.peer = some peer → validateInterfaceName peer = .ok () ∧ peer ≠ vif.name := by
  unfold validatePeer
  cases vif.peer with
  | none => simp
  | some peer => simp [Except.check_bind_eq_ok_iff]

theorem VirtualInterface.validate_eq_ok_iff {vif : VirtualInterface} :
    vif.validate = .ok () ↔
      validateInterfaceName vif.name = .ok () ∧ vif.interfaceType ∈ validTypes ∧
        vif.validatePeer = .ok () ∧ ¬ (vif.interfaceType = "veth" ∧ vif.peer = none) ∧
        ∀ address ∈ vif.addresses, validateCidr address = .ok () := by
  have hpeer : (vif.interfaceType == "veth" && vif.peer.isNone) = false ↔
      ¬ (vif.interfaceType = "veth" ∧ vif.peer = none) := by
    rw [Bool.and_eq_false_iff, not_and_or, beq_eq_false_iff_ne, Option.isNone_eq_false_iff,
      Option.isSome_iff_ne_none]
  simp only [validate, Except.check_bind_eq_ok_iff, rejectIf_eq_ok_iff, hpeer, checkField_eq_ok_iff,
    checkEach_eq_ok_iff, Bool.not_eq_false', List.contains_iff_mem]

theorem InterfaceConfig.validate_eq_ok_iff {config : InterfaceConfig} :
    config.validate = .ok () ↔
      (∀ name ∈ config.moveInterfaces, validateInterfaceName name = .ok ()) ∧
        (∀ vif ∈ config.virtualInterfaces, vif.validate = .ok ()) ∧
        hasDuplicates config.allInterfaces = false := by
  simp [validate, Except.check_bind_eq_ok_iff, Except.forM_eq_ok_iff]

theorem Route.validate_eq_ok_iff {route : Route} :
    route.validate = .ok () ↔
      validateCidr route.destination = .ok () ∧ validateIpAddress route.gateway = .ok () ∧
        route.metric ≠ some 0 := by
  simp [validate, Except.check_bind_eq_ok_iff]

theorem RoutingConfig.validate_eq_ok_iff {config : RoutingConfig} :
    config.validate = .ok () ↔
      (∀ gateway, config.defaultGateway = some gateway → validateIpAddress gateway = .ok ()) ∧
        (∀ route ∈ config.routes, route.validate = .ok ()) ∧
        adjacentRepeat ((config.routes.map Route.destination).insertionSort (· ≤ ·)) = none := by
  have hgateway : config.validateDefaultGateway = .ok () ↔
      ∀ gateway, config.defaultGateway = some gateway → validateIpAddress gateway = .ok () := by
    unfold validateDefaultGateway
    cases config.defaultGateway <;> simp
  have hroutes : (∀ x ∈ config.routes.zipIdx, x.1.validate = .ok ()) ↔
      ∀ route ∈ config.routes, route.validate = .ok () :=
    forall_mem_zipIdx (Route.validate · = .ok ())
  rw [validate, Except.check_bind_eq_ok_iff, hgateway, Except.check_bind_eq_ok_iff,
    Except.forM_eq_ok_iff, ← hroutes]
  simp only [Except.mapError_eq_ok_iff]
  -- the check for duplicates ends the function, whichever way it goes
  refine and_congr_right fun _ => and_congr_right fun _ => ?_
  cases adjacentRepeat ((config.routes.map Route.destination).insertionSort (· ≤ ·)) <;> simp

theorem DnsConfig.validate_eq_ok_iff {config : DnsConfig} :
    config.validate = .ok () ↔
      (∀ server ∈ config.servers, validateIpAddress server = .ok ()) ∧
        (∀ domain ∈ config.search, validateDomainName domain = .ok ()) ∧
        hasDuplicates config.servers = false ∧ hasDuplicates config.search = false := by
  simp [validate, Except.check_bind_eq_ok_iff]

theorem WireguardPeerConfig.validate_eq_ok_iff {peer : WireguardPeerConfig} :
    peer.validate = .ok () ↔
      validateWgKey peer.publicKey "public_key" = .ok () ∧
        (∀ psk, peer.presharedKey = some psk → validateWgKey psk "preshared_key" = .ok ()) ∧
        (∀ endpoint, peer.endpoint = some endpoint → validateEndpoint endpoint = .ok ()) ∧
        ∀ ip ∈ peer.allowedIps, validateCidr ip = .ok () := by
  simp [validate, Except.check_bind_eq_ok_iff, Except.forM_eq_ok_iff]

theorem WireguardConfig.validate_eq_ok_iff {config : WireguardConfig} :
    config.validate = .ok () ↔
      validateWgKey config.privateKey "wireguard.private_key" = .ok () ∧
        ∀ peer ∈ config.peers, peer.validate = .ok () := by
  rw [validate, Except.check_bind_eq_ok_iff, Except.forM_eq_ok_iff]
  simp only [Except.mapError_eq_ok_iff]
  exact and_congr_right fun _ => forall_mem_zipIdx (WireguardPeerConfig.validate · = .ok ())

theorem NamespaceConfig.validate_eq_ok_iff {config : NamespaceConfig} :
    config.validate = .ok () ↔
      validateNamespaceName config.namespace_.name = .ok () ∧ config.interfaces.validate = .ok () ∧
        config.routing.validate = .ok () ∧ config.dns.validate = .ok () ∧
        ∀ wg, config.wireguard = some wg → wg.validate = .ok () := by
  simp [validate, Except.check_bind_eq_ok_iff, Except.forM_eq_ok_iff]

theorem ReferenceFree.of_validateWgKey {key field : String} (h : validateWgKey key field = .ok ()) :
    ReferenceFree key := by
  intro hmem
  unfold validateWgKey at h
  split_ifs at h with hempty
  split at h
  · cases h
  · rename_i decoded hdecoded
    exact absurd (Base64.isSymbol_of_decode hdecoded hmem) (by decide)

end Segwire.Common
