import Segwire.Common.AddressValidation
import Segwire.Foundation.SocketAddr
import Segwire.Daemon.NamespaceState

/-!
# WireGuard devices

A device is configured with one message that holds the keys and all the peers. Every text
of the configuration is read again for it, endpoints as socket addresses, although a
configuration may give them by host names. One endpoint that cannot be read leaves the
whole device unconfigured.

## Main definitions

* `WireguardMessage`, `setDeviceMessage`, `configureWireguardDevice` — the message
* `WireguardMessage.Describes` — the message holds what the configuration gives
* `IsLiteralEndpoint` — the endpoint is an address, not a name

## Main results

* `setDeviceMessage_describes_iff` — the valid configurations that have a message
* `not_describes_of_hostname`
-/

namespace Segwire.Daemon

open Foundation Foundation.Text Segwire.Common

/-! ### Messages -/

/-- `[u8; 32]` -/
@[ext] structure KeyBytes where
  bytes : List Nat
  length_eq : bytes.length = 32
  deriving DecidableEq, Repr

/-- `WireguardAddressFamily` -/
inductive WireguardAddressFamily
  | ipv4 | ipv6
  deriving DecidableEq, Repr

/-- `WireguardAllowedIpAttr` -/
inductive WireguardAllowedIpAttr
  | family (family : WireguardAddressFamily)
  | ipAddr (ip : IpAddr)
  | cidr (prefixLen : Nat)
  deriving DecidableEq, Repr

/-- `WireguardAllowedIp` -/
abbrev WireguardAllowedIp := List WireguardAllowedIpAttr

/-- `WireguardPeerAttribute`, as far as it is used. -/
inductive WireguardPeerAttribute
  | publicKey (key : KeyBytes)
  | presharedKey (key : KeyBytes)
  | endpoint (addr : SocketAddr)
  | persistentKeepalive (seconds : Nat)
  | allowedIps (ips : List WireguardAllowedIp)
  deriving DecidableEq, Repr

/-- `WireguardPeer` -/
abbrev WireguardPeer := List WireguardPeerAttribute

/-- `WireguardAttribute`, as far as it is used. -/
inductive WireguardAttribute
  | ifName (name : String)
  | privateKey (key : KeyBytes)
  | listenPort (port : Nat)
  | fwmark (mark : Nat)
  | peers (peers : List WireguardPeer)
  deriving DecidableEq, Repr

/-- `WireguardCmd` -/
inductive WireguardCmd
  | getDevice | setDevice
  deriving DecidableEq, Repr

/-- `WireguardMessage` -/
structure WireguardMessage where
  cmd : WireguardCmd
  attributes : List WireguardAttribute
  deriving DecidableEq, Repr

section Building

-- the decoder's own words for a text that is not base64
variable (base64Error : String → String)

/-- Decode a key of 32 bytes. -/
def decodeKey (role key : String) : Except String KeyBytes :=
  match Base64.decode key.toList with
  | none => .error ("invalid " ++ role ++ " base64: " ++ base64Error key)
  | some bytes =>
    if h : bytes.length = 32 then .ok ⟨bytes, h⟩
    else .error (role ++ " must be 32 bytes, got " ++ toString bytes.length)

/-- Parse an endpoint into a socket address. -/
def parseEndpoint (endpoint : String) : Except String SocketAddr :=
  match SocketAddr.parse endpoint.toList with
  | some addr => .ok addr
  | none => .error ("invalid endpoint '" ++ endpoint ++ "': invalid socket address syntax")

/-- Parse a CIDR string into a `WireguardAllowedIp`. -/
def parseAllowedIp (cidr : String) : Except String WireguardAllowedIp :=
  match splitOnce ['/'] cidr.toList with
  | none => .error ("allowed_ip '" ++ cidr ++ "' must be in CIDR notation")
  | some (ipStr, prefixStr) =>
    match IpAddr.parse ipStr with
    | none => .error ("invalid IP in allowed_ip '" ++ cidr ++ "': invalid IP address syntax")
    | some ip =>
      match parseU8 prefixStr with
      | none => .error ("invalid prefix length in '" ++ cidr ++ "': " ++
          NetlinkManager.u8ParseError prefixStr)
      | some prefixLen =>
        let family : WireguardAddressFamily :=
          match ip with
          | .v4 _ => .ipv4
          | .v6 _ => .ipv6
        .ok [.family family, .ipAddr ip, .cidr prefixLen]

/-- Build a `WireguardPeer` from our config struct. -/
def buildWireguardPeer (peerCfg : WireguardPeerConfig) : Except String WireguardPeer := do
  let publicKey ← decodeKey base64Error "peer public key" peerCfg.publicKey
  let presharedKey ← peerCfg.presharedKey.toList.mapM (decodeKey base64Error "preshared key")
  let endpoint ← peerCfg.endpoint.toList.mapM parseEndpoint
  let allowed ← peerCfg.allowedIps.mapM parseAllowedIp
  return [.publicKey publicKey] ++ presharedKey.map .presharedKey ++ endpoint.map .endpoint ++
    (if peerCfg.persistentKeepalive ≠ 0 then [.persistentKeepalive peerCfg.persistentKeepalive]
      else []) ++
    if peerCfg.allowedIps ≠ [] then [.allowedIps allowed] else []

/-- The message that `configure_wireguard_device` builds. -/
def setDeviceMessage (ifname : String) (config : WireguardConfig) :
    Except String WireguardMessage := do
  let privateKey ← decodeKey base64Error "private key" config.privateKey
  let wgPeers ← config.peers.mapM (buildWireguardPeer base64Error)
  return {
    cmd := .setDevice
    attributes := [.ifName ifname, .privateKey privateKey] ++
      (if config.listenPort ≠ 0 then [.listenPort config.listenPort] else []) ++
      (if config.fwmark ≠ 0 then [.fwmark config.fwmark] else []) ++
      if config.peers ≠ [] then [.peers wgPeers] else [] }

/-- The generic netlink requests of the kernel. -/
structure GenericNetlink where
  resolveFamilyId : String → Except String Nat
  sendRequest : (familyId cmd version : Nat) → WireguardMessage → Except String Unit

/-- Configure a WireGuard device with private key, listen port, fwmark, and peers. -/
def configureWireguardDevice (kernel : GenericNetlink) (ifname : String)
    (config : WireguardConfig) : Except String Unit := do
  let familyId ← kernel.resolveFamilyId "wireguard"
  let wgMsg ← setDeviceMessage base64Error ifname config
  let cmd :=
    match wgMsg.cmd with
    | .getDevice => 0
    | .setDevice => 1
  kernel.sendRequest familyId cmd 1 wgMsg

end Building

/-! ### What a message says -/

namespace WireguardPeer

/-- The public keys that the peer gives. -/
def publicKeys (peer : WireguardPeer) : List KeyBytes :=
  peer.filterMap fun
    | .publicKey key => some key
    | _ => none

/-- The preshared keys that the peer gives. -/
def presharedKeys (peer : WireguardPeer) : List KeyBytes :=
  peer.filterMap fun
    | .presharedKey key => some key
    | _ => none

/-- The endpoints that the peer gives. -/
def endpoints (peer : WireguardPeer) : List SocketAddr :=
  peer.filterMap fun
    | .endpoint addr => some addr
    | _ => none

/-- The keepalive intervals that the peer gives. -/
def keepalives (peer : WireguardPeer) : List Nat :=
  peer.filterMap fun
    | .persistentKeepalive seconds => some seconds
    | _ => none

/-- The allowed IPs that the peer gives. -/
def allowedIps (peer : WireguardPeer) : List WireguardAllowedIp :=
  peer.flatMap fun
    | .allowedIps ips => ips
    | _ => []

end WireguardPeer

/-- The private keys that the message gives. -/
def WireguardMessage.privateKeys (message : WireguardMessage) : List KeyBytes :=
  message.attributes.filterMap fun
    | .privateKey key => some key
    | _ => none

/-- The peers that the message gives. -/
def WireguardMessage.peers (message : WireguardMessage) : List WireguardPeer :=
  message.attributes.flatMap fun
    | .peers peers => peers
    | _ => []

/-- The key is what the text decodes to. -/
def Decodes (text : String) (key : KeyBytes) : Prop := Base64.decode text.toList = some key.bytes

/-- The text denotes the address and the length of its prefix. -/
def Denotes (cidr : String) (allowed : WireguardAllowedIp) : Prop :=
  ∃ ipStr prefixStr ip prefixLen family, splitOnce ['/'] cidr.toList = some (ipStr, prefixStr) ∧
    IpAddr.parse ipStr = some ip ∧ parseU8 prefixStr = some prefixLen ∧
    allowed = [.family family, .ipAddr ip, .cidr prefixLen]

/-- The peer has the decoded keys, the endpoint, the keepalive interval and all the allowed
IPs of the configuration, and nothing else. -/
structure WireguardPeer.Describes (peer : WireguardPeer) (peerCfg : WireguardPeerConfig) :
    Prop where
  public_key : List.Forall₂ Decodes [peerCfg.publicKey] peer.publicKeys
  preshared_key : List.Forall₂ Decodes peerCfg.presharedKey.toList peer.presharedKeys
  endpoint : List.Forall₂ (fun text addr => SocketAddr.parse text.toList = some addr)
    peerCfg.endpoint.toList peer.endpoints
  keepalive : peer.keepalives =
    if peerCfg.persistentKeepalive = 0 then [] else [peerCfg.persistentKeepalive]
  allowed_ips : List.Forall₂ Denotes peerCfg.allowedIps peer.allowedIps

/-- The message sets the decoded private key and exactly the peers of the configuration, in
their order. -/
structure WireguardMessage.Describes (message : WireguardMessage) (config : WireguardConfig) :
    Prop where
  cmd : message.cmd = .setDevice
  private_key : List.Forall₂ Decodes [config.privateKey] message.privateKeys
  peers : List.Forall₂ (fun peerCfg peer => WireguardPeer.Describes peer peerCfg) config.peers
    message.peers

section Describing

variable {base64Error : String → String} {role : String}

theorem decodeKey_eq_ok_iff {text : String} {key : KeyBytes} :
    decodeKey base64Error role text = .ok key ↔ Decodes text key := by
  unfold decodeKey Decodes
  cases Base64.decode text.toList with
  | none => simp
  | some bytes =>
    by_cases hlength : bytes.length = 32
    · simp [hlength, KeyBytes.ext_iff]
    · simp only [hlength, dite_false, Option.some.injEq]
      constructor
      · intro h
        cases h
      · rintro rfl
        exact absurd key.length_eq hlength

theorem parseEndpoint_eq_ok_iff {endpoint : String} {addr : SocketAddr} :
    parseEndpoint endpoint = .ok addr ↔ SocketAddr.parse endpoint.toList = some addr := by
  unfold parseEndpoint
  cases SocketAddr.parse endpoint.toList <;> simp

theorem denotes_of_parseAllowedIp {cidr : String} {allowed : WireguardAllowedIp}
    (h : parseAllowedIp cidr = .ok allowed) : Denotes cidr allowed := by
  unfold parseAllowedIp at h
  split at h
  · cases h
  · next ipStr prefixStr hsplit =>
    split at h
    · cases h
    · next ip hip =>
      split at h
      · cases h
      · next prefixLen hlength =>
        obtain rfl := Except.ok.inj h
        exact ⟨ipStr, prefixStr, ip, prefixLen, _, hsplit, hip, hlength, rfl⟩

theorem describes_of_buildWireguardPeer {peerCfg : WireguardPeerConfig} {peer : WireguardPeer}
    (h : buildWireguardPeer base64Error peerCfg = .ok peer) : peer.Describes peerCfg := by
  obtain ⟨publicKey, hpublic, h₁⟩ := Except.bind_eq_ok_iff.mp h
  obtain ⟨presharedKey, hpreshared, h₂⟩ := Except.bind_eq_ok_iff.mp h₁
  obtain ⟨endpoint, hendpoint, h₃⟩ := Except.bind_eq_ok_iff.mp h₂
  obtain ⟨allowed, hallowed, h₄⟩ := Except.bind_eq_ok_iff.mp h₃
  obtain rfl := Except.ok.inj h₄
  rw [Except.mapM_eq_ok_iff] at hpreshared hendpoint hallowed
  have hno {α : Type} (xs : List α) : (xs.flatMap fun _ => ([] : List WireguardAllowedIp)) = [] :=
    List.flatMap_eq_nil_iff.mpr fun _ _ => rfl
  constructor
  · simpa [WireguardPeer.publicKeys, apply_ite (List.filterMap _)] using
      decodeKey_eq_ok_iff.mp hpublic
  · simpa [WireguardPeer.presharedKeys, apply_ite (List.filterMap _)] using
      hpreshared.imp fun _ _ => decodeKey_eq_ok_iff.mp
  · simpa [WireguardPeer.endpoints, apply_ite (List.filterMap _)] using
      hendpoint.imp fun _ _ => parseEndpoint_eq_ok_iff.mp
  · simp [WireguardPeer.keepalives, apply_ite (List.filterMap _)]
  · have hdenotes := hallowed.imp fun _ _ => denotes_of_parseAllowedIp
    by_cases hempty : peerCfg.allowedIps = []
    · rw [hempty, List.forall₂_nil_left_iff] at hdenotes
      simp [WireguardPeer.allowedIps, apply_ite (List.flatMap _), List.flatMap_map, hno, hempty]
    · simpa [WireguardPeer.allowedIps, apply_ite (List.flatMap _), List.flatMap_map, hno, hempty]
        using hdenotes

theorem describes_of_setDeviceMessage {ifname : String} {config : WireguardConfig}
    {message : WireguardMessage} (h : setDeviceMessage base64Error ifname config = .ok message) :
    message.Describes config := by
  obtain ⟨privateKey, hprivate, h₁⟩ := Except.bind_eq_ok_iff.mp h
  obtain ⟨wgPeers, hpeers, h₂⟩ := Except.bind_eq_ok_iff.mp h₁
  obtain rfl := Except.ok.inj h₂
  have hdescribes := (Except.mapM_eq_ok_iff.mp hpeers).imp
    fun _ _ => describes_of_buildWireguardPeer
  constructor
  · rfl
  · simpa [WireguardMessage.privateKeys, apply_ite (List.filterMap _)] using
      decodeKey_eq_ok_iff.mp hprivate
  · by_cases hempty : config.peers = []
    · rw [hempty, List.forall₂_nil_left_iff] at hdescribes
      simp [WireguardMessage.peers, apply_ite (List.flatMap _), hempty]
    · simpa [WireguardMessage.peers, apply_ite (List.flatMap _), hempty] using hdescribes

/-- A device is configured by sending its message; without a message nothing is sent. -/
theorem configureWireguardDevice_eq_ok_iff {kernel : GenericNetlink} {ifname : String}
    {config : WireguardConfig} :
    configureWireguardDevice base64Error kernel ifname config = .ok () ↔
      ∃ familyId message, kernel.resolveFamilyId "wireguard" = .ok familyId ∧
        setDeviceMessage base64Error ifname config = .ok message ∧
        kernel.sendRequest familyId 1 1 message = .ok () := by
  unfold configureWireguardDevice
  rw [Except.bind_eq_ok_iff]
  refine exists_congr fun familyId => ?_
  rw [Except.bind_eq_ok_iff]
  constructor
  · rintro ⟨hresolve, message, hmessage, hsend⟩
    rw [(describes_of_setDeviceMessage hmessage).cmd] at hsend
    exact ⟨message, hresolve, hmessage, hsend⟩
  · rintro ⟨message, hresolve, hmessage, hsend⟩
    refine ⟨hresolve, message, hmessage, ?_⟩
    rw [(describes_of_setDeviceMessage hmessage).cmd]
    exact hsend

end Describing

/-! ### The configurations that have a message -/

/-- The endpoint is an IP address, an IPv6 address in brackets, and a port without a sign. -/
def IsLiteralEndpoint (endpoint : String) : Prop :=
  ∃ host port, splitLast ':' endpoint.toList = some (host, port) ∧
    SocketAddr.IsSocketHost host ∧ port.head? ≠ some '+'

/-- The addresses before the slashes of allowed IPs can be parsed. -/
def AllowedIpsParse (config : WireguardConfig) : Prop :=
  ∀ peer ∈ config.peers, ∀ cidr ∈ peer.allowedIps, ∀ ip pfx,
    splitOnce ['/'] cidr.toList = some (ip, pfx) → (IpAddr.parse ip).isSome = true

/-- All endpoints are addresses. -/
def EndpointsLiteral (config : WireguardConfig) : Prop :=
  ∀ peer ∈ config.peers, ∀ endpoint, peer.endpoint = some endpoint → IsLiteralEndpoint endpoint

section Validated

variable {base64Error : String → String} {role : String}

theorem exists_decodeKey {key field : String} (h : validateWgKey key field = .ok ())
    (base64Error : String → String) (role : String) :
    ∃ bytes, decodeKey base64Error role key = .ok bytes := by
  unfold validateWgKey at h
  split_ifs at h with hempty
  split at h
  · cases h
  · next decoded hdecoded =>
    split_ifs at h with hlength
    · exact ⟨⟨decoded, not_not.mp hlength⟩, decodeKey_eq_ok_iff.mpr hdecoded⟩

theorem exists_parseAllowedIp {cidr : String} (h : validateCidr cidr = .ok ())
    (hparse : ∀ ip pfx, splitOnce ['/'] cidr.toList = some (ip, pfx) →
      (IpAddr.parse ip).isSome = true) : ∃ allowed, parseAllowedIp cidr = .ok allowed := by
  obtain ⟨ip, pfx, prefixLen, hsplit, hvalid, hlength, -⟩ := validateCidr_eq_ok h
  have honce : splitOnce ['/'] cidr.toList = some (ip, pfx) := splitOnce_of_splitOn hsplit
  obtain ⟨addr, haddr⟩ := Option.isSome_iff_exists.mp (hparse ip pfx honce)
  unfold parseAllowedIp
  rw [honce]
  dsimp only
  rw [haddr]
  dsimp only
  rw [hlength]
  exact ⟨_, rfl⟩

theorem isPort_iff {port : List Char} {n : Nat} (h : parseU16 port = some n) :
    SocketAddr.IsPort port ↔ port.head? ≠ some '+' := by
  constructor
  · intro hport hplus
    have hdigit := hport.digit '+' (List.mem_of_head? hplus)
    exact absurd hdigit (by decide)
  · intro hplus
    unfold parseU16 parseUnsigned at h
    split at h
    · exact absurd rfl hplus
    · unfold parseDigits at h
      split_ifs at h with hdigits
      have hall := List.all_eq_true.mp hdigits.2.1
      refine ⟨fun c hc => (isDigit_ten_iff c).mpr (hall c hc), hdigits.1, le_rfl, ?_, .inl rfl⟩
      rw [valueFrom_ten hall]
      exact hdigits.2.2

/-- A valid endpoint is a socket address iff it is literal. -/
theorem exists_parseEndpoint_iff {endpoint : String}
    (h : WireguardPeerConfig.validateEndpoint endpoint = .ok ()) :
    (∃ addr, parseEndpoint endpoint = .ok addr) ↔ IsLiteralEndpoint endpoint := by
  simp only [parseEndpoint_eq_ok_iff]
  rw [← Option.isSome_iff_exists, SocketAddr.parse_isSome_iff]
  unfold WireguardPeerConfig.validateEndpoint at h
  split at h
  · cases h
  · next host portStr hsplit =>
    split at h
    · cases h
    · next port hport =>
      constructor
      · rintro ⟨host', port', hhost, hdigits, htext⟩
        have hcolon : ':' ∉ port' := fun hmem => absurd (hdigits.digit ':' hmem) (by decide)
        have hlast := splitLast_eq_some_iff.mpr ⟨htext, hcolon⟩
        obtain ⟨rfl, rfl⟩ := Prod.mk.inj (Option.some.inj (hsplit.symm.trans hlast))
        exact ⟨host, portStr, hsplit, hhost, (isPort_iff hport).mp hdigits⟩
      · rintro ⟨host', port', hlast, hhost, hplus⟩
        obtain ⟨rfl, rfl⟩ := Prod.mk.inj (Option.some.inj (hsplit.symm.trans hlast))
        exact ⟨host, portStr, hhost, (isPort_iff hport).mpr hplus,
          (splitLast_eq_some_iff.mp hsplit).1⟩

/-- A valid peer whose allowed IPs can be parsed can be built iff its endpoint is literal. -/
theorem exists_buildWireguardPeer_iff {peerCfg : WireguardPeerConfig}
    (h : peerCfg.validate = .ok ())
    (hparse : ∀ cidr ∈ peerCfg.allowedIps, ∀ ip pfx,
      splitOnce ['/'] cidr.toList = some (ip, pfx) → (IpAddr.parse ip).isSome = true)
    (base64Error : String → String) :
    (∃ peer, buildWireguardPeer base64Error peerCfg = .ok peer) ↔
      ∀ endpoint, peerCfg.endpoint = some endpoint → IsLiteralEndpoint endpoint := by
  obtain ⟨hpublic, hpreshared, hendpoint, hips⟩ := WireguardPeerConfig.validate_eq_ok_iff.mp h
  constructor
  · rintro ⟨peer, hpeer⟩ endpoint hsome
    have hread := (describes_of_buildWireguardPeer hpeer).endpoint
    rw [hsome] at hread
    obtain ⟨addr, -, haddr, -⟩ := List.forall₂_cons_left_iff.mp hread
    exact (exists_parseEndpoint_iff (hendpoint endpoint hsome)).mp
      ⟨addr, parseEndpoint_eq_ok_iff.mpr haddr⟩
  · intro hliteral
    obtain ⟨publicKey, hpublic⟩ := exists_decodeKey hpublic base64Error "peer public key"
    obtain ⟨presharedKey, hpreshared, -⟩ := Except.exists_mapM_eq_ok_iff.mpr
      fun psk hpsk => (exists_decodeKey (hpreshared psk (Option.mem_toList.mp hpsk)) base64Error
        "preshared key").imp fun _ hkey => ⟨hkey, trivial⟩
    obtain ⟨endpoint, hendpoint, -⟩ := Except.exists_mapM_eq_ok_iff.mpr
      fun text htext =>
        have hsome := Option.mem_toList.mp htext
        ((exists_parseEndpoint_iff (hendpoint text hsome)).mpr (hliteral text hsome)).imp
          fun _ haddr => ⟨haddr, trivial⟩
    obtain ⟨allowed, hallowed, -⟩ := Except.exists_mapM_eq_ok_iff.mpr
      fun cidr hcidr => (exists_parseAllowedIp (hips cidr hcidr) (hparse cidr hcidr)).imp
        fun _ hip => ⟨hip, trivial⟩
    unfold buildWireguardPeer
    rw [hpublic, Except.ok_bind, hpreshared, Except.ok_bind, hendpoint, Except.ok_bind, hallowed]
    exact ⟨_, rfl⟩

/-- A valid configuration whose allowed IPs can be parsed has a message, with everything that
it gives, iff all of its endpoints are literal. -/
theorem setDeviceMessage_describes_iff {config : WireguardConfig} (h : config.validate = .ok ())
    (hparse : AllowedIpsParse config) (base64Error : String → String) (ifname : String) :
    (∃ message, setDeviceMessage base64Error ifname config = .ok message ∧
        message.Describes config) ↔ EndpointsLiteral config := by
  obtain ⟨hprivate, hpeers⟩ := WireguardConfig.validate_eq_ok_iff.mp h
  have hbuild (peer : WireguardPeerConfig) (hpeer : peer ∈ config.peers) :=
    exists_buildWireguardPeer_iff (hpeers peer hpeer) (hparse peer hpeer) base64Error
  constructor
  · rintro ⟨message, hmessage, -⟩ peer hpeer
    obtain ⟨privateKey, -, h₁⟩ := Except.bind_eq_ok_iff.mp hmessage
    obtain ⟨wgPeers, hbuilt, -⟩ := Except.bind_eq_ok_iff.mp h₁
    have hall := Except.exists_mapM_eq_ok_iff.mp ⟨wgPeers, hbuilt, fun _ _ => trivial⟩
    exact (hbuild peer hpeer).mp ((hall peer hpeer).imp fun _ hok => hok.1)
  · intro hliteral
    obtain ⟨privateKey, hprivate⟩ := exists_decodeKey hprivate base64Error "private key"
    obtain ⟨wgPeers, hbuilt, -⟩ := Except.exists_mapM_eq_ok_iff.mpr
      fun peer hpeer => ((hbuild peer hpeer).mpr (hliteral peer hpeer)).imp
        fun _ hok => ⟨hok, trivial⟩
    have hmessage : ∃ message, setDeviceMessage base64Error ifname config = .ok message := by
      unfold setDeviceMessage
      rw [hprivate, Except.ok_bind, hbuilt]
      exact ⟨_, rfl⟩
    exact hmessage.imp fun _ hok => ⟨hok, describes_of_setDeviceMessage hok⟩

end Validated

section Fixture

/-- 32 zero bytes, encoded. -/
def zeroKey : String := "AAAAAAAAAAAAAAAAAAAAAAAAAAAAAAAAAAAAAAAAAAA="

/-- A device with one peer, at the endpoint. -/
def onePeer (endpoint : String) : WireguardConfig where
  privateKey := zeroKey
  listenPort := 0
  fwmark := 0
  peers := [⟨zeroKey, none, some endpoint, ["10.0.0.0/24"], 25⟩]

/-- A device with a second peer, which may be reached anywhere. -/
def twoPeers (endpoint : String) : WireguardConfig where
  privateKey := zeroKey
  listenPort := 51820
  fwmark := 0
  peers := [⟨zeroKey, none, some endpoint, ["10.0.0.0/24"], 25⟩,
    ⟨"AQAAAAAAAAAAAAAAAAAAAAAAAAAAAAAAAAAAAAAAAAA=", some zeroKey, none,
      ["10.0.1.0/24", "fd00::/64"], 0⟩]

theorem allowedIpsParse_onePeer (endpoint : String) : AllowedIpsParse (onePeer endpoint) := by
  intro peer hpeer cidr hcidr ip pfx hsplit
  obtain rfl := List.mem_singleton.mp hpeer
  obtain rfl := List.mem_singleton.mp hcidr
  have hip : splitOnce ['/'] "10.0.0.0/24".toList = some ("10.0.0.0".toList, "24".toList) := by
    decide
  obtain ⟨rfl, -⟩ := Prod.mk.inj (Option.some.inj (hip.symm.trans hsplit))
  decide

theorem allowedIpsParse_twoPeers (endpoint : String) : AllowedIpsParse (twoPeers endpoint) := by
  have hparts : ∀ cidr ∈ ["10.0.0.0/24", "10.0.1.0/24", "fd00::/64"],
      ((splitOnce ['/'] cidr.toList).bind fun parts => IpAddr.parse parts.1).isSome = true := by
    decide
  intro peer hpeer cidr hcidr ip pfx hsplit
  have hmem : cidr ∈ ["10.0.0.0/24", "10.0.1.0/24", "fd00::/64"] := by
    rw [twoPeers, List.mem_cons, List.mem_singleton] at hpeer
    rcases hpeer with rfl | rfl
    · exact List.mem_cons.mpr (.inl (List.mem_singleton.mp hcidr))
    · exact List.mem_cons_of_mem _ hcidr
  have hparse := hparts cidr hmem
  rw [hsplit] at hparse
  exact hparse

theorem isLiteralEndpoint_address : IsLiteralEndpoint "1.2.3.4:51820" :=
  (exists_parseEndpoint_iff (by decide)).mp ⟨⟨.v4 [1, 2, 3, 4], 0, 51820⟩, by decide⟩

end Fixture

theorem setDeviceMessage_describes_address :
    ∃ message, setDeviceMessage (fun _ => "") "wg0" (twoPeers "1.2.3.4:51820") = .ok message ∧
      message.Describes (twoPeers "1.2.3.4:51820") := by
  apply (setDeviceMessage_describes_iff (by decide) (allowedIpsParse_twoPeers _) (fun _ => "")
    "wg0").mpr
  intro peer hpeer endpoint hsome
  rw [twoPeers, List.mem_cons, List.mem_singleton] at hpeer
  rcases hpeer with rfl | rfl
  · obtain rfl := Option.some.inj hsome
    exact isLiteralEndpoint_address
  · cases hsome

/-- With the documented example of an endpoint, there is no message. -/
theorem not_describes_of_hostname :
    ¬ ∀ config : WireguardConfig, config.validate = .ok () → AllowedIpsParse config →
      ∀ base64Error ifname, ∃ message,
        setDeviceMessage base64Error ifname config = .ok message ∧ message.Describes config := by
  intro h
  obtain ⟨message, hmessage, -⟩ := h (onePeer "vpn.example.com:51820") (by decide)
    (allowedIpsParse_onePeer _) (fun _ => "") "wg0"
  have herror : setDeviceMessage (fun _ => "") "wg0" (onePeer "vpn.example.com:51820") =
      .error "invalid endpoint 'vpn.example.com:51820': invalid socket address syntax" := by decide
  rw [herror] at hmessage
  cases hmessage

end Segwire.Daemon
