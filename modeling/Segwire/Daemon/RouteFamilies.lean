import Segwire.Common.AddressValidation
import Segwire.Daemon.NetworkSettings

/-!
# Address families of routes

A route message has a family in its header, which is the one of its destination or, for a
default route, of its gateway. The destination and the gateway of a configured route are checked
separately, and nothing compares their families.

## Main definitions

* `RouteMessage.FamilyConsistent` — the addresses and the prefix length fit the header
* `SameFamily` — the destination and the gateway of a route are written in the same family

## Main results

* `familyFor_eq_inet6_iff` — the family of an address, from its text
* `routeMessages_familyConsistent_iff` — the messages are consistent iff the families are the same
-/

namespace Segwire.Daemon

open Foundation Foundation.Text Foundation.IpAddr Segwire.Common

/-! ### The family of an address -/

/-- An address with a colon is an IPv6 address. -/
theorem familyFor_eq_inet6_iff {text : List Char} {ip : IpAddr}
    (h : IpAddr.parse text = some ip) : familyFor ip = .inet6 ↔ ':' ∈ text := by
  cases ip with
  | v4 octets =>
    have hfour := (isIpv4_iff.mp (isIpv4_of_parse h)).1
    exact iff_of_false nofun (no_colon_of_ipv4Pattern hfour.1)
  | v6 groups => exact iff_of_true rfl (colon_mem_of_isIpv6 (isIpv6_of_parse h))

theorem familyFor_eq_iff {text text' : List Char} {ip ip' : IpAddr}
    (h : IpAddr.parse text = some ip) (h' : IpAddr.parse text' = some ip') :
    familyFor ip = familyFor ip' ↔ (':' ∈ text ↔ ':' ∈ text') := by
  rw [← familyFor_eq_inet6_iff h, ← familyFor_eq_inet6_iff h']
  cases ip <;> cases ip' <;> simp [familyFor]

/-! ### Route messages -/

/-- The longest prefix of a family. -/
def AddressFamily.maxPrefixLength : AddressFamily → Nat
  | .inet => 32
  | .inet6 => 128

/-- The addresses and the prefix length of a message fit the family in its header. -/
structure RouteMessage.FamilyConsistent (message : RouteMessage) : Prop where
  destination : ∀ ip ∈ message.destination, familyFor ip = message.addressFamily
  gateway : ∀ ip ∈ message.gateway, familyFor ip = message.addressFamily
  prefixLength : message.destinationPrefixLength ≤ message.addressFamily.maxPrefixLength

/-- The destination and the gateway of a route are written in the same family. -/
def SameFamily (route : Route) : Prop :=
  ':' ∈ route.destination.toList ↔ ':' ∈ route.gateway.toList

variable {interfaceIndex : String → Except String Nat} {message : RouteMessage}

theorem parseRouteAddress_eq_ok_iff {role : String} {text : List Char} {ip : IpAddr} :
    parseRouteAddress role text = .ok ip ↔ IpAddr.parse text = some ip := by
  unfold parseRouteAddress
  split
  · next hparse => simp [hparse]
  · next hparse => simp [hparse]

/-- The parts of a message that has been built. -/
theorem exists_of_addRouteFresh {params : RouteConfig}
    (h : addRouteFresh interfaceIndex params = .ok message) :
    parseDestination params.destination =
        .ok (message.destinationPrefixLength, message.destination) ∧
      (params.gateway = "" ∧ message.gateway = none ∨
        params.gateway ≠ "" ∧ ∃ gateway, IpAddr.parse params.gateway.toList = some gateway ∧
          message.gateway = some gateway) ∧
      message.addressFamily =
        ((message.destination.map familyFor).or (message.gateway.map familyFor)).getD .inet := by
  obtain ⟨⟨prefixLength, destination⟩, hdestination, h⟩ := Except.bind_eq_ok_iff.mp h
  dsimp only at h
  split_ifs at h with hempty
  · obtain ⟨gateway, hgateway, h⟩ := Except.bind_eq_ok_iff.mp h
    obtain ⟨oif, -, h⟩ := Except.bind_eq_ok_iff.mp h
    obtain rfl := Except.ok.inj hgateway
    obtain rfl := Except.ok.inj h
    exact ⟨hdestination, .inl ⟨hempty, rfl⟩, rfl⟩
  · obtain ⟨gateway, hgateway, h⟩ := Except.bind_eq_ok_iff.mp h
    obtain ⟨oif, -, h⟩ := Except.bind_eq_ok_iff.mp h
    obtain rfl := Except.ok.inj h
    refine ⟨hdestination, .inr ⟨hempty, ?_⟩, rfl⟩
    cases hparse : parseRouteAddress "gateway" params.gateway.toList with
    | error e =>
      rw [hparse] at hgateway
      cases hgateway
    | ok ip =>
      rw [hparse] at hgateway
      exact ⟨ip, parseRouteAddress_eq_ok_iff.mp hparse, (Except.ok.inj hgateway).symm⟩

/-- A default route takes its family from its gateway. -/
theorem familyConsistent_default {params : RouteConfig} (hdefault : params.destination = "default")
    (h : addRouteFresh interfaceIndex params = .ok message) : message.FamilyConsistent := by
  obtain ⟨hdestination, -, hfamily⟩ := exists_of_addRouteFresh h
  rw [hdefault] at hdestination
  obtain ⟨hlength, hnone⟩ := Prod.mk.inj (Except.ok.inj hdestination)
  rw [← hnone, Option.map_none, Option.none_or] at hfamily
  refine ⟨?_, ?_, hlength ▸ Nat.zero_le _⟩
  · rw [← hnone]
    exact nofun
  · intro ip hip
    rw [Option.mem_def.mp hip] at hfamily
    exact hfamily.symm

/-- The bound that the validator takes from the pattern is the one of the address's family. -/
theorem prefixLen_le_of_pattern {ipStr : List Char} {ip : IpAddr} {prefixLen : Nat}
    (hparse : IpAddr.parse ipStr = some ip)
    (h : prefixLen ≤ if ipv4Pattern ipStr then 32 else 128) :
    prefixLen ≤ (familyFor ip).maxPrefixLength := by
  cases ip with
  | v4 octets =>
    have hfour := (isIpv4_iff.mp (isIpv4_of_parse hparse)).1
    rw [if_pos hfour.1] at h
    exact h
  | v6 groups =>
    have hlong : (familyFor (.v6 groups)).maxPrefixLength = 128 := rfl
    rw [hlong]
    split_ifs at h <;> omega

/-- The destination of an accepted route: its address, and a prefix length within its family. -/
theorem parseDestination_of_validateCidr {destination : String} {prefixLength : Nat}
    {address : Option IpAddr} (hvalid : validateCidr destination = .ok ())
    (h : parseDestination destination = .ok (prefixLength, address)) :
    ∃ ipStr ip, address = some ip ∧ IpAddr.parse ipStr = some ip ∧
      (':' ∈ ipStr ↔ ':' ∈ destination.toList) ∧ prefixLength ≤ (familyFor ip).maxPrefixLength := by
  obtain ⟨ipStr, prefixLenStr, prefixLen, hsplit, -, hlength, hmax⟩ := validateCidr_eq_ok hvalid
  have honce := splitOnce_of_splitOn hsplit
  have hdestination : destination ≠ "default" := by
    rintro rfl
    cases honce
  rw [parseDestination, if_neg hdestination, honce] at h
  dsimp only at h
  rw [hlength] at h
  obtain ⟨ip, hparse, h⟩ := Except.bind_eq_ok_iff.mp h
  rw [parseRouteAddress_eq_ok_iff] at hparse
  obtain ⟨rfl, rfl⟩ := Prod.mk.inj (Except.ok.inj h)
  refine ⟨ipStr, ip, rfl, hparse, ?_, prefixLen_le_of_pattern hparse hmax⟩
  have htext := (splitOnce_singleton_eq_some_iff.mp honce).1
  have hdigits : ':' ∉ prefixLenStr := fun hmem =>
    (eq_plus_or_isDigit_of_parseUnsigned hlength hmem).elim (by decide) (by decide)
  rw [htext, List.mem_append, List.mem_cons]
  simp [hdigits]

/-- The message for an accepted route is consistent iff the destination and the gateway are of
the same family. -/
theorem familyConsistent_iff_sameFamily {route : Route} (hvalid : route.validate = .ok ())
    (h : addRouteFresh interfaceIndex ⟨route.destination, route.gateway, none, route.metric⟩ =
      .ok message) : message.FamilyConsistent ↔ SameFamily route := by
  obtain ⟨hcidr, haddress, -⟩ := Route.validate_eq_ok_iff.mp hvalid
  obtain ⟨hdestination, hgateway, hfamily⟩ := exists_of_addRouteFresh h
  obtain ⟨ipStr, ip, hip, hparse, hcolon, hlength⟩ :=
    parseDestination_of_validateCidr hcidr hdestination
  rw [hip, Option.map_some, Option.some_or, Option.getD_some] at hfamily
  obtain ⟨hempty, -⟩ | ⟨-, gateway, hgatewayParse, hgatewayIp⟩ := hgateway
  · -- an accepted gateway is not empty
    dsimp only at hempty
    rw [hempty] at haddress
    cases haddress
  · have hsame : familyFor ip = familyFor gateway ↔ SameFamily route := by
      rw [SameFamily, ← hcolon]
      exact familyFor_eq_iff hparse hgatewayParse
    rw [← hsame]
    constructor
    · intro hconsistent
      rw [← hfamily]
      exact (hconsistent.gateway gateway hgatewayIp).symm
    · intro heq
      refine ⟨?_, ?_, hfamily ▸ hlength⟩
      · intro other hother
        rw [hip] at hother
        rw [← Option.some.inj hother, hfamily]
      · intro other hother
        rw [hgatewayIp] at hother
        rw [← Option.some.inj hother, hfamily, heq]

/-- The route messages of an accepted configuration are consistent for the routes whose
destination and gateway are of the same family and for no others, and always for a default
gateway. -/
theorem routeMessages_familyConsistent_iff (interfaceIndex : String → Except String Nat)
    {config : NamespaceConfig} (hvalid : config.validate = .ok ()) :
    (∀ route ∈ config.routing.routes, ∀ message,
      addRouteFresh interfaceIndex ⟨route.destination, route.gateway, none, route.metric⟩ =
        .ok message → (message.FamilyConsistent ↔ SameFamily route)) ∧
    ∀ gateway message,
      addRouteFresh interfaceIndex ⟨"default", gateway, none, none⟩ = .ok message →
        message.FamilyConsistent := by
  obtain ⟨-, -, hrouting, -⟩ := NamespaceConfig.validate_eq_ok_iff.mp hvalid
  obtain ⟨-, hroutes, -⟩ := RoutingConfig.validate_eq_ok_iff.mp hrouting
  exact ⟨fun route hroute message h => familyConsistent_iff_sameFamily (hroutes route hroute) h,
    fun gateway message h => familyConsistent_default rfl h⟩

section Fixture

/-- An IPv4 network behind an IPv6 gateway. -/
def mixedConfig : NamespaceConfig :=
  { NamespaceConfig.bare "lab" with routing := ⟨none, [⟨"10.0.0.0/24", "fd00::1", none⟩]⟩ }

theorem routeMessages_familyConsistent_mixed :
    mixedConfig.validate = .ok () ∧
    (∀ route ∈ mixedConfig.routing.routes, ∀ message,
      addRouteFresh (fun _ => .ok 1) ⟨route.destination, route.gateway, none, route.metric⟩ =
        .ok message → (message.FamilyConsistent ↔ SameFamily route)) ∧
    ∀ gateway message,
      addRouteFresh (fun _ => .ok 1) ⟨"default", gateway, none, none⟩ = .ok message →
        message.FamilyConsistent :=
  have hvalid : mixedConfig.validate = .ok () := by decide
  ⟨hvalid, routeMessages_familyConsistent_iff (fun _ => .ok 1) hvalid⟩

/-- The message for it has an IPv4 header and an IPv6 gateway. -/
theorem not_familyConsistent_mixed :
    ¬ ∀ config : NamespaceConfig, config.validate = .ok () → ∀ route ∈ config.routing.routes,
      ∀ message, addRouteFresh (fun _ => .ok 1)
        ⟨route.destination, route.gateway, none, route.metric⟩ = .ok message →
          message.FamilyConsistent := by
  intro hall
  have hcode : addRouteFresh (fun _ => .ok 1) ⟨"10.0.0.0/24", "fd00::1", none, none⟩ =
      .ok ⟨.inet, 24, some (.v4 [10, 0, 0, 0]), some (.v6 [64768, 0, 0, 0, 0, 0, 0, 1]), none,
        none⟩ := by decide
  have hconsistent := hall mixedConfig (by decide) _ List.mem_cons_self _ hcode
  exact absurd (hconsistent.gateway _ rfl) (by decide)

end Fixture

end Segwire.Daemon
