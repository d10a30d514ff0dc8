import Segwire.Daemon.CidrReadings
import Segwire.Foundation.IpAddrSpelling

/-!
# Duplicate networks and addresses

The checks look for a destination or a DNS server that stands twice, and they compare texts. The
kernel and the resolver see values, and one value has many accepted texts: IPv6 addresses in
upper or lower case, with or without leading zeros and `::`, and prefix lengths with a plus sign
or leading zeros. Nothing stands twice by value exactly when nothing stands twice once these
spellings are made the same.

## Main definitions

* `SameNetwork`, `SameAddress` — two texts denote the same value
* `UniqueByMeaning` — no two destinations and no two servers do
* `normalDestination`, `UniqueSpellings` — the texts with their spellings made the same

## Main results

* `sameNetwork_iff`, `sameAddress_iff` — the same value is the same normal spelling
* `servers_unique_of_ipv4` — only IPv6 servers can stand twice
* `uniqueByMeaning_iff_uniqueSpellings` — the accepted configurations that are unique by value
-/

namespace Segwire.Daemon

open Foundation Foundation.Text Foundation.IpAddr Segwire.Common

/-- The part of the text before the slash is an address. -/
def CidrParses (cidr : String) : Prop :=
  (splitOnce ['/'] cidr.toList).any (fun (ipStr, _) => (IpAddr.parse ipStr).isSome) = true

instance : DecidablePred CidrParses := fun cidr =>
  inferInstanceAs (Decidable (Option.any _ (splitOnce ['/'] cidr.toList) = true))

/-- Every address of the configuration parses. -/
structure AddressesParse (config : NamespaceConfig) : Prop where
  interfaces : ∀ vif ∈ config.interfaces.virtualInterfaces, ∀ address ∈ vif.addresses,
    CidrParses address
  defaultGateway : ∀ gateway ∈ config.routing.defaultGateway,
    (IpAddr.parse gateway.toList).isSome = true
  destinations : ∀ route ∈ config.routing.routes, CidrParses route.destination
  gateways : ∀ route ∈ config.routing.routes, (IpAddr.parse route.gateway.toList).isSome = true
  servers : ∀ server ∈ config.dns.servers, (IpAddr.parse server.toList).isSome = true
  allowedIps : ∀ wg ∈ config.wireguard, ∀ peer ∈ wg.peers, ∀ cidr ∈ peer.allowedIps,
    CidrParses cidr

/-- Both texts denote the same address. -/
def SameAddress (server server' : String) : Prop :=
  ∃ ip, IpAddr.parse server.toList = some ip ∧ IpAddr.parse server'.toList = some ip

/-- Both destinations are read as the same address and prefix length. -/
def SameNetwork (destination destination' : String) : Prop :=
  ∃ prefixLen ip, parseDestination destination = .ok (prefixLen, some ip) ∧
    parseDestination destination' = .ok (prefixLen, some ip)

/-- No two routes lead to the same network, and no two DNS servers are the same. -/
structure UniqueByMeaning (config : NamespaceConfig) : Prop where
  destinations : config.routing.routes.Pairwise fun route route' =>
    ¬ SameNetwork route.destination route'.destination
  servers : config.dns.servers.Pairwise fun server server' => ¬ SameAddress server server'

/-- A network in normal spelling: the address, and the prefix length without a plus sign or
leading zeros. -/
def normalDestination (cidr : String) : List (List Char) × List Char :=
  match cidr.toList.splitOn '/' with
  | [ipStr, prefixStr] => (normalAddress ipStr, normalNumeral (prefixStr.dropWhile (· = '+')))
  | _ => ([], [])

/-- Nothing stands twice in normal spelling. -/
structure UniqueSpellings (config : NamespaceConfig) : Prop where
  destinations : (config.routing.routes.map fun route => normalDestination route.destination).Nodup
  servers : (config.dns.servers.map fun server => normalAddress server.toList).Nodup

/-! ### Addresses -/

/-- An accepted text does not mix the two families. -/
theorem dot_notMem_of_validateIpAddress {ip : String} (h : validateIpAddress ip = .ok ())
    (hcolon : ':' ∈ ip.toList) : '.' ∉ ip.toList := by
  rcases validateIpAddress_eq_ok_iff.mp h with hfour | hv6
  · exact absurd hcolon (no_colon_of_ipv4Pattern hfour.1)
  · exact no_dot_of_ipv6Pattern hv6

theorem sameAddress_iff {server server' : String} (hvalid : validateIpAddress server = .ok ())
    (hvalid' : validateIpAddress server' = .ok ())
    (hparse : (IpAddr.parse server.toList).isSome = true)
    (hparse' : (IpAddr.parse server'.toList).isSome = true) :
    SameAddress server server' ↔ normalAddress server.toList = normalAddress server'.toList := by
  obtain ⟨ip, hip⟩ := Option.isSome_iff_exists.mp hparse
  obtain ⟨ip', hip'⟩ := Option.isSome_iff_exists.mp hparse'
  rw [← parse_eq_iff_normalAddress_eq hip hip' (dot_notMem_of_validateIpAddress hvalid)
    (dot_notMem_of_validateIpAddress hvalid'), SameAddress, hip, hip']
  simp [eq_comm]

/-- Two entries for one server are equal texts or IPv6 addresses. -/
theorem eq_of_sameAddress {server server' : String} (h : SameAddress server server')
    (hcolon : ':' ∉ server.toList) : server = server' := by
  obtain ⟨ip, hip, hip'⟩ := h
  cases ip with
  | v4 octets => exact String.toList_inj.mp (eq_of_parse_v4 hip hip')
  | v6 groups => exact absurd (colon_mem_of_isIpv6 (isIpv6_of_parse hip)) hcolon

/-! ### Networks -/

/-- A parsed prefix length without its plus sign is a number in decimal digits. -/
theorem normalNumeral_of_parseU8 {s : List Char} {n : Nat} (h : parseU8 s = some n) :
    normalNumeral (s.dropWhile (· = '+')) = numeral 10 n := by
  have hdigits {digits : List Char} (hparse : parseDigits 255 digits = some n) :
      normalNumeral (digits.dropWhile (· = '+')) = numeral 10 n := by
    have hall (c : Char) (hc : c ∈ digits) : c.isDigit = true := isDigit_of_parseDigits hparse hc
    -- digits have no plus sign to drop
    have hplain : digits.dropWhile (· = '+') = digits := by
      rw [List.dropWhile_eq_self_iff]
      intro hpos hplus
      have hfirst := hall _ (List.getElem_mem hpos)
      rw [of_decide_eq_true hplus] at hfirst
      cases hfirst
    unfold parseDigits at hparse
    split_ifs at hparse with hcond
    rw [hplain, ← Option.some.inj hparse, decimalValue, ← valueFrom_ten hall]
    exact normalNumeral_eq_numeral (by omega) fun c hc => (isDigit_ten_iff c).mpr (hall c hc)
  unfold parseU8 parseUnsigned at h
  split at h
  · rw [List.dropWhile_cons_of_pos (by simp)]
    exact hdigits h
  · exact hdigits h

/-- An accepted destination whose address parses: what it is read as, and its normal spelling. -/
theorem exists_destination {cidr : String} (hvalid : validateCidr cidr = .ok ())
    (hparse : CidrParses cidr) :
    ∃ ip prefixLen, HasFullLength ip ∧ parseDestination cidr = .ok (prefixLen, some ip) ∧
      normalDestination cidr = (spelling ip, numeral 10 prefixLen) := by
  obtain ⟨ipStr, prefixStr, prefixLen, hsplit, haddress, hlength, -⟩ := validateCidr_eq_ok hvalid
  have honce := splitOnce_of_splitOn hsplit
  rw [CidrParses, honce, Option.any_some] at hparse
  obtain ⟨ip, hip⟩ := Option.isSome_iff_exists.mp hparse
  have hpure := dot_notMem_of_validateIpAddress haddress
  rw [String.toList_ofList] at hpure
  refine ⟨ip, prefixLen, hasFullLength_of_parse hip,
    parseDestination_of_split honce hip hlength, ?_⟩
  rw [normalDestination, hsplit]
  dsimp only
  rw [normalAddress_eq_spelling hip hpure, normalNumeral_of_parseU8 hlength]

theorem sameNetwork_iff {cidr cidr' : String} (hvalid : validateCidr cidr = .ok ())
    (hvalid' : validateCidr cidr' = .ok ()) (hparse : CidrParses cidr)
    (hparse' : CidrParses cidr') :
    SameNetwork cidr cidr' ↔ normalDestination cidr = normalDestination cidr' := by
  obtain ⟨ip, prefixLen, hfull, hread, hspelling⟩ := exists_destination hvalid hparse
  obtain ⟨ip', prefixLen', hfull', hread', hspelling'⟩ := exists_destination hvalid' hparse'
  rw [SameNetwork, hread, hread', hspelling, hspelling', Prod.mk.injEq, spelling_inj hfull hfull',
    (numeral_injective (by omega) (by omega)).eq_iff]
  constructor
  · rintro ⟨n, shared, h, h'⟩
    obtain ⟨rfl, hip⟩ := Prod.mk.inj (Except.ok.inj h)
    obtain ⟨hn, hip'⟩ := Prod.mk.inj (Except.ok.inj h')
    exact ⟨Option.some.inj (hip.trans hip'.symm), hn.symm⟩
  · rintro ⟨rfl, rfl⟩
    exact ⟨prefixLen, ip, rfl, rfl⟩

/-! ### Configurations -/

theorem pairwise_not_iff_nodup_map {α β : Type} {values : List α} {same : α → α → Prop}
    {f : α → β} (h : ∀ a ∈ values, ∀ b ∈ values, (same a b ↔ f a = f b)) :
    values.Pairwise (fun a b => ¬ same a b) ↔ (values.map f).Nodup := by
  rw [List.Nodup, List.pairwise_map]
  exact List.Pairwise.iff_of_mem fun ha hb => not_congr (h _ ha _ hb)

theorem destinations_unique_iff {routes : List Route}
    (hvalid : ∀ route ∈ routes, route.validate = .ok ())
    (hparse : ∀ route ∈ routes, CidrParses route.destination) :
    routes.Pairwise (fun route route' => ¬ SameNetwork route.destination route'.destination) ↔
      (routes.map fun route => normalDestination route.destination).Nodup := by
  apply pairwise_not_iff_nodup_map
  intro route hroute route' hroute'
  obtain ⟨hcidr, -, -⟩ := Route.validate_eq_ok_iff.mp (hvalid route hroute)
  obtain ⟨hcidr', -, -⟩ := Route.validate_eq_ok_iff.mp (hvalid route' hroute')
  exact sameNetwork_iff hcidr hcidr' (hparse route hroute) (hparse route' hroute')

theorem servers_unique_iff {servers : List String}
    (hvalid : ∀ server ∈ servers, validateIpAddress server = .ok ())
    (hparse : ∀ server ∈ servers, (IpAddr.parse server.toList).isSome = true) :
    servers.Pairwise (fun server server' => ¬ SameAddress server server') ↔
      (servers.map fun server => normalAddress server.toList).Nodup := by
  apply pairwise_not_iff_nodup_map
  intro server hserver server' hserver'
  exact sameAddress_iff (hvalid server hserver) (hvalid server' hserver') (hparse server hserver)
    (hparse server' hserver')

/-- Accepted servers that are all IPv4 addresses are never the same. -/
theorem servers_unique_of_ipv4 {dns : DnsConfig} (hvalid : dns.validate = .ok ())
    (hcolon : ∀ server ∈ dns.servers, ':' ∉ server.toList) :
    dns.servers.Pairwise fun server server' => ¬ SameAddress server server' := by
  obtain ⟨-, -, hservers, -⟩ := DnsConfig.validate_eq_ok_iff.mp hvalid
  refine (hasDuplicates_eq_false_iff.mp hservers).imp_of_mem fun hserver _ hne hsame => ?_
  exact hne (eq_of_sameAddress hsame (hcolon _ hserver))

/-- An accepted configuration is unique by meaning exactly when it is unique in normal spelling. -/
theorem uniqueByMeaning_iff_uniqueSpellings (config : NamespaceConfig)
    (hvalid : config.validate = .ok ()) (hparse : AddressesParse config) :
    UniqueByMeaning config ↔ UniqueSpellings config := by
  obtain ⟨-, -, hrouting, hdns, -⟩ := NamespaceConfig.validate_eq_ok_iff.mp hvalid
  obtain ⟨-, hroutes, -⟩ := RoutingConfig.validate_eq_ok_iff.mp hrouting
  obtain ⟨hservers, -⟩ := DnsConfig.validate_eq_ok_iff.mp hdns
  have hnetworks := destinations_unique_iff hroutes hparse.destinations
  have haddresses := servers_unique_iff hservers hparse.servers
  constructor
  · exact fun h => ⟨hnetworks.mp h.destinations, haddresses.mp h.servers⟩
  · exact fun h => ⟨hnetworks.mpr h.destinations, haddresses.mpr h.servers⟩

section Fixture

/-- Routes and servers of both families, each once. -/
def dualStackConfig : NamespaceConfig :=
  { NamespaceConfig.bare "lab" with
    routing := ⟨some "10.0.0.1",
      [⟨"10.1.0.0/16", "10.0.0.3", none⟩, ⟨"fd01::/64", "fd00::3", none⟩]⟩
    dns := ⟨["10.0.0.53", "fd00::53"], []⟩ }

/-- A route and a server, each of them again in another spelling. -/
def respelledConfig : NamespaceConfig :=
  { NamespaceConfig.bare "lab" with
    routing := ⟨none,
      [⟨"10.1.0.0/16", "10.0.0.3", none⟩, ⟨"10.1.0.0/+016", "10.0.0.3", none⟩]⟩
    dns := ⟨["fd00::53", "FD00:0::0053"], []⟩ }

end Fixture

theorem uniqueByMeaning_iff_dualStack :
    UniqueByMeaning dualStackConfig ↔ UniqueSpellings dualStackConfig :=
  uniqueByMeaning_iff_uniqueSpellings dualStackConfig (by decide)
    ⟨by decide, by decide, by decide, by decide, by decide, by decide⟩

/-- Two routes to one network and two entries for one server are accepted. -/
theorem not_uniqueByMeaning :
    (respelledConfig.validate = .ok () ∧ AddressesParse respelledConfig ∧
      SameNetwork "10.1.0.0/16" "10.1.0.0/+016" ∧ SameAddress "fd00::53" "FD00:0::0053") ∧
    ¬ ∀ config : NamespaceConfig, config.validate = .ok () → AddressesParse config →
      UniqueByMeaning config := by
  have hvalid : respelledConfig.validate = .ok () := by decide
  have hparse : AddressesParse respelledConfig :=
    ⟨by decide, by decide, by decide, by decide, by decide, by decide⟩
  have hnetwork : SameNetwork "10.1.0.0/16" "10.1.0.0/+016" :=
    ⟨16, .v4 [10, 1, 0, 0], by decide, by decide⟩
  have haddress : SameAddress "fd00::53" "FD00:0::0053" :=
    ⟨.v6 [64768, 0, 0, 0, 0, 0, 0, 83], by decide, by decide⟩
  refine ⟨⟨hvalid, hparse, hnetwork, haddress⟩, fun hall => ?_⟩
  have hservers := (hall respelledConfig hvalid hparse).servers
  exact (List.pairwise_cons.mp hservers).1 "FD00:0::0053" List.mem_cons_self haddress

end Segwire.Daemon
