import Segwire.Daemon.RouteFamilies
import Segwire.Daemon.WireguardRaw

/-!
# Readings of a CIDR

A network is written as an address and a prefix length. The validator splits the text at every
slash and judges the family by a pattern; the addresses of interfaces, the allowed IPs of peers
and the destinations of routes are each split at the first slash and parsed in their own place.
They all read the same in what the validator accepts.

## Main definitions

* `CidrReading` — every consumer reads this address and this prefix length

## Main results

* `exists_cidrReading` — an accepted CIDR with an address that parses has such a reading
-/

namespace Segwire.Daemon

open Foundation Foundation.Text Foundation.IpAddr Segwire.Common

/-- The family attribute of an allowed IP. -/
def wireguardFamily : IpAddr → WireguardAddressFamily
  | .v4 _ => .ipv4
  | .v6 _ => .ipv6

/-- Every consumer of the text reads this address and this prefix length in it, and the prefix
length is one of the address's family. -/
structure CidrReading (cidr : String) (ip : IpAddr) (prefixLen : Nat) : Prop where
  validated : ∃ ipStr prefixStr, cidr.toList.splitOn '/' = [ipStr, prefixStr] ∧
    IpAddr.parse ipStr = some ip ∧ parseU8 prefixStr = some prefixLen
  bound : prefixLen ≤ (familyFor ip).maxPrefixLength
  address : ∀ (netlink : NetlinkManager) (fullName ifname : String),
    netlink.applyAddressInNamespace fullName ifname cidr =
      netlink.addAddressInNamespace fullName ifname ip prefixLen
  allowedIp : parseAllowedIp cidr =
    .ok [.family (wireguardFamily ip), .ipAddr ip, .cidr prefixLen]
  destination : parseDestination cidr = .ok (prefixLen, some ip)

variable {cidr : String} {ipStr prefixStr : List Char} {ip : IpAddr} {prefixLen : Nat}

theorem applyAddressInNamespace_of_split (netlink : NetlinkManager) (fullName ifname : String)
    (hsplit : splitOnce ['/'] cidr.toList = some (ipStr, prefixStr))
    (hparse : IpAddr.parse ipStr = some ip) (hlength : parseU8 prefixStr = some prefixLen) :
    netlink.applyAddressInNamespace fullName ifname cidr =
      netlink.addAddressInNamespace fullName ifname ip prefixLen := by
  unfold NetlinkManager.applyAddressInNamespace
  rw [hsplit]
  dsimp only
  rw [hparse]
  dsimp only
  rw [hlength]

theorem parseAllowedIp_of_split (hsplit : splitOnce ['/'] cidr.toList = some (ipStr, prefixStr))
    (hparse : IpAddr.parse ipStr = some ip) (hlength : parseU8 prefixStr = some prefixLen) :
    parseAllowedIp cidr = .ok [.family (wireguardFamily ip), .ipAddr ip, .cidr prefixLen] := by
  unfold parseAllowedIp
  rw [hsplit]
  dsimp only
  rw [hparse]
  dsimp only
  rw [hlength]
  cases ip <;> rfl

theorem parseDestination_of_split (hsplit : splitOnce ['/'] cidr.toList = some (ipStr, prefixStr))
    (hparse : IpAddr.parse ipStr = some ip) (hlength : parseU8 prefixStr = some prefixLen) :
    parseDestination cidr = .ok (prefixLen, some ip) := by
  -- a text with a slash is not the word for the default route
  have hdestination : cidr ≠ "default" := by
    rintro rfl
    cases hsplit
  rw [parseDestination, if_neg hdestination, hsplit]
  dsimp only
  rw [hlength]
  dsimp only
  rw [parseRouteAddress_eq_ok_iff.mpr hparse]
  rfl

/-- A CIDR that the validator accepts, and whose part before the slash parses as an address, is
read in the same way by everything that reads it. -/
theorem exists_cidrReading (cidr : String) (hvalid : validateCidr cidr = .ok ())
    (hparse : ∀ ipStr prefixStr, splitOnce ['/'] cidr.toList = some (ipStr, prefixStr) →
      (IpAddr.parse ipStr).isSome = true) :
    ∃ ip prefixLen, CidrReading cidr ip prefixLen := by
  obtain ⟨ipStr, prefixStr, prefixLen, hparts, -, hlength, hmax⟩ := validateCidr_eq_ok hvalid
  have hsplit := splitOnce_of_splitOn hparts
  obtain ⟨ip, hip⟩ := Option.isSome_iff_exists.mp (hparse ipStr prefixStr hsplit)
  exact ⟨ip, prefixLen, {
    validated := ⟨ipStr, prefixStr, hparts, hip, hlength⟩
    bound := prefixLen_le_of_pattern hip hmax
    address := fun netlink fullName ifname =>
      applyAddressInNamespace_of_split netlink fullName ifname hsplit hip hlength
    allowedIp := parseAllowedIp_of_split hsplit hip hlength
    destination := parseDestination_of_split hsplit hip hlength }⟩

theorem exists_cidrReading_padded :
    ∃ ip prefixLen, CidrReading "fd00::1/+064" ip prefixLen := by
  apply exists_cidrReading "fd00::1/+064" (by decide)
  intro ipStr prefixStr hsplit
  obtain ⟨rfl, rfl⟩ : ipStr = "fd00::1".toList ∧ prefixStr = "+064".toList := by
    have hparts : splitOnce ['/'] "fd00::1/+064".toList =
        some ("fd00::1".toList, "+064".toList) := by decide
    obtain ⟨hip, hprefix⟩ := Prod.mk.inj (Option.some.inj (hparts.symm.trans hsplit))
    exact ⟨hip.symm, hprefix.symm⟩
  decide

end Segwire.Daemon
