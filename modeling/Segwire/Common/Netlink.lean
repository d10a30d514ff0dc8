import Segwire.Common.Config

/-!
# Netlink types

What the daemon knows about a namespace in the system, and the route and DNS
settings it passes to the netlink layer with their checks.

## Main definitions

* `NamespaceInfo` — a network namespace
* `RouteConfig`, `NetlinkDnsConfig` — settings of a namespace
-/

namespace Segwire.Common

open Foundation

/-- Information about a network namespace. -/
structure NamespaceInfo where
  name : String
  id : Nat
  path : PathBuf
  active : Bool
  deriving DecidableEq, Repr

/-- Route configuration for a namespace. -/
structure RouteConfig where
  destination : String
  gateway : String
  interface : Option String
  metric : Option Nat
  deriving DecidableEq, Repr

/-- DNS configuration for a namespace (`netlink::DnsConfig`). -/
structure NetlinkDnsConfig where
  servers : List String
  searchDomains : List String
  options : List String
  deriving DecidableEq, Repr

/-- Check a route before it is passed on. -/
def RouteConfig.validate (route : RouteConfig) : SegwireResult Unit := do
  if route.destination = "" then
    .error (NetlinkError.invalidRoute "destination cannot be empty").toSegwireError
  if route.destination ≠ "default" then
    validateCidr route.destination
  validateIpAddress route.gateway
  forM route.interface.toList validateInterfaceName

/-- Check DNS settings before they are passed on. -/
def NetlinkDnsConfig.validate (config : NetlinkDnsConfig) : SegwireResult Unit := do
  if config.servers = [] then
    .error (NetlinkError.invalidDns "at least one DNS server required").toSegwireError
  forM config.servers validateIpAddress
  forM config.searchDomains validateDomainName

theorem RouteConfig.validate_eq_ok_iff {route : RouteConfig} :
    route.validate = .ok () ↔
      route.destination ≠ "" ∧
        (route.destination ≠ "default" → validateCidr route.destination = .ok ()) ∧
        validateIpAddress route.gateway = .ok () ∧
        ∀ interface, route.interface = some interface →
          validateInterfaceName interface = .ok () := by
  unfold validate
  by_cases hempty : route.destination = ""
  · simp [hempty]
  · by_cases hdefault : route.destination = "default"
    · simp [hdefault, Except.check_bind_eq_ok_iff, Except.forM_eq_ok_iff]
    · simp [hempty, hdefault, Except.check_bind_eq_ok_iff, Except.forM_eq_ok_iff]

theorem NetlinkDnsConfig.validate_eq_ok_iff {config : NetlinkDnsConfig} :
    config.validate = .ok () ↔
      config.servers ≠ [] ∧ (∀ server ∈ config.servers, validateIpAddress server = .ok ()) ∧
        ∀ domain ∈ config.searchDomains, validateDomainName domain = .ok () := by
  unfold validate
  by_cases hservers : config.servers = []
  · simp [hservers]
  · simp [hservers, Except.check_bind_eq_ok_iff, Except.forM_eq_ok_iff]

end Segwire.Common
