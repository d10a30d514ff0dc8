import Segwire.Common.Wireguard
import Segwire.Daemon.NetworkSettings

/-!
# Imported full tunnels

A wg-quick file whose peers allow all addresses is meant to send all traffic through its tunnel.
The configuration it is converted into has no routes, so that no route is ever requested for it:
the namespace comes up without a way out.

## Main definitions

* `IsFullTunnel` — some peer is allowed all addresses
* `IsDefaultRoute` — a request for a default route
* `NamespaceStateManager.RequestsDefaultRoute` — a creation makes one

## Main results

* `not_isAddRoute_of_unrouted` — a configuration without routing requests no routes
* `NamespaceStateManager.not_requestsDefaultRoute_of_parseWgQuick`
-/

namespace Segwire.Daemon

open Foundation Foundation.Text Segwire.Common

/-- Some peer of the WireGuard section is allowed all addresses of a family. -/
def IsFullTunnel (config : NamespaceConfig) : Prop :=
  ∃ wireguard ∈ config.wireguard, ∃ peer ∈ wireguard.peers, ∃ ip ∈ peer.allowedIps,
    ip = "0.0.0.0/0" ∨ ip = "::/0"

/-- A request for a route, in the namespace, to every address. -/
def IsDefaultRoute (name : String) : NetlinkRequest → Prop
  | .addRoute target route =>
    target = name ∧ ∃ address, parseDestination route.destination = .ok (0, address)
  | _ => False

/-- A request for a route. -/
def IsAddRoute : NetlinkRequest → Prop
  | .addRoute _ _ => True
  | _ => False

theorem IsDefaultRoute.isAddRoute {name : String} {request : NetlinkRequest}
    (h : IsDefaultRoute name request) : IsAddRoute request := by
  cases request with
  | addRoute => trivial
  | _ => exact h.elim

namespace NamespaceStateManager

variable (manager : NamespaceStateManager) (entry : NamespaceConfigEntry)

/-- Creating the namespace requests a default route in it. -/
def RequestsDefaultRoute : Prop :=
  ∃ request ∈ manager.creationRequests entry, IsDefaultRoute entry.fullName request

variable {manager entry}

/-- A configuration without routing requests no routes. -/
theorem not_isAddRoute_of_unrouted (hrouting : routeConfigs entry.config = []) :
    ∀ request ∈ manager.creationRequests entry, ¬ IsAddRoute request := by
  intro request hrequest hroute
  rcases mem_creationRequests hrequest with hinterface | hsetting
  · have hlink := hinterface.isLinkRequest
    cases request with
    | addRoute => exact hlink
    | _ => exact hroute
  · rw [settingRequests, hrouting, List.map_nil, List.nil_append] at hsetting
    split_ifs at hsetting
    · cases hsetting
    · obtain rfl := List.mem_singleton.mp hsetting
      exact hroute

end NamespaceStateManager

/-- An imported configuration has no routing. -/
theorem routeConfigs_of_parseWgQuick {content name : String} {ifname : Option String}
    {config : NamespaceConfig} (h : parseWgQuick content name ifname = some (.ok config)) :
    routeConfigs config = [] := by
  obtain ⟨result, -, hresult⟩ := Option.map_eq_some_iff.mp h
  obtain ⟨raw, -, rfl⟩ := Except.map_eq_ok_iff.mp hresult
  rfl

section Fixture

/-- A file with one peer that is allowed all addresses. -/
def fullTunnelFile : String :=
  "[Interface]\nPrivateKey = key\nAddress = 10.8.0.2/24\n[Peer]\nPublicKey = peer\n" ++
    "Endpoint = 192.0.2.1:51820\nAllowedIPs = ::/0, 0.0.0.0/0\n"

/-- The entry of the configuration it is converted into. -/
def fullTunnelEntry : NamespaceConfigEntry :=
  { routedThrough "" with
    config := (WgQuickConfig.mk "key" 0 ["10.8.0.2/24"] [] 0
      [⟨"peer", none, some "192.0.2.1:51820", ["::/0", "0.0.0.0/0"], 0⟩]).toNamespaceConfig
        "one" "wg0" }

end Fixture

namespace NamespaceStateManager

/-- An imported configuration requests no default route, whatever its peers allow. -/
theorem not_requestsDefaultRoute_of_parseWgQuick (content name : String) (ifname : Option String)
    (config : NamespaceConfig) (hparse : parseWgQuick content name ifname = some (.ok config))
    (manager : NamespaceStateManager) (entry : NamespaceConfigEntry)
    (hconfig : entry.config = config) : ¬ manager.RequestsDefaultRoute entry := by
  intro ⟨request, hrequest, hdefault⟩
  subst hconfig
  have hunrouted := routeConfigs_of_parseWgQuick hparse
  exact not_isAddRoute_of_unrouted hunrouted request hrequest hdefault.isAddRoute

theorem fullTunnelFile_not_routed :
    IsFullTunnel fullTunnelEntry.config ∧
      ¬ beforeCreation.RequestsDefaultRoute fullTunnelEntry := by
  have hparse : parseWgQuick fullTunnelFile "one" none = some (.ok fullTunnelEntry.config) := by
    decide +kernel
  refine ⟨⟨_, rfl, _, List.mem_singleton_self _, "::/0", List.mem_cons_self, .inr rfl⟩, ?_⟩
  exact not_requestsDefaultRoute_of_parseWgQuick fullTunnelFile "one" none _ hparse beforeCreation
    fullTunnelEntry rfl

/-- The file is accepted, the namespace is created, and no route is requested. -/
theorem not_tunnels_imported :
    ¬ ∀ (content name : String) (ifname : Option String) (config : NamespaceConfig),
        parseWgQuick content name ifname = some (.ok config) → IsFullTunnel config →
          ∀ (manager : NamespaceStateManager) (entry : NamespaceConfigEntry),
            entry.config = config → (manager.createNewNamespace entry).1 = .ok .created →
              manager.RequestsDefaultRoute entry := by
  intro hclaim
  have hparse : parseWgQuick fullTunnelFile "one" none = some (.ok fullTunnelEntry.config) := by
    decide +kernel
  have htunnel : IsFullTunnel fullTunnelEntry.config :=
    ⟨_, rfl, _, List.mem_singleton_self _, "::/0", List.mem_cons_self, .inr rfl⟩
  have hcreated : (beforeCreation.createNewNamespace fullTunnelEntry).1 = .ok .created := by
    decide
  obtain ⟨request, hrequest, hdefault⟩ := hclaim fullTunnelFile "one" none _ hparse htunnel
    beforeCreation fullTunnelEntry rfl hcreated
  exact not_isAddRoute_of_unrouted rfl request hrequest hdefault.isAddRoute

end NamespaceStateManager

end Segwire.Daemon
