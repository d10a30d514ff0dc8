import Segwire.Daemon.NamespaceSync

/-!
# Requests for network settings

Applying a configuration to a new namespace makes requests of the netlink layer for
every interface, address, route and DNS setting it gives. It makes none exactly if
there is nothing to apply. Creating and deleting a namespace makes none.

## Main definitions

* `NamespaceConfig.HasSettings` — the configuration gives something to apply

## Main results

* `NetlinkManager.requests_apply_iff` — when a configuration is applied silently
* `NamespaceStateManager.requests_createNewNamespace_iff` — and when it is created so
-/

namespace Segwire.Daemon

open Foundation Segwire.Common

/-- The interface is applied: a veth pair without a peer is passed over. -/
def IsApplied (vif : VirtualInterface) : Prop := vif.interfaceType = "veth" → vif.peer ≠ none

/-- The configuration gives something to apply. -/
def HasSettings (config : NamespaceConfig) : Prop :=
  (∃ vif ∈ config.interfaces.virtualInterfaces, IsApplied vif) ∨
    config.interfaces.moveInterfaces ≠ [] ∨ config.routing.routes ≠ [] ∨
    config.routing.defaultGateway ≠ none ∨ config.dns.servers ≠ []

namespace NetlinkManager

variable (netlink : NetlinkManager) (fullName name : String) (config : NamespaceConfig)

/-! ### Applying a configuration -/

theorem requests_request_ne (check : SegwireResult Unit) (r : NetlinkRequest) :
    (netlink.request check r).2.host.requests ≠ netlink.host.requests := by
  simp [request]

/-- A loop whose body requests something for the elements with `p` only. -/
theorem requests_foldl_iff {α : Type} {body : NetlinkManager → α → NetlinkManager} {p : α → Prop}
    (hsame : ∀ (netlink : NetlinkManager) x, netlink.SameSystem (body netlink x))
    (hbody : ∀ (netlink : NetlinkManager) x,
      (body netlink x).host.requests = netlink.host.requests ↔ ¬ p x) (xs : List α) :
    (xs.foldl body netlink).host.requests = netlink.host.requests ↔ ∀ x ∈ xs, ¬ p x := by
  induction xs generalizing netlink with
  | nil => simp
  | cons x xs ih =>
    -- requests are only ever added, so the loop adds none iff no iteration does
    rw [List.foldl_cons, (hsame netlink x).requests_trans_iff (SameSystem.foldl hsame xs _), hbody,
      ih, List.forall_mem_cons]

/-- A loop whose body always requests something. -/
theorem requests_foldl_iff_nil {α : Type} {body : NetlinkManager → α → NetlinkManager}
    (hsame : ∀ (netlink : NetlinkManager) x, netlink.SameSystem (body netlink x))
    (hbody : ∀ (netlink : NetlinkManager) x,
      (body netlink x).host.requests ≠ netlink.host.requests) (xs : List α) :
    (xs.foldl body netlink).host.requests = netlink.host.requests ↔ xs = [] := by
  cases xs with
  | nil => simp
  | cons x xs =>
    rw [List.foldl_cons, (hsame netlink x).requests_trans_iff (SameSystem.foldl hsame xs _)]
    simp [hbody]

theorem requests_applyVirtualInterface_iff (vif : VirtualInterface) :
    (netlink.applyVirtualInterface fullName config vif).host.requests = netlink.host.requests ↔
      ¬ IsApplied vif := by
  -- an applied interface begins with the request that creates it
  have happlied {created applied : NetlinkManager} (hcreate : netlink.SameSystem created)
      (hne : created.host.requests ≠ netlink.host.requests) (hrest : created.SameSystem applied) :
      applied.host.requests ≠ netlink.host.requests := by
    rw [Ne, hcreate.requests_trans_iff hrest]
    exact fun h => hne h.1
  unfold applyVirtualInterface IsApplied
  split_ifs with hveth hwireguard
  · cases hpeer : vif.peer with
    | none => simp [hveth]
    | some peer =>
      simpa [hveth] using happlied (sameSystem_request ..) (netlink.requests_request_ne _ _)
        (netlink.requestsOnly_createVethPair_applyVeth fullName config vif hpeer).sameSystem
  · simpa [hveth] using happlied (sameSystem_request ..) (netlink.requests_request_ne _ _)
      (netlink.requestsOnly_createWireguardInterface_applyWireguard fullName config vif).sameSystem
  · simpa [hveth] using happlied (sameSystem_request ..) (netlink.requests_request_ne _ _)
      (netlink.requestsOnly_createVirtualInterface_applyOther fullName config vif).sameSystem

theorem requests_applyInterfaces_iff :
    (netlink.applyInterfaces fullName config).host.requests = netlink.host.requests ↔
      (∀ vif ∈ config.interfaces.virtualInterfaces, ¬ IsApplied vif) ∧
        config.interfaces.moveInterfaces = [] := by
  have hvirtual (netlink : NetlinkManager) (vif : VirtualInterface) :=
    (netlink.requestsOnly_applyVirtualInterface fullName config vif).sameSystem
  have hmove (netlink : NetlinkManager) (iface : String) :
      netlink.SameSystem (netlink.moveInterfaceToNamespace iface fullName).2 :=
    sameSystem_request ..
  unfold applyInterfaces
  rw [(SameSystem.foldl hvirtual _ netlink).requests_trans_iff (SameSystem.foldl hmove _ _),
    requests_foldl_iff netlink hvirtual fun netlink vif =>
      netlink.requests_applyVirtualInterface_iff fullName config vif,
    requests_foldl_iff_nil _ hmove fun netlink iface => netlink.requests_request_ne _ _]

theorem requests_applyRoutesAndDns_iff :
    (netlink.applyRoutesAndDns fullName config).host.requests = netlink.host.requests ↔
      config.routing.routes = [] ∧ config.routing.defaultGateway = none ∧
        config.dns.servers = [] := by
  have hroute (netlink : NetlinkManager) (route : RouteConfig) :
      netlink.SameSystem (netlink.addRouteToNamespace fullName route).2 :=
    sameSystem_request ..
  have hroutes := requests_foldl_iff_nil netlink hroute fun netlink route =>
    netlink.requests_request_ne _ _
  unfold applyRoutesAndDns
  dsimp only
  split_ifs with hservers
  · rw [hroutes]
    simp [hservers]
  · rw [configureNamespaceDns, (SameSystem.foldl hroute _ netlink).requests_trans_iff
      (sameSystem_request ..), hroutes]
    simp [hservers, requests_request_ne]

/-- Applying a configuration requests nothing iff there is nothing to apply. -/
theorem requests_apply_iff :
    ((netlink.applyInterfaces fullName config).applyRoutesAndDns fullName config).host.requests =
        netlink.host.requests ↔ ¬ HasSettings config := by
  rw [(netlink.requestsOnly_applyInterfaces fullName config).sameSystem.requests_trans_iff
    (sameSystem_applyRoutesAndDns _ fullName config), requests_applyInterfaces_iff,
    requests_applyRoutesAndDns_iff]
  simp only [HasSettings, not_or, not_exists, not_and, ne_eq, not_not, and_assoc]

/-! ### Creating and deleting -/

@[simp] theorem requests_createFile (host : Host) :
    (host.createFile name).2.requests = host.requests := by
  unfold Host.createFile
  split <;> rfl

@[simp] theorem requests_createNetns (host : Host) :
    (host.createNetns name).2.requests = host.requests := by
  unfold Host.createNetns
  split <;> rfl

@[simp] theorem requests_removeFile (host : Host) :
    (host.removeFile name).2.requests = host.requests := by
  unfold Host.removeFile
  split <;> rfl

@[simp] theorem requests_umount (host : Host) :
    (host.umount name).2.requests = host.requests := by
  unfold Host.umount
  split
  · rfl
  · split_ifs <;> rfl

@[simp] theorem requests_deleteNetns (host : Host) :
    (host.deleteNetns name).2.requests = host.requests := by
  have humount := requests_umount name host
  unfold Host.deleteNetns
  rcases hresult : host.umount name with ⟨e | ⟨⟩, unmounted⟩ <;> rw [hresult] at humount
  · exact humount
  · have hremove := (requests_removeFile name unmounted).trans humount
    dsimp only
    split <;> next hresult => rw [hresult] at hremove; exact hremove

/-- A manager for the machine starts with the requests made there. -/
theorem requests_new (host : Host) :
    match NetlinkManager.new host with
    | (.error _, host') => host'.requests = host.requests
    | (.ok netlink, _) => netlink.host.requests = host.requests := by
  unfold NetlinkManager.new
  split_ifs
  · rfl
  · cases host.netns with
    | some files => rfl
    | none => cases host.faults .createNetnsDir <;> rfl

theorem requests_createReal :
    (netlink.createReal name).2.host.requests = netlink.host.requests := by
  have hfile := requests_createFile name netlink.host
  unfold createReal
  split_ifs
  · rfl
  · rcases hresult : netlink.host.createFile name with ⟨e | ⟨⟩, created⟩ <;> rw [hresult] at hfile
    · exact hfile
    · have hmount := (requests_createNetns name created).trans hfile
      dsimp only
      split <;> next hresult => rw [hresult] at hmount; simpa using hmount

theorem requests_createNamespace :
    (netlink.createNamespace name).2.host.requests = netlink.host.requests := by
  unfold createNamespace
  split
  · rfl
  · split
    · unfold createSimulated
      split_ifs <;> rfl
    · exact netlink.requests_createReal name

theorem requests_deleteNamespace :
    (netlink.deleteNamespace name).2.host.requests = netlink.host.requests := by
  have hdelete := requests_deleteNetns name netlink.host
  unfold deleteNamespace
  split
  · rfl
  · split
    · split_ifs <;> rfl
    · split_ifs
      · rfl
      · split <;> next hresult => rw [hresult] at hdelete; exact hdelete

end NetlinkManager

namespace NamespaceStateManager

variable (manager : NamespaceStateManager) (entry : NamespaceConfigEntry)

/-- The requests made so far. -/
def requests : List NetlinkRequest := manager.netlinkManager.host.requests

theorem requests_modifyState (name : String)
    (change : SystemTime → NamespaceState → NamespaceState) :
    (manager.modifyState name change).requests = manager.requests := by
  unfold modifyState
  split <;> rfl

/-- A creation from a configuration requests nothing iff it fails or has nothing to
apply. -/
theorem requests_createNewNamespace_iff :
    (manager.createNewNamespace entry).2.requests = manager.requests ↔
      (manager.createNewNamespace entry).1 ≠ .ok .created ∨ ¬ HasSettings entry.config := by
  have hcreate :=
    (manager.trackCreation entry).netlinkManager.requests_createNamespace entry.fullName
  unfold createNewNamespace
  dsimp only
  rcases hresult : (manager.trackCreation entry).netlinkManager.createNamespace entry.fullName with
    ⟨e | info, netlink⟩ <;> rw [hresult] at hcreate
  · simp only [requests_modifyState, ne_eq, reduceCtorEq, not_false_eq_true, true_or, iff_true]
    exact hcreate
  · simp only [requests_modifyState, ne_eq, not_true_eq_false, false_or]
    rw [← netlink.requests_apply_iff entry.fullName entry.config, hcreate]
    rfl

end NamespaceStateManager

end Segwire.Daemon
