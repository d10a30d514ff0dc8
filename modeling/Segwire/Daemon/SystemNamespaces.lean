import Segwire.Daemon.NamespaceState

/-!
# Namespaces in the system

What the operations of the netlink manager do to the namespaces in the system.
Requests about a namespace's network do nothing to them. A creation makes the
namespace, or fails; on the machine, a failed creation can leave a file behind.

## Main definitions

* `NetlinkManager.SameSystem` — no difference but clock readings and requests
* `NetlinkManager.Issues` — and the requests satisfy a condition
* `Environment.creates`, `Environment.leavesPlaceholder` — the outcome of a creation

## Main results

* `NetlinkManager.createNamespace_spec`, `NetlinkManager.deleteNamespace_spec` — what a
  creation and a deletion do to the system
* `NetlinkManager.contains_listed` — the listed namespaces
-/

namespace Segwire.Daemon

open Foundation Foundation.Text Segwire.Common

/-! ### The system under the netlink manager -/

/-- What decides the outcome of a creation, apart from the name's presence. -/
structure Environment where
  simulated : Bool
  faults : Syscall → Option String
  netnsDir : Bool

namespace Environment

/-- A creation succeeds. -/
def creates (environment : Environment) (isPresent : Bool) (name : String) : Bool :=
  (validateNamespaceName name).toBool && !isPresent &&
    (environment.simulated ||
      ((environment.faults (.createFile name)).isNone && environment.netnsDir &&
        (environment.faults (.mountNetns name)).isNone))

/-- A creation fails after it has made a file that it then cannot remove. -/
def leavesPlaceholder (environment : Environment) (isPresent : Bool) (name : String) : Bool :=
  (validateNamespaceName name).toBool && !isPresent && !environment.simulated &&
    (environment.faults (.createFile name)).isNone && environment.netnsDir &&
    (environment.faults (.mountNetns name)).isSome &&
    (environment.faults (.removeFile name)).isSome

theorem leavesPlaceholder_of_creates {environment : Environment} {isPresent : Bool} {name : String}
    (h : environment.creates isPresent name = true) :
    environment.leavesPlaceholder isPresent name = false := by
  rw [creates, Bool.and_eq_true, Bool.or_eq_true] at h
  rcases h.2 with hsimulated | hmade
  · simp [leavesPlaceholder, hsimulated]
  · have hmount := Option.isNone_iff_eq_none.mp (Bool.and_eq_true_iff.mp hmade).2
    simp [leavesPlaceholder, hmount]

theorem valid_of_creates {environment : Environment} {isPresent : Bool} {name : String}
    (h : environment.creates isPresent name = true) :
    (validateNamespaceName name).toBool = true := by
  rw [creates, Bool.and_eq_true, Bool.and_eq_true] at h
  exact h.1.1

section Simulated

variable {environment : Environment} (hsimulated : environment.simulated = true)
  (isPresent : Bool) (name : String)
include hsimulated

/-- In the simulation a creation fails for a bad or taken name only. -/
theorem creates_of_simulated :
    environment.creates isPresent name = ((validateNamespaceName name).toBool && !isPresent) := by
  rw [creates, hsimulated, Bool.true_or, Bool.and_true]

theorem leavesPlaceholder_of_simulated : environment.leavesPlaceholder isPresent name = false := by
  simp [leavesPlaceholder, hsimulated]

end Simulated

end Environment

namespace NetlinkManager

variable {netlink netlink' netlink'' : NetlinkManager} {fullName name k : String}

/-- Whether the backend is simulated. -/
def isSimulated (netlink : NetlinkManager) : Bool :=
  match netlink.backend with
  | .simulated _ => true
  | .real => false

theorem exists_backend_of_isSimulated (h : netlink.isSimulated = true) :
    ∃ state, netlink.backend = .simulated state := by
  rw [isSimulated] at h
  cases hbackend : netlink.backend with
  | simulated state => exact ⟨state, rfl⟩
  | real =>
    rw [hbackend] at h
    cases h

theorem isSimulated_eq_false_iff : netlink.isSimulated = false ↔ netlink.backend = .real := by
  unfold isSimulated
  cases netlink.backend <;> simp

/-- The environment of the next creation. -/
def environment (netlink : NetlinkManager) : Environment :=
  ⟨netlink.isSimulated, netlink.host.faults, netlink.host.netns.isSome⟩

/-- The second differs from the first at most in clock readings and further requests. -/
def SameSystem (netlink netlink' : NetlinkManager) : Prop :=
  ∃ ticks issued, netlink' = { netlink with
    host := { netlink.host with ticks, requests := netlink.host.requests ++ issued } }

/-- It does so, and the further requests satisfy `p`. -/
def Issues (p : NetlinkRequest → Prop) (netlink netlink' : NetlinkManager) : Prop :=
  ∃ ticks issued, (∀ r ∈ issued, p r) ∧ netlink' = { netlink with
    host := { netlink.host with ticks, requests := netlink.host.requests ++ issued } }

namespace Issues

variable {p : NetlinkRequest → Prop}

theorem refl (netlink : NetlinkManager) : netlink.Issues p netlink :=
  ⟨netlink.host.ticks, [], fun _ h => absurd h List.not_mem_nil, by rw [List.append_nil]⟩

theorem trans (h : netlink.Issues p netlink') (h' : netlink'.Issues p netlink'') :
    netlink.Issues p netlink'' := by
  obtain ⟨ticks, issued, hissued, rfl⟩ := h
  obtain ⟨ticks', issued', hissued', rfl⟩ := h'
  refine ⟨ticks', issued ++ issued', fun r hr => ?_, by rw [← List.append_assoc]⟩
  exact (List.mem_append.mp hr).elim (hissued r) (hissued' r)

theorem foldl {α : Type} {body : NetlinkManager → α → NetlinkManager}
    (h : ∀ (netlink : NetlinkManager) x, netlink.Issues p (body netlink x)) (xs : List α)
    (netlink : NetlinkManager) : netlink.Issues p (xs.foldl body netlink) := by
  -- each element starts from what the earlier ones left
  induction xs generalizing netlink with
  | nil => exact refl netlink
  | cons x xs ih => exact (h netlink x).trans (ih (body netlink x))

theorem sameSystem (h : netlink.Issues p netlink') : netlink.SameSystem netlink' := by
  obtain ⟨ticks, issued, -, rfl⟩ := h
  exact ⟨ticks, issued, rfl⟩

end Issues

theorem sameSystem_iff : netlink.SameSystem netlink' ↔ netlink.Issues (fun _ => True) netlink' :=
  ⟨fun ⟨ticks, issued, h⟩ => ⟨ticks, issued, fun _ _ => trivial, h⟩, Issues.sameSystem⟩

namespace SameSystem

theorem trans (h : netlink.SameSystem netlink') (h' : netlink'.SameSystem netlink'') :
    netlink.SameSystem netlink'' :=
  ((sameSystem_iff.mp h).trans (sameSystem_iff.mp h')).sameSystem

theorem foldl {α : Type} {body : NetlinkManager → α → NetlinkManager}
    (h : ∀ (netlink : NetlinkManager) x, netlink.SameSystem (body netlink x)) (xs : List α)
    (netlink : NetlinkManager) : netlink.SameSystem (xs.foldl body netlink) :=
  (Issues.foldl (fun netlink x => sameSystem_iff.mp (h netlink x)) xs netlink).sameSystem

theorem namespaceExists (h : netlink.SameSystem netlink') (k : String) :
    netlink'.namespaceExists k = netlink.namespaceExists k := by
  obtain ⟨ticks, issued, rfl⟩ := h
  rfl

theorem environment (h : netlink.SameSystem netlink') :
    netlink'.environment = netlink.environment := by
  obtain ⟨ticks, issued, rfl⟩ := h
  rfl

theorem isSimulated (h : netlink.SameSystem netlink') :
    netlink'.isSimulated = netlink.isSimulated :=
  congrArg Environment.simulated h.environment

/-- Two steps request nothing iff neither of them does. -/
theorem requests_trans_iff (h : netlink.SameSystem netlink') (h' : netlink'.SameSystem netlink'') :
    netlink''.host.requests = netlink.host.requests ↔
      netlink'.host.requests = netlink.host.requests ∧
        netlink''.host.requests = netlink'.host.requests := by
  obtain ⟨ticks, issued, rfl⟩ := h
  obtain ⟨ticks', issued', rfl⟩ := h'
  simp

end SameSystem

/-! ### Requests leave the system as it is -/

/-- The second arises from the first by requests that satisfy `p`, one after the other. -/
def RequestsOnly (p : NetlinkRequest → Prop) (netlink netlink' : NetlinkManager) : Prop :=
  Relation.ReflTransGen (fun netlink netlink' =>
    ∃ check r, p r ∧ netlink' = (netlink.request check r).2) netlink netlink'

theorem requestsOnly_request {p : NetlinkRequest → Prop} (netlink : NetlinkManager)
    (check : SegwireResult Unit) {r : NetlinkRequest} (h : p r) :
    netlink.RequestsOnly p (netlink.request check r).2 :=
  .single ⟨check, r, h, rfl⟩

namespace RequestsOnly

variable {p : NetlinkRequest → Prop}

theorem refl (netlink : NetlinkManager) : netlink.RequestsOnly p netlink :=
  Relation.ReflTransGen.refl

theorem trans (h : netlink.RequestsOnly p netlink') (h' : netlink'.RequestsOnly p netlink'') :
    netlink.RequestsOnly p netlink'' := Relation.ReflTransGen.trans h h'

theorem foldl {α : Type} {body : NetlinkManager → α → NetlinkManager} {xs : List α}
    (h : ∀ (netlink : NetlinkManager), ∀ x ∈ xs, netlink.RequestsOnly p (body netlink x))
    (netlink : NetlinkManager) : netlink.RequestsOnly p (xs.foldl body netlink) := by
  -- each element starts from what the earlier ones left
  induction xs generalizing netlink with
  | nil => exact refl netlink
  | cons x xs ih =>
    have hrest := ih (fun netlink y hy => h netlink y (List.mem_cons_of_mem _ hy)) (body netlink x)
    exact (h netlink x List.mem_cons_self).trans hrest

theorem mono {q : NetlinkRequest → Prop} (hpq : ∀ r, p r → q r)
    (h : netlink.RequestsOnly p netlink') : netlink.RequestsOnly q netlink' :=
  Relation.ReflTransGen.mono (fun _ _ ⟨check, r, hr, heq⟩ => ⟨check, r, hpq r hr, heq⟩) _ _ h

theorem issues (h : netlink.RequestsOnly p netlink') : netlink.Issues p netlink' := by
  induction h with
  | refl => exact .refl netlink
  | tail _ hstep ih =>
    obtain ⟨check, r, hr, rfl⟩ := hstep
    exact ih.trans ⟨_, [r], fun _ hr' => List.mem_singleton.mp hr' ▸ hr, rfl⟩

theorem sameSystem (h : netlink.RequestsOnly p netlink') : netlink.SameSystem netlink' :=
  h.issues.sameSystem

end RequestsOnly

theorem sameSystem_request (netlink : NetlinkManager) (check : SegwireResult Unit)
    (r : NetlinkRequest) : netlink.SameSystem (netlink.request check r).2 :=
  ⟨_, [r], rfl⟩

/-- The request is about links, and sets neither routes nor DNS. -/
def IsLinkRequest : NetlinkRequest → Prop
  | .addRoute _ _ | .configureDns _ _ => False
  | _ => True

/-- The requests that are made for a virtual interface. -/
def IsVifRequest (fullName : String) (config : NamespaceConfig) (vif : VirtualInterface) :
    NetlinkRequest → Prop
  | .createVethPair vethName peerName => vethName = vif.name ∧ vif.peer = some peerName
  | .moveInterface interfaceName namespaceName =>
    interfaceName = vif.name ∧ namespaceName = fullName
  | .addAddress namespaceName ifname _ _ => namespaceName = fullName ∧ ifname = vif.name
  | .setLinkUpInNamespace namespaceName ifname => namespaceName = fullName ∧ ifname = vif.name
  | .setLinkUp ifname => vif.peer = some ifname
  | .createWireguardInterface namespaceName wgName => namespaceName = fullName ∧ wgName = vif.name
  | .configureWireguard namespaceName wgName wgConfig =>
    namespaceName = fullName ∧ wgName = vif.name ∧ config.wireguard = some wgConfig
  | .createVirtualInterface namespaceName vifName vifType =>
    namespaceName = fullName ∧ vifName = vif.name ∧ vifType = vif.interfaceType
  | .moveInterfaceToDefault _ _ | .addRoute _ _ | .configureDns _ _ => False

/-- The requests that are made for the interfaces of a configuration. -/
def IsInterfaceRequest (fullName : String) (config : NamespaceConfig) (r : NetlinkRequest) :
    Prop :=
  (∃ vif ∈ config.interfaces.virtualInterfaces, IsVifRequest fullName config vif r) ∨
    ∃ iface ∈ config.interfaces.moveInterfaces, r = .moveInterface iface fullName

theorem IsInterfaceRequest.isLinkRequest {config : NamespaceConfig} {r : NetlinkRequest}
    (h : IsInterfaceRequest fullName config r) : IsLinkRequest r := by
  rcases h with ⟨vif, -, h⟩ | ⟨iface, -, rfl⟩
  · cases r with
    | addRoute | configureDns => exact h.elim
    | _ => trivial
  · trivial

section Applied

variable (netlink : NetlinkManager) (fullName : String) (config : NamespaceConfig)
  (vif : VirtualInterface)

theorem requestsOnly_applyAddressInNamespace (addr : String) :
    netlink.RequestsOnly (IsVifRequest fullName config vif)
      (netlink.applyAddressInNamespace fullName vif.name addr).2 := by
  unfold applyAddressInNamespace
  split
  · exact .refl _
  · split
    · exact .refl _
    · split
      · exact .refl _
      · exact requestsOnly_request _ _ ⟨rfl, rfl⟩

theorem requestsOnly_bringUp :
    netlink.RequestsOnly (IsVifRequest fullName config vif) (netlink.bringUp fullName vif) :=
  (RequestsOnly.foldl (fun netlink addr _ =>
    netlink.requestsOnly_applyAddressInNamespace fullName config vif addr) _).trans
      (requestsOnly_request _ _ ⟨rfl, rfl⟩)

/-- A veth pair is applied from its creation on. -/
theorem requestsOnly_createVethPair_applyVeth {peer : String} (hpeer : vif.peer = some peer) :
    (netlink.createVethPair vif.name peer).2.RequestsOnly (IsVifRequest fullName config vif)
      (netlink.applyVeth fullName vif peer) := by
  unfold applyVeth
  rcases netlink.createVethPair vif.name peer with ⟨e | ⟨⟩, created⟩
  · exact .refl created
  · have hmove : created.RequestsOnly (IsVifRequest fullName config vif)
        (created.moveInterfaceToNamespace vif.name fullName).2 :=
      requestsOnly_request _ _ ⟨rfl, rfl⟩
    dsimp only
    -- the peer is brought up in either case
    rcases hresult : created.moveInterfaceToNamespace vif.name fullName with ⟨e | ⟨⟩, moved⟩ <;>
      rw [hresult] at hmove
    · exact hmove.trans (requestsOnly_request _ _ hpeer)
    · have hup := moved.requestsOnly_bringUp fullName config vif
      exact hmove.trans (hup.trans (requestsOnly_request _ _ hpeer))

/-- A WireGuard interface is applied from its creation on. -/
theorem requestsOnly_createWireguardInterface_applyWireguard :
    (netlink.createWireguardInterface fullName vif.name).2.RequestsOnly
      (IsVifRequest fullName config vif) (netlink.applyWireguard fullName config vif) := by
  unfold applyWireguard
  rcases netlink.createWireguardInterface fullName vif.name with ⟨e | ⟨⟩, created⟩
  · exact .refl created
  · have hup := created.requestsOnly_bringUp fullName config vif
    dsimp only
    cases hwireguard : config.wireguard with
    | none => exact hup
    | some wgConfig => exact hup.trans (requestsOnly_request _ _ ⟨rfl, rfl, hwireguard⟩)

/-- Any other interface is applied from its creation on. -/
theorem requestsOnly_createVirtualInterface_applyOther :
    (netlink.createVirtualInterface fullName vif.name vif.interfaceType).2.RequestsOnly
      (IsVifRequest fullName config vif) (netlink.applyOther fullName vif) := by
  unfold applyOther
  rcases netlink.createVirtualInterface fullName vif.name vif.interfaceType with ⟨e | ⟨⟩, created⟩
  · exact .refl created
  · exact created.requestsOnly_bringUp fullName config vif

theorem requestsOnly_applyVirtualInterface :
    netlink.RequestsOnly (IsVifRequest fullName config vif)
      (netlink.applyVirtualInterface fullName config vif) := by
  unfold applyVirtualInterface
  split_ifs
  · cases hpeer : vif.peer with
    | none => exact .refl _
    | some peer =>
      exact (requestsOnly_request _ _ ⟨rfl, hpeer⟩).trans
        (netlink.requestsOnly_createVethPair_applyVeth fullName config vif hpeer)
  · exact (requestsOnly_request _ _ ⟨rfl, rfl⟩).trans
      (netlink.requestsOnly_createWireguardInterface_applyWireguard fullName config vif)
  · exact (requestsOnly_request _ _ ⟨rfl, rfl, rfl⟩).trans
      (netlink.requestsOnly_createVirtualInterface_applyOther fullName config vif)

/-- Applying the interfaces makes requests for them, and sets neither routes nor DNS. -/
theorem requestsOnly_applyInterfaces :
    netlink.RequestsOnly (IsInterfaceRequest fullName config)
      (netlink.applyInterfaces fullName config) := by
  have hvirtual (netlink : NetlinkManager) :=
    RequestsOnly.foldl (fun netlink vif hvif =>
      (netlink.requestsOnly_applyVirtualInterface fullName config vif).mono fun r hr =>
        (.inl ⟨vif, hvif, hr⟩ : IsInterfaceRequest fullName config r)) netlink
  have hmoved (netlink : NetlinkManager) : netlink.RequestsOnly (IsInterfaceRequest fullName config)
      (config.interfaces.moveInterfaces.foldl (fun netlink iface =>
        (netlink.moveInterfaceToNamespace iface fullName).2) netlink) :=
    .foldl (fun netlink iface hiface =>
      requestsOnly_request _ _ (.inr ⟨iface, hiface, rfl⟩)) netlink
  exact (hvirtual netlink).trans (hmoved _)

end Applied

theorem requestsOnly_applyRoutesAndDns (netlink : NetlinkManager) (fullName : String)
    (config : NamespaceConfig) :
    netlink.RequestsOnly (fun _ => True) (netlink.applyRoutesAndDns fullName config) := by
  have hroutes (routes : List RouteConfig) : netlink.RequestsOnly (fun _ => True)
      (routes.foldl (fun netlink route => (netlink.addRouteToNamespace fullName route).2)
        netlink) :=
    .foldl (fun _ _ _ => requestsOnly_request _ _ trivial) _
  unfold applyRoutesAndDns
  dsimp only
  split_ifs
  · exact hroutes _
  · exact (hroutes _).trans (requestsOnly_request _ _ trivial)

theorem sameSystem_applyRoutesAndDns (netlink : NetlinkManager) (fullName : String)
    (config : NamespaceConfig) :
    netlink.SameSystem (netlink.applyRoutesAndDns fullName config) :=
  (netlink.requestsOnly_applyRoutesAndDns fullName config).sameSystem

/-! ### Creations -/

@[simp] theorem faults_setNetnsFile {host : Host} {file : NetnsFile} :
    (host.setNetnsFile name file).faults = host.faults := rfl

@[simp] theorem isSome_netns_setNetnsFile {host : Host} {file : NetnsFile} :
    (host.setNetnsFile name file).netns.isSome = host.netns.isSome := by
  simp [Host.setNetnsFile]

@[simp] theorem isSome_netns_removeFile {host : Host} :
    (host.removeFile name).2.netns.isSome = host.netns.isSome := by
  unfold Host.removeFile
  cases host.faults (.removeFile name) <;> simp [Host.eraseNetnsFile]

theorem netnsPathExists_setNetnsFile {host : Host} {file : NetnsFile} :
    (host.setNetnsFile name file).netnsPathExists k =
      (host.netns.isSome && decide (k = name) || host.netnsPathExists k) := by
  unfold Host.setNetnsFile Host.netnsPathExists
  cases host.netns with
  | none => simp
  | some files =>
    simp only [Option.map_some, Option.bind_some, HashMap.lookup_insert_eq_ite]
    split_ifs with h <;> simp [h]

theorem netnsPathExists_eraseNetnsFile {host : Host} :
    (host.eraseNetnsFile name).netnsPathExists k =
      (!decide (k = name) && host.netnsPathExists k) := by
  unfold Host.eraseNetnsFile Host.netnsPathExists
  cases host.netns with
  | none => simp
  | some files =>
    simp only [Option.map_some, Option.bind_some, HashMap.lookup_erase_eq_ite]
    split_ifs with h <;> simp [h]

/-- What a creation does: it makes the namespace, or it fails and leaves at most an
unremovable file behind. -/
structure CreateSpec (netlink : NetlinkManager) (name : String)
    (result : SegwireResult NamespaceInfo) (netlink' : NetlinkManager) : Prop where
  ok_iff : (∃ info, result = .ok info) ↔
    netlink.environment.creates (netlink.namespaceExists name) name = true
  active : ∀ info, result = .ok info → info.active = true
  present : netlink'.namespaceExists name =
    (netlink.namespaceExists name ||
      netlink.environment.creates (netlink.namespaceExists name) name ||
      netlink.environment.leavesPlaceholder (netlink.namespaceExists name) name)
  others : ∀ k, k ≠ name → netlink'.namespaceExists k = netlink.namespaceExists k
  environment : netlink'.environment = netlink.environment

/-- A creation that fails without having done anything. -/
theorem CreateSpec.of_error {e : SegwireError}
    (hcreates : netlink.environment.creates (netlink.namespaceExists name) name = false)
    (hplaceholder :
      netlink.environment.leavesPlaceholder (netlink.namespaceExists name) name = false) :
    CreateSpec netlink name (.error e) netlink where
  ok_iff := by simp [hcreates]
  active := by simp
  present := by simp [hcreates, hplaceholder]
  others _ _ := rfl
  environment := rfl

theorem createSimulated_spec {state : SimulatedState}
    (hbackend : netlink.backend = .simulated state)
    (hvalid : validateNamespaceName name = .ok ()) :
    CreateSpec netlink name (netlink.createSimulated state name).1
      (netlink.createSimulated state name).2 := by
  have hexists (k : String) : netlink.namespaceExists k = state.namespaces.contains k := by
    rw [NetlinkManager.namespaceExists, hbackend]
  have hsimulated : netlink.environment.simulated = true := by
    simp [NetlinkManager.environment, isSimulated, hbackend]
  unfold createSimulated
  split_ifs with hpresent
  · -- the name is taken
    apply CreateSpec.of_error <;>
      simp [Environment.creates, Environment.leavesPlaceholder, hexists, hpresent]
  · have hcreates : netlink.environment.creates (netlink.namespaceExists name) name = true := by
      simp [Environment.creates, hvalid, hexists, hpresent, hsimulated, Except.toBool]
    constructor
    · simp [hcreates]
    · rintro info ⟨⟩
      rfl
    · rw [hcreates]
      simp [NetlinkManager.namespaceExists, SimulatedState.add, KeyedMap.contains]
    · intro k hk
      rw [hexists]
      simp [NetlinkManager.namespaceExists, SimulatedState.add, KeyedMap.contains,
        KeyedMap.lookup_insert, hk]
    · simp [NetlinkManager.environment, isSimulated, hbackend]

/-- A creation on the machine fails at once when the name is taken or its file cannot
be made. -/
theorem createReal_error (h : netlink.host.netnsPathExists name = true ∨
    netlink.host.faults (.createFile name) ≠ none ∨ netlink.host.netns = none) :
    ∃ e, netlink.createReal name = (.error e, netlink) := by
  unfold createReal Host.createFile
  split_ifs with hpresent
  · exact ⟨_, rfl⟩
  · rcases h with h | h | h
    · exact absurd h hpresent
    · obtain ⟨e, he⟩ := Option.ne_none_iff_exists'.mp h
      rw [he]
      exact ⟨_, rfl⟩
    · cases hcreate : netlink.host.faults (.createFile name) with
      | some e => exact ⟨_, rfl⟩
      | none =>
        rw [h]
        exact ⟨_, rfl⟩

section FileMade

variable (hpresent : netlink.host.netnsPathExists name = false)
  (hcreate : netlink.host.faults (.createFile name) = none)
  (hdir : netlink.host.netns.isSome = true)
include hpresent hcreate hdir

/-- Once the file is made, the mount decides. -/
theorem createReal_ok (hmount : netlink.host.faults (.mountNetns name) = none) :
    let host := (netlink.host.setNetnsFile name ⟨false⟩).setNetnsFile name ⟨true⟩
    netlink.createReal name = (.ok (realInfo host name), { netlink with host }) := by
  obtain ⟨files, hfiles⟩ := Option.isSome_iff_exists.mp hdir
  simp [createReal, hpresent, Host.createFile, hcreate, hfiles, Host.createNetns,
    Host.setNetnsFile, hmount]

theorem createReal_mount_error {reason : String}
    (hmount : netlink.host.faults (.mountNetns name) = some reason) :
    netlink.createReal name = (.error (NetlinkError.createFailed name reason).toSegwireError,
      { netlink with host := ((netlink.host.setNetnsFile name ⟨false⟩).removeFile name).2 }) := by
  obtain ⟨files, hfiles⟩ := Option.isSome_iff_exists.mp hdir
  simp [createReal, hpresent, Host.createFile, hcreate, hfiles, Host.createNetns,
    Host.setNetnsFile, hmount]

end FileMade

theorem netnsPathExists_removeFile {host : Host} :
    (host.removeFile name).2.netnsPathExists k =
      ((!decide (k = name) || (host.faults (.removeFile name)).isSome) &&
        host.netnsPathExists k) := by
  unfold Host.removeFile
  cases host.faults (.removeFile name) with
  | some e => simp
  | none => simp [netnsPathExists_eraseNetnsFile]

/-- The real backend looks for the file of a namespace. -/
theorem namespaceExists_of_real (hbackend : netlink.backend = .real) (host : Host) (k : String) :
    ({ netlink with host } : NetlinkManager).namespaceExists k = host.netnsPathExists k := by
  simp [NetlinkManager.namespaceExists, hbackend]

theorem createReal_spec (hbackend : netlink.backend = .real)
    (hvalid : validateNamespaceName name = .ok ()) :
    CreateSpec netlink name (netlink.createReal name).1 (netlink.createReal name).2 := by
  have hexists := namespaceExists_of_real hbackend
  have hself := hexists netlink.host
  have hsimulated : netlink.environment.simulated = false := by
    simp [NetlinkManager.environment, isSimulated, hbackend]
  have hfaults : netlink.environment.faults = netlink.host.faults := rfl
  have hnetnsDir : netlink.environment.netnsDir = netlink.host.netns.isSome := rfl
  -- a creation fails before it touches the directory, or makes its file and then tries to mount
  by_cases hearly : netlink.host.netnsPathExists name = true ∨
      netlink.host.faults (.createFile name) ≠ none ∨ netlink.host.netns = none
  · obtain ⟨e, he⟩ := createReal_error hearly
    rw [he]
    apply CreateSpec.of_error <;>
      rcases hearly with h | h | h <;>
      simp [Environment.creates, Environment.leavesPlaceholder, hself, hsimulated, hfaults,
        hnetnsDir, h]
  · simp only [not_or, Bool.not_eq_true, not_not] at hearly
    obtain ⟨hpresent, hcreate, hnetns⟩ := hearly
    have hdir : netlink.host.netns.isSome = true := Option.isSome_iff_ne_none.mpr hnetns
    cases hmount : netlink.host.faults (.mountNetns name) with
    | none =>
      have hcreates : netlink.environment.creates (netlink.namespaceExists name) name = true := by
        simp [Environment.creates, hvalid, hself, hpresent, hfaults, hnetnsDir, hdir, hcreate,
          hmount, Except.toBool]
      rw [createReal_ok hpresent hcreate hdir hmount]
      constructor
      · simp [hcreates]
      · rintro info ⟨⟩
        rfl
      · rw [hexists, hcreates]
        simp [netnsPathExists_setNetnsFile, hdir]
      · intro k hk
        rw [hexists, hself]
        simp [netnsPathExists_setNetnsFile, hk]
      · simp [NetlinkManager.environment, isSimulated, hbackend, Host.setNetnsFile]
    | some reason =>
      have hcreates : netlink.environment.creates (netlink.namespaceExists name) name = false := by
        simp [Environment.creates, hsimulated, hfaults, hmount]
      -- the file is left behind iff it cannot be removed
      have hplaceholder :
          netlink.environment.leavesPlaceholder (netlink.namespaceExists name) name =
            (netlink.host.faults (.removeFile name)).isSome := by
        simp [Environment.leavesPlaceholder, hvalid, hself, hpresent, hsimulated, hfaults,
          hnetnsDir, hdir, hcreate, hmount, Except.toBool]
      rw [createReal_mount_error hpresent hcreate hdir hmount]
      constructor
      · simp [hcreates]
      · rintro info ⟨⟩
      · rw [hexists, hcreates, hplaceholder, hself, hpresent]
        simp [netnsPathExists_removeFile, netnsPathExists_setNetnsFile, hdir]
      · intro k hk
        rw [hexists, hself]
        simp [netnsPathExists_removeFile, netnsPathExists_setNetnsFile, hk]
      · simp only [NetlinkManager.environment, isSimulated, hbackend, Host.removeFile,
          Host.setNetnsFile]
        split <;> simp [Host.eraseNetnsFile]

/-- What a creation does to the system. -/
theorem createNamespace_spec (netlink : NetlinkManager) (name : String) :
    CreateSpec netlink name (netlink.createNamespace name).1 (netlink.createNamespace name).2 := by
  unfold createNamespace
  cases hvalid : validateNamespaceName name with
  | error e =>
    apply CreateSpec.of_error <;>
      simp [Environment.creates, Environment.leavesPlaceholder, hvalid, Except.toBool]
  | ok accepted =>
    cases hbackend : netlink.backend with
    | simulated state => exact createSimulated_spec hbackend hvalid
    | real => exact createReal_spec hbackend hvalid

/-! ### Deletions -/

/-- A namespace is mounted on its file in the namespace directory. -/
def isMounted (netlink : NetlinkManager) (name : String) : Bool :=
  decide (netlink.host.netns.bind (·.lookup name) = some ⟨true⟩)

/-- The machine can take a namespace away: it is mounted, and neither step has a fault. -/
def deletesNetns (netlink : NetlinkManager) (name : String) : Bool :=
  (netlink.host.faults (.umount name)).isNone && netlink.isMounted name &&
    (netlink.host.faults (.removeFile name)).isNone

/-- A deletion succeeds. -/
def deletes (netlink : NetlinkManager) (name : String) : Bool :=
  (validateNamespaceName name).toBool && netlink.namespaceExists name &&
    (netlink.isSimulated || netlink.deletesNetns name)

/-- What a deletion does: it takes the namespace away, or it fails and the file stays,
though the namespace may no longer be mounted on it. -/
structure DeleteSpec (netlink : NetlinkManager) (name : String) (result : SegwireResult Unit)
    (netlink' : NetlinkManager) : Prop where
  ok_iff : result = .ok () ↔ netlink.deletes name = true
  present : netlink'.namespaceExists name = (netlink.namespaceExists name && !netlink.deletes name)
  others : ∀ k, k ≠ name → netlink'.namespaceExists k = netlink.namespaceExists k
  environment : netlink'.environment = netlink.environment

/-- A deletion that fails without having done anything. -/
theorem DeleteSpec.of_error {e : SegwireError} (hdeletes : netlink.deletes name = false) :
    DeleteSpec netlink name (.error e) netlink where
  ok_iff := by simp [hdeletes]
  present := by simp [hdeletes]
  others _ _ := rfl
  environment := rfl

/-- On the machine a deletion takes the file away, or leaves it with or without its mount. -/
theorem deleteNetns_cases (netlink : NetlinkManager) (name : String) :
    (netlink.deletesNetns name = true ∧ netlink.host.deleteNetns name =
      (.ok (), (netlink.host.setNetnsFile name ⟨false⟩).eraseNetnsFile name)) ∨
    (netlink.deletesNetns name = false ∧ ∃ e host,
      netlink.host.deleteNetns name = (.error e, host) ∧
      (host = netlink.host ∨ host = netlink.host.setNetnsFile name ⟨false⟩)) := by
  unfold deletesNetns isMounted Host.deleteNetns Host.umount
  cases humount : netlink.host.faults (.umount name) with
  | some reason => exact .inr ⟨rfl, _, _, rfl, .inl rfl⟩
  | none =>
    by_cases hmounted : netlink.host.netns.bind (·.lookup name) = some ⟨true⟩
    · dsimp only
      rw [if_pos hmounted, decide_eq_true hmounted]
      dsimp only [Host.removeFile]
      rw [faults_setNetnsFile]
      cases hremove : netlink.host.faults (.removeFile name) with
      | some reason => exact .inr ⟨rfl, _, _, rfl, .inr rfl⟩
      | none => exact .inl ⟨rfl, rfl⟩
    · dsimp only
      rw [if_neg hmounted, decide_eq_false hmounted]
      exact .inr ⟨rfl, _, _, rfl, .inl rfl⟩

section FileThere

variable {host : Host} (hbackend : netlink.backend = .real)
  (hvalid : validateNamespaceName name = .ok ())
  (hpresent : netlink.host.netnsPathExists name = true)
include hbackend hvalid hpresent

theorem deleteReal_ok (hdelete : netlink.host.deleteNetns name = (.ok (), host)) :
    netlink.deleteNamespace name = (.ok (), { netlink with host }) := by
  simp [deleteNamespace, hvalid, hbackend, hpresent, hdelete]

theorem deleteReal_error {reason : String}
    (hdelete : netlink.host.deleteNetns name = (.error reason, host)) :
    netlink.deleteNamespace name =
      (.error (NetlinkError.deleteFailed name reason).toSegwireError, { netlink with host }) := by
  simp [deleteNamespace, hvalid, hbackend, hpresent, hdelete]

end FileThere

theorem deleteReal_spec (hbackend : netlink.backend = .real)
    (hvalid : validateNamespaceName name = .ok ()) :
    DeleteSpec netlink name (netlink.deleteNamespace name).1 (netlink.deleteNamespace name).2 := by
  have hexists := namespaceExists_of_real hbackend
  have hself := hexists netlink.host
  have hsimulated : netlink.isSimulated = false := by
    rw [isSimulated, hbackend]
  have hdeletes : netlink.deletes name =
      (netlink.host.netnsPathExists name && netlink.deletesNetns name) := by
    simp [deletes, hvalid, Except.toBool, hself, hsimulated]
  cases hpresent : netlink.host.netnsPathExists name with
  | false =>
    rw [hpresent, Bool.false_and] at hdeletes
    simp only [deleteNamespace, hvalid, hbackend, hpresent]
    exact .of_error hdeletes
  | true =>
    have hdir : netlink.host.netns.isSome = true := by
      cases hnetns : netlink.host.netns with
      | none => simp [Host.netnsPathExists, hnetns] at hpresent
      | some files => rfl
    rw [hpresent, Bool.true_and] at hdeletes
    obtain ⟨hnetns, hresult⟩ | ⟨hnetns, e, host, hresult, hhost⟩ := netlink.deleteNetns_cases name
    · rw [deleteReal_ok hbackend hvalid hpresent hresult]
      rw [hnetns] at hdeletes
      constructor
      · simp [hdeletes]
      · rw [hexists, hdeletes, netnsPathExists_eraseNetnsFile]
        simp
      · intro k hk
        rw [hexists, hself, netnsPathExists_eraseNetnsFile, netnsPathExists_setNetnsFile]
        simp [hk]
      · simp [NetlinkManager.environment, isSimulated, hbackend, Host.setNetnsFile,
          Host.eraseNetnsFile]
    · rw [deleteReal_error hbackend hvalid hpresent hresult]
      rw [hnetns] at hdeletes
      -- the file is still there
      have hpath (k : String) : host.netnsPathExists k = netlink.host.netnsPathExists k := by
        rcases hhost with rfl | rfl
        · rfl
        · rw [netnsPathExists_setNetnsFile, hdir]
          by_cases hk : k = name <;> simp [hk, hpresent]
      constructor
      · simp [hdeletes]
      · rw [hexists, hpath, hself, hdeletes]
        simp
      · intro k _
        rw [hexists, hpath, hself]
      · rcases hhost with rfl | rfl <;>
          simp [NetlinkManager.environment, isSimulated, hbackend, Host.setNetnsFile]

theorem deleteSimulated_spec {state : SimulatedState}
    (hbackend : netlink.backend = .simulated state)
    (hvalid : validateNamespaceName name = .ok ()) :
    DeleteSpec netlink name (netlink.deleteNamespace name).1 (netlink.deleteNamespace name).2 := by
  have hexists (k : String) : netlink.namespaceExists k = state.namespaces.contains k := by
    rw [NetlinkManager.namespaceExists, hbackend]
  have hsimulated : netlink.isSimulated = true := by
    rw [isSimulated, hbackend]
  have hdeletes : netlink.deletes name = state.namespaces.contains name := by
    simp [deletes, hvalid, Except.toBool, hexists, hsimulated]
  have hcontains (k : String) : (state.remove name).namespaces.contains k =
      (!decide (k = name) && state.namespaces.contains k) := by
    simp only [SimulatedState.remove, KeyedMap.contains, KeyedMap.lookup_erase]
    split_ifs with hk <;> simp [hk]
  simp only [deleteNamespace, hvalid, hbackend]
  split_ifs with hpresent
  · constructor
    · simp [hdeletes, hpresent]
    · rw [hdeletes, hexists, hpresent]
      exact (hcontains name).trans (by simp)
    · intro k hk
      rw [hexists]
      exact (hcontains k).trans (by simp [hk])
    · simp [NetlinkManager.environment, isSimulated, hbackend]
  · exact .of_error (by simp [hdeletes, hpresent])

/-- What a deletion does to the system. -/
theorem deleteNamespace_spec (netlink : NetlinkManager) (name : String) :
    DeleteSpec netlink name (netlink.deleteNamespace name).1 (netlink.deleteNamespace name).2 := by
  cases hvalid : validateNamespaceName name with
  | error e =>
    rw [deleteNamespace, hvalid]
    exact .of_error (by simp [deletes, hvalid, Except.toBool])
  | ok accepted =>
    cases hbackend : netlink.backend with
    | simulated state => exact deleteSimulated_spec hbackend hvalid
    | real => exact deleteReal_spec hbackend hvalid

/-! ### Lists -/

theorem active_of_listed {actual : KeyedMap NamespaceInfo.name} {info : NamespaceInfo}
    (hlist : netlink.listNamespaces = .ok actual) (hinfo : actual.lookup name = some info) :
    info.active = true := by
  unfold listNamespaces at hlist
  cases hbackend : netlink.backend with
  | simulated state =>
    rw [hbackend] at hlist
    obtain rfl := Except.ok.inj hlist
    exact state.active name info hinfo
  | real =>
    rw [hbackend] at hlist
    dsimp only at hlist
    split at hlist
    · obtain rfl := Except.ok.inj hlist
      simp at hinfo
    · split at hlist
      · cases hlist
      · obtain rfl := Except.ok.inj hlist
        change (HashMap.mapVal _ _).lookup name = some info at hinfo
        rw [HashMap.lookup_mapVal, Option.map_eq_some_iff] at hinfo
        -- what the machine lists is active by construction
        obtain ⟨file, -, rfl⟩ := hinfo
        rfl

/-- A namespace is listed iff it is there and its directory entry can be read. -/
theorem contains_listed {actual : KeyedMap NamespaceInfo.name}
    (hlist : netlink.listNamespaces = .ok actual) :
    actual.contains name = (netlink.namespaceExists name &&
      (netlink.isSimulated || (netlink.host.faults (.readNetnsEntry name)).isNone)) := by
  unfold listNamespaces at hlist
  unfold NetlinkManager.namespaceExists isSimulated
  cases hbackend : netlink.backend with
  | simulated state =>
    rw [hbackend] at hlist
    obtain rfl := Except.ok.inj hlist
    simp
  | real =>
    rw [hbackend] at hlist
    dsimp only at hlist
    split at hlist
    · rename_i hnetns
      obtain rfl := Except.ok.inj hlist
      simp [Host.netnsPathExists, hnetns, KeyedMap.contains]
    · rename_i files hnetns
      split at hlist
      · cases hlist
      · obtain rfl := Except.ok.inj hlist
        simp only [KeyedMap.contains, KeyedMap.lookup, listReal, HashMap.lookup_mapVal,
          HashMap.lookup_retain, Option.isSome_map, Host.netnsPathExists, hnetns, Option.bind_some]
        cases netlink.host.faults (.readNetnsEntry name) <;> cases files.lookup name <;>
          simp [Option.filter]

end NetlinkManager

end Segwire.Daemon
