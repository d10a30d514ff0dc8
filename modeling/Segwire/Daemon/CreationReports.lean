import Segwire.Daemon.NamespaceSync
import Segwire.Daemon.NetworkSettings
import Segwire.Foundation.Run

/-!
# What a creation reports

A creation from a configuration succeeds iff its namespace can be created. The state that it
records then lists the interfaces and routes of the configuration, whatever the netlink layer
answered to the requests for them, so it is truthful iff none of these was refused.

## Main definitions

* `CreationOutcome` — the result of a creation and the states tracked after it
* `NetlinkManager.acceptedInterfaces`, `NetlinkManager.acceptedRoutes` — what was accepted
* `TruthfulReport`, `NothingRefused` — the recorded state only lists accepted requests

## Main results

* `NamespaceStateManager.creationOutcome` — a creation succeeds or fails with its namespace
* `NamespaceStateManager.truthfulReport_iff` — the report is truthful iff nothing was refused
-/

namespace Segwire.Daemon

open Foundation Segwire.Common

/-! ### The outcome of a creation -/

namespace NamespaceStateManager

variable {manager : NamespaceStateManager} {entry : NamespaceConfigEntry}

/-- The answer of the netlink layer to the creation of the namespace itself. -/
def namespaceAnswer (manager : NamespaceStateManager) (entry : NamespaceConfigEntry) :
    SegwireResult NamespaceInfo × NetlinkManager :=
  (manager.trackCreation entry).netlinkManager.createNamespace entry.fullName

/-- The result of a creation is that of the namespace itself, its state is recorded as active
with the settings of the configuration or as failed, and other states are not touched. -/
structure CreationOutcome (manager : NamespaceStateManager) (entry : NamespaceConfigEntry) :
    Prop where
  created_iff : (manager.createNewNamespace entry).1 = .ok .created ↔
    ∃ info, (manager.namespaceAnswer entry).1 = .ok info
  active : (manager.createNewNamespace entry).1 = .ok .created → ∃ createdAt lastUpdated,
    (manager.createNewNamespace entry).2.namespaceStates.lookup entry.fullName =
      some (activeState entry createdAt lastUpdated)
  failed : ∀ e, (manager.namespaceAnswer entry).1 = .error e →
    (manager.createNewNamespace entry).1 = .error e ∧ ∃ createdAt lastUpdated,
      (manager.createNewNamespace entry).2.namespaceStates.lookup entry.fullName =
        some (failedState entry createdAt lastUpdated)
  settled : ∀ state,
    (manager.createNewNamespace entry).2.namespaceStates.lookup entry.fullName = some state →
      state.status ≠ .creating
  others : ∀ k ≠ entry.fullName,
    (manager.createNewNamespace entry).2.namespaceStates.lookup k =
      manager.namespaceStates.lookup k

/-- The result of a creation is that of the namespace itself. -/
theorem createNewNamespace_result (manager : NamespaceStateManager) (entry : NamespaceConfigEntry) :
    (manager.createNewNamespace entry).1 =
      (manager.namespaceAnswer entry).1.map fun _ => .created := by
  unfold createNewNamespace namespaceAnswer
  dsimp only
  rcases (manager.trackCreation entry).netlinkManager.createNamespace entry.fullName with
    ⟨e | info, netlink⟩ <;> rfl

/-- The state recorded by a creation that succeeds. -/
theorem exists_activeState (h : (manager.createNewNamespace entry).1 = .ok .created) :
    ∃ createdAt lastUpdated,
      (manager.createNewNamespace entry).2.namespaceStates.lookup entry.fullName =
        some (activeState entry createdAt lastUpdated) := by
  have hspec := createNewNamespace_spec manager entry
  dsimp only at hspec
  rw [if_pos (createNewNamespace_ok_iff.mp h)] at hspec
  obtain ⟨-, createdAt, lastUpdated, hcomponent⟩ := hspec
  exact ⟨createdAt, lastUpdated, congrArg Prod.fst hcomponent⟩

/-- The state recorded by a creation that fails. -/
theorem exists_failedState {e : SegwireError}
    (h : (manager.createNewNamespace entry).1 = .error e) :
    ∃ createdAt lastUpdated,
      (manager.createNewNamespace entry).2.namespaceStates.lookup entry.fullName =
        some (failedState entry createdAt lastUpdated) := by
  have hspec := createNewNamespace_spec manager entry
  dsimp only at hspec
  have hcreates : ¬ manager.netlinkManager.environment.creates
      (manager.netlinkManager.namespaceExists entry.fullName) entry.fullName = true := by
    rw [← createNewNamespace_ok_iff, h]
    exact nofun
  rw [if_neg hcreates] at hspec
  obtain ⟨-, createdAt, lastUpdated, hcomponent⟩ := hspec
  exact ⟨createdAt, lastUpdated, congrArg Prod.fst hcomponent⟩

/-- A creation succeeds or fails with the namespace itself, and records that. -/
theorem creationOutcome (manager : NamespaceStateManager) (entry : NamespaceConfigEntry) :
    CreationOutcome manager entry := by
  have hresult := createNewNamespace_result manager entry
  have hothers : ∀ k ≠ entry.fullName,
      (manager.createNewNamespace entry).2.namespaceStates.lookup k =
        manager.namespaceStates.lookup k :=
    fun k hk => congrArg Prod.fst (component_createNewNamespace_of_ne hk)
  cases hanswer : (manager.namespaceAnswer entry).1 with
  | ok info =>
    rw [hanswer] at hresult
    obtain ⟨createdAt, lastUpdated, hstate⟩ := exists_activeState hresult
    refine ⟨iff_of_true hresult ⟨info, hanswer⟩, fun _ => ⟨createdAt, lastUpdated, hstate⟩, ?_, ?_,
      hothers⟩
    · intro e herror
      rw [hanswer] at herror
      cases herror
    · intro state hlookup
      rw [hstate] at hlookup
      obtain rfl := Option.some.inj hlookup
      exact nofun
  | error e =>
    rw [hanswer] at hresult
    obtain ⟨createdAt, lastUpdated, hstate⟩ := exists_failedState hresult
    have hnot : (manager.createNewNamespace entry).1 ≠ .ok .created := by
      rw [hresult]
      exact nofun
    refine ⟨iff_of_false hnot ?_, fun hcreated => absurd hcreated hnot, ?_, ?_, hothers⟩
    · rintro ⟨info, hok⟩
      rw [hanswer] at hok
      cases hok
    · intro e' herror
      rw [hanswer] at herror
      obtain rfl := Except.error.inj herror
      exact ⟨hresult, createdAt, lastUpdated, hstate⟩
    · intro state hlookup
      rw [hstate] at hlookup
      obtain rfl := Option.some.inj hlookup
      exact nofun

end NamespaceStateManager

/-! ### The answers of the netlink layer -/

section Answers

variable {α : Type}

/-- The elements that were answered with success. There is no answer for what was not requested. -/
def accepted (answers : List (α × Option (SegwireResult Unit))) : List α :=
  (answers.filter fun answer => answer.2 = some (.ok ())).map Prod.fst

/-- Nothing was refused. -/
def AllAccepted (answers : List (α × Option (SegwireResult Unit))) : Prop :=
  ∀ answer ∈ answers, answer.2 = some (.ok ())

theorem length_accepted_le (answers : List (α × Option (SegwireResult Unit))) :
    (accepted answers).length ≤ answers.length := by
  rw [accepted, List.length_map]
  exact List.length_filter_le _ _

/-- As many elements are accepted as there are iff nothing was refused. -/
theorem length_accepted_iff {answers : List (α × Option (SegwireResult Unit))} :
    (accepted answers).length = answers.length ↔ AllAccepted answers := by
  rw [accepted, List.length_map, List.length_filter_eq_length_iff]
  simp [AllAccepted]

theorem accepted_of_allAccepted {answers : List (α × Option (SegwireResult Unit))}
    (h : AllAccepted answers) : accepted answers = answers.map Prod.fst := by
  rw [accepted, List.filter_eq_self.mpr (by simpa [AllAccepted] using h)]

end Answers

namespace NetlinkManager

variable (netlink : NetlinkManager) (fullName : String) (config : NamespaceConfig)

/-- The answer to the requests that create a virtual interface in the namespace. A veth is created
outside, so it has to be moved, too; there is no answer for one without a peer, which is passed
over. -/
def creationAnswer (vif : VirtualInterface) : Option (SegwireResult Unit) :=
  if vif.interfaceType = "veth" then
    vif.peer.map fun peer =>
      match netlink.createVethPair vif.name peer with
      | (.error e, _) => .error e
      | (.ok (), netlink) => (netlink.moveInterfaceToNamespace vif.name fullName).1
  else if vif.interfaceType = "wireguard" then
    some (netlink.createWireguardInterface fullName vif.name).1
  else some (netlink.createVirtualInterface fullName vif.name vif.interfaceType).1

/-- The virtual interfaces of a configuration with the answers to their creations, while they
are applied to a new namespace. -/
def creationAnswers : List (VirtualInterface × Option (SegwireResult Unit)) :=
  exchanges (fun netlink vif =>
    (netlink.creationAnswer fullName vif, netlink.applyVirtualInterface fullName config vif))
    netlink config.interfaces.virtualInterfaces

/-- The interfaces that a configuration moves, with the answers to that. They come after the
virtual ones. -/
def moveAnswers : List (String × Option (SegwireResult Unit)) :=
  exchanges (fun netlink iface =>
    ((netlink.moveInterfaceToNamespace iface fullName).map some id))
    (config.interfaces.virtualInterfaces.foldl
      (fun netlink vif => netlink.applyVirtualInterface fullName config vif) netlink)
    config.interfaces.moveInterfaces

/-- The routes of a configuration with the answers to their additions, after the interfaces. -/
def routeAnswers : List (RouteConfig × Option (SegwireResult Unit)) :=
  exchanges (fun netlink route => (netlink.addRouteToNamespace fullName route).map some id)
    (netlink.applyInterfaces fullName config) (routeConfigs config)

/-- The names and types of the interfaces that were accepted: the listed ones with their move, the
virtual ones with their creation in the namespace. -/
def acceptedInterfaces : List (String × String) :=
  (accepted (netlink.moveAnswers fullName config)).map (fun iface => (iface, "physical")) ++
    (accepted (netlink.creationAnswers fullName config)).map fun vif =>
      (vif.name, vif.interfaceType)

/-- The routes whose addition was accepted. -/
def acceptedRoutes : List RouteInfo :=
  (accepted (netlink.routeAnswers fullName config)).map fun route =>
    ⟨route.destination, route.gateway, route.metric.getD 0, ""⟩

/-- Every virtual interface, moved interface and route was requested and accepted: the veths
have peers, and the netlink layer refused neither a creation nor a move, of a veth or of a
listed interface, nor a route. -/
structure NothingRefused : Prop where
  creations : AllAccepted (netlink.creationAnswers fullName config)
  moves : AllAccepted (netlink.moveAnswers fullName config)
  routes : AllAccepted (netlink.routeAnswers fullName config)

end NetlinkManager

/-! ### The report of a creation -/

/-- The names and types of the interfaces that a state lists as up. -/
def listedUp (state : NamespaceState) : List (String × String) :=
  (state.interfaces.filter fun info => info.status = "up").map fun info =>
    (info.name, info.interfaceType)

theorem listedUp_activeState (entry : NamespaceConfigEntry) (createdAt lastUpdated : Nat) :
    listedUp (activeState entry createdAt lastUpdated) =
      entry.config.interfaces.moveInterfaces.map (fun iface => (iface, "physical")) ++
        entry.config.interfaces.virtualInterfaces.map fun vif => (vif.name, vif.interfaceType) := by
  have hup : (configuredInterfaces entry.config true).filter (fun info => info.status = "up") =
      configuredInterfaces entry.config true := by
    rw [List.filter_eq_self]
    intro info hinfo
    rw [configuredInterfaces, List.mem_append, List.mem_map, List.mem_map] at hinfo
    obtain ⟨iface, -, rfl⟩ | ⟨vif, -, rfl⟩ := hinfo <;> rfl
  rw [listedUp, activeState, hup, configuredInterfaces, List.map_append, List.map_map, List.map_map]
  rfl

/-- The routes of a configuration as they are listed. -/
theorem configuredRoutes_eq (config : NamespaceConfig) :
    configuredRoutes config = (routeConfigs config).map fun route =>
      ⟨route.destination, route.gateway, route.metric.getD 0, ""⟩ := by
  rw [configuredRoutes, routeConfigs, List.map_append, List.map_map, List.map_map]
  rfl

namespace NamespaceStateManager

variable {manager : NamespaceStateManager} {entry : NamespaceConfigEntry}

/-- The recorded state lists only what was accepted: the interfaces that it lists as up and its
routes are, one for one, interfaces and routes that the netlink layer accepted. -/
structure TruthfulReport (manager : NamespaceStateManager) (entry : NamespaceConfigEntry)
    (state : NamespaceState) : Prop where
  interfaces : (listedUp state).Sublist
    ((manager.namespaceAnswer entry).2.acceptedInterfaces entry.fullName entry.config)
  routes : state.routes.Sublist
    ((manager.namespaceAnswer entry).2.acceptedRoutes entry.fullName entry.config)

end NamespaceStateManager

namespace NetlinkManager

variable (netlink : NetlinkManager) (fullName : String) (config : NamespaceConfig)

theorem map_fst_creationAnswers : (netlink.creationAnswers fullName config).map Prod.fst =
    config.interfaces.virtualInterfaces := map_fst_exchanges _ _ _

theorem map_fst_moveAnswers : (netlink.moveAnswers fullName config).map Prod.fst =
    config.interfaces.moveInterfaces := map_fst_exchanges _ _ _

theorem map_fst_routeAnswers : (netlink.routeAnswers fullName config).map Prod.fst =
    routeConfigs config := map_fst_exchanges _ _ _

/-- The interfaces of the configuration are all accepted iff no creation and no move is
refused. -/
theorem sublist_acceptedInterfaces_iff :
    (config.interfaces.moveInterfaces.map (fun iface => (iface, "physical")) ++
        config.interfaces.virtualInterfaces.map fun vif => (vif.name, vif.interfaceType)).Sublist
        (netlink.acceptedInterfaces fullName config) ↔
      AllAccepted (netlink.creationAnswers fullName config) ∧
        AllAccepted (netlink.moveAnswers fullName config) := by
  rw [← map_fst_creationAnswers netlink fullName config,
    ← map_fst_moveAnswers netlink fullName config, acceptedInterfaces]
  constructor
  · intro h
    -- the accepted ones are too many to leave one out
    have hlength := h.length_le
    have hcreations := length_accepted_le (netlink.creationAnswers fullName config)
    have hmoves := length_accepted_le (netlink.moveAnswers fullName config)
    simp only [List.length_append, List.length_map] at hlength
    exact ⟨length_accepted_iff.mp (by omega), length_accepted_iff.mp (by omega)⟩
  · rintro ⟨hcreations, hmoves⟩
    rw [accepted_of_allAccepted hcreations, accepted_of_allAccepted hmoves]

/-- The routes of the configuration are all accepted iff no addition is refused. -/
theorem sublist_acceptedRoutes_iff :
    (configuredRoutes config).Sublist (netlink.acceptedRoutes fullName config) ↔
      AllAccepted (netlink.routeAnswers fullName config) := by
  rw [configuredRoutes_eq, ← map_fst_routeAnswers netlink fullName config,
    acceptedRoutes]
  constructor
  · intro h
    have hlength := h.length_le
    have hroutes := length_accepted_le (netlink.routeAnswers fullName config)
    simp only [List.length_map] at hlength
    exact length_accepted_iff.mp (by omega)
  · intro hroutes
    rw [accepted_of_allAccepted hroutes]

end NetlinkManager

namespace NamespaceStateManager

variable {manager : NamespaceStateManager} {entry : NamespaceConfigEntry}

/-- The report of a creation is truthful iff nothing that it lists was refused. -/
theorem truthfulReport_iff (hcreated : (manager.createNewNamespace entry).1 = .ok .created) :
    ∃ state, (manager.createNewNamespace entry).2.namespaceStates.lookup entry.fullName =
        some state ∧
      (TruthfulReport manager entry state ↔
        (manager.namespaceAnswer entry).2.NothingRefused entry.fullName entry.config) := by
  obtain ⟨createdAt, lastUpdated, hstate⟩ := exists_activeState hcreated
  refine ⟨_, hstate, ?_⟩
  have hinterfaces := (manager.namespaceAnswer entry).2.sublist_acceptedInterfaces_iff
    entry.fullName entry.config
  have hroutes := (manager.namespaceAnswer entry).2.sublist_acceptedRoutes_iff
    entry.fullName entry.config
  rw [← listedUp_activeState entry createdAt lastUpdated] at hinterfaces
  constructor
  · intro h
    obtain ⟨hcreations, hmoves⟩ := hinterfaces.mp h.interfaces
    exact ⟨hcreations, hmoves, hroutes.mp h.routes⟩
  · intro h
    exact ⟨hinterfaces.mpr ⟨h.creations, h.moves⟩, hroutes.mpr h.routes⟩

section Fixture

/-- A configuration with one dummy interface. -/
def dummyEntry : NamespaceConfigEntry where
  config := { NamespaceConfig.bare "one" with
    interfaces := ⟨[], [⟨"dummy0", "dummy", none, []⟩]⟩ }
  filePath := ⟨["etc", "segwire", "namespaces", "one.toml"]⟩
  fullName := "new-one"
  lastModified := 0

/-- A daemon on a machine without namespaces, whose kernel answers all requests alike. -/
def answering (answer : Option SegwireError) : NamespaceStateManager :=
  .new ⟨.real, { Host.quiet 0 (Disk.fileSystem ⟨∅, ∅⟩ .sorted) with answers := fun _ => answer }⟩

theorem truthfulReport_willing :
    ∃ state, ((answering none).createNewNamespace dummyEntry).2.namespaceStates.lookup
        dummyEntry.fullName = some state ∧
      (TruthfulReport (answering none) dummyEntry state ↔
        ((answering none).namespaceAnswer dummyEntry).2.NothingRefused dummyEntry.fullName
          dummyEntry.config) :=
  truthfulReport_iff (by decide)

/-- With a kernel that refuses every request, the dummy interface is listed as up. -/
theorem not_truthfulReport_refusing :
    dummyEntry.config.validate = .ok () ∧
    ¬ ∀ manager entry state, (manager.createNewNamespace entry).1 = .ok .created →
      (manager.createNewNamespace entry).2.namespaceStates.lookup entry.fullName = some state →
        TruthfulReport manager entry state := by
  refine ⟨by decide, fun hall => ?_⟩
  let refusing := answering (some (.network "Operation not supported"))
  have hcreated : (refusing.createNewNamespace dummyEntry).1 = .ok .created := by decide
  obtain ⟨createdAt, lastUpdated, hstate⟩ := exists_activeState hcreated
  have hreport := hall refusing dummyEntry _ hcreated hstate
  have hnone : (refusing.namespaceAnswer dummyEntry).2.acceptedInterfaces dummyEntry.fullName
      dummyEntry.config = [] := by decide
  have hlisted := hreport.interfaces
  rw [hnone, listedUp_activeState, List.sublist_nil] at hlisted
  cases hlisted

end Fixture

end NamespaceStateManager

end Segwire.Daemon
