import Segwire.Daemon.SystemNamespaces

/-!
# What a synchronization does

A synchronization treats the configured namespaces one after the other, in an order
it does not control. What it does to one name depends on that name alone: on its
tracked state, its presence in the system, and the faults of the machine.

## Main definitions

* `NamespaceStateManager.component` — what belongs to one name
* `activeState`, `failedState` — the states recorded for a created namespace and for
  one whose creation failed

## Main results

* `NamespaceStateManager.createNewNamespace_spec`
* `NamespaceStateManager.exists_component_synchronizeState` — a configured name is
  processed in a state that agrees with the first one on it
* `NamespaceStateManager.component_synchronizeState_of_unconfigured`
* `NamespaceStateManager.mem_conflicts_iff` — the reported conflicts
-/

namespace Segwire.Daemon

open Foundation Segwire.Common

/-! ### Recorded states -/

/-- A state without its time stamps. -/
def untimed (state : NamespaceState) : NamespaceState :=
  { state with createdAt := 0, lastUpdated := 0 }

/-- The state recorded for a namespace that is active under a configuration. -/
def activeState (entry : NamespaceConfigEntry) (createdAt lastUpdated : Nat) : NamespaceState where
  name := entry.config.namespace_.name
  fullName := entry.fullName
  status := .active
  configPath := entry.filePath.display
  interfaces := configuredInterfaces entry.config true
  routes := configuredRoutes entry.config
  dnsConfig := ⟨entry.config.dns.servers, entry.config.dns.search⟩
  createdAt
  lastUpdated

/-- The state recorded for a namespace whose creation failed. -/
def failedState (entry : NamespaceConfigEntry) (createdAt lastUpdated : Nat) : NamespaceState where
  name := entry.config.namespace_.name
  fullName := entry.fullName
  status := .failed
  configPath := entry.filePath.display
  interfaces := []
  routes := []
  dnsConfig := ⟨[], []⟩
  createdAt
  lastUpdated

theorem updateStateFromConfigAndActual_new {entry : NamespaceConfigEntry} {info : NamespaceInfo}
    (hactive : info.active = true) (created touched now : SystemTime) :
    updateStateFromConfigAndActual entry info now
      ((NamespaceState.new entry.config.namespace_.name entry.fullName entry.filePath.display
        created).setStatus .active touched) =
      activeState entry (unixSeconds created) (unixSeconds now) := by
  simp [updateStateFromConfigAndActual, hactive, NamespaceState.touch, activeState,
    NamespaceState.new, NamespaceState.setStatus]

namespace NamespaceStateManager

variable {manager manager' : NamespaceStateManager} {entry : NamespaceConfigEntry} {k : String}

/-- What belongs to one name: its tracked state, its presence in the system, and the
environment of a creation. -/
def component (k : String) (manager : NamespaceStateManager) :
    Option NamespaceState × Bool × Environment :=
  (manager.namespaceStates.lookup k, manager.netlinkManager.namespaceExists k,
    manager.netlinkManager.environment)

/-! ### Single operations -/

@[simp] theorem component_now : component k manager.now.2 = component k manager := rfl

theorem component_of_sameSystem (manager : NamespaceStateManager) {netlink : NetlinkManager}
    (h : manager.netlinkManager.SameSystem netlink) :
    component k { manager with netlinkManager := netlink } = component k manager := by
  rw [component, h.namespaceExists, h.environment]
  rfl

theorem component_updateNamespaceState {state : NamespaceState} :
    component k (manager.updateNamespaceState state) =
      if k = state.fullName then (some state, (component k manager).2)
      else component k manager := by
  simp only [component, updateNamespaceState, KeyedMap.lookup_insert]
  split_ifs <;> rfl

theorem component_removeNamespaceState {name : String} :
    component k (manager.removeNamespaceState name) =
      if k = name then (none, (component k manager).2) else component k manager := by
  simp only [component, removeNamespaceState, KeyedMap.lookup_erase]
  split_ifs <;> rfl

/-- A change in place reaches the state of its name only. -/
theorem component_modifyState {name : String}
    {change : SystemTime → NamespaceState → NamespaceState}
    (hkey : ∀ now state, (change now state).fullName = state.fullName) :
    component k (manager.modifyState name change) =
      if k = name then ((component k manager).1.map (change manager.now.1), (component k manager).2)
      else component k manager := by
  unfold modifyState getNamespaceState
  cases hstate : manager.namespaceStates.lookup name with
  | none =>
    split_ifs with hk
    · subst hk
      simp [component, hstate]
    · rfl
  | some state =>
    dsimp only
    rw [component_updateNamespaceState, hkey, KeyedMap.key_eq_of_lookup hstate, component_now]
    split_ifs with hk
    · subst hk
      simp [component, hstate]
    · rfl

theorem sameSystem_modifyState (manager : NamespaceStateManager) (name : String)
    (change : SystemTime → NamespaceState → NamespaceState) :
    manager.netlinkManager.SameSystem (manager.modifyState name change).netlinkManager := by
  unfold modifyState
  split
  · exact NetlinkManager.sameSystem_iff.mpr (.refl _)
  · -- the clock is read once
    refine ⟨manager.netlinkManager.host.ticks + 1, [], ?_⟩
    rw [List.append_nil]
    rfl

/-! ### Creations -/

theorem component_trackCreation :
    component k (manager.trackCreation entry) =
      if k = entry.fullName then
        (some ((NamespaceState.new entry.config.namespace_.name entry.fullName
          entry.filePath.display
          manager.now.1).setStatus .creating manager.now.2.now.1), (component k manager).2)
      else component k manager := by
  unfold trackCreation
  dsimp only
  rw [component_updateNamespaceState, component_now, component_now]
  rfl

theorem component_of_create_of_ne {name : String} {result : SegwireResult NamespaceInfo}
    {netlink : NetlinkManager} (h : manager.netlinkManager.CreateSpec name result netlink)
    (hk : k ≠ name) :
    component k { manager with netlinkManager := netlink } = component k manager := by
  rw [component, h.others k hk, h.environment]
  rfl

theorem fullName_setStatus (status : NamespaceStatus) (now : SystemTime) (state : NamespaceState) :
    (state.setStatus status now).fullName = state.fullName := rfl

theorem fullName_touch (now : SystemTime) (state : NamespaceState) :
    (state.touch now).fullName = state.fullName := rfl

theorem fullName_updateStateFromConfigAndActual (entry : NamespaceConfigEntry)
    (info : NamespaceInfo)
    (now : SystemTime) (state : NamespaceState) :
    (updateStateFromConfigAndActual entry info now state).fullName = state.fullName := rfl

/-- Applying the settings of a new namespace does nothing to the system. -/
theorem sameSystem_apply (netlink : NetlinkManager) (entry : NamespaceConfigEntry) :
    netlink.SameSystem ((netlink.applyInterfaces entry.fullName entry.config).applyRoutesAndDns
      entry.fullName entry.config) :=
  (netlink.requestsOnly_applyInterfaces _ _).sameSystem.trans
    (NetlinkManager.sameSystem_applyRoutesAndDns _ _ _)

/-- A creation from a configuration touches its own name only. -/
theorem component_createNewNamespace_of_ne (hk : k ≠ entry.fullName) :
    component k (manager.createNewNamespace entry).2 = component k manager := by
  have htrack : component k (manager.trackCreation entry) = component k manager := by
    rw [component_trackCreation, if_neg hk]
  have hspec := (manager.trackCreation entry).netlinkManager.createNamespace_spec entry.fullName
  unfold createNewNamespace
  dsimp only
  rcases hresult : (manager.trackCreation entry).netlinkManager.createNamespace entry.fullName with
    ⟨e | info, netlink⟩ <;>
    rw [hresult] at hspec
  · dsimp only
    rw [component_modifyState (fullName_setStatus _), if_neg hk, component_of_create_of_ne hspec hk,
      htrack]
  · dsimp only
    rw [component_modifyState (fullName_updateStateFromConfigAndActual _ _), if_neg hk,
      component_modifyState (fullName_setStatus _), if_neg hk, ← htrack,
      ← component_of_create_of_ne hspec hk]
    let created := { manager.trackCreation entry with netlinkManager := netlink }
    exact component_of_sameSystem created (sameSystem_apply netlink entry)

/-- What a creation from a configuration does to its own name. -/
theorem createNewNamespace_spec (manager : NamespaceStateManager) (entry : NamespaceConfigEntry) :
    let isPresent := manager.netlinkManager.namespaceExists entry.fullName
    let environment := manager.netlinkManager.environment
    if environment.creates isPresent entry.fullName then
      (manager.createNewNamespace entry).1 = .ok .created ∧ ∃ createdAt lastUpdated,
        component entry.fullName (manager.createNewNamespace entry).2 =
          (some (activeState entry createdAt lastUpdated), true, environment)
    else
      (∃ e, (manager.createNewNamespace entry).1 = .error e) ∧ ∃ createdAt lastUpdated,
        component entry.fullName (manager.createNewNamespace entry).2 =
          (some (failedState entry createdAt lastUpdated),
            isPresent || environment.leavesPlaceholder isPresent entry.fullName, environment) := by
  intro isPresent environment
  let tracked := manager.trackCreation entry
  have htrack : component entry.fullName tracked = _ := component_trackCreation
  rw [if_pos rfl] at htrack
  have hpresent : tracked.netlinkManager.namespaceExists entry.fullName = isPresent :=
    congrArg (·.2.1) htrack
  have henvironment : tracked.netlinkManager.environment = environment := congrArg (·.2.2) htrack
  have hspec := tracked.netlinkManager.createNamespace_spec entry.fullName
  have hafter (netlink : NetlinkManager) :
      component entry.fullName { tracked with netlinkManager := netlink } =
        ((component entry.fullName tracked).1, netlink.namespaceExists entry.fullName,
          netlink.environment) := rfl
  unfold createNewNamespace
  dsimp only
  rcases hresult : tracked.netlinkManager.createNamespace entry.fullName with
    ⟨e | info, netlink⟩ <;>
    rw [hresult] at hspec
  · -- the creation failed, and the state recorded as being created is marked as failed
    have hcreates : environment.creates isPresent entry.fullName = false := by
      rw [← Bool.not_eq_true, ← henvironment, ← hpresent, ← hspec.ok_iff]
      rintro ⟨info, ⟨⟩⟩
    rw [if_neg (by simp [hcreates])]
    dsimp only
    refine ⟨⟨e, rfl⟩, unixSeconds manager.now.1, ?_⟩
    rw [component_modifyState (fullName_setStatus _), if_pos rfl, hafter, htrack]
    dsimp only
    rw [hspec.present, hspec.environment, hpresent, henvironment, hcreates, Bool.or_false]
    exact ⟨_, rfl⟩
  · have hcreates : environment.creates isPresent entry.fullName = true := by
      rw [← henvironment, ← hpresent, ← hspec.ok_iff]
      exact ⟨info, rfl⟩
    rw [if_pos hcreates]
    dsimp only
    refine ⟨rfl, unixSeconds manager.now.1, ?_⟩
    rw [component_modifyState (fullName_updateStateFromConfigAndActual _ _), if_pos rfl,
      component_modifyState (fullName_setStatus _), if_pos rfl]
    -- neither the settings nor the clock readings reach what belongs to the name
    have hsame : component entry.fullName { tracked with
        netlinkManager := (netlink.applyInterfaces entry.fullName entry.config).applyRoutesAndDns
          entry.fullName entry.config } =
        component entry.fullName { tracked with netlinkManager := netlink } :=
      component_of_sameSystem { tracked with netlinkManager := netlink }
        (sameSystem_apply netlink entry)
    rw [hsame, hafter, htrack]
    dsimp only
    -- the second change in place supplies what the first one lacks, the settings
    have hstate (created touched set now : SystemTime) :
        updateStateFromConfigAndActual entry info now
          (((NamespaceState.new entry.config.namespace_.name entry.fullName entry.filePath.display
            created).setStatus .creating touched).setStatus .active set) =
          activeState entry (unixSeconds created) (unixSeconds now) :=
      updateStateFromConfigAndActual_new (hspec.active info rfl) _ _ _
    rw [hspec.present, hspec.environment, hpresent, henvironment, hcreates, Bool.or_true,
      Bool.true_or, Option.map_some, Option.map_some, hstate]
    exact ⟨_, rfl⟩

/-- A creation from a configuration succeeds iff the namespace can be created. -/
theorem createNewNamespace_ok_iff :
    (manager.createNewNamespace entry).1 = .ok .created ↔
      manager.netlinkManager.environment.creates
        (manager.netlinkManager.namespaceExists entry.fullName) entry.fullName = true := by
  have hspec := createNewNamespace_spec manager entry
  dsimp only at hspec
  split_ifs at hspec with hcreates
  · exact iff_of_true hspec.1 hcreates
  · obtain ⟨⟨e, he⟩, -⟩ := hspec
    rw [he]
    exact iff_of_false nofun hcreates

/-! ### One configured namespace -/

section Process

variable {managed : KeyedMap NamespaceInfo.name} {state : NamespaceState} {actual : NamespaceInfo}

theorem sameSystem_updateExistingNamespace (manager : NamespaceStateManager)
    (entry : NamespaceConfigEntry) (actual : NamespaceInfo) :
    manager.netlinkManager.SameSystem
      (manager.updateExistingNamespace entry actual).2.netlinkManager :=
  (NetlinkManager.sameSystem_applyRoutesAndDns _ entry.fullName entry.config).trans
    ((sameSystem_modifyState _ _ _).trans (sameSystem_modifyState _ _ _))

theorem component_updateExistingNamespace_of_ne (actual : NamespaceInfo) (hk : k ≠ entry.fullName) :
    component k (manager.updateExistingNamespace entry actual).2 = component k manager := by
  unfold updateExistingNamespace
  dsimp only
  rw [component_modifyState (fullName_updateStateFromConfigAndActual _ _), if_neg hk,
    component_modifyState fullName_touch, if_neg hk]
  exact component_of_sameSystem manager (NetlinkManager.sameSystem_applyRoutesAndDns _ _ _)

/-- An update gives the tracked state the settings of the configuration. -/
theorem exists_component_updateExistingNamespace (manager : NamespaceStateManager)
    (entry : NamespaceConfigEntry) (actual : NamespaceInfo) :
    ∃ now, component entry.fullName (manager.updateExistingNamespace entry actual).2 =
      ((component entry.fullName manager).1.map (updateStateFromConfigAndActual entry actual now),
        (component entry.fullName manager).2) := by
  unfold updateExistingNamespace
  dsimp only
  rw [component_modifyState (fullName_updateStateFromConfigAndActual _ _), if_pos rfl,
    component_modifyState fullName_touch, if_pos rfl,
    component_of_sameSystem manager (NetlinkManager.sameSystem_applyRoutesAndDns _ _ _),
    Option.map_map]
  exact ⟨_, rfl⟩

/-- Processing a configured namespace touches its own name only. -/
theorem component_processConfiguredNamespace_of_ne (hk : k ≠ entry.fullName) :
    component k (manager.processConfiguredNamespace entry managed).2 = component k manager := by
  unfold processConfiguredNamespace
  dsimp only
  split
  · split_ifs
    · exact component_updateExistingNamespace_of_ne _ hk
    · rw [component_modifyState fullName_touch, if_neg hk]
  · rfl
  · exact component_updateNamespaceState.trans (if_neg hk)
  · exact component_createNewNamespace_of_ne hk

/-- A tracked namespace that is there is updated if it needs to be, else touched. -/
theorem process_of_tracked_of_managed
    (hstate : manager.namespaceStates.lookup entry.fullName = some state)
    (hactual : managed.lookup entry.fullName = some actual) :
    (manager.processConfiguredNamespace entry managed).1 =
        .ok (if needsNamespaceUpdate state entry actual then .updated else .noChange) ∧
      ∃ now, component entry.fullName (manager.processConfiguredNamespace entry managed).2 =
        (some (if needsNamespaceUpdate state entry actual then
            updateStateFromConfigAndActual entry actual now state
          else state.touch now), (component entry.fullName manager).2) := by
  have hcomponent : (component entry.fullName manager).1 = some state := hstate
  simp only [processConfiguredNamespace, getNamespaceState, hstate, hactual]
  split_ifs with hneeds
  · obtain ⟨now, hnow⟩ := exists_component_updateExistingNamespace manager entry actual
    refine ⟨rfl, now, ?_⟩
    rw [hnow, hcomponent]
    rfl
  · refine ⟨rfl, manager.now.1, ?_⟩
    rw [component_modifyState fullName_touch, if_pos rfl, hcomponent]
    rfl

/-- A tracked namespace that is not there is reported, and nothing is done. -/
theorem process_of_tracked_of_missing
    (hstate : manager.namespaceStates.lookup entry.fullName = some state)
    (hmissing : managed.lookup entry.fullName = none) :
    manager.processConfiguredNamespace entry managed =
      (.ok (.conflict (missingConflict entry.fullName)), manager) := by
  simp only [processConfiguredNamespace, getNamespaceState, hstate, hmissing]

/-- An untracked namespace that is there is recorded as active. -/
theorem process_of_untracked_of_managed
    (huntracked : manager.namespaceStates.lookup entry.fullName = none)
    (hactual : managed.lookup entry.fullName = some actual) (hactive : actual.active = true) :
    (manager.processConfiguredNamespace entry managed).1 = .ok .updated ∧
      ∃ createdAt lastUpdated,
        component entry.fullName (manager.processConfiguredNamespace entry managed).2 =
          (some (activeState entry createdAt lastUpdated),
            (component entry.fullName manager).2) := by
  simp only [processConfiguredNamespace, getNamespaceState, huntracked, hactual,
    createStateFromActual, updateStateFromConfigAndActual_new hactive, true_and]
  exact ⟨_, _, component_updateNamespaceState.trans (if_pos rfl)⟩

/-- An untracked namespace that is not there is created. -/
theorem process_of_untracked_of_missing
    (huntracked : manager.namespaceStates.lookup entry.fullName = none)
    (hmissing : managed.lookup entry.fullName = none) :
    manager.processConfiguredNamespace entry managed = manager.createNewNamespace entry := by
  simp only [processConfiguredNamespace, getNamespaceState, huntracked, hmissing]

end Process

/-! ### The loop over the configurations -/

/-- The conflicts of a result that are about one name. -/
def conflictsAbout (k : String) (result : SyncResult) : List StateConflict :=
  result.conflicts.filter fun conflict => conflict.namespaceName = k

/-- The conflicts that an action reports. -/
def reported : SegwireResult SyncAction → List StateConflict
  | .ok (.conflict conflict) => [conflict]
  | _ => []

/-- What belongs to one name in the loop. -/
def loopView (k : String) (acc : SyncResult × NamespaceStateManager) :
    (Option NamespaceState × Bool × Environment) × List StateConflict :=
  (component k acc.2, conflictsAbout k acc.1)

theorem conflicts_record (result : SyncResult) (name : String) (action : SegwireResult SyncAction) :
    (result.record name action).conflicts = result.conflicts ++ reported action := by
  rcases action with e | _ | _ | conflict | _ <;> simp [SyncResult.record, reported]

section Loop

variable {managed : KeyedMap NamespaceInfo.name} {configManager : ConfigManager}
  {orders : SyncOrders}

/-- The only conflict that processing a namespace reports is that it is missing. -/
theorem reported_processConfiguredNamespace :
    reported (manager.processConfiguredNamespace entry managed).1 =
      if (manager.namespaceStates.lookup entry.fullName).isSome ∧
          managed.lookup entry.fullName = none then
        [missingConflict entry.fullName]
      else [] := by
  cases hstate : manager.namespaceStates.lookup entry.fullName with
  | some state =>
    cases hactual : managed.lookup entry.fullName with
    | some actual =>
      rw [(process_of_tracked_of_managed hstate hactual).1]
      split <;> simp [reported]
    | none =>
      rw [process_of_tracked_of_missing hstate hactual]
      simp [reported]
  | none =>
    cases hactual : managed.lookup entry.fullName with
    | some actual =>
      simp [processConfiguredNamespace, getNamespaceState, hstate, hactual, reported]
    | none =>
      rw [process_of_untracked_of_missing hstate hactual]
      have hspec := createNewNamespace_spec manager entry
      dsimp only at hspec
      split_ifs at hspec
      · rw [hspec.1]
        simp [reported]
      · obtain ⟨⟨e, he⟩, -⟩ := hspec
        rw [he]
        simp [reported]

theorem localStep_syncConfigured (managed : KeyedMap NamespaceInfo.name)
    (configManager : ConfigManager) (order : IterOrder String) :
    LocalStep loopView (syncConfigured managed) (configManager.namespaceConfigs.iter order) := by
  -- the map is keyed by full names, so the entry of another key has another full name
  rintro ⟨result, manager⟩ ⟨name, entry⟩ hentry k hk
  have hname : entry.fullName = name :=
    KeyedMap.key_eq_of_lookup (KeyedMap.mem_iter.mp hentry)
  have hk' : k ≠ entry.fullName := fun h => hk (h.trans hname).symm
  refine Prod.ext (component_processConfiguredNamespace_of_ne hk') ?_
  change conflictsAbout k (result.record name
    (manager.processConfiguredNamespace entry managed).1) = conflictsAbout k result
  rw [conflictsAbout, conflicts_record, reported_processConfiguredNamespace, List.filter_append]
  split_ifs
  · simp [conflictsAbout, missingConflict, hk'.symm]
  · simp [conflictsAbout]

/-- The state of the loop after the last configuration. -/
def syncLoop (orders : SyncOrders) (configManager : ConfigManager)
    (managed : KeyedMap NamespaceInfo.name) (manager : NamespaceStateManager) :
    SyncResult × NamespaceStateManager :=
  (configManager.namespaceConfigs.iter orders.configs).foldl (syncConfigured managed)
    (.empty, manager)

theorem loopView_syncLoop_of_unconfigured (hk : configManager.namespaceConfigs.lookup k = none) :
    loopView k (syncLoop orders configManager managed manager) = (component k manager, []) := by
  apply (localStep_syncConfigured managed configManager orders.configs).foldl_of_notMem
  rw [KeyedMap.mem_map_fst_iter, KeyedMap.contains, hk]
  simp

/-- An error is never taken back. -/
theorem errors_ne_nil_of_foldl {entries : List (String × NamespaceConfigEntry)}
    {acc : SyncResult × NamespaceStateManager} (h : acc.1.errors ≠ []) :
    (entries.foldl (syncConfigured managed) acc).1.errors ≠ [] := by
  refine foldl_preserves (fun acc : SyncResult × NamespaceStateManager => acc.1.errors ≠ [])
    (fun acc entry hacc => ?_) entries h
  rcases haction : (acc.2.processConfiguredNamespace entry.2 managed).1 with
    e | _ | _ | conflict | _ <;>
    simp [syncConfigured, haction, SyncResult.record, hacc]

/-- A configured name is processed in a state that agrees with the first one on it,
and nothing of what that does is undone. -/
theorem exists_loopView_syncLoop (managed : KeyedMap NamespaceInfo.name) (orders : SyncOrders)
    (manager : NamespaceStateManager) (hk : configManager.namespaceConfigs.lookup k = some entry) :
    ∃ mid, component k mid = component k manager ∧
      loopView k (syncLoop orders configManager managed manager) =
        (component k (mid.processConfiguredNamespace entry managed).2,
          reported (mid.processConfiguredNamespace entry managed).1) ∧
      ((∃ e, (mid.processConfiguredNamespace entry managed).1 = .error e) →
        (syncLoop orders configManager managed manager).1.errors ≠ []) := by
  have hmem : (k, entry) ∈ configManager.namespaceConfigs.iter orders.configs :=
    KeyedMap.mem_iter.mpr hk
  obtain ⟨before, after, hsplit, hbefore, hafter⟩ :=
    (localStep_syncConfigured managed configManager orders.configs).exists_foldl
      (KeyedMap.nodup_map_fst_iter _ _) hmem (.empty, manager)
  -- `mid` is the loop just before the entry; no other element shares its key
  let mid := before.foldl (syncConfigured managed) (.empty, manager)
  have hconflicts : conflictsAbout k mid.1 = [] := congrArg Prod.snd hbefore
  refine ⟨mid.2, congrArg Prod.fst hbefore, ?_, ?_⟩
  · refine hafter.trans (Prod.ext rfl ?_)
    change conflictsAbout k (mid.1.record k (mid.2.processConfiguredNamespace entry managed).1) = _
    rw [conflictsAbout, conflicts_record, List.filter_append, ← conflictsAbout, hconflicts,
      reported_processConfiguredNamespace, KeyedMap.key_eq_of_lookup hk]
    split_ifs <;> simp [missingConflict]
  · rintro ⟨e, he⟩
    rw [syncLoop, hsplit, List.foldl_append, List.foldl_cons]
    apply errors_ne_nil_of_foldl
    change (mid.1.record k (mid.2.processConfiguredNamespace entry managed).1).errors ≠ []
    rw [he]
    simp [SyncResult.record]

end Loop

/-! ### The managed namespaces of the system -/

section Managed

variable {actual : KeyedMap NamespaceInfo.name} {configManager : ConfigManager}
  {info : NamespaceInfo}

theorem lookup_managedActual_eq_some_iff :
    (managedActual configManager actual).lookup k = some info ↔
      actual.lookup k = some info ∧ configManager.matchesNamespacePrefix k = true := by
  rw [managedActual, KeyedMap.lookup_retain, Option.filter_eq_some_iff]

theorem contains_managedActual :
    (managedActual configManager actual).contains k =
      (actual.contains k && configManager.matchesNamespacePrefix k) := by
  rw [managedActual, KeyedMap.contains, KeyedMap.lookup_retain, KeyedMap.contains]
  cases actual.lookup k with
  | none => rfl
  | some info => cases configManager.matchesNamespacePrefix k <;> simp

variable (hlist : manager.netlinkManager.listNamespaces = .ok actual)
  (hmanaged : (managedActual configManager actual).lookup k = some info)
include hlist hmanaged

theorem active_of_managed : info.active = true :=
  NetlinkManager.active_of_listed hlist (lookup_managedActual_eq_some_iff.mp hmanaged).1

theorem namespaceExists_of_managed : manager.netlinkManager.namespaceExists k = true := by
  have hlisted : actual.contains k = true :=
    KeyedMap.contains_iff.mpr ⟨info, (lookup_managedActual_eq_some_iff.mp hmanaged).1⟩
  rw [NetlinkManager.contains_listed hlist, Bool.and_eq_true] at hlisted
  exact hlisted.1

end Managed

/-! ### The synchronization -/

theorem component_foldl_remove (names : List String) :
    component k (names.foldl removeNamespaceState manager) =
      if k ∈ names then (none, (component k manager).2) else component k manager := by
  -- removals of other names neither help nor hurt
  induction names generalizing manager with
  | nil => simp
  | cons name names ih =>
    rw [List.foldl_cons, ih, component_removeNamespaceState]
    by_cases hk : k = name <;> by_cases hk' : k ∈ names <;> simp [hk, hk']

theorem mem_staleNames {order : IterOrder String} {configManager : ConfigManager}
    {managed : KeyedMap NamespaceInfo.name} :
    k ∈ manager.staleNames order configManager managed ↔
      (manager.namespaceStates.lookup k).isSome = true ∧
        configManager.namespaceConfigs.lookup k = none ∧ managed.lookup k = none := by
  simp [staleNames, KeyedMap.mem_map_fst_iter, KeyedMap.contains]

section Synchronize

variable {actual : KeyedMap NamespaceInfo.name} {configManager : ConfigManager}
  {orders : SyncOrders}

/-- A synchronization that obtains its list: the loop, the orphans, the clean-up. -/
theorem synchronizeState_of_list (hlist : manager.netlinkManager.listNamespaces = .ok actual) :
    let managed := managedActual configManager actual
    let looped := syncLoop orders configManager managed manager
    let toRemove := looped.2.staleNames orders.states configManager managed
    let cleaned := toRemove.foldl removeNamespaceState looped.2
    manager.synchronizeState orders configManager =
      (.ok { looped.1 with
        conflicts := looped.1.conflicts ++ orphanConflicts orders.actual configManager managed
        deleted := toRemove },
      { cleaned.now.2 with lastSync := cleaned.now.1 }) := by
  simp only [synchronizeState, hlist]
  rfl

theorem component_synchronizeState (hlist : manager.netlinkManager.listNamespaces = .ok actual) :
    let managed := managedActual configManager actual
    let looped := (syncLoop orders configManager managed manager).2
    component k (manager.synchronizeState orders configManager).2 =
      if k ∈ looped.staleNames orders.states configManager managed then
        (none, (component k looped).2)
      else component k looped := by
  rw [synchronizeState_of_list hlist]
  exact component_foldl_remove _

/-- A synchronization of a name without configuration forgets its state if it is not
in the system either, and does nothing to the system. -/
theorem component_synchronizeState_of_unconfigured (orders : SyncOrders)
    (hlist : manager.netlinkManager.listNamespaces = .ok actual)
    (hk : configManager.namespaceConfigs.lookup k = none) :
    component k (manager.synchronizeState orders configManager).2 =
      (if ((managedActual configManager actual).lookup k).isSome then (component k manager).1
        else none, (component k manager).2) := by
  have hloop : component k (syncLoop orders configManager (managedActual configManager actual)
      manager).2 = component k manager :=
    congrArg Prod.fst (loopView_syncLoop_of_unconfigured hk)
  have hstate := congrArg Prod.fst hloop
  rw [component_synchronizeState hlist, hloop]
  -- without a configuration, the name is stale iff it is tracked and not managed
  simp only [mem_staleNames, hk, true_and]
  change ((syncLoop _ _ _ _).2.namespaceStates.lookup k) = _ at hstate
  rw [hstate]
  cases hmanaged : (managedActual configManager actual).lookup k with
  | some info => simp
  | none =>
    cases hcomponent : (component k manager).1 with
    | none => simp [← hcomponent]
    | some state => simp

/-- A synchronization processes a configured name in a state that agrees with the
first one on it, and undoes nothing of what that does. An error is reported. -/
theorem exists_component_synchronizeState (orders : SyncOrders)
    (hlist : manager.netlinkManager.listNamespaces = .ok actual)
    (hk : configManager.namespaceConfigs.lookup k = some entry) :
    ∃ mid, component k mid = component k manager ∧
      component k (manager.synchronizeState orders configManager).2 =
        component k (mid.processConfiguredNamespace entry (managedActual configManager actual)).2 ∧
      ((∃ e, (mid.processConfiguredNamespace entry (managedActual configManager actual)).1 =
          .error e) →
        ∀ result, (manager.synchronizeState orders configManager).1 = .ok result →
          result.errors ≠ []) := by
  obtain ⟨mid, hmid, hview, herrors⟩ :=
    exists_loopView_syncLoop (managedActual configManager actual) orders manager hk
  refine ⟨mid, hmid, ?_, ?_⟩
  · rw [component_synchronizeState hlist, if_neg]
    · exact congrArg Prod.fst hview
    · -- a configured name is never stale
      simp [mem_staleNames, hk]
  · rintro he result hresult
    rw [synchronizeState_of_list hlist] at hresult
    obtain rfl := Except.ok.inj hresult
    exact herrors he

section Configured

variable (orders) {state : NamespaceState} {info : NamespaceInfo}
  (hlist : manager.netlinkManager.listNamespaces = .ok actual)
  (hk : configManager.namespaceConfigs.lookup k = some entry)
include hlist hk

/-- A tracked namespace that is there is updated if it needs to be, else touched. -/
theorem synchronizeState_of_tracked_of_managed
    (hstate : manager.namespaceStates.lookup k = some state)
    (hmanaged : (managedActual configManager actual).lookup k = some info) :
    ∃ now, component k (manager.synchronizeState orders configManager).2 =
      (some (if needsNamespaceUpdate state entry info then
          updateStateFromConfigAndActual entry info now state
        else state.touch now), (component k manager).2) := by
  obtain ⟨mid, hmid, hcomponent, -⟩ := exists_component_synchronizeState orders hlist hk
  obtain rfl : entry.fullName = k := KeyedMap.key_eq_of_lookup hk
  obtain ⟨-, now, hnow⟩ :=
    process_of_tracked_of_managed ((congrArg Prod.fst hmid).trans hstate) hmanaged
  exact ⟨now, by rw [hcomponent, hnow, hmid]⟩

/-- A tracked namespace that is not there stays as it is. -/
theorem synchronizeState_of_tracked_of_missing
    (hstate : manager.namespaceStates.lookup k = some state)
    (hmissing : (managedActual configManager actual).lookup k = none) :
    component k (manager.synchronizeState orders configManager).2 = component k manager := by
  obtain ⟨mid, hmid, hcomponent, -⟩ := exists_component_synchronizeState orders hlist hk
  obtain rfl : entry.fullName = k := KeyedMap.key_eq_of_lookup hk
  rw [hcomponent, process_of_tracked_of_missing ((congrArg Prod.fst hmid).trans hstate) hmissing,
    hmid]

/-- An untracked namespace that is there is recorded as active. -/
theorem synchronizeState_of_untracked_of_managed
    (huntracked : manager.namespaceStates.lookup k = none)
    (hmanaged : (managedActual configManager actual).lookup k = some info)
    (hactive : info.active = true) :
    ∃ createdAt lastUpdated, component k (manager.synchronizeState orders configManager).2 =
      (some (activeState entry createdAt lastUpdated), (component k manager).2) := by
  obtain ⟨mid, hmid, hcomponent, -⟩ := exists_component_synchronizeState orders hlist hk
  obtain rfl : entry.fullName = k := KeyedMap.key_eq_of_lookup hk
  obtain ⟨-, createdAt, lastUpdated, hcreated⟩ :=
    process_of_untracked_of_managed ((congrArg Prod.fst hmid).trans huntracked) hmanaged hactive
  exact ⟨createdAt, lastUpdated, by rw [hcomponent, hcreated, hmid]⟩

/-- An untracked namespace that is not there is created, or the creation fails and
that is reported. -/
theorem synchronizeState_of_untracked_of_missing
    (huntracked : manager.namespaceStates.lookup k = none)
    (hmissing : (managedActual configManager actual).lookup k = none) :
    let isPresent := manager.netlinkManager.namespaceExists k
    let environment := manager.netlinkManager.environment
    ∃ createdAt lastUpdated,
      if environment.creates isPresent k then
        component k (manager.synchronizeState orders configManager).2 =
          (some (activeState entry createdAt lastUpdated), true, environment)
      else
        (∀ result, (manager.synchronizeState orders configManager).1 = .ok result →
          result.errors ≠ []) ∧
        component k (manager.synchronizeState orders configManager).2 =
          (some (failedState entry createdAt lastUpdated),
            isPresent || environment.leavesPlaceholder isPresent k, environment) := by
  intro isPresent environment
  obtain ⟨mid, hmid, hcomponent, herrors⟩ := exists_component_synchronizeState orders hlist hk
  obtain rfl : entry.fullName = k := KeyedMap.key_eq_of_lookup hk
  have hpresent : mid.netlinkManager.namespaceExists entry.fullName = isPresent :=
    congrArg (·.2.1) hmid
  have henvironment : mid.netlinkManager.environment = environment := congrArg (·.2.2) hmid
  have hspec := createNewNamespace_spec mid entry
  rw [process_of_untracked_of_missing ((congrArg Prod.fst hmid).trans huntracked) hmissing]
    at hcomponent herrors
  rw [hpresent, henvironment] at hspec
  dsimp only at hspec
  rw [hcomponent]
  split_ifs at hspec with hcreates
  · obtain ⟨-, createdAt, lastUpdated, hcreated⟩ := hspec
    exact ⟨createdAt, lastUpdated, by rw [if_pos hcreates, hcreated]⟩
  · obtain ⟨he, createdAt, lastUpdated, hfailed⟩ := hspec
    exact ⟨createdAt, lastUpdated, by rw [if_neg hcreates]; exact ⟨herrors he, hfailed⟩⟩

end Configured

theorem mem_orphanConflicts {order : IterOrder String} {managed : KeyedMap NamespaceInfo.name}
    {conflict : StateConflict} :
    conflict ∈ orphanConflicts order configManager managed ↔
      ∃ k, configManager.namespaceConfigs.contains k = false ∧ managed.contains k = true ∧
        conflict = orphanConflict k := by
  rw [orphanConflicts, List.mem_map]
  constructor
  · rintro ⟨k, hk, rfl⟩
    obtain ⟨hmanaged, hconfigured⟩ := List.mem_filter.mp hk
    exact ⟨k, by simpa using hconfigured, KeyedMap.mem_map_fst_iter.mp hmanaged, rfl⟩
  · rintro ⟨k, hconfigured, hmanaged, rfl⟩
    exact ⟨k, List.mem_filter.mpr ⟨KeyedMap.mem_map_fst_iter.mpr hmanaged,
      by simpa using hconfigured⟩, rfl⟩

theorem mem_conflicts_syncLoop {managed : KeyedMap NamespaceInfo.name} {conflict : StateConflict} :
    conflict ∈ (syncLoop orders configManager managed manager).1.conflicts ↔
      ∃ k, configManager.namespaceConfigs.contains k = true ∧
        manager.namespaceStates.contains k = true ∧ managed.contains k = false ∧
        conflict = missingConflict k := by
  -- a conflict belongs to the name it is about, and the loop is known name by name
  have habout : conflict ∈ (syncLoop orders configManager managed manager).1.conflicts ↔
      conflict ∈ (loopView conflict.namespaceName
        (syncLoop orders configManager managed manager)).2 := by
    simp [loopView, conflictsAbout]
  have hself (k : String) (h : conflict = missingConflict k) : k = conflict.namespaceName := by
    rw [h]
    rfl
  rw [habout]
  cases hk : configManager.namespaceConfigs.lookup conflict.namespaceName with
  | none =>
    rw [loopView_syncLoop_of_unconfigured hk]
    simp only [List.not_mem_nil, false_iff, not_exists, not_and]
    intro k hconfigured _ _ hconflict
    rw [hself k hconflict, KeyedMap.contains, hk] at hconfigured
    cases hconfigured
  | some entry =>
    obtain ⟨mid, hmid, hview, -⟩ := exists_loopView_syncLoop managed orders manager hk
    have hname : entry.fullName = conflict.namespaceName := KeyedMap.key_eq_of_lookup hk
    have htracked : mid.namespaceStates.lookup conflict.namespaceName =
        manager.namespaceStates.lookup conflict.namespaceName := congrArg Prod.fst hmid
    rw [hview, reported_processConfiguredNamespace, hname, htracked]
    constructor
    · intro hmem
      split_ifs at hmem with hmissing
      · exact ⟨conflict.namespaceName, by simp [KeyedMap.contains, hk], hmissing.1,
          KeyedMap.contains_eq_false_iff.mpr hmissing.2, List.mem_singleton.mp hmem⟩
      · cases hmem
    · rintro ⟨k, -, htracked', hmissing, hconflict⟩
      obtain rfl := hself k hconflict
      rw [if_pos ⟨htracked', KeyedMap.contains_eq_false_iff.mp hmissing⟩]
      exact List.mem_singleton.mpr hconflict

/-- The conflicts of a synchronization are the tracked configured names that are
missing, and the managed names that are not configured. -/
theorem mem_conflicts_iff (hlist : manager.netlinkManager.listNamespaces = .ok actual)
    {result : SyncResult} (hresult : (manager.synchronizeState orders configManager).1 = .ok result)
    {conflict : StateConflict} :
    conflict ∈ result.conflicts ↔
      (∃ k, configManager.namespaceConfigs.contains k = true ∧
        manager.namespaceStates.contains k = true ∧
        (managedActual configManager actual).contains k = false ∧ conflict = missingConflict k) ∨
      ∃ k, configManager.namespaceConfigs.contains k = false ∧
        (managedActual configManager actual).contains k = true ∧ conflict = orphanConflict k := by
  rw [synchronizeState_of_list hlist] at hresult
  obtain rfl := Except.ok.inj hresult
  rw [List.mem_append, mem_conflicts_syncLoop, mem_orphanConflicts]

theorem missingConflict_inj {k' : String} (h : missingConflict k = missingConflict k') : k = k' :=
  congrArg StateConflict.namespaceName h

theorem orphanConflict_inj {k' : String} (h : orphanConflict k = orphanConflict k') : k = k' :=
  congrArg StateConflict.namespaceName h

theorem missingConflict_ne_orphanConflict {k' : String} :
    missingConflict k ≠ orphanConflict k' := by
  intro h
  cases congrArg StateConflict.resolution h

/-- A configured name is reported missing iff it is tracked and not managed. -/
theorem missingConflict_mem_iff (hlist : manager.netlinkManager.listNamespaces = .ok actual)
    {result : SyncResult}
    (hresult : (manager.synchronizeState orders configManager).1 = .ok result) :
    missingConflict k ∈ result.conflicts ↔
      configManager.namespaceConfigs.contains k = true ∧ manager.namespaceStates.contains k = true ∧
        (managedActual configManager actual).contains k = false := by
  rw [mem_conflicts_iff hlist hresult]
  constructor
  · rintro (⟨k', hconfigured, htracked, hmissing, heq⟩ | ⟨k', -, -, heq⟩)
    · obtain rfl := missingConflict_inj heq
      exact ⟨hconfigured, htracked, hmissing⟩
    · exact absurd heq missingConflict_ne_orphanConflict
  · rintro ⟨hconfigured, htracked, hmissing⟩
    exact Or.inl ⟨k, hconfigured, htracked, hmissing, rfl⟩

/-- A name is reported as an orphan iff it is managed and not configured. -/
theorem orphanConflict_mem_iff (hlist : manager.netlinkManager.listNamespaces = .ok actual)
    {result : SyncResult}
    (hresult : (manager.synchronizeState orders configManager).1 = .ok result) :
    orphanConflict k ∈ result.conflicts ↔
      configManager.namespaceConfigs.contains k = false ∧
        (managedActual configManager actual).contains k = true := by
  rw [mem_conflicts_iff hlist hresult]
  constructor
  · rintro (⟨k', -, -, -, heq⟩ | ⟨k', hconfigured, hmanaged, heq⟩)
    · exact absurd heq.symm missingConflict_ne_orphanConflict
    · obtain rfl := orphanConflict_inj heq
      exact ⟨hconfigured, hmanaged⟩
  · rintro ⟨hconfigured, hmanaged⟩
    exact Or.inr ⟨k, hconfigured, hmanaged, rfl⟩

end Synchronize

/-! ### Resolutions -/

section Resolve

variable {configManager : ConfigManager} {conflict : StateConflict}

/-- A resolution touches the name of its conflict only. -/
theorem component_resolveConflict_of_ne (hk : k ≠ conflict.namespaceName) :
    component k (manager.resolveConflict conflict configManager).2 = component k manager := by
  unfold resolveConflict
  cases conflict.resolution with
  | createNamespace =>
    dsimp only
    cases hentry : configManager.getNamespaceConfig conflict.namespaceName with
    | none => rfl
    | some entry =>
      have hname : entry.fullName = conflict.namespaceName := KeyedMap.key_eq_of_lookup hentry
      have hsame : component k (manager.createNewNamespace entry).2 = component k manager :=
        component_createNewNamespace_of_ne (hname ▸ hk)
      dsimp only
      split <;> next hcreated =>
        rw [hcreated] at hsame
        exact hsame
  | deleteNamespace =>
    have hspec := manager.netlinkManager.deleteNamespace_spec conflict.namespaceName
    dsimp only
    rcases hdeleted : manager.netlinkManager.deleteNamespace conflict.namespaceName with
      ⟨e | ⟨⟩, netlink⟩ <;> rw [hdeleted] at hspec
    · simp only [component, hspec.others k hk, hspec.environment]
    · dsimp only
      rw [component_removeNamespaceState, if_neg hk]
      simp only [component, hspec.others k hk, hspec.environment]

/-- After a resolution, the name of the conflict is tracked if the resolution found its
configuration, or if it was tracked and has not been deleted. -/
theorem contains_resolveConflict :
    (manager.resolveConflict conflict configManager).2.namespaceStates.contains
        conflict.namespaceName =
      if conflict.resolution = .createNamespace then
        manager.namespaceStates.contains conflict.namespaceName ||
          configManager.namespaceConfigs.contains conflict.namespaceName
      else
        manager.namespaceStates.contains conflict.namespaceName &&
          !manager.netlinkManager.deletes conflict.namespaceName := by
  unfold resolveConflict
  cases conflict.resolution with
  | createNamespace =>
    rw [if_pos rfl]
    dsimp only
    cases hentry : configManager.getNamespaceConfig conflict.namespaceName with
    | none =>
      have hunconfigured : configManager.namespaceConfigs.contains conflict.namespaceName = false :=
        KeyedMap.contains_eq_false_iff.mpr hentry
      rw [hunconfigured, Bool.or_false]
    | some entry =>
      have hconfigured : configManager.namespaceConfigs.contains conflict.namespaceName = true :=
        KeyedMap.contains_iff.mpr ⟨entry, hentry⟩
      have hname : entry.fullName = conflict.namespaceName := KeyedMap.key_eq_of_lookup hentry
      -- the state is recorded whether or not the creation succeeds
      have htracked : (manager.createNewNamespace entry).2.namespaceStates.contains
          conflict.namespaceName = true := by
        have hspec := createNewNamespace_spec manager entry
        dsimp only at hspec
        rw [← hname]
        split_ifs at hspec
        · obtain ⟨-, createdAt, lastUpdated, hcreated⟩ := hspec
          exact congrArg (·.1.isSome) hcreated
        · obtain ⟨-, createdAt, lastUpdated, hfailed⟩ := hspec
          exact congrArg (·.1.isSome) hfailed
      rw [hconfigured, Bool.or_true]
      dsimp only
      split <;> next hcreated =>
        rw [hcreated] at htracked
        exact htracked
  | deleteNamespace =>
    have hspec := manager.netlinkManager.deleteNamespace_spec conflict.namespaceName
    rw [if_neg nofun]
    dsimp only
    rcases hdeleted : manager.netlinkManager.deleteNamespace conflict.namespaceName with
      ⟨e | ⟨⟩, netlink⟩ <;>
      rw [hdeleted] at hspec
    · have hkept : manager.netlinkManager.deletes conflict.namespaceName = false := by
        rw [← Bool.not_eq_true, ← hspec.ok_iff]
        nofun
      rw [hkept, Bool.not_false, Bool.and_true]
    · rw [hspec.ok_iff.mp rfl, Bool.not_true, Bool.and_false]
      simp [removeNamespaceState, KeyedMap.contains, KeyedMap.lookup_erase]

end Resolve

end NamespaceStateManager

end Segwire.Daemon
