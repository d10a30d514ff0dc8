import Segwire.Daemon.NamespaceSync

/-!
# What a synchronization reports

The result of a synchronization lists the names that it has created and those whose state
it has forgotten, each once. What it adopts and what it fails to create is tracked all the
same. Maintenance forgets the states that failed long ago.

## Main definitions

* `NamespaceStateManager.createdBy`, `NamespaceStateManager.createdView` — the creations of
  an action, and those of one name in the loop
* `NamespaceStateManager.Expired` — the state of a name is forgotten by maintenance

## Main results

* `NamespaceStateManager.contains_synchronizeState` — the tracked names afterwards
* `NamespaceStateManager.created_synchronizeState`,
  `NamespaceStateManager.deleted_synchronizeState` — the reported names
* `NamespaceStateManager.contains_performMaintenance_iff`
-/

namespace Segwire.Daemon

open Foundation Segwire.Common

namespace NamespaceStateManager

variable {manager : NamespaceStateManager} {configManager : ConfigManager} {orders : SyncOrders}
  {entry : NamespaceConfigEntry} {managed actual : KeyedMap NamespaceInfo.name}
  {result : SyncResult} {k : String}

/-- The names that an action creates. -/
def createdBy (name : String) : SegwireResult SyncAction → List String
  | .ok .created => [name]
  | _ => []

theorem created_record (result : SyncResult) (name : String) (action : SegwireResult SyncAction) :
    (result.record name action).created = result.created ++ createdBy name action := by
  rcases action with e | _ | _ | conflict | _ <;> simp [SyncResult.record, createdBy]

/-- Processing a namespace creates it if it is neither tracked nor managed and can be
created. -/
theorem createdBy_processConfiguredNamespace (name : String) :
    createdBy name (manager.processConfiguredNamespace entry managed).1 =
      if manager.namespaceStates.lookup entry.fullName = none ∧
          managed.lookup entry.fullName = none ∧
          manager.netlinkManager.environment.creates
            (manager.netlinkManager.namespaceExists entry.fullName) entry.fullName = true then
        [name]
      else [] := by
  cases hstate : manager.namespaceStates.lookup entry.fullName with
  | some state =>
    cases hactual : managed.lookup entry.fullName with
    | some actual =>
      rw [(process_of_tracked_of_managed hstate hactual).1]
      split <;> simp [createdBy]
    | none =>
      rw [process_of_tracked_of_missing hstate hactual]
      simp [createdBy]
  | none =>
    cases hactual : managed.lookup entry.fullName with
    | some actual =>
      simp [processConfiguredNamespace, getNamespaceState, hstate, hactual, createdBy]
    | none =>
      rw [process_of_untracked_of_missing hstate hactual]
      have hspec := createNewNamespace_spec manager entry
      dsimp only at hspec
      split_ifs at hspec with hcreates
      · rw [hspec.1]
        simp [createdBy, hcreates]
      · obtain ⟨⟨e, he⟩, -⟩ := hspec
        rw [he]
        simp [createdBy, hcreates]

/-- What belongs to one name in the loop, with its creations. -/
def createdView (k : String) (acc : SyncResult × NamespaceStateManager) :
    (Option NamespaceState × Bool × Environment) × List String :=
  (component k acc.2, acc.1.created.filter (· = k))

theorem localStep_created (managed : KeyedMap NamespaceInfo.name) (configManager : ConfigManager)
    (order : IterOrder String) :
    LocalStep createdView (syncConfigured managed) (configManager.namespaceConfigs.iter order) := by
  rintro ⟨result, manager⟩ ⟨name, entry⟩ hentry k hk
  have hcomponent := congrArg Prod.fst
    (localStep_syncConfigured managed configManager order (result, manager) _ hentry k hk)
  refine Prod.ext hcomponent ?_
  change (result.record name (manager.processConfiguredNamespace entry managed).1).created.filter
    (· = k) = result.created.filter (· = k)
  rw [created_record, createdBy_processConfiguredNamespace, List.filter_append]
  have hname : ¬ name = k := hk
  split_ifs <;> simp [hname]

section Reports

variable (hlist : manager.netlinkManager.listNamespaces = .ok actual)
include hlist

/-- After a synchronization, a name is tracked if it is configured, or was tracked and is
managed. -/
theorem contains_synchronizeState (orders : SyncOrders) :
    (manager.synchronizeState orders configManager).2.namespaceStates.contains k =
      (configManager.namespaceConfigs.contains k ||
        manager.namespaceStates.contains k &&
          (managedActual configManager actual).contains k) := by
  have hcontains (after : NamespaceStateManager) :
      after.namespaceStates.contains k = (component k after).1.isSome := rfl
  rw [hcontains, hcontains]
  cases hk : configManager.namespaceConfigs.lookup k with
  | none =>
    rw [component_synchronizeState_of_unconfigured orders hlist hk]
    cases hmanaged : (managedActual configManager actual).lookup k <;>
      simp [KeyedMap.contains, hk, hmanaged]
  | some entry =>
    have hconfigured : configManager.namespaceConfigs.contains k = true :=
      KeyedMap.contains_iff.mpr ⟨entry, hk⟩
    rw [hconfigured, Bool.true_or]
    cases hstate : manager.namespaceStates.lookup k with
    | some state =>
      cases hmanaged : (managedActual configManager actual).lookup k with
      | some info =>
        obtain ⟨now, hnow⟩ :=
          synchronizeState_of_tracked_of_managed orders hlist hk hstate hmanaged
        rw [hnow]
        rfl
      | none =>
        rw [synchronizeState_of_tracked_of_missing orders hlist hk hstate hmanaged]
        exact KeyedMap.contains_iff.mpr ⟨state, hstate⟩
    | none =>
      cases hmanaged : (managedActual configManager actual).lookup k with
      | some info =>
        obtain ⟨createdAt, lastUpdated, hadopted⟩ :=
          synchronizeState_of_untracked_of_managed orders hlist hk hstate hmanaged
            (active_of_managed hlist hmanaged)
        rw [hadopted]
        rfl
      | none =>
        obtain ⟨createdAt, lastUpdated, hcreated⟩ :=
          synchronizeState_of_untracked_of_missing orders hlist hk hstate hmanaged
        split_ifs at hcreated
        · rw [hcreated]
          rfl
        · rw [hcreated.2]
          rfl

/-- A synchronization creates the configured names that are neither tracked nor managed
and can be created, each once. -/
theorem created_synchronizeState
    (hresult : (manager.synchronizeState orders configManager).1 = .ok result) :
    result.created.filter (· = k) =
      if configManager.namespaceConfigs.contains k && !manager.namespaceStates.contains k &&
          !(managedActual configManager actual).contains k &&
          manager.netlinkManager.environment.creates (manager.netlinkManager.namespaceExists k) k
        then [k] else [] := by
  let managed := managedActual configManager actual
  have hloop : result.created = (syncLoop orders configManager managed manager).1.created := by
    rw [synchronizeState_of_list hlist] at hresult
    obtain rfl := Except.ok.inj hresult
    rfl
  have hlocal := localStep_created managed configManager orders.configs
  rw [hloop]
  cases hk : configManager.namespaceConfigs.lookup k with
  | none =>
    have hunconfigured : configManager.namespaceConfigs.contains k = false :=
      KeyedMap.contains_eq_false_iff.mpr hk
    have hview := hlocal.foldl_of_notMem (k := k)
      (by rw [KeyedMap.mem_map_fst_iter, hunconfigured]; exact Bool.false_ne_true)
      (SyncResult.empty, manager)
    rw [if_neg (by simp [hunconfigured])]
    exact congrArg Prod.snd hview
  | some entry =>
    have hconfigured : configManager.namespaceConfigs.contains k = true :=
      KeyedMap.contains_iff.mpr ⟨entry, hk⟩
    have hmem : (k, entry) ∈ configManager.namespaceConfigs.iter orders.configs :=
      KeyedMap.mem_iter.mpr hk
    obtain ⟨before, after, -, hbefore, hafter⟩ :=
      hlocal.exists_foldl (KeyedMap.nodup_map_fst_iter _ _) hmem (SyncResult.empty, manager)
    -- the entry is processed in a state that agrees with the first one on its name
    let mid := before.foldl (syncConfigured managed) (SyncResult.empty, manager)
    have hcomponent : component k mid.2 = component k manager := congrArg Prod.fst hbefore
    have hcreated : mid.1.created.filter (· = k) = [] := congrArg Prod.snd hbefore
    have hview : (syncLoop orders configManager managed manager).1.created.filter (· = k) =
        (mid.1.record k (mid.2.processConfiguredNamespace entry managed).1).created.filter
          (· = k) := congrArg Prod.snd hafter
    have hstate : mid.2.namespaceStates.lookup k = manager.namespaceStates.lookup k :=
      congrArg Prod.fst hcomponent
    have hpresent : mid.2.netlinkManager.namespaceExists k =
        manager.netlinkManager.namespaceExists k := congrArg (·.2.1) hcomponent
    have henvironment : mid.2.netlinkManager.environment = manager.netlinkManager.environment :=
      congrArg (·.2.2) hcomponent
    rw [hview, created_record, createdBy_processConfiguredNamespace, List.filter_append, hcreated,
      KeyedMap.key_eq_of_lookup hk, hstate, hpresent, henvironment]
    have huntracked : manager.namespaceStates.lookup k = none ↔
        manager.namespaceStates.contains k = false := KeyedMap.contains_eq_false_iff.symm
    have hmissing : managed.lookup k = none ↔ managed.contains k = false :=
      KeyedMap.contains_eq_false_iff.symm
    simp only [huntracked, hmissing, hconfigured, managed]
    split_ifs <;> simp_all

/-- A synchronization deletes the tracked names that are neither configured nor managed,
each once. -/
theorem deleted_synchronizeState
    (hresult : (manager.synchronizeState orders configManager).1 = .ok result) :
    result.deleted.filter (· = k) =
      if manager.namespaceStates.contains k && !configManager.namespaceConfigs.contains k &&
          !(managedActual configManager actual).contains k
        then [k] else [] := by
  let managed := managedActual configManager actual
  let looped := (syncLoop orders configManager managed manager).2
  have hdeleted : result.deleted = looped.staleNames orders.states configManager managed := by
    rw [synchronizeState_of_list hlist] at hresult
    obtain rfl := Except.ok.inj hresult
    rfl
  have hnodup : (looped.staleNames orders.states configManager managed).Nodup :=
    (KeyedMap.nodup_map_fst_iter _ _).filter _
  have hmem : k ∈ looped.staleNames orders.states configManager managed ↔
      (manager.namespaceStates.contains k && !configManager.namespaceConfigs.contains k &&
        !managed.contains k) = true := by
    rw [Bool.and_eq_true, Bool.and_eq_true, Bool.not_eq_true', Bool.not_eq_true',
      KeyedMap.contains_eq_false_iff, KeyedMap.contains_eq_false_iff, and_assoc, mem_staleNames]
    refine and_congr_left fun hstale => ?_
    -- the loop leaves the state of a name without configuration alone
    have hview : loopView k (syncLoop orders configManager managed manager) =
        (component k manager, []) := loopView_syncLoop_of_unconfigured hstale.1
    have hstate : looped.namespaceStates.lookup k = manager.namespaceStates.lookup k :=
      congrArg (·.1.1) hview
    rw [hstate]
    rfl
  rw [hdeleted, List.filter_eq, hnodup.count]
  simp only [hmem, managed]
  split_ifs <;> rfl

end Reports

/-- Maintenance forgets the state of the name, a failed one that is older than an hour. -/
def Expired (manager : NamespaceStateManager) (k : String) : Prop :=
  ∃ state, manager.getNamespaceState k = some state ∧ state.isFailed = true ∧
    ((Duration.fromSecs state.lastUpdated : Nat) : SystemTime) <
      manager.now.1 - (Duration.fromSecs 3600 : Nat)

theorem contains_performMaintenance_iff :
    manager.performMaintenance.namespaceStates.contains k = true ↔
      manager.namespaceStates.contains k = true ∧ ¬ manager.Expired k := by
  have hlookup : manager.performMaintenance.namespaceStates.lookup k =
      (manager.getNamespaceState k).filter fun state => !(state.isFailed &&
        decide (((Duration.fromSecs state.lastUpdated : Nat) : SystemTime) <
          manager.now.1 - (Duration.fromSecs 3600 : Nat))) :=
    KeyedMap.lookup_retain _ manager.now.2.namespaceStates k
  rw [KeyedMap.contains, hlookup, KeyedMap.contains, Expired]
  change _ ↔ (manager.getNamespaceState k).isSome = true ∧ _
  cases manager.getNamespaceState k with
  | none => simp
  | some state => simp [imp_iff_not_or]

end NamespaceStateManager

end Segwire.Daemon
