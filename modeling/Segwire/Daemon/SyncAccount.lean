import Segwire.Daemon.Reconciliation
import Segwire.Foundation.Run

/-!
# The account of a synchronization

A synchronization takes one action for each configured namespace and records it in its
result. In the simulation the result accounts for everything that has changed: the system
has gained the created names, and the tracked names have lost the deleted ones.

## Main definitions

* `NamespaceStateManager.syncActions` — the actions of the loop over the configurations
* `NamespaceStateManager.ExactAccount` — the result accounts for the changes

## Main results

* `NamespaceStateManager.exists_of_mem_syncActions` — the action for a name depends on that
  name alone
* `NamespaceStateManager.count_recorded_le` — a name is recorded once
* `NamespaceStateManager.exactAccount_synchronizeState`
-/

namespace Segwire.Daemon

open Foundation Segwire.Common

namespace NamespaceStateManager

variable {manager : NamespaceStateManager} {configManager : ConfigManager} {orders : SyncOrders}
  {entry : NamespaceConfigEntry} {managed actual : KeyedMap NamespaceInfo.name}
  {result : SyncResult} {k : String}

/-! ### The actions of the loop -/

/-- The actions taken for configured namespaces, one after the other. -/
def syncActions (managed : KeyedMap NamespaceInfo.name) (manager : NamespaceStateManager)
    (entries : List (String × NamespaceConfigEntry)) :
    List ((String × NamespaceConfigEntry) × SegwireResult SyncAction) :=
  exchanges (fun manager entry => manager.processConfiguredNamespace entry.2 managed) manager
    entries

/-- The loop records the actions that it takes. -/
theorem foldl_syncConfigured (managed : KeyedMap NamespaceInfo.name)
    (entries : List (String × NamespaceConfigEntry)) (result : SyncResult)
    (manager : NamespaceStateManager) :
    (entries.foldl (syncConfigured managed) (result, manager)).1 =
      (syncActions managed manager entries).foldl
        (fun result action => result.record action.1.1 action.2) result := by
  induction entries generalizing result manager with
  | nil => rfl
  | cons entry entries ih =>
    rw [List.foldl_cons, syncActions, exchanges, List.foldl_cons]
    exact ih _ _

theorem localStep_process (managed : KeyedMap NamespaceInfo.name) (configManager : ConfigManager)
    (order : IterOrder String) :
    LocalStep component
      (fun manager entry => (manager.processConfiguredNamespace entry.2 managed).2)
      (configManager.namespaceConfigs.iter order) := by
  rintro manager ⟨name, entry⟩ hentry k hk
  have hname : entry.fullName = name := KeyedMap.key_eq_of_lookup (KeyedMap.mem_iter.mp hentry)
  exact component_processConfiguredNamespace_of_ne fun h => hk (h.trans hname).symm

/-- The action for a configured name is taken in a state that agrees with the first one on it. -/
theorem exists_of_mem_syncActions {order : IterOrder String}
    {action : (String × NamespaceConfigEntry) × SegwireResult SyncAction}
    (h : action ∈ syncActions managed manager (configManager.namespaceConfigs.iter order)) :
    configManager.namespaceConfigs.lookup action.1.1 = some action.1.2 ∧
      ∃ mid, component action.1.1 mid = component action.1.1 manager ∧
        action.2 = (mid.processConfiguredNamespace action.1.2 managed).1 := by
  obtain ⟨earlier, later, hsplit, hanswer⟩ := exists_of_mem_exchanges h
  have hmem : action.1 ∈ configManager.namespaceConfigs.iter order := by
    rw [hsplit]
    exact List.mem_append_right _ List.mem_cons_self
  refine ⟨KeyedMap.mem_iter.mp hmem, _, ?_, hanswer⟩
  -- the name does not occur among the earlier ones
  have hnodup := KeyedMap.nodup_map_fst_iter order configManager.namespaceConfigs
  have hlocal := localStep_process managed configManager order
  rw [hsplit] at hnodup hlocal
  rw [List.map_append, List.map_cons, List.nodup_append] at hnodup
  have hfresh : action.1.1 ∉ earlier.map Prod.fst := fun hin =>
    hnodup.2.2 _ hin _ List.mem_cons_self rfl
  have hearlier : LocalStep component
      (fun manager entry => (manager.processConfiguredNamespace entry.2 managed).2) earlier :=
    fun s e he => hlocal s e (List.mem_append_left _ he)
  exact hearlier.foldl_of_notMem hfresh manager

/-- There is an action for every configured name. -/
theorem exists_mem_syncActions (managed : KeyedMap NamespaceInfo.name)
    (manager : NamespaceStateManager) (order : IterOrder String)
    (hk : configManager.namespaceConfigs.lookup k = some entry) :
    ∃ action, ((k, entry), action) ∈
      syncActions managed manager (configManager.namespaceConfigs.iter order) := by
  have hmem : (k, entry) ∈ (syncActions managed manager
      (configManager.namespaceConfigs.iter order)).map Prod.fst := by
    rw [syncActions, map_fst_exchanges]
    exact KeyedMap.mem_iter.mpr hk
  obtain ⟨⟨_, action⟩, hmem, rfl⟩ := List.mem_map.mp hmem
  exact ⟨action, hmem⟩

/-! ### What is recorded -/

/-- The names that an action updates. -/
def updatedBy (name : String) : SegwireResult SyncAction → List String
  | .ok .updated => [name]
  | _ => []

/-- The failures of an action. -/
def failedBy (name : String) : SegwireResult SyncAction → List (String × SegwireError)
  | .error e => [(name, e)]
  | _ => []

theorem eq_of_mem_createdBy {name k : String} {action : SegwireResult SyncAction}
    (h : name ∈ createdBy k action) : name = k := by
  rcases action with e | _ | _ | conflict | _
  · cases h
  · exact List.mem_singleton.mp h
  · cases h
  · cases h
  · cases h

theorem eq_of_mem_updatedBy {name k : String} {action : SegwireResult SyncAction}
    (h : name ∈ updatedBy k action) : name = k := by
  rcases action with e | _ | _ | conflict | _
  · cases h
  · cases h
  · exact List.mem_singleton.mp h
  · cases h
  · cases h

theorem fst_eq_of_mem_failedBy {failure : String × SegwireError} {k : String}
    {action : SegwireResult SyncAction} (h : failure ∈ failedBy k action) : failure.1 = k := by
  cases action with
  | error e => rw [List.mem_singleton.mp h]
  | ok action => cases h

/-- How a failure is recorded. -/
def failureText (failure : String × SegwireError) : String :=
  "Failed to process " ++ failure.1 ++ ": " ++ failure.2.display

theorem updated_record (result : SyncResult) (name : String) (action : SegwireResult SyncAction) :
    (result.record name action).updated = result.updated ++ updatedBy name action := by
  rcases action with e | _ | _ | conflict | _ <;> simp [SyncResult.record, updatedBy]

theorem errors_record (result : SyncResult) (name : String) (action : SegwireResult SyncAction) :
    (result.record name action).errors =
      result.errors ++ (failedBy name action).map failureText := by
  cases action with
  | error e => rfl
  | ok action => cases action <;> simp [SyncResult.record, failedBy]

/-- What each action adds to a list of the result, all of them add in their order. -/
theorem foldl_record {β : Type} (recorded : SyncResult → List β)
    {added : String → SegwireResult SyncAction → List β}
    (h : ∀ result name action, recorded (result.record name action) =
      recorded result ++ added name action)
    (actions : List ((String × NamespaceConfigEntry) × SegwireResult SyncAction))
    (result : SyncResult) :
    recorded (actions.foldl (fun result action => result.record action.1.1 action.2) result) =
      recorded result ++ actions.flatMap fun action => added action.1.1 action.2 := by
  induction actions generalizing result with
  | nil => simp
  | cons action actions ih => rw [List.foldl_cons, ih, h, List.flatMap_cons, List.append_assoc]

/-- The failures among some actions. -/
def failures (actions : List ((String × NamespaceConfigEntry) × SegwireResult SyncAction)) :
    List (String × SegwireError) :=
  actions.flatMap fun action => failedBy action.1.1 action.2

/-- The lists of the result, from the actions of the loop. -/
structure RecordsActions (result : SyncResult)
    (actions : List ((String × NamespaceConfigEntry) × SegwireResult SyncAction)) : Prop where
  created : result.created = actions.flatMap fun action => createdBy action.1.1 action.2
  updated : result.updated = actions.flatMap fun action => updatedBy action.1.1 action.2
  errors : result.errors = (failures actions).map failureText

/-- The result of a synchronization records the actions of its loop, and then the orphans. -/
theorem recordsActions_synchronizeState
    (hlist : manager.netlinkManager.listNamespaces = .ok actual)
    (hresult : (manager.synchronizeState orders configManager).1 = .ok result) :
    let managed := managedActual configManager actual
    let actions := syncActions managed manager (configManager.namespaceConfigs.iter orders.configs)
    RecordsActions result actions ∧
      result.conflicts = (actions.flatMap fun action => reported action.2) ++
        orphanConflicts orders.actual configManager managed := by
  rw [synchronizeState_of_list hlist] at hresult
  obtain rfl := Except.ok.inj hresult
  have hloop := foldl_syncConfigured (managedActual configManager actual)
    (configManager.namespaceConfigs.iter orders.configs) .empty manager
  dsimp only [syncLoop]
  rw [hloop]
  refine ⟨⟨?_, ?_, ?_⟩, ?_⟩
  · exact foldl_record SyncResult.created created_record _ _
  · exact foldl_record SyncResult.updated updated_record _ _
  · rw [failures, List.map_flatMap]
    exact foldl_record SyncResult.errors errors_record _ _
  · rw [foldl_record SyncResult.conflicts conflicts_record]
    rfl

/-- The conflict that an action reports is about its own name. -/
theorem namespaceName_of_reported {order : IterOrder String}
    {action : (String × NamespaceConfigEntry) × SegwireResult SyncAction}
    (h : action ∈ syncActions managed manager (configManager.namespaceConfigs.iter order))
    {conflict : StateConflict} (hconflict : conflict ∈ reported action.2) :
    conflict.namespaceName = action.1.1 := by
  obtain ⟨hk, mid, -, haction⟩ := exists_of_mem_syncActions h
  rw [haction, reported_processConfiguredNamespace] at hconflict
  have hname : action.1.2.fullName = action.1.1 := KeyedMap.key_eq_of_lookup hk
  split_ifs at hconflict
  · rw [List.mem_singleton.mp hconflict]
    exact hname
  · cases hconflict

/-- An action is recorded in at most one of the lists, under its name. -/
theorem count_added_le {name : String} {action : SegwireResult SyncAction}
    (hconflict : ∀ conflict ∈ reported action, conflict.namespaceName = name) (k : String) :
    (createdBy name action).count k + (updatedBy name action).count k +
        ((reported action).map StateConflict.namespaceName).count k +
        ((failedBy name action).map Prod.fst).count k ≤ [name].count k := by
  rcases action with e | _ | _ | conflict | _
  · simp [createdBy, updatedBy, reported, failedBy]
  · simp [createdBy, updatedBy, reported, failedBy]
  · simp [createdBy, updatedBy, reported, failedBy]
  · have hname : conflict.namespaceName = name := hconflict conflict (by simp [reported])
    simp [createdBy, updatedBy, reported, failedBy, hname]
  · simp [createdBy, updatedBy, reported, failedBy]

/-- A name is recorded at most as often as there are actions for it. -/
theorem count_recorded_le
    (actions : List ((String × NamespaceConfigEntry) × SegwireResult SyncAction))
    (hconflicts : ∀ action ∈ actions, ∀ conflict ∈ reported action.2,
      conflict.namespaceName = action.1.1) (k : String) :
    (actions.flatMap fun action => createdBy action.1.1 action.2).count k +
        (actions.flatMap fun action => updatedBy action.1.1 action.2).count k +
        ((actions.flatMap fun action => reported action.2).map
          StateConflict.namespaceName).count k +
        ((failures actions).map Prod.fst).count k ≤
      (actions.map fun action => action.1.1).count k := by
  induction actions with
  | nil => simp [failures]
  | cons action actions ih =>
    obtain ⟨hhead, htail⟩ := List.forall_mem_cons.mp hconflicts
    have hrest := ih htail
    have hadded := count_added_le hhead k
    have hnames : ((action :: actions).map fun action => action.1.1) =
        [action.1.1] ++ actions.map fun action => action.1.1 := rfl
    rw [failures] at hrest ⊢
    rw [hnames, List.count_append]
    simp only [List.flatMap_cons, List.map_append, List.count_append]
    omega

/-- An orphan is reported once. -/
theorem filter_orphanConflicts (order : IterOrder String) (configManager : ConfigManager)
    (managed : KeyedMap NamespaceInfo.name) (k : String) :
    (orphanConflicts order configManager managed).filter (fun conflict =>
        conflict.namespaceName = k ∧ conflict.resolution = .deleteNamespace) =
      if !configManager.namespaceConfigs.contains k && managed.contains k then [orphanConflict k]
      else [] := by
  let names := ((managed.iter order).map Prod.fst).filter fun name =>
    !configManager.namespaceConfigs.contains name
  have hmem : k ∈ names ↔
      (!configManager.namespaceConfigs.contains k && managed.contains k) = true := by
    rw [List.mem_filter, KeyedMap.mem_map_fst_iter, Bool.and_eq_true, and_comm]
  have hnames : names.filter (fun name => decide (name = k)) = if k ∈ names then [k] else [] := by
    rw [List.filter_eq, ((KeyedMap.nodup_map_fst_iter order managed).filter _).count]
    split_ifs <;> rfl
  have hmap : (names.map orphanConflict).filter (fun conflict =>
        conflict.namespaceName = k ∧ conflict.resolution = .deleteNamespace) =
      (names.filter fun name => decide (name = k)).map orphanConflict := by
    rw [List.filter_map]
    congr 1
    apply List.filter_congr
    intro name _
    rw [Function.comp, decide_eq_decide]
    simp [orphanConflict]
  change (names.map orphanConflict).filter _ = _
  rw [hmap, hnames]
  simp only [hmem]
  split_ifs <;> rfl

/-! ### Failures -/

/-- Processing a namespace fails if it is neither tracked nor managed and cannot be created. -/
theorem process_eq_error_iff :
    (∃ e, (manager.processConfiguredNamespace entry managed).1 = .error e) ↔
      manager.namespaceStates.lookup entry.fullName = none ∧
        managed.lookup entry.fullName = none ∧
        manager.netlinkManager.environment.creates
          (manager.netlinkManager.namespaceExists entry.fullName) entry.fullName = false := by
  cases hstate : manager.namespaceStates.lookup entry.fullName with
  | some state =>
    cases hactual : managed.lookup entry.fullName with
    | some actual => simp [(process_of_tracked_of_managed hstate hactual).1]
    | none => simp [process_of_tracked_of_missing hstate hactual]
  | none =>
    cases hactual : managed.lookup entry.fullName with
    | some actual =>
      simp [processConfiguredNamespace, getNamespaceState, hstate, hactual]
    | none =>
      rw [process_of_untracked_of_missing hstate hactual, eq_self, eq_self, true_and, true_and]
      have hspec := createNewNamespace_spec manager entry
      dsimp only at hspec
      split_ifs at hspec with hcreates
      · simp [hspec.1, hcreates]
      · exact iff_of_true hspec.1 (Bool.not_eq_true _ ▸ hcreates)

/-- So does the action for a name that is as in another state. -/
theorem process_eq_error_iff_of_component {mid : NamespaceStateManager}
    (hname : entry.fullName = k) (hmid : component k mid = component k manager) :
    (∃ e, (mid.processConfiguredNamespace entry managed).1 = .error e) ↔
      manager.namespaceStates.contains k = false ∧ managed.contains k = false ∧
        manager.netlinkManager.environment.creates
          (manager.netlinkManager.namespaceExists k) k = false := by
  have hstate : mid.namespaceStates.lookup k = manager.namespaceStates.lookup k :=
    congrArg Prod.fst hmid
  have hpresent : mid.netlinkManager.namespaceExists k =
      manager.netlinkManager.namespaceExists k := congrArg (·.2.1) hmid
  have henvironment : mid.netlinkManager.environment = manager.netlinkManager.environment :=
    congrArg (·.2.2) hmid
  rw [process_eq_error_iff, hname, hstate, hpresent, henvironment,
    KeyedMap.contains_eq_false_iff, KeyedMap.contains_eq_false_iff]

/-- The names that fail are configured, neither tracked nor managed, and cannot be created. -/
theorem mem_failures_iff {order : IterOrder String} :
    k ∈ (failures (syncActions managed manager
        (configManager.namespaceConfigs.iter order))).map Prod.fst ↔
      configManager.namespaceConfigs.contains k = true ∧
        manager.namespaceStates.contains k = false ∧ managed.contains k = false ∧
        manager.netlinkManager.environment.creates
          (manager.netlinkManager.namespaceExists k) k = false := by
  constructor
  · intro h
    obtain ⟨⟨name, e⟩, hfailure, rfl⟩ := List.mem_map.mp h
    obtain ⟨⟨⟨name', entry⟩, action⟩, hmem, hadded⟩ := List.mem_flatMap.mp hfailure
    obtain ⟨hk, mid, hmid, haction⟩ := exists_of_mem_syncActions hmem
    dsimp only at hk hmid haction hadded ⊢
    rcases action with e' | action
    · obtain ⟨rfl, rfl⟩ := Prod.mk.inj (List.mem_singleton.mp hadded)
      refine ⟨KeyedMap.contains_iff.mpr ⟨entry, hk⟩, ?_⟩
      exact (process_eq_error_iff_of_component (KeyedMap.key_eq_of_lookup hk) hmid).mp
        ⟨_, haction.symm⟩
    · simp [failedBy] at hadded
  · rintro ⟨hconfigured, hfails⟩
    obtain ⟨entry, hk⟩ := KeyedMap.contains_iff.mp hconfigured
    obtain ⟨action, hmem⟩ := exists_mem_syncActions managed manager order hk
    obtain ⟨-, mid, hmid, haction⟩ := exists_of_mem_syncActions hmem
    obtain ⟨e, he⟩ :=
      (process_eq_error_iff_of_component (KeyedMap.key_eq_of_lookup hk) hmid).mpr hfails
    refine List.mem_map.mpr ⟨(k, e), List.mem_flatMap.mpr ⟨_, hmem, ?_⟩, rfl⟩
    dsimp only at haction ⊢
    rw [haction, he]
    exact List.mem_singleton_self _

/-! ### The account -/

/-- The result of a synchronization accounts for what it has changed: the system has gained the
created names, which were neither tracked nor there and are now both; the deleted names were
neither configured nor there and are not tracked any more; an unconfigured namespace under the
prefix is one conflict; and a configured name is recorded at most once, the failed ones being
those that were neither tracked nor there and are still not there. -/
structure ExactAccount (before : NamespaceStateManager) (configManager : ConfigManager)
    (result : SyncResult) (after : NamespaceStateManager) : Prop where
  system : ∀ k, after.netlinkManager.namespaceExists k = true ↔
    before.netlinkManager.namespaceExists k = true ∨ k ∈ result.created
  created : ∀ k, k ∈ result.created ↔
    configManager.namespaceConfigs.contains k = true ∧
      (before.namespaceStates.contains k = false ∧
        before.netlinkManager.namespaceExists k = false) ∧
      after.namespaceStates.contains k = true ∧ after.netlinkManager.namespaceExists k = true
  deleted : ∀ k, k ∈ result.deleted ↔
    before.namespaceStates.contains k = true ∧ after.namespaceStates.contains k = false
  deleted_absent : ∀ k ∈ result.deleted,
    configManager.namespaceConfigs.contains k = false ∧
      before.netlinkManager.namespaceExists k = false
  orphans : ∀ k, before.netlinkManager.namespaceExists k = true →
    configManager.matchesNamespacePrefix k = true →
    configManager.namespaceConfigs.contains k = false →
      (result.conflicts.filter fun conflict =>
        conflict.namespaceName = k ∧ conflict.resolution = .deleteNamespace).length = 1
  once : ∃ failed : List (String × SegwireError), result.errors = failed.map failureText ∧
    (∀ k, k ∈ failed.map Prod.fst ↔
      configManager.namespaceConfigs.contains k = true ∧
        before.namespaceStates.contains k = false ∧
        before.netlinkManager.namespaceExists k = false ∧
        after.netlinkManager.namespaceExists k = false) ∧
    ∀ k, configManager.namespaceConfigs.contains k = true →
      (result.created ++ result.updated ++ result.conflicts.map StateConflict.namespaceName ++
        failed.map Prod.fst).count k ≤ 1

section Listed

variable (hlist : manager.netlinkManager.listNamespaces = .ok actual)
  (hresult : (manager.synchronizeState orders configManager).1 = .ok result)
include hlist hresult

theorem mem_created_iff : k ∈ result.created ↔
    (configManager.namespaceConfigs.contains k && !manager.namespaceStates.contains k &&
      !(managedActual configManager actual).contains k &&
      manager.netlinkManager.environment.creates (manager.netlinkManager.namespaceExists k) k) =
        true := by
  have hself : k ∈ result.created ↔ k ∈ result.created.filter (· = k) := by simp
  rw [hself, created_synchronizeState hlist hresult]
  split_ifs with hcreated <;> simp [hcreated]

theorem mem_deleted_iff : k ∈ result.deleted ↔
    (manager.namespaceStates.contains k && !configManager.namespaceConfigs.contains k &&
      !(managedActual configManager actual).contains k) = true := by
  have hself : k ∈ result.deleted ↔ k ∈ result.deleted.filter (· = k) := by simp
  rw [hself, deleted_synchronizeState hlist hresult]
  split_ifs with hdeleted <;> simp [hdeleted]

/-- A managed namespace without configuration is reported as one orphan. -/
theorem length_filter_orphans :
    (result.conflicts.filter fun conflict =>
      conflict.namespaceName = k ∧ conflict.resolution = .deleteNamespace).length =
      if !configManager.namespaceConfigs.contains k &&
          (managedActual configManager actual).contains k then 1 else 0 := by
  obtain ⟨-, hconflicts⟩ := recordsActions_synchronizeState hlist hresult
  have hloop : ((syncActions (managedActual configManager actual) manager
      (configManager.namespaceConfigs.iter orders.configs)).flatMap fun action =>
        reported action.2).filter (fun conflict =>
          conflict.namespaceName = k ∧ conflict.resolution = .deleteNamespace) = [] := by
    rw [List.filter_eq_nil_iff]
    intro conflict hconflict
    obtain ⟨action, hmem, hreported⟩ := List.mem_flatMap.mp hconflict
    obtain ⟨-, mid, -, haction⟩ := exists_of_mem_syncActions hmem
    -- what the loop reports is to be created
    rw [haction, reported_processConfiguredNamespace] at hreported
    split_ifs at hreported
    · rw [List.mem_singleton.mp hreported]
      simp [missingConflict]
    · cases hreported
  rw [hconflicts, List.filter_append, hloop, List.nil_append, filter_orphanConflicts]
  split_ifs <;> rfl

/-- A configured name is recorded at most once. -/
theorem count_recorded_synchronizeState
    (hconfigured : configManager.namespaceConfigs.contains k = true) :
    (result.created ++ result.updated ++ result.conflicts.map StateConflict.namespaceName ++
      (failures (syncActions (managedActual configManager actual) manager
        (configManager.namespaceConfigs.iter orders.configs))).map Prod.fst).count k ≤ 1 := by
  obtain ⟨hrecords, hconflicts⟩ := recordsActions_synchronizeState hlist hresult
  generalize hactions : syncActions (managedActual configManager actual) manager
    (configManager.namespaceConfigs.iter orders.configs) = actions at hrecords hconflicts ⊢
  have hnames : (actions.map fun action => action.1.1).Nodup := by
    have hfirst : (actions.map Prod.fst).map Prod.fst =
        (configManager.namespaceConfigs.iter orders.configs).map Prod.fst := by
      rw [← hactions, syncActions, map_fst_exchanges]
    rw [List.map_map] at hfirst
    change (actions.map (Prod.fst ∘ Prod.fst)).Nodup
    rw [hfirst]
    exact KeyedMap.nodup_map_fst_iter _ _
  have hcount := count_recorded_le actions
    (fun action hmem conflict => namespaceName_of_reported (hactions ▸ hmem)) k
  have horphans : ((orphanConflicts orders.actual configManager
      (managedActual configManager actual)).map StateConflict.namespaceName).count k = 0 := by
    rw [List.count_eq_zero]
    intro hmem
    obtain ⟨conflict, hconflict, hname⟩ := List.mem_map.mp hmem
    obtain ⟨orphan, hunconfigured, -, rfl⟩ := mem_orphanConflicts.mp hconflict
    have hsame : orphan = k := hname
    rw [hsame, hconfigured] at hunconfigured
    cases hunconfigured
  have hone := List.nodup_iff_count_le_one.mp hnames k
  rw [hrecords.created, hrecords.updated, hconflicts, List.map_append]
  simp only [List.count_append] at hcount ⊢
  omega

end Listed

/-- In the simulation, with tracked and configured names under the prefix, the result of a
synchronization is an exact account. -/
theorem exactAccount_synchronizeState (orders : SyncOrders)
    (hsimulated : manager.netlinkManager.isSimulated = true)
    (htracked : manager.namespaceStates.All fun k => configManager.matchesNamespacePrefix k = true)
    (hconfigured : configManager.namespaceConfigs.All fun k =>
      configManager.matchesNamespacePrefix k = true) :
    ∃ result, (manager.synchronizeState orders configManager).1 = .ok result ∧
      ExactAccount manager configManager result
        (manager.synchronizeState orders configManager).2 := by
  obtain ⟨actual, hlist, hmanaged⟩ := exists_list_of_simulated hsimulated configManager
  obtain ⟨result, hresult⟩ : ∃ result,
      (manager.synchronizeState orders configManager).1 = .ok result := by
    rw [synchronizeState_of_list hlist]
    exact ⟨_, rfl⟩
  have hafter := synchronizeState_of_simulated hsimulated orders configManager
  have hcreates (k : String) :
      manager.netlinkManager.environment.creates (manager.netlinkManager.namespaceExists k) k =
        ((validateNamespaceName k).toBool && !manager.netlinkManager.namespaceExists k) :=
    Environment.creates_of_simulated hsimulated _ _
  have hcreated (k : String) := mem_created_iff (k := k) hlist hresult
  have hdeleted (k : String) := mem_deleted_iff (k := k) hlist hresult
  simp only [hmanaged, hcreates] at hcreated hdeleted
  refine ⟨result, hresult, ?_, ?_, ?_, ?_, ?_, ?_⟩
  · intro k
    rw [(hafter k).2.1, hcreated k]
    cases manager.netlinkManager.namespaceExists k <;> simp
  · intro k
    rw [(hafter k).1, (hafter k).2.1, hcreated k]
    cases manager.netlinkManager.namespaceExists k <;>
      cases manager.namespaceStates.contains k <;> simp
  · intro k
    rw [(hafter k).1, hdeleted k]
    cases hk : manager.namespaceStates.contains k with
    | false => simp
    | true =>
      have hmatches : configManager.matchesNamespacePrefix k = true := htracked k hk
      rw [hmatches]
      cases configManager.namespaceConfigs.contains k <;> simp
  · intro k hk
    rw [hdeleted k, Bool.and_eq_true, Bool.and_eq_true, Bool.not_eq_true', Bool.not_eq_true'] at hk
    obtain ⟨⟨hwas, hunconfigured⟩, habsent⟩ := hk
    have hmatches : configManager.matchesNamespacePrefix k = true := htracked k hwas
    rw [hmatches, Bool.and_true] at habsent
    exact ⟨hunconfigured, habsent⟩
  · intro k hpresent hmatches hunconfigured
    rw [length_filter_orphans hlist hresult, hmanaged, hpresent, hmatches, hunconfigured]
    rfl
  · refine ⟨_, (recordsActions_synchronizeState hlist hresult).1.errors, fun k => ?_,
      fun k hk => count_recorded_synchronizeState hlist hresult hk⟩
    rw [mem_failures_iff, hmanaged, hcreates, (hafter k).2.1]
    cases hk : configManager.namespaceConfigs.contains k with
    | false => simp
    | true =>
      have hmatches : configManager.matchesNamespacePrefix k = true := hconfigured k hk
      rw [hmatches]
      cases manager.namespaceStates.contains k <;>
        cases manager.netlinkManager.namespaceExists k <;> simp

open DaemonEventLoop in
theorem exactAccount_after_delete :
    ∃ s₀, start oneName oneNamespace = .ok s₀ ∧
      let m := (run (step oneName) s₀ deletion).managers
      ∃ result, (m.stateManager.synchronizeState .sorted m.configManager).1 = .ok result ∧
        ExactAccount m.stateManager m.configManager result
          (m.stateManager.synchronizeState .sorted m.configManager).2 := by
  exact ⟨_, rfl, exactAccount_synchronizeState .sorted (by decide)
    (KeyedMap.all_of_iter .sorted (by decide)) (KeyedMap.all_of_iter .sorted (by decide))⟩

end NamespaceStateManager

end Segwire.Daemon
