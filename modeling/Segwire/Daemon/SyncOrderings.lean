import Segwire.Daemon.ConfigRescan
import Segwire.Daemon.SyncAccount

/-!
# Synchronizations in different orders

The maps of a synchronization are iterated in orders that nobody controls. In the
simulation they do not matter: what is done for a name is decided by what belongs to the
name, its configuration and the prefix. So two orders agree up to time stamps and the order
of the reported lists, and a name is treated alike whatever else is configured.

## Main definitions

* `NamespaceStateManager.SameSync` — two synchronizations agree up to time stamps and order
* `NamespaceStateManager.outcome` — what a synchronization does and reports about one name

## Main results

* `NamespaceStateManager.process_congr` — a configured name is processed alike in states
  that agree on it
* `NamespaceStateManager.syncActions_eq_map` — the actions are those in the first state
* `NamespaceStateManager.synchronizeState_of_any_order`
-/

namespace Segwire.Daemon

open Foundation Segwire.Common

/-! ### Creations in the simulation -/

namespace NetlinkManager

variable {netlink netlink' : NetlinkManager}

/-- Simulated creations of one name fail with the same error, or both succeed. -/
theorem createNamespace_congr (hsimulated : netlink.isSimulated = true)
    (hsimulated' : netlink'.isSimulated = true) {name : String}
    (hpresent : netlink'.namespaceExists name = netlink.namespaceExists name) {α : Type} (a : α) :
    (netlink'.createNamespace name).1.map (fun _ => a) =
      (netlink.createNamespace name).1.map fun _ => a := by
  obtain ⟨state, hbackend⟩ := exists_backend_of_isSimulated hsimulated
  obtain ⟨state', hbackend'⟩ := exists_backend_of_isSimulated hsimulated'
  have hcontains : state'.namespaces.contains name = state.namespaces.contains name := by
    simpa [namespaceExists, hbackend, hbackend'] using hpresent
  unfold createNamespace
  rw [hbackend, hbackend']
  cases validateNamespaceName name with
  | error e => rfl
  | ok _ =>
    simp only [createSimulated, hcontains]
    split_ifs <;> rfl

end NetlinkManager

namespace NamespaceStateManager

variable {manager manager' : NamespaceStateManager} {configManager : ConfigManager}
  {orders orders' : SyncOrders} {entry : NamespaceConfigEntry}
  {managed managed' actual : KeyedMap NamespaceInfo.name} {result : SyncResult} {k : String}

/-! ### One configured namespace -/

/-- A creation from a configuration answers as the creation of the namespace does. -/
theorem createNewNamespace_fst (manager : NamespaceStateManager) (entry : NamespaceConfigEntry) :
    (manager.createNewNamespace entry).1 =
      ((manager.trackCreation entry).netlinkManager.createNamespace entry.fullName).1.map
        fun _ => SyncAction.created := by
  unfold createNewNamespace
  dsimp only
  rcases (manager.trackCreation entry).netlinkManager.createNamespace entry.fullName with
    ⟨e | info, netlink⟩ <;> rfl

/-- The states of two managers agree on a name, in their simulations. -/
structure AgreeOn (k : String) (manager manager' : NamespaceStateManager) : Prop where
  simulated : manager.netlinkManager.isSimulated = true
  simulated' : manager'.netlinkManager.isSimulated = true
  tracked : manager'.namespaceStates.lookup k = manager.namespaceStates.lookup k
  present : manager'.netlinkManager.namespaceExists k = manager.netlinkManager.namespaceExists k

theorem agreeOn_of_component (hsimulated : manager.netlinkManager.isSimulated = true)
    (h : component k manager' = component k manager) : AgreeOn k manager manager' where
  simulated := hsimulated
  simulated' := (congrArg (·.2.2.simulated) h).trans hsimulated
  tracked := congrArg Prod.fst h
  present := congrArg (·.2.1) h

/-- What belongs to a name, without time stamps and environment. -/
def untimedView (k : String) (manager : NamespaceStateManager) : Option NamespaceState × Bool :=
  ((manager.namespaceStates.lookup k).map untimed, manager.netlinkManager.namespaceExists k)

theorem untimedView_of_component {state : Option NamespaceState} {isPresent : Bool}
    {environment : Environment} (h : component k manager = (state, isPresent, environment)) :
    untimedView k manager = (state.map untimed, isPresent) :=
  congrArg (fun c : Option NamespaceState × Bool × Environment => (c.1.map untimed, c.2.1)) h

/-- Two stores agree on a name, and what they hold under it is active. -/
structure ManagedAlike (k : String) (managed managed' : KeyedMap NamespaceInfo.name) : Prop where
  contains : managed'.contains k = managed.contains k
  active : ∀ info, managed.lookup k = some info → info.active = true
  active' : ∀ info, managed'.lookup k = some info → info.active = true

theorem ManagedAlike.cases (h : ManagedAlike k managed managed') :
    (managed.lookup k = none ∧ managed'.lookup k = none) ∨
      ∃ info info', managed.lookup k = some info ∧ managed'.lookup k = some info' ∧
        info.active = true ∧ info'.active = true := by
  have hcontains := h.contains
  rw [KeyedMap.contains, KeyedMap.contains] at hcontains
  cases hinfo : managed.lookup k with
  | none =>
    rw [hinfo, Option.isSome_none, Option.isSome_eq_false_iff, Option.isNone_iff_eq_none]
      at hcontains
    exact Or.inl ⟨rfl, hcontains⟩
  | some info =>
    rw [hinfo, Option.isSome_some] at hcontains
    obtain ⟨info', hinfo'⟩ := Option.isSome_iff_exists.mp hcontains
    exact Or.inr ⟨info, info', rfl, hinfo', h.active info hinfo, h.active' info' hinfo'⟩

theorem untimed_updateStateFromConfigAndActual {info info' : NamespaceInfo}
    (h : info'.active = info.active) (entry : NamespaceConfigEntry) (state : NamespaceState)
    (now now' : SystemTime) :
    untimed (updateStateFromConfigAndActual entry info' now' state) =
      untimed (updateStateFromConfigAndActual entry info now state) := by
  simp [untimed, updateStateFromConfigAndActual, NamespaceState.touch, h]

theorem needsNamespaceUpdate_congr {info info' : NamespaceInfo} (h : info'.active = info.active)
    (state : NamespaceState) (entry : NamespaceConfigEntry) :
    needsNamespaceUpdate state entry info' = needsNamespaceUpdate state entry info := by
  rw [needsNamespaceUpdate, needsNamespaceUpdate, hasConfigurationDrift, hasConfigurationDrift, h]

/-- A creation goes alike in simulations that agree on its name. -/
theorem createNewNamespace_congr (h : AgreeOn entry.fullName manager manager') :
    (manager'.createNewNamespace entry).1 = (manager.createNewNamespace entry).1 ∧
      untimedView entry.fullName (manager'.createNewNamespace entry).2 =
        untimedView entry.fullName (manager.createNewNamespace entry).2 := by
  have htrack (m : NamespaceStateManager) : (m.trackCreation entry).netlinkManager.isSimulated =
      m.netlinkManager.isSimulated := rfl
  have hexists (m : NamespaceStateManager) :
      (m.trackCreation entry).netlinkManager.namespaceExists entry.fullName =
        m.netlinkManager.namespaceExists entry.fullName := by
    have hcomponent : component entry.fullName (m.trackCreation entry) = _ :=
      component_trackCreation
    rw [if_pos rfl] at hcomponent
    exact congrArg (·.2.1) hcomponent
  constructor
  · rw [createNewNamespace_fst, createNewNamespace_fst]
    apply NetlinkManager.createNamespace_congr ((htrack manager).trans h.simulated)
      ((htrack manager').trans h.simulated')
    rw [hexists, hexists, h.present]
  · -- in a simulation a creation is decided by what is at the name, which is the same
    have hspec := createNewNamespace_spec manager entry
    have hspec' := createNewNamespace_spec manager' entry
    dsimp only at hspec hspec'
    rw [Environment.creates_of_simulated h.simulated,
      Environment.leavesPlaceholder_of_simulated h.simulated] at hspec
    rw [Environment.creates_of_simulated h.simulated',
      Environment.leavesPlaceholder_of_simulated h.simulated', h.present] at hspec'
    split_ifs at hspec hspec' with hcreated
    · obtain ⟨-, created, updated, hview⟩ := hspec
      obtain ⟨-, created', updated', hview'⟩ := hspec'
      rw [untimedView_of_component hview, untimedView_of_component hview']
      rfl
    · obtain ⟨-, created, updated, hview⟩ := hspec
      obtain ⟨-, created', updated', hview'⟩ := hspec'
      rw [untimedView_of_component hview, untimedView_of_component hview']
      rfl

/-- A configured name is processed alike in simulations that agree on it. -/
theorem process_congr (h : AgreeOn entry.fullName manager manager')
    (hmanaged : ManagedAlike entry.fullName managed managed') :
    (manager'.processConfiguredNamespace entry managed').1 =
        (manager.processConfiguredNamespace entry managed).1 ∧
      untimedView entry.fullName (manager'.processConfiguredNamespace entry managed').2 =
        untimedView entry.fullName (manager.processConfiguredNamespace entry managed).2 := by
  cases hstate : manager.namespaceStates.lookup entry.fullName with
  | some state =>
    have hstate' := h.tracked.trans hstate
    rcases hmanaged.cases with ⟨hnone, hnone'⟩ | ⟨info, info', hinfo, hinfo', hactive, hactive'⟩
    · -- tracked but gone is a conflict, and nothing changes
      rw [process_of_tracked_of_missing hstate hnone, process_of_tracked_of_missing hstate' hnone']
      exact ⟨rfl, Prod.ext (congrArg (Option.map untimed) h.tracked) h.present⟩
    · -- both are compared with an active namespace, so both update or neither does
      obtain ⟨hfst, now, hview⟩ := process_of_tracked_of_managed hstate hinfo
      obtain ⟨hfst', now', hview'⟩ := process_of_tracked_of_managed hstate' hinfo'
      have hneeds := needsNamespaceUpdate_congr (hactive'.trans hactive.symm) state entry
      refine ⟨by rw [hfst, hfst', hneeds], ?_⟩
      rw [untimedView_of_component hview, untimedView_of_component hview', hneeds]
      refine Prod.ext ?_ h.present
      rw [Option.map_some, Option.map_some]
      split_ifs
      · rw [untimed_updateStateFromConfigAndActual (hactive'.trans hactive.symm)]
      · rfl
  | none =>
    have hstate' := h.tracked.trans hstate
    rcases hmanaged.cases with ⟨hnone, hnone'⟩ | ⟨info, info', hinfo, hinfo', hactive, hactive'⟩
    · rw [process_of_untracked_of_missing hstate hnone,
        process_of_untracked_of_missing hstate' hnone']
      exact createNewNamespace_congr h
    · obtain ⟨hfst, created, updated, hview⟩ := process_of_untracked_of_managed hstate hinfo hactive
      obtain ⟨hfst', created', updated', hview'⟩ :=
        process_of_untracked_of_managed hstate' hinfo' hactive'
      refine ⟨hfst'.trans hfst.symm, ?_⟩
      rw [untimedView_of_component hview, untimedView_of_component hview']
      exact Prod.ext rfl h.present

/-! ### The actions of the loop -/

section Actions

variable (hsimulated : manager.netlinkManager.isSimulated = true)
  (hactive : ∀ k info, managed.lookup k = some info → info.active = true)
include hsimulated hactive

/-- Every action is the one that would be taken first. -/
theorem syncActions_eq_map (configManager : ConfigManager) (order : IterOrder String) :
    syncActions managed manager (configManager.namespaceConfigs.iter order) =
      (configManager.namespaceConfigs.iter order).map fun entry =>
        (entry, (manager.processConfiguredNamespace entry.2 managed).1) := by
  apply exchanges_eq_map (f := fun entry : String × NamespaceConfigEntry =>
    (manager.processConfiguredNamespace entry.2 managed).1)
  intro action hmem
  obtain ⟨hk, mid, hmid, haction⟩ := exists_of_mem_syncActions hmem
  have hname : action.1.2.fullName = action.1.1 := KeyedMap.key_eq_of_lookup hk
  rw [← hname] at hmid
  rw [haction]
  exact (process_congr (agreeOn_of_component hsimulated hmid) ⟨rfl, hactive _, hactive _⟩).1

/-- There is one action for a configured name, and none for another. -/
theorem filter_syncActions (configManager : ConfigManager) (order : IterOrder String) (k : String) :
    ((syncActions managed manager (configManager.namespaceConfigs.iter order)).filter fun action =>
        action.1.1 = k) =
      ((configManager.namespaceConfigs.lookup k).map fun entry =>
        ((k, entry), (manager.processConfiguredNamespace entry managed).1)).toList := by
  rw [syncActions_eq_map hsimulated hactive, List.filter_map]
  have hfilter := KeyedMap.filter_iter order configManager.namespaceConfigs k
  change List.map _ ((configManager.namespaceConfigs.iter order).filter fun entry =>
    decide (entry.1 = k)) = _
  rw [hfilter]
  cases configManager.namespaceConfigs.lookup k <;> rfl

/-- Two orders take the same actions. -/
theorem perm_syncActions (configManager : ConfigManager) (order order' : IterOrder String) :
    (syncActions managed manager (configManager.namespaceConfigs.iter order')).Perm
      (syncActions managed manager (configManager.namespaceConfigs.iter order)) := by
  rw [syncActions_eq_map hsimulated hactive, syncActions_eq_map hsimulated hactive]
  exact (KeyedMap.perm_iter order' order _).map _

end Actions

/-- What is recorded about one name comes from the actions for it. -/
theorem filter_flatMap_added {β : Type} {added : String → SegwireResult SyncAction → List β}
    {about : β → String}
    {actions : List ((String × NamespaceConfigEntry) × SegwireResult SyncAction)}
    (h : ∀ action ∈ actions, ∀ b ∈ added action.1.1 action.2, about b = action.1.1) (k : String) :
    (actions.flatMap fun action => added action.1.1 action.2).filter (fun b => about b = k) =
      (actions.filter fun action => action.1.1 = k).flatMap fun action =>
        added action.1.1 action.2 := by
  induction actions with
  | nil => rfl
  | cons action actions ih =>
    obtain ⟨hhead, htail⟩ := List.forall_mem_cons.mp h
    rw [List.flatMap_cons, List.filter_append, ih htail, List.filter_cons]
    by_cases hk : action.1.1 = k
    · -- everything that this action adds is about the name
      have hall : (added action.1.1 action.2).filter (fun b => about b = k) =
          added action.1.1 action.2 :=
        List.filter_eq_self.mpr fun b hb => decide_eq_true ((hhead b hb).trans hk)
      rw [hall, if_pos (decide_eq_true hk), List.flatMap_cons]
    · have hnone : (added action.1.1 action.2).filter (fun b => about b = k) = [] :=
        List.filter_eq_nil_iff.mpr fun b hb heq =>
          hk ((hhead b hb).symm.trans (of_decide_eq_true heq))
      rw [hnone, List.nil_append, if_neg (by simpa using hk)]

/-! ### Two synchronizations -/

/-- The failures of a synchronization. -/
def syncFailures (orders : SyncOrders) (configManager : ConfigManager)
    (manager : NamespaceStateManager) : List (String × SegwireError) :=
  match manager.netlinkManager.listNamespaces with
  | .ok actual => failures (syncActions (managedActual configManager actual) manager
      (configManager.namespaceConfigs.iter orders.configs))
  | .error _ => []

/-- What a synchronization does and reports about one name, up to time stamps. -/
structure SyncOutcome where
  state : Option NamespaceState × Bool
  created : List String
  updated : List String
  deleted : List String
  conflicts : List StateConflict
  failed : List (String × SegwireError)

/-- The outcome of a synchronization for the name. -/
def outcome (orders : SyncOrders) (configManager : ConfigManager) (manager : NamespaceStateManager)
    (k : String) : SyncOutcome :=
  let (answer, after) := manager.synchronizeState orders configManager
  let result := answer.toOption.getD .empty
  { state := untimedView k after
    created := result.created.filter (· = k)
    updated := result.updated.filter (· = k)
    deleted := result.deleted.filter (· = k)
    conflicts := result.conflicts.filter fun conflict => conflict.namespaceName = k
    failed := (manager.syncFailures orders configManager).filter fun failure => failure.1 = k }

/-- Two synchronizations leave the same states up to time stamps and the same namespaces, and
their results list the same up to order. -/
structure SameSync (result : SyncResult) (after : NamespaceStateManager) (result' : SyncResult)
    (after' : NamespaceStateManager) : Prop where
  tracked : ∀ k, (after'.namespaceStates.lookup k).map untimed =
    (after.namespaceStates.lookup k).map untimed
  system : ∀ k, after'.netlinkManager.namespaceExists k = after.netlinkManager.namespaceExists k
  created : result'.created.Perm result.created
  updated : result'.updated.Perm result.updated
  deleted : result'.deleted.Perm result.deleted
  conflicts : result'.conflicts.Perm result.conflicts
  errors : result'.errors.Perm result.errors

theorem untimedView_of_component_eq (h : component k manager' = component k manager) :
    untimedView k manager' = untimedView k manager :=
  untimedView_of_component h

/-- The managed namespaces of the simulation are alike at a name where it agrees. -/
theorem managedAlike_of_agreeOn {configManager' : ConfigManager}
    {actual' : KeyedMap NamespaceInfo.name} (h : AgreeOn k manager manager')
    (hmatches : configManager'.matchesNamespacePrefix k = configManager.matchesNamespacePrefix k)
    (hlist : manager.netlinkManager.listNamespaces = .ok actual)
    (hlist' : manager'.netlinkManager.listNamespaces = .ok actual') :
    ManagedAlike k (managedActual configManager actual) (managedActual configManager' actual') where
  contains := by
    rw [contains_managed_of_simulated h.simulated hlist,
      contains_managed_of_simulated h.simulated' hlist', h.present, hmatches]
  active _ hinfo := active_of_managed hlist hinfo
  active' _ hinfo := active_of_managed hlist' hinfo

/-- What a synchronization does to a name is decided by the name. -/
theorem untimedView_synchronizeState_congr {configManager' : ConfigManager}
    (h : AgreeOn k manager manager')
    (hmatches : configManager'.matchesNamespacePrefix k = configManager.matchesNamespacePrefix k)
    (hconfig : configManager'.namespaceConfigs.lookup k = configManager.namespaceConfigs.lookup k)
    (orders orders' : SyncOrders) :
    untimedView k (manager'.synchronizeState orders' configManager').2 =
      untimedView k (manager.synchronizeState orders configManager).2 := by
  obtain ⟨actual, hlist, -⟩ := exists_list_of_simulated h.simulated configManager
  obtain ⟨actual', hlist', -⟩ := exists_list_of_simulated h.simulated' configManager'
  have hmanaged := managedAlike_of_agreeOn h hmatches hlist hlist'
  cases hk : configManager.namespaceConfigs.lookup k with
  | none =>
    -- an unconfigured name is kept while it is there, and forgotten otherwise
    have hview := component_synchronizeState_of_unconfigured orders hlist hk
    have hview' :=
      component_synchronizeState_of_unconfigured orders' hlist' (hconfig.trans hk)
    have hcontains := hmanaged.contains
    rw [KeyedMap.contains, KeyedMap.contains] at hcontains
    rw [untimedView_of_component hview, untimedView_of_component hview', hcontains]
    refine Prod.ext ?_ h.present
    split_ifs
    · exact congrArg (Option.map untimed) h.tracked
    · rfl
  | some entry =>
    obtain ⟨mid, hmid, hview, -⟩ := exists_component_synchronizeState orders hlist hk
    obtain ⟨mid', hmid', hview', -⟩ :=
      exists_component_synchronizeState orders' hlist' (hconfig.trans hk)
    obtain rfl : entry.fullName = k := KeyedMap.key_eq_of_lookup hk
    -- nothing before its turn touches the name, so the two still agree on it
    have hagree : AgreeOn entry.fullName mid mid' :=
      { simulated := (congrArg (·.2.2.simulated) hmid).trans h.simulated
        simulated' := (congrArg (·.2.2.simulated) hmid').trans h.simulated'
        tracked := (congrArg Prod.fst hmid').trans (h.tracked.trans (congrArg Prod.fst hmid).symm)
        present := (congrArg (·.2.1) hmid').trans (h.present.trans (congrArg (·.2.1) hmid).symm) }
    rw [untimedView_of_component_eq hview, untimedView_of_component_eq hview']
    exact (process_congr hagree hmanaged).2

/-- The order does not matter to what a synchronization lists. -/
theorem sameSync_of_orders (hsimulated : manager.netlinkManager.isSimulated = true)
    {result' : SyncResult}
    (hresult : (manager.synchronizeState orders configManager).1 = .ok result)
    (hresult' : (manager.synchronizeState orders' configManager).1 = .ok result') :
    SameSync result (manager.synchronizeState orders configManager).2 result'
      (manager.synchronizeState orders' configManager).2 := by
  obtain ⟨actual, hlist, -⟩ := exists_list_of_simulated hsimulated configManager
  have hview (k : String) :
      untimedView k (manager.synchronizeState orders' configManager).2 =
        untimedView k (manager.synchronizeState orders configManager).2 :=
    untimedView_synchronizeState_congr ⟨hsimulated, hsimulated, rfl, rfl⟩ rfl rfl orders orders'
  obtain ⟨hrecords, hconflicts⟩ := recordsActions_synchronizeState hlist hresult
  obtain ⟨hrecords', hconflicts'⟩ := recordsActions_synchronizeState hlist hresult'
  -- every list of the result is read off the actions, and these are permuted
  have hactions := perm_syncActions hsimulated
    (fun k info (hinfo : (managedActual configManager actual).lookup k = some info) =>
      active_of_managed hlist hinfo) configManager orders.configs orders'.configs
  constructor
  · exact fun k => congrArg Prod.fst (hview k)
  · exact fun k => congrArg Prod.snd (hview k)
  · rw [hrecords.created, hrecords'.created]
    exact hactions.flatMap_right _
  · rw [hrecords.updated, hrecords'.updated]
    exact hactions.flatMap_right _
  · -- the forgotten names do not depend on the order either
    rw [List.perm_iff_count]
    intro k
    have hcount (l : List String) : l.count k = (l.filter (· = k)).length := by
      rw [List.count_eq_length_filter]
      rfl
    rw [hcount, hcount, deleted_synchronizeState hlist hresult,
      deleted_synchronizeState hlist hresult']
  · rw [hconflicts, hconflicts']
    refine (hactions.flatMap_right _).append ?_
    exact (((KeyedMap.perm_iter orders'.actual orders.actual _).map _).filter _).map _
  · rw [hrecords.errors, hrecords'.errors]
    exact (hactions.flatMap_right _).map _

/-- No orphan is reported under a configured name. -/
theorem filter_orphanConflicts_of_configured (order : IterOrder String)
    (managed : KeyedMap NamespaceInfo.name)
    (hk : configManager.namespaceConfigs.lookup k = some entry) :
    (orphanConflicts order configManager managed).filter
      (fun conflict => conflict.namespaceName = k) = [] := by
  rw [List.filter_eq_nil_iff]
  intro conflict hconflict hname
  obtain ⟨orphan, hunconfigured, -, rfl⟩ := mem_orphanConflicts.mp hconflict
  obtain rfl : orphan = k := of_decide_eq_true hname
  rw [KeyedMap.contains, hk] at hunconfigured
  cases hunconfigured

/-- What is reported about a configured name is the action for it in the first state. -/
theorem outcome_of_configured (hsimulated : manager.netlinkManager.isSimulated = true)
    (hlist : manager.netlinkManager.listNamespaces = .ok actual)
    (hk : configManager.namespaceConfigs.lookup k = some entry) (orders : SyncOrders) :
    let action :=
      (manager.processConfiguredNamespace entry (managedActual configManager actual)).1
    manager.outcome orders configManager k =
      { state := untimedView k (manager.synchronizeState orders configManager).2
        created := createdBy k action
        updated := updatedBy k action
        deleted := []
        conflicts := reported action
        failed := failedBy k action } := by
  intro action
  obtain ⟨result, hresult⟩ : ∃ result,
      (manager.synchronizeState orders configManager).1 = .ok result := by
    rw [synchronizeState_of_list hlist]
    exact ⟨_, rfl⟩
  let managed := managedActual configManager actual
  let actions := syncActions managed manager (configManager.namespaceConfigs.iter orders.configs)
  obtain ⟨hrecords, hconflicts⟩ := recordsActions_synchronizeState hlist hresult
  have hactive (k : String) (info : NamespaceInfo) (hinfo : managed.lookup k = some info) :
      info.active = true := active_of_managed hlist hinfo
  -- there is one action for the name
  have honly : actions.filter (fun action => action.1.1 = k) = [((k, entry), action)] := by
    rw [filter_syncActions hsimulated hactive, hk]
    rfl
  have hadded {β : Type} (added : String → SegwireResult SyncAction → List β) (about : β → String)
      (habout : ∀ action ∈ actions, ∀ b ∈ added action.1.1 action.2, about b = action.1.1) :
      (actions.flatMap fun action => added action.1.1 action.2).filter (fun b => about b = k) =
        added k action := by
    rw [filter_flatMap_added habout, honly, List.flatMap_singleton]
  have hcreated : result.created.filter (· = k) = createdBy k action := by
    rw [hrecords.created]
    exact hadded createdBy id fun action _ name hname => eq_of_mem_createdBy hname
  have hupdated : result.updated.filter (· = k) = updatedBy k action := by
    rw [hrecords.updated]
    exact hadded updatedBy id fun action _ name hname => eq_of_mem_updatedBy hname
  have hdeleted : result.deleted.filter (· = k) = [] := by
    rw [deleted_synchronizeState hlist hresult, if_neg]
    simp [KeyedMap.contains, hk]
  have hreported : result.conflicts.filter (fun conflict => conflict.namespaceName = k) =
      reported action := by
    rw [hconflicts, List.filter_append, filter_orphanConflicts_of_configured _ _ hk,
      List.append_nil]
    exact hadded (fun _ action => reported action) StateConflict.namespaceName
      fun action hmem conflict hconflict => namespaceName_of_reported hmem hconflict
  have hfailed : (manager.syncFailures orders configManager).filter (fun f => f.1 = k) =
      failedBy k action := by
    rw [syncFailures, hlist]
    exact hadded failedBy Prod.fst fun action _ failure hfailure => fst_eq_of_mem_failedBy hfailure
  have hgetD : (manager.synchronizeState orders configManager).1.toOption.getD .empty = result := by
    rw [hresult]
    rfl
  rw [← hcreated, ← hupdated, ← hdeleted, ← hreported, ← hfailed, ← hgetD]
  rfl

/-- What is reported about a configured name is decided by the name. -/
theorem outcome_congr {configManager' : ConfigManager} (h : AgreeOn k manager manager')
    (hmatches : configManager'.matchesNamespacePrefix k = configManager.matchesNamespacePrefix k)
    (hk : configManager.namespaceConfigs.lookup k = some entry)
    (hk' : configManager'.namespaceConfigs.lookup k = some entry) (orders orders' : SyncOrders) :
    manager'.outcome orders' configManager' k = manager.outcome orders configManager k := by
  obtain ⟨actual, hlist, -⟩ := exists_list_of_simulated h.simulated configManager
  obtain ⟨actual', hlist', -⟩ := exists_list_of_simulated h.simulated' configManager'
  have hmanaged := managedAlike_of_agreeOn h hmatches hlist hlist'
  have hview := untimedView_synchronizeState_congr h hmatches (hk'.trans hk.symm) orders orders'
  rw [outcome_of_configured h.simulated hlist hk,
    outcome_of_configured h.simulated' hlist' hk', hview]
  obtain rfl : entry.fullName = k := KeyedMap.key_eq_of_lookup hk
  rw [(process_congr h hmanaged).1]

/-- In the simulation, a synchronization does the same in any order, up to time stamps and the
order of the lists in its result, and what it does and reports about a configured name does not
depend on what else is configured, tracked or there. -/
theorem synchronizeState_of_any_order (hsimulated : manager.netlinkManager.isSimulated = true)
    (configManager : ConfigManager) :
    (∀ orders, ∃ result, (manager.synchronizeState orders configManager).1 = .ok result ∧
      result.errors = (manager.syncFailures orders configManager).map failureText ∧
      ∀ orders', ∃ result', (manager.synchronizeState orders' configManager).1 = .ok result' ∧
        SameSync result (manager.synchronizeState orders configManager).2 result'
          (manager.synchronizeState orders' configManager).2) ∧
      ∀ k entry, configManager.namespaceConfigs.lookup k = some entry →
        ∀ (configs : NamespaceConfigs) manager', configs.lookup k = some entry →
          AgreeOn k manager manager' → ∀ orders orders',
            manager'.outcome orders' { configManager with namespaceConfigs := configs } k =
              manager.outcome orders configManager k := by
  obtain ⟨actual, hlist, -⟩ := exists_list_of_simulated hsimulated configManager
  have hexists (orders : SyncOrders) : ∃ result,
      (manager.synchronizeState orders configManager).1 = .ok result := by
    rw [synchronizeState_of_list hlist]
    exact ⟨_, rfl⟩
  constructor
  · intro orders
    obtain ⟨result, hresult⟩ := hexists orders
    refine ⟨result, hresult, ?_, fun orders' => ?_⟩
    · rw [syncFailures, hlist]
      exact (recordsActions_synchronizeState hlist hresult).1.errors
    · obtain ⟨result', hresult'⟩ := hexists orders'
      exact ⟨result', hresult', sameSync_of_orders hsimulated hresult hresult'⟩
  · intro k entry hk configs manager' hk' h orders orders'
    let configManager' := { configManager with namespaceConfigs := configs }
    have hmatches : configManager'.matchesNamespacePrefix k =
        configManager.matchesNamespacePrefix k := rfl
    exact outcome_congr h hmatches hk hk' orders orders'

section Fixture

/-- A simulated daemon with two configurations. -/
def twoNamespaces : Setup :=
  .quiet true "new" 0 ((ConfigRescan.diskWith ConfigRescan.twoFiles).fileSystem .sorted)

/-- The manager where the namespace of the second one is there already. -/
def withSecond (manager : NamespaceStateManager) : NamespaceStateManager :=
  { manager with netlinkManager := (manager.netlinkManager.createNamespace "new-two").2 }

end Fixture

open DaemonEventLoop in
/-- Two names in any two orders, and one of them without the other. -/
theorem sameSync_after_start : ∃ s₀ entry, start ConfigRescan.twoNames twoNamespaces = .ok s₀ ∧
    let m := s₀.managers
    (∀ orders orders', ∃ result result',
      (m.stateManager.synchronizeState orders m.configManager).1 = .ok result ∧
      (m.stateManager.synchronizeState orders' m.configManager).1 = .ok result' ∧
      SameSync result (m.stateManager.synchronizeState orders m.configManager).2 result'
        (m.stateManager.synchronizeState orders' m.configManager).2) ∧
    m.configManager.namespaceConfigs.lookup "new-one" = some entry ∧
    ∀ orders orders',
      m.stateManager.withSecond.outcome orders'
          { m.configManager with namespaceConfigs := KeyedMap.empty.insert entry } "new-one" =
        m.stateManager.outcome orders m.configManager "new-one" := by
  obtain ⟨s₀, hstart⟩ : ∃ s₀, start ConfigRescan.twoNames twoNamespaces = .ok s₀ := ⟨_, rfl⟩
  have hsimulated : s₀.managers.stateManager.netlinkManager.isSimulated = true := by
    cases hstart
    rfl
  obtain ⟨entry, hentry⟩ : ∃ entry,
      s₀.managers.configManager.namespaceConfigs.lookup "new-one" = some entry := by
    cases hstart
    exact ⟨_, rfl⟩
  have hagree : AgreeOn "new-one" s₀.managers.stateManager
      s₀.managers.stateManager.withSecond := by
    cases hstart
    exact ⟨rfl, rfl, rfl, rfl⟩
  have hkept : (KeyedMap.empty.insert entry : NamespaceConfigs).lookup "new-one" = some entry := by
    rw [KeyedMap.lookup_insert, if_pos (KeyedMap.key_eq_of_lookup hentry).symm]
  refine ⟨s₀, entry, hstart, ?_, hentry, ?_⟩
  · intro orders orders'
    obtain ⟨result, hresult, -, hsame⟩ := (synchronizeState_of_any_order hsimulated _).1 orders
    obtain ⟨result', hresult', hsame⟩ := hsame orders'
    exact ⟨result, result', hresult, hresult', hsame⟩
  · intro orders orders'
    exact (synchronizeState_of_any_order hsimulated _).2 "new-one" entry hentry _ _ hkept hagree
      orders orders'

end NamespaceStateManager

end Segwire.Daemon
