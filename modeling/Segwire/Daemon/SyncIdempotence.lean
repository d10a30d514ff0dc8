import Segwire.Daemon.Reconciliation
import Segwire.Daemon.SyncInterruptions

/-!
# A synchronization after another

A synchronization stamps the states that it processes with readings of the clock, so the
configuration files are not newer than the states any more. The namespaces that it could
not create are tracked from then on and are reported as missing. A second synchronization
therefore finds nothing to do.

## Main definitions

* `Host.ReadsFrom` — the clock shows nothing before a time from now on
* `NamespaceStateManager.Quiescent` — a synchronization has nothing to do for a name
* `NamespaceStateManager.Idle` — a synchronization has only touched states

## Main results

* `NamespaceStateManager.idle_of_quiescent` — a synchronization that has nothing to do
* `NamespaceStateManager.quiescent_synchronizeState` — what the first one leaves
* `NamespaceStateManager.idle_synchronizeState_twice`
-/

namespace Segwire.Daemon

open Foundation Segwire.Common

/-! ### The clock -/

/-- From now on the clock shows nothing before `time`. -/
def Host.ReadsFrom (time : SystemTime) (host : Host) : Prop :=
  ∀ tick, host.ticks ≤ tick → time ≤ host.clock tick

/-- A clock that is never set back shows nothing before its next reading. -/
theorem Host.readsFrom_of_monotone {host : Host} (hclock : Monotone host.clock) :
    host.ReadsFrom (host.clock host.ticks) := by
  intro tick htick
  exact Int.ofNat_le.mpr (hclock htick)

/-- A request does not read the clock. -/
theorem NetlinkManager.RequestsOnly.readsFrom {netlink netlink' : NetlinkManager}
    {p : NetlinkRequest → Prop} {time : SystemTime} (h : netlink.RequestsOnly p netlink')
    (hreads : netlink.host.ReadsFrom time) : netlink'.host.ReadsFrom time := by
  induction h with
  | refl => exact hreads
  | tail _ hstep ih =>
    obtain ⟨check, r, -, rfl⟩ := hstep
    exact ih

theorem unixSeconds_mono {time time' : SystemTime} (h : time ≤ time') :
    unixSeconds time ≤ unixSeconds time' :=
  Nat.div_le_div_right (Int.toNat_le_toNat h)

namespace NamespaceStateManager

variable {manager : NamespaceStateManager} {configManager : ConfigManager} {orders : SyncOrders}
  {entry : NamespaceConfigEntry} {managed actual : KeyedMap NamespaceInfo.name}
  {result : SyncResult} {time : SystemTime} {name k : String}

/-- The clock shows nothing before `time` from now on, and the state tracked under the name
was last updated at `time` or later. -/
structure StampedFrom (time : SystemTime) (name : String) (manager : NamespaceStateManager) :
    Prop where
  reads : manager.netlinkManager.host.ReadsFrom time
  stamped : ∃ state, manager.namespaceStates.lookup name = some state ∧
    unixSeconds time ≤ state.lastUpdated

theorem StampedFrom.contains (h : manager.StampedFrom time name) :
    manager.namespaceStates.contains name = true := by
  obtain ⟨state, hstate, -⟩ := h.stamped
  exact KeyedMap.contains_iff.mpr ⟨state, hstate⟩

/-- A change in place that keeps the name and records its time. -/
structure Stamps (change : SystemTime → NamespaceState → NamespaceState) : Prop where
  key : ∀ now state, (change now state).fullName = state.fullName
  stamp : ∀ now state, (change now state).lastUpdated = unixSeconds now

theorem stamps_touch : Stamps fun now state => state.touch now :=
  ⟨fun _ _ => rfl, fun _ _ => rfl⟩

theorem stamps_setStatus (status : NamespaceStatus) :
    Stamps fun now state => state.setStatus status now :=
  ⟨fun _ _ => rfl, fun _ _ => rfl⟩

theorem stamps_updateStateFromConfigAndActual (entry : NamespaceConfigEntry)
    (info : NamespaceInfo) : Stamps (updateStateFromConfigAndActual entry info) :=
  ⟨fun _ _ => rfl, fun _ _ => rfl⟩

section Readings

variable (hreads : manager.netlinkManager.host.ReadsFrom time)
include hreads

theorem le_now : time ≤ manager.now.1 := hreads _ le_rfl

theorem readsFrom_now : manager.now.2.netlinkManager.host.ReadsFrom time :=
  fun tick htick => hreads tick (Nat.le_of_succ_le htick)

theorem stampedFrom_updateNamespaceState {state : NamespaceState}
    (hstamp : unixSeconds time ≤ state.lastUpdated) :
    (manager.updateNamespaceState state).StampedFrom time state.fullName where
  reads := hreads
  stamped := ⟨state, KeyedMap.lookup_insert_self _ _, hstamp⟩

theorem stampedFrom_modifyState {change : SystemTime → NamespaceState → NamespaceState}
    (hchange : Stamps change)
    (htracked : manager.namespaceStates.contains name = true) :
    (manager.modifyState name change).StampedFrom time name := by
  obtain ⟨state, hstate⟩ := KeyedMap.contains_iff.mp htracked
  have hname : (change manager.now.1 state).fullName = name :=
    (hchange.key _ _).trans (KeyedMap.key_eq_of_lookup hstate)
  have hstamp : unixSeconds time ≤ (change manager.now.1 state).lastUpdated := by
    rw [hchange.stamp]
    exact unixSeconds_mono (le_now hreads)
  have hstamped := stampedFrom_updateNamespaceState (readsFrom_now hreads) hstamp
  rw [hname] at hstamped
  rw [modifyState, getNamespaceState, hstate]
  exact hstamped

theorem stampedFrom_trackCreation :
    (manager.trackCreation entry).StampedFrom time entry.fullName := by
  have hreads' := readsFrom_now hreads
  exact ⟨readsFrom_now hreads', _, KeyedMap.lookup_insert_self _ _,
    unixSeconds_mono (le_now hreads')⟩

/-- The settings of a configuration are recorded after another change in place. -/
theorem stampedFrom_configured {change : SystemTime → NamespaceState → NamespaceState}
    (hchange : Stamps change) (htracked : manager.namespaceStates.contains name = true)
    (info : NamespaceInfo) :
    ((manager.modifyState name change).modifyState name
      (updateStateFromConfigAndActual entry info)).StampedFrom time name := by
  have hchanged := stampedFrom_modifyState hreads hchange htracked
  exact stampedFrom_modifyState hchanged.reads (stamps_updateStateFromConfigAndActual entry info)
    hchanged.contains

theorem stampedFrom_finishCreation (created : SegwireResult NamespaceInfo)
    (htracked : manager.namespaceStates.contains entry.fullName = true) :
    (finishCreation entry created manager).2.StampedFrom time entry.fullName := by
  cases created with
  | error e => exact stampedFrom_modifyState hreads (stamps_setStatus .failed) htracked
  | ok info =>
    let netlink := manager.netlinkManager.applyInterfaces entry.fullName entry.config
    have hinterfaces : netlink.host.ReadsFrom time :=
      (NetlinkManager.requestsOnly_applyInterfaces _ _ _).readsFrom hreads
    have hroutes := (netlink.requestsOnly_applyRoutesAndDns entry.fullName entry.config).readsFrom
      hinterfaces
    let applied : NamespaceStateManager := { manager with
      netlinkManager := netlink.applyRoutesAndDns entry.fullName entry.config }
    have happlied : applied.netlinkManager.host.ReadsFrom time := hroutes
    exact stampedFrom_configured happlied (stamps_setStatus .active) htracked info

theorem stampedFrom_updateExistingNamespace (info : NamespaceInfo)
    (htracked : manager.namespaceStates.contains entry.fullName = true) :
    (manager.updateExistingNamespace entry info).2.StampedFrom time entry.fullName := by
  let applied : NamespaceStateManager := { manager with
    netlinkManager := manager.netlinkManager.applyRoutesAndDns entry.fullName entry.config }
  have happlied : applied.netlinkManager.host.ReadsFrom time :=
    (NetlinkManager.requestsOnly_applyRoutesAndDns _ _ _).readsFrom hreads
  exact stampedFrom_configured happlied stamps_touch htracked info

theorem stampedFrom_createStateFromActual (info : NamespaceInfo) :
    ((manager.createStateFromActual entry info).2.updateNamespaceState
      (manager.createStateFromActual entry info).1).StampedFrom time entry.fullName := by
  have hreads' := readsFrom_now (readsFrom_now hreads)
  exact ⟨readsFrom_now hreads', _, KeyedMap.lookup_insert_self _ _,
    unixSeconds_mono (le_now hreads')⟩

variable (hsimulated : manager.netlinkManager.isSimulated = true)
include hsimulated

theorem stampedFrom_createNewNamespace :
    (manager.createNewNamespace entry).2.StampedFrom time entry.fullName := by
  have htracked : (manager.trackCreation entry).StampedFrom time entry.fullName :=
    stampedFrom_trackCreation hreads
  have hsim : (manager.trackCreation entry).netlinkManager.isSimulated = true :=
    (sameSystem_trackCreation manager entry).isSimulated.trans hsimulated
  -- a simulated creation does not reach the clock
  have hhost : ((manager.trackCreation entry).netlinkManager.createNamespace
      entry.fullName).2.host = _ := NetlinkManager.host_createNamespace (.inl hsim)
  rw [createNewNamespace_eq]
  refine stampedFrom_finishCreation ?_ _ htracked.contains
  change ((manager.trackCreation entry).netlinkManager.createNamespace
    entry.fullName).2.host.ReadsFrom time
  rw [hhost]
  exact htracked.reads

/-- Processing a configured namespace stamps its state, unless it is reported as missing. -/
theorem stampedFrom_processConfiguredNamespace
    (h : manager.namespaceStates.lookup entry.fullName = none ∨
      managed.contains entry.fullName = true) :
    (manager.processConfiguredNamespace entry managed).2.StampedFrom time entry.fullName := by
  cases hstate : manager.namespaceStates.lookup entry.fullName with
  | some state =>
    have htracked : manager.namespaceStates.contains entry.fullName = true :=
      KeyedMap.contains_iff.mpr ⟨state, hstate⟩
    have hmanaged := h.resolve_left (by simp [hstate])
    obtain ⟨info, hactual⟩ := KeyedMap.contains_iff.mp hmanaged
    simp only [processConfiguredNamespace, getNamespaceState, hstate, hactual]
    split_ifs
    · exact stampedFrom_updateExistingNamespace hreads info htracked
    · exact stampedFrom_modifyState hreads stamps_touch htracked
  | none =>
    cases hactual : managed.lookup entry.fullName with
    | some info =>
      simp only [processConfiguredNamespace, getNamespaceState, hstate, hactual]
      exact stampedFrom_createStateFromActual hreads info
    | none =>
      rw [process_of_untracked_of_missing hstate hactual]
      exact stampedFrom_createNewNamespace hreads hsimulated

theorem readsFrom_processConfiguredNamespace :
    (manager.processConfiguredNamespace entry managed).2.netlinkManager.host.ReadsFrom time := by
  by_cases h : manager.namespaceStates.lookup entry.fullName = none ∨
      managed.contains entry.fullName = true
  · exact (stampedFrom_processConfiguredNamespace hreads hsimulated h).reads
  · rw [not_or, Bool.not_eq_true, KeyedMap.contains_eq_false_iff] at h
    obtain ⟨state, hstate⟩ := Option.ne_none_iff_exists'.mp h.1
    rw [process_of_tracked_of_missing hstate h.2]
    exact hreads

end Readings

/-! ### A synchronization that has nothing to do -/

/-- A state without the time of its last update. -/
def untouched (state : NamespaceState) : NamespaceState := { state with lastUpdated := 0 }

/-- A synchronization has nothing to do for the name: a configured name is tracked, and if it
is managed its state needs no update; a tracked name is configured or managed. -/
structure Quiescent (manager : NamespaceStateManager) (configManager : ConfigManager)
    (managed : KeyedMap NamespaceInfo.name) (k : String) : Prop where
  configured : ∀ entry, configManager.namespaceConfigs.lookup k = some entry →
    ∃ state, manager.namespaceStates.lookup k = some state ∧
      ∀ info, managed.lookup k = some info → needsNamespaceUpdate state entry info = false
  known : manager.namespaceStates.contains k = true →
    configManager.namespaceConfigs.contains k = true ∨ managed.contains k = true

/-- Nothing is reported but conflicts, and nothing is done but that the clock is read and the
times of the last updates are set. -/
structure Idle (before : NamespaceStateManager) (result : SyncResult)
    (after : NamespaceStateManager) : Prop where
  created : result.created = []
  updated : result.updated = []
  deleted : result.deleted = []
  errors : result.errors = []
  system : ∃ ticks, after.netlinkManager = { before.netlinkManager with
    host := { before.netlinkManager.host with ticks } }
  tracked : ∀ k, (after.namespaceStates.lookup k).map untouched =
    (before.namespaceStates.lookup k).map untouched

namespace Idle

variable {before after : NamespaceStateManager}

theorem refl (manager : NamespaceStateManager) : manager.Idle .empty manager :=
  ⟨rfl, rfl, rfl, rfl, ⟨manager.netlinkManager.host.ticks, rfl⟩, fun _ => rfl⟩

theorem now (h : before.Idle result after) : before.Idle result after.now.2 := by
  obtain ⟨ticks, hticks⟩ := h.system
  refine { h with system := ⟨ticks + 1, ?_⟩, tracked := h.tracked }
  change { after.netlinkManager with host :=
    { after.netlinkManager.host with ticks := after.netlinkManager.host.ticks + 1 } } = _
  rw [hticks]

theorem touch (h : before.Idle result after) (name : String) :
    before.Idle result (after.modifyState name fun now state => state.touch now) := by
  have htracked (k : String) : ((after.modifyState name fun now state =>
        state.touch now).namespaceStates.lookup k).map untouched =
      (before.namespaceStates.lookup k).map untouched := by
    have hafter : component k (after.modifyState name fun now state => state.touch now) = _ :=
      component_modifyState fullName_touch
    refine (congrArg (fun c => c.1.map untouched) hafter).trans (.trans ?_ (h.tracked k))
    split_ifs
    · exact Option.map_map ..
    · rfl
  cases hstate : after.namespaceStates.lookup name with
  | none =>
    refine { h with tracked := htracked, system := ?_ }
    rw [modifyState, getNamespaceState, hstate]
    exact h.system
  | some state =>
    refine { h with tracked := htracked, system := ?_ }
    rw [modifyState, getNamespaceState, hstate]
    exact h.now.system

/-- The tracked names are as before. -/
theorem contains (h : before.Idle result after) (k : String) :
    after.namespaceStates.contains k = before.namespaceStates.contains k := by
  have hsome := congrArg Option.isSome (h.tracked k)
  rw [Option.isSome_map, Option.isSome_map] at hsome
  exact hsome

end Idle

/-- A name that needs no update is at most touched. -/
theorem Idle.process {before after : NamespaceStateManager} {state : NamespaceState}
    (h : before.Idle result after) (name : String)
    (hstate : after.namespaceStates.lookup entry.fullName = some state)
    (hneeds : ∀ info, managed.lookup entry.fullName = some info →
      needsNamespaceUpdate state entry info = false) :
    before.Idle (result.record name (after.processConfiguredNamespace entry managed).1)
      (after.processConfiguredNamespace entry managed).2 := by
  cases hactual : managed.lookup entry.fullName with
  | some info =>
    have hprocess : after.processConfiguredNamespace entry managed =
        (.ok .noChange, after.modifyState entry.fullName fun now state => state.touch now) := by
      simp only [processConfiguredNamespace, getNamespaceState, hstate, hactual,
        hneeds info hactual]
      rfl
    rw [hprocess]
    exact h.touch entry.fullName
  | none =>
    rw [process_of_tracked_of_missing hstate hactual]
    exact { h with system := h.system, tracked := h.tracked }

theorem idle_syncLoop (hquiet : ∀ k, manager.Quiescent configManager managed k) :
    manager.Idle (syncLoop orders configManager managed manager).1
      (syncLoop orders configManager managed manager).2 := by
  apply (localStep_syncConfigured managed configManager orders.configs).foldl_preserves
    (KeyedMap.nodup_map_fst_iter _ _)
    (fun acc : SyncResult × NamespaceStateManager => manager.Idle acc.1 acc.2)
  · rintro mid ⟨name, entry⟩ hentry hview hmid
    have hk := KeyedMap.mem_iter.mp hentry
    have hname : entry.fullName = name := KeyedMap.key_eq_of_lookup hk
    obtain ⟨state, hstate, hneeds⟩ := (hquiet name).configured entry hk
    -- the state of the name is still the first one
    have hsame : mid.2.namespaceStates.lookup name = manager.namespaceStates.lookup name :=
      congrArg (fun view => view.1.1) hview
    subst hname
    exact hmid.process _ (hsame.trans hstate) hneeds
  · exact .refl manager

/-- A synchronization that has nothing to do for any name only touches states. -/
theorem idle_of_quiescent (orders : SyncOrders)
    (hlist : manager.netlinkManager.listNamespaces = .ok actual)
    (hquiet : ∀ k, manager.Quiescent configManager (managedActual configManager actual) k) :
    ∃ result, (manager.synchronizeState orders configManager).1 = .ok result ∧
      manager.Idle result (manager.synchronizeState orders configManager).2 := by
  have hloop : manager.Idle _ (syncLoop orders configManager _ manager).2 := idle_syncLoop hquiet
  generalize hlooped : syncLoop orders configManager (managedActual configManager actual) manager =
    looped at hloop
  -- no tracked name is unknown
  have hstale : looped.2.staleNames orders.states configManager
      (managedActual configManager actual) = [] := by
    rw [List.eq_nil_iff_forall_not_mem]
    intro k hk
    obtain ⟨htracked, hunconfigured, hunmanaged⟩ := mem_staleNames.mp hk
    have hknown := (hquiet k).known ((hloop.contains k).symm.trans htracked)
    rw [KeyedMap.contains, hunconfigured, KeyedMap.contains, hunmanaged] at hknown
    rcases hknown with h | h <;> cases h
  rw [synchronizeState_of_list hlist]
  dsimp only
  rw [hlooped, hstale]
  have hdone := hloop.now
  exact ⟨_, rfl, { hdone with
    created := hdone.created, deleted := rfl, system := hdone.system, tracked := hdone.tracked }⟩

/-! ### What the first synchronization leaves -/

theorem environment_processConfiguredNamespace :
    (manager.processConfiguredNamespace entry managed).2.netlinkManager.environment =
      manager.netlinkManager.environment := by
  by_cases h : (manager.namespaceStates.lookup entry.fullName).isSome = true ∨
      managed.contains entry.fullName = true
  · exact (sameSystem_processConfiguredNamespace h).environment
  · rw [not_or, Option.not_isSome_iff_eq_none, Bool.not_eq_true,
      KeyedMap.contains_eq_false_iff] at h
    rw [process_of_untracked_of_missing h.1 h.2]
    have hspec := createNewNamespace_spec manager entry
    dsimp only at hspec
    split_ifs at hspec
    · obtain ⟨createdAt, lastUpdated, hcreated⟩ := hspec.2
      exact congrArg (·.2.2) hcreated
    · obtain ⟨createdAt, lastUpdated, hfailed⟩ := hspec.2
      exact congrArg (·.2.2) hfailed

section First

variable (hsimulated : manager.netlinkManager.isSimulated = true)
  (hreads : manager.netlinkManager.host.ReadsFrom time)
include hsimulated hreads

/-- In the loop the clock shows nothing before `time`, and the backend stays simulated. -/
theorem readsFrom_foldl_syncConfigured (managed : KeyedMap NamespaceInfo.name)
    (entries : List (String × NamespaceConfigEntry)) :
    (entries.foldl (syncConfigured managed) (.empty, manager)).2.netlinkManager.isSimulated = true ∧
      (entries.foldl (syncConfigured managed) (.empty, manager)).2.netlinkManager.host.ReadsFrom
        time := by
  refine foldl_preserves (fun acc : SyncResult × NamespaceStateManager =>
    acc.2.netlinkManager.isSimulated = true ∧ acc.2.netlinkManager.host.ReadsFrom time)
    (fun acc entry hacc => ⟨?_, ?_⟩) entries ⟨hsimulated, hreads⟩
  · exact (congrArg Environment.simulated environment_processConfiguredNamespace).trans hacc.1
  · exact readsFrom_processConfiguredNamespace hacc.2 hacc.1

/-- The loop stamps the state of a configured name that is untracked or managed. -/
theorem exists_stamped_syncLoop (orders : SyncOrders)
    (hk : configManager.namespaceConfigs.lookup k = some entry)
    (h : manager.namespaceStates.lookup k = none ∨ managed.contains k = true) :
    ∃ state, (component k (syncLoop orders configManager managed manager).2).1 = some state ∧
      unixSeconds time ≤ state.lastUpdated := by
  have hname : entry.fullName = k := KeyedMap.key_eq_of_lookup hk
  have hmem : (k, entry) ∈ configManager.namespaceConfigs.iter orders.configs :=
    KeyedMap.mem_iter.mpr hk
  obtain ⟨before, after, -, hbefore, hafter⟩ :=
    (localStep_syncConfigured managed configManager orders.configs).exists_foldl
      (KeyedMap.nodup_map_fst_iter _ _) hmem (.empty, manager)
  obtain ⟨hsim, hreads⟩ := readsFrom_foldl_syncConfigured hsimulated hreads managed before
  generalize before.foldl (syncConfigured managed) (.empty, manager) = mid at *
  have hstate : mid.2.namespaceStates.lookup k = manager.namespaceStates.lookup k :=
    congrArg (fun view => view.1.1) hbefore
  have hstamped : (mid.2.processConfiguredNamespace entry managed).2.StampedFrom time
      entry.fullName := by
    refine stampedFrom_processConfiguredNamespace hreads hsim ?_
    rw [hname, hstate]
    exact h
  obtain ⟨state, hlookup, hstamp⟩ := hstamped.stamped
  rw [hname] at hlookup
  exact ⟨state, (congrArg (fun view => view.1.1) hafter).trans hlookup, hstamp⟩

/-- The synchronization leaves the state of such a name stamped. -/
theorem exists_stamped_synchronizeState (orders : SyncOrders)
    (hlist : manager.netlinkManager.listNamespaces = .ok actual)
    (hk : configManager.namespaceConfigs.lookup k = some entry)
    (h : manager.namespaceStates.lookup k = none ∨
      (managedActual configManager actual).contains k = true) :
    ∃ state, (manager.synchronizeState orders configManager).2.namespaceStates.lookup k =
        some state ∧ unixSeconds time ≤ state.lastUpdated := by
  obtain ⟨state, hstate, hstamp⟩ := exists_stamped_syncLoop hsimulated hreads orders hk h
  have hkept : component k (manager.synchronizeState orders configManager).2 = _ :=
    component_synchronizeState hlist
  -- a configured name is not cleaned up
  rw [if_neg (by simp [mem_staleNames, hk])] at hkept
  exact ⟨state, (congrArg Prod.fst hkept).trans hstate, hstamp⟩

end First

/-- The state was updated when the file was not newer, and the namespace is active. -/
theorem needsNamespaceUpdate_of_stamped {state : NamespaceState} {info : NamespaceInfo}
    (hmodified : entry.lastModified ≤ time) (hstamp : unixSeconds time ≤ state.lastUpdated)
    (hactive : info.active = true) : needsNamespaceUpdate state entry info = false := by
  have holder : ¬ state.lastUpdated < unixSeconds entry.lastModified :=
    not_lt.mpr ((unixSeconds_mono hmodified).trans hstamp)
  rw [needsNamespaceUpdate, hasConfigurationDrift, hactive, decide_eq_false holder]
  rfl

section Simulated

variable (hsimulated : manager.netlinkManager.isSimulated = true)
include hsimulated

theorem isSimulated_synchronizeState (orders : SyncOrders) (configManager : ConfigManager) :
    (manager.synchronizeState orders configManager).2.netlinkManager.isSimulated = true :=
  (congrArg Environment.simulated
    (synchronizeState_of_simulated hsimulated orders configManager "").2.2).trans hsimulated

/-- A tracked name that is missing keeps its state and stays missing. -/
theorem missing_synchronizeState {actual' : KeyedMap NamespaceInfo.name} {state : NamespaceState}
    (orders : SyncOrders) (hlist : manager.netlinkManager.listNamespaces = .ok actual)
    (hlist' : (manager.synchronizeState orders configManager).2.netlinkManager.listNamespaces =
      .ok actual')
    (hk : configManager.namespaceConfigs.lookup k = some entry)
    (hstate : manager.namespaceStates.lookup k = some state)
    (hmissing : (managedActual configManager actual).lookup k = none) :
    (manager.synchronizeState orders configManager).2.namespaceStates.lookup k = some state ∧
      (managedActual configManager actual').lookup k = none := by
  have hsame := synchronizeState_of_tracked_of_missing orders hlist hk hstate hmissing
  have hexists : (manager.synchronizeState orders configManager).2.netlinkManager.namespaceExists
      k = manager.netlinkManager.namespaceExists k := congrArg (·.2.1) hsame
  refine ⟨(congrArg Prod.fst hsame).trans hstate, ?_⟩
  rw [← KeyedMap.contains_eq_false_iff] at hmissing ⊢
  rw [contains_managed_of_simulated (isSimulated_synchronizeState hsimulated _ _) hlist', hexists,
    ← contains_managed_of_simulated hsimulated hlist, hmissing]

/-- What is managed stays managed. -/
theorem managed_synchronizeState {actual' : KeyedMap NamespaceInfo.name} (orders : SyncOrders)
    (hlist : manager.netlinkManager.listNamespaces = .ok actual)
    (hlist' : (manager.synchronizeState orders configManager).2.netlinkManager.listNamespaces =
      .ok actual')
    (h : (managedActual configManager actual).contains k = true) :
    (managedActual configManager actual').contains k = true := by
  rw [contains_managed_of_simulated hsimulated hlist, Bool.and_eq_true] at h
  rw [contains_managed_of_simulated (isSimulated_synchronizeState hsimulated _ _) hlist',
    (synchronizeState_of_simulated hsimulated orders configManager k).2.1, h.1, h.2]
  rfl

/-- If no configuration file is newer than `time`, a synchronization leaves nothing to do. -/
theorem quiescent_synchronizeState (hreads : manager.netlinkManager.host.ReadsFrom time)
    (orders : SyncOrders)
    (hmodified : configManager.namespaceConfigs.Forall fun entry => entry.lastModified ≤ time)
    (hlist' : (manager.synchronizeState orders configManager).2.netlinkManager.listNamespaces =
      .ok actual) (k : String) :
    (manager.synchronizeState orders configManager).2.Quiescent configManager
      (managedActual configManager actual) k := by
  obtain ⟨listed, hlist, -⟩ := exists_list_of_simulated hsimulated configManager
  constructor
  · intro entry hk
    by_cases h : manager.namespaceStates.lookup k = none ∨
        (managedActual configManager listed).contains k = true
    · obtain ⟨state, hstate, hstamp⟩ :=
        exists_stamped_synchronizeState hsimulated hreads orders hlist hk h
      exact ⟨state, hstate, fun info hinfo => needsNamespaceUpdate_of_stamped
        (hmodified k entry hk) hstamp (active_of_managed hlist' hinfo)⟩
    · rw [not_or, Bool.not_eq_true, KeyedMap.contains_eq_false_iff] at h
      obtain ⟨state, hstate⟩ := Option.ne_none_iff_exists'.mp h.1
      obtain ⟨hkept, hmissing⟩ :=
        missing_synchronizeState hsimulated orders hlist hlist' hk hstate h.2
      refine ⟨state, hkept, fun info hinfo => ?_⟩
      rw [hmissing] at hinfo
      cases hinfo
  · intro htracked
    rw [contains_synchronizeState hlist, Bool.or_eq_true, Bool.and_eq_true] at htracked
    exact htracked.imp_right fun h => managed_synchronizeState hsimulated orders hlist hlist' h.2

/-- In the simulation, with a clock that is never set back and no configuration file newer
than its next reading, a second synchronization is idle. -/
theorem idle_synchronizeState_twice (orders orders' : SyncOrders)
    (hclock : Monotone manager.netlinkManager.host.clock)
    (hmodified : configManager.namespaceConfigs.Forall fun entry =>
      entry.lastModified ≤ manager.now.1) :
    let first := (manager.synchronizeState orders configManager).2
    ∃ result, (first.synchronizeState orders' configManager).1 = .ok result ∧
      first.Idle result (first.synchronizeState orders' configManager).2 := by
  intro first
  have hsimulated' : first.netlinkManager.isSimulated = true :=
    isSimulated_synchronizeState hsimulated orders configManager
  obtain ⟨actual, hlist, -⟩ := exists_list_of_simulated hsimulated' configManager
  exact idle_of_quiescent orders' hlist fun k =>
    quiescent_synchronizeState hsimulated (Host.readsFrom_of_monotone hclock) orders hmodified
      hlist k

end Simulated

section Fixture

/-- A configuration whose file is five seconds old at `atSeven`. -/
def writtenEntry : NamespaceConfigEntry where
  config := .bare "one"
  filePath := ⟨["etc", "segwire", "namespaces", "one.toml"]⟩
  fullName := "new-one"
  lastModified := 2 * 10 ^ 9

/-- A daemon that has loaded the configuration. -/
def written : ConfigManager where
  daemonConfig := .standard "new"
  configFilePath := ⟨["etc", "segwire", "daemon.toml"]⟩
  namespaceConfigs := .insert writtenEntry .empty

/-- A simulated machine whose clock shows seven seconds after the epoch. -/
def atSeven : NamespaceStateManager :=
  .new (.newSimulated (.quiet 7 (Disk.fileSystem ⟨∅, ∅⟩ .sorted)))

theorem idle_synchronizeState_atSeven :
    let first := (atSeven.synchronizeState .sorted written).2
    ∃ result, (first.synchronizeState .sorted written).1 = .ok result ∧
      first.Idle result (first.synchronizeState .sorted written).2 :=
  idle_synchronizeState_twice rfl .sorted .sorted monotone_const
    (KeyedMap.forall_empty.insert (by decide))

end Fixture

end NamespaceStateManager

end Segwire.Daemon
