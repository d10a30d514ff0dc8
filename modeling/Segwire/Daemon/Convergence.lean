import Segwire.Daemon.ConfigStore
import Segwire.Daemon.Reconciliation

/-!
# Convergence of synchronization and conflict resolution

A synchronization reports as conflicts what it leaves undone. In the simulation, where
creations and deletions have no faults, resolving the reported conflicts as they
suggest makes the configured, the tracked and the managed names the same set. The
conflicts are about different names, and a resolution acts on its own name only, so
that their order does not matter.

## Main definitions

* `Convergence.Move`, `Convergence.apply` — what happens to tracked states and simulation
* `NamespaceStateManager.resolveAll` — resolving conflicts one after the other
* `NamespaceStateManager.Pending`, `Settled` — a conflict before and after its resolution

## Main results

* `NamespaceStateManager.resolveAll_of_pending` — pending conflicts are all settled
* `Convergence.converges_along_run`
-/

namespace Segwire.Daemon

open Foundation Segwire.Common

namespace NamespaceStateManager

variable {manager manager' : NamespaceStateManager} {configManager : ConfigManager}
  {entry : NamespaceConfigEntry} {conflict : StateConflict} {conflicts : List StateConflict}
  {k : String}

/-! ### One resolution -/

/-- The resolution of a conflict is going to succeed: the missing namespace can be
created, or the orphan is there to be deleted. -/
inductive Pending (configManager : ConfigManager) (manager : NamespaceStateManager) :
    StateConflict → Prop
  | missing {k : String} {entry : NamespaceConfigEntry}
      (configured : configManager.namespaceConfigs.lookup k = some entry)
      (creates : manager.netlinkManager.environment.creates
        (manager.netlinkManager.namespaceExists k) k = true) :
      Pending configManager manager (missingConflict k)
  | orphan {k : String} (simulated : manager.netlinkManager.environment.simulated = true)
      (valid : validateNamespaceName k = .ok ())
      (present : manager.netlinkManager.namespaceExists k = true) :
      Pending configManager manager (orphanConflict k)

/-- After its resolution a missing namespace is tracked and there, an orphan neither. -/
structure Settled (manager : NamespaceStateManager) (conflict : StateConflict) : Prop where
  tracked : manager.namespaceStates.contains conflict.namespaceName =
    decide (conflict.resolution = .createNamespace)
  present : manager.netlinkManager.namespaceExists conflict.namespaceName =
    decide (conflict.resolution = .createNamespace)

theorem Settled.missing (h : Settled manager (missingConflict k)) :
    manager.namespaceStates.contains k = true ∧ manager.netlinkManager.namespaceExists k = true :=
  ⟨h.tracked, h.present⟩

theorem Settled.orphan (h : Settled manager (orphanConflict k)) :
    manager.namespaceStates.contains k = false ∧ manager.netlinkManager.namespaceExists k = false :=
  ⟨h.tracked, h.present⟩

theorem Pending.congr (h : Pending configManager manager conflict)
    (hsame : component conflict.namespaceName manager' = component conflict.namespaceName manager) :
    Pending configManager manager' conflict := by
  have hpresent := congrArg (·.2.1) hsame
  have henvironment := congrArg (·.2.2) hsame
  dsimp only [component] at hpresent henvironment
  cases h with
  | missing configured creates =>
    refine .missing configured ?_
    change manager'.netlinkManager.environment.creates
      (manager'.netlinkManager.namespaceExists (missingConflict _).namespaceName) _ = true
    rw [hpresent, henvironment]
    exact creates
  | orphan simulated valid present =>
    exact .orphan (henvironment ▸ simulated) valid (hpresent.trans present)

theorem Settled.congr (h : Settled manager conflict)
    (hsame : component conflict.namespaceName manager' = component conflict.namespaceName manager) :
    Settled manager' conflict where
  tracked := by
    rw [← h.tracked]
    exact congrArg (·.1.isSome) hsame
  present := (congrArg (·.2.1) hsame).trans h.present

/-- A pending conflict is settled by its resolution. -/
theorem resolveConflict_of_pending (h : Pending configManager manager conflict) :
    (manager.resolveConflict conflict configManager).1 = .ok () ∧
      Settled (manager.resolveConflict conflict configManager).2 conflict := by
  cases h with
  | @missing k entry configured creates =>
    obtain rfl : entry.fullName = k := KeyedMap.key_eq_of_lookup configured
    have hspec := createNewNamespace_spec manager entry
    dsimp only at hspec
    rw [if_pos creates] at hspec
    obtain ⟨hcreated, createdAt, lastUpdated, hcomponent⟩ := hspec
    have hresolve : manager.resolveConflict (missingConflict entry.fullName) configManager =
        (.ok (), (manager.createNewNamespace entry).2) := by
      have hfound : configManager.getNamespaceConfig entry.fullName = some entry := configured
      simp only [resolveConflict, missingConflict, hfound]
      rcases hpair : manager.createNewNamespace entry with ⟨e | action, created⟩
      · rw [hpair] at hcreated
        cases hcreated
      · rfl
    rw [hresolve]
    refine ⟨rfl, ?_, congrArg (·.2.1) hcomponent⟩
    exact congrArg (·.1.isSome) hcomponent
  | @orphan k simulated valid present =>
    have hspec := manager.netlinkManager.deleteNamespace_spec k
    have hdeletes : manager.netlinkManager.deletes k = true := by
      have hsimulated : manager.netlinkManager.isSimulated = true := simulated
      simp [NetlinkManager.deletes, valid, Except.toBool, present, hsimulated]
    have hok := hspec.ok_iff.mpr hdeletes
    simp only [resolveConflict, orphanConflict]
    rcases hdeleted : manager.netlinkManager.deleteNamespace k with ⟨e | ⟨⟩, netlink⟩ <;>
      rw [hdeleted] at hspec hok
    · cases hok
    · refine ⟨rfl, ?_, ?_⟩
      · simp [removeNamespaceState, KeyedMap.contains, KeyedMap.lookup_erase]
      · have hgone := hspec.present
        rw [hdeletes, Bool.not_true, Bool.and_false] at hgone
        exact hgone

/-! ### Resolving every conflict -/

/-- Resolve conflicts one after the other, up to the first failure. -/
def resolveAll (configManager : ConfigManager) :
    List StateConflict → NamespaceStateManager → SegwireResult Unit × NamespaceStateManager
  | [], manager => (.ok (), manager)
  | conflict :: conflicts, manager =>
    match manager.resolveConflict conflict configManager with
    | (.ok (), manager) => resolveAll configManager conflicts manager
    | (.error e, manager) => (.error e, manager)

/-- Pending conflicts about different names are all settled, and no other name is
touched. -/
theorem resolveAll_of_pending (hnodup : (conflicts.map StateConflict.namespaceName).Nodup)
    (hpending : ∀ conflict ∈ conflicts, Pending configManager manager conflict) :
    (resolveAll configManager conflicts manager).1 = .ok () ∧
      (∀ k, k ∉ conflicts.map StateConflict.namespaceName →
        component k (resolveAll configManager conflicts manager).2 = component k manager) ∧
      ∀ conflict ∈ conflicts, Settled (resolveAll configManager conflicts manager).2 conflict := by
  induction conflicts generalizing manager with
  | nil => exact ⟨rfl, fun _ _ => rfl, fun _ hmem => absurd hmem List.not_mem_nil⟩
  | cons conflict conflicts ih =>
    obtain ⟨hfresh, hnodup⟩ := List.nodup_cons.mp hnodup
    obtain ⟨hok, hsettled⟩ := resolveConflict_of_pending (hpending conflict List.mem_cons_self)
    have hresolve : resolveAll configManager (conflict :: conflicts) manager =
        resolveAll configManager conflicts
          (manager.resolveConflict conflict configManager).2 := by
      rw [resolveAll]
      rcases hpair : manager.resolveConflict conflict configManager with ⟨e | ⟨⟩, resolved⟩
      · rw [hpair] at hok
        cases hok
      · rfl
    -- the conflicts that are left are about other names
    have hrest : ∀ other ∈ conflicts,
        Pending configManager (manager.resolveConflict conflict configManager).2 other := by
      intro other hother
      refine (hpending other (List.mem_cons_of_mem _ hother)).congr
        (component_resolveConflict_of_ne fun hname => hfresh ?_)
      exact List.mem_map.mpr ⟨other, hother, hname⟩
    obtain ⟨hall, huntouched, hsettledRest⟩ := ih hnodup hrest
    rw [hresolve]
    refine ⟨hall, fun k hk => ?_, fun other hother => ?_⟩
    · rw [List.map_cons, List.mem_cons, not_or] at hk
      rw [huntouched k hk.2, component_resolveConflict_of_ne hk.1]
    · rcases List.mem_cons.mp hother with rfl | hother
      · exact hsettled.congr (huntouched _ hfresh)
      · exact hsettledRest other hother

/-! ### The conflicts of a synchronization -/

section Synchronized

variable {orders : SyncOrders} {actual : KeyedMap NamespaceInfo.name} {result : SyncResult}

/-- The loop reports at most one conflict for each name. -/
theorem length_conflictsAbout_syncLoop (managed : KeyedMap NamespaceInfo.name)
    (orders : SyncOrders) (manager : NamespaceStateManager) (k : String) :
    (conflictsAbout k (syncLoop orders configManager managed manager).1).length ≤ 1 := by
  cases hk : configManager.namespaceConfigs.lookup k with
  | none =>
    have hview : loopView k (syncLoop orders configManager managed manager) = _ :=
      loopView_syncLoop_of_unconfigured hk
    rw [show conflictsAbout k (syncLoop orders configManager managed manager).1 = [] from
      congrArg Prod.snd hview]
    simp
  | some entry =>
    obtain ⟨mid, -, hview, -⟩ := exists_loopView_syncLoop managed orders manager hk
    rw [show conflictsAbout k (syncLoop orders configManager managed manager).1 =
      reported (mid.processConfiguredNamespace entry managed).1 from congrArg Prod.snd hview,
      reported_processConfiguredNamespace]
    split_ifs <;> simp

/-- The conflicts of a synchronization are about different names. -/
theorem nodup_conflicts (hlist : manager.netlinkManager.listNamespaces = .ok actual)
    (hresult : (manager.synchronizeState orders configManager).1 = .ok result) :
    (result.conflicts.map StateConflict.namespaceName).Nodup := by
  rw [synchronizeState_of_list hlist] at hresult
  obtain rfl := Except.ok.inj hresult
  dsimp only
  rw [List.map_append, List.nodup_append]
  refine ⟨?_, ?_, ?_⟩
  · rw [List.nodup_iff_count_le_one]
    intro k
    rw [List.count, List.countP_map, List.countP_eq_length_filter]
    exact length_conflictsAbout_syncLoop (managedActual configManager actual) orders manager k
  · -- the orphans are keys of the map of actual namespaces
    rw [orphanConflicts, List.map_map]
    change (List.map id _).Nodup
    rw [List.map_id]
    exact (KeyedMap.nodup_map_fst_iter _ _).filter _
  · -- a missing namespace is configured, and an orphan is not
    intro name hname name' hname' hsame
    obtain ⟨conflict, hmissing, rfl⟩ := List.mem_map.mp hname
    obtain ⟨conflict', horphan, rfl⟩ := List.mem_map.mp hname'
    obtain ⟨k, hconfigured, -, -, rfl⟩ := mem_conflicts_syncLoop.mp hmissing
    obtain ⟨k', hunconfigured, -, rfl⟩ := mem_orphanConflicts.mp horphan
    obtain rfl : k = k' := hsame
    rw [hconfigured] at hunconfigured
    cases hunconfigured

end Synchronized

/-! ### Convergence in the simulation -/

/-- The names in the simulation are valid. -/
structure SimulatedNames (manager : NamespaceStateManager) : Prop where
  simulated : manager.netlinkManager.isSimulated = true
  valid : ∀ k, manager.netlinkManager.namespaceExists k = true → validateNamespaceName k = .ok ()

/-- The configured names carry the prefix and are valid. -/
def ManagedNames (configManager : ConfigManager) : Prop :=
  ∀ k, configManager.namespaceConfigs.contains k = true →
    configManager.matchesNamespacePrefix k = true ∧ validateNamespaceName k = .ok ()

/-- Every managed name is configured and tracked, and the other way round. -/
def Converged (configManager : ConfigManager) (manager : NamespaceStateManager) : Prop :=
  ∀ k, manager.namespaceStates.contains k = configManager.namespaceConfigs.contains k ∧
    (manager.netlinkManager.namespaceExists k && configManager.matchesNamespacePrefix k) =
      configManager.namespaceConfigs.contains k

/-- A synchronization succeeds, and resolving the conflicts that it reports succeeds in
every order, makes the configured, the tracked and the managed names one set, and
leaves the other namespaces alone. -/
def ConvergesFrom (orders : SyncOrders) (configManager : ConfigManager)
    (manager : NamespaceStateManager) : Prop :=
  ∃ result, (manager.synchronizeState orders configManager).1 = .ok result ∧
    result.errors = [] ∧
    ∀ conflicts, conflicts.Perm result.conflicts →
      let resolved := resolveAll configManager conflicts
        (manager.synchronizeState orders configManager).2
      resolved.1 = .ok () ∧ Converged configManager resolved.2 ∧
        ∀ k, configManager.matchesNamespacePrefix k = false →
          resolved.2.netlinkManager.namespaceExists k = manager.netlinkManager.namespaceExists k

section Converges

variable {orders : SyncOrders} {result : SyncResult} (hnames : manager.SimulatedNames)
  (hmanaged : ManagedNames configManager)
include hnames hmanaged

theorem errors_synchronizeState
    (hresult : (manager.synchronizeState orders configManager).1 = .ok result) :
    result.errors = [] := by
  obtain ⟨actual, hlist, hcontains⟩ := exists_list_of_simulated hnames.simulated configManager
  rw [synchronizeState_of_list hlist] at hresult
  obtain rfl := Except.ok.inj hresult
  refine (localStep_syncConfigured (managedActual configManager actual) configManager
    orders.configs).foldl_preserves (KeyedMap.nodup_map_fst_iter _ _)
      (fun acc : SyncResult × NamespaceStateManager => acc.1.errors = []) ?_ rfl
  rintro ⟨soFar, mid⟩ ⟨name, entry⟩ hentry hview herrors
  have hk := KeyedMap.mem_iter.mp hentry
  obtain rfl : entry.fullName = name := KeyedMap.key_eq_of_lookup hk
  have hmid : component entry.fullName mid = component entry.fullName manager :=
    congrArg Prod.fst hview
  -- no configuration is processed into an error
  have hok : ∃ action, (mid.processConfiguredNamespace entry (managedActual configManager
      actual)).1 = .ok action := by
    cases hstate : mid.namespaceStates.lookup entry.fullName with
    | some state =>
      cases hactual : (managedActual configManager actual).lookup entry.fullName with
      | some info => exact ⟨_, (process_of_tracked_of_managed hstate hactual).1⟩
      | none => exact ⟨_, congrArg Prod.fst (process_of_tracked_of_missing hstate hactual)⟩
    | none =>
      cases hactual : (managedActual configManager actual).lookup entry.fullName with
      | some info =>
        exact ⟨_, (process_of_untracked_of_managed hstate hactual
          (active_of_managed hlist hactual)).1⟩
      | none =>
        obtain ⟨hmatches, hvalid⟩ := hmanaged _ (KeyedMap.contains_iff.mpr ⟨entry, hk⟩)
        have habsent := hcontains entry.fullName
        rw [KeyedMap.contains_eq_false_iff.mpr hactual, hmatches, Bool.and_true] at habsent
        have hexists : mid.netlinkManager.namespaceExists entry.fullName = false :=
          (congrArg (·.2.1) hmid).trans habsent.symm
        have hsimulated : mid.netlinkManager.environment.simulated = true :=
          (congrArg (·.2.2.simulated) hmid).trans hnames.simulated
        have hspec := createNewNamespace_spec mid entry
        dsimp only at hspec
        rw [hexists, Environment.creates_of_simulated hsimulated, hvalid] at hspec
        rw [if_pos (by rfl)] at hspec
        rw [process_of_untracked_of_missing hstate hactual]
        exact ⟨_, hspec.1⟩
  obtain ⟨action, hok⟩ := hok
  change (soFar.record _ (mid.processConfiguredNamespace entry _).1).errors = []
  rw [hok]
  cases action <;> exact herrors

/-- Every conflict that a synchronization reports is pending after it. -/
theorem pending_of_mem_conflicts
    (hresult : (manager.synchronizeState orders configManager).1 = .ok result) :
    ∀ conflict ∈ result.conflicts,
      Pending configManager (manager.synchronizeState orders configManager).2 conflict := by
  obtain ⟨actual, hlist, hcontains⟩ := exists_list_of_simulated hnames.simulated configManager
  intro conflict hconflict
  obtain ⟨k, hconfigured, htracked, hmissing, rfl⟩ | ⟨k, hunconfigured, hthere, rfl⟩ :=
    (mem_conflicts_iff hlist hresult).mp hconflict
  · obtain ⟨hmatches, hvalid⟩ := hmanaged k hconfigured
    obtain ⟨entry, hentry⟩ := KeyedMap.contains_iff.mp hconfigured
    obtain ⟨-, hexists, henvironment⟩ :=
      synchronizeState_of_simulated hnames.simulated orders configManager k
    rw [hcontains, hmatches, Bool.and_true] at hmissing
    rw [hmissing, htracked, Bool.not_true, Bool.and_false, Bool.false_and, Bool.or_false] at hexists
    have hsimulated : manager.netlinkManager.environment.simulated = true := hnames.simulated
    refine .missing hentry ?_
    rw [hexists, henvironment]
    rw [Environment.creates_of_simulated hsimulated, hvalid]
    rfl
  · obtain ⟨-, hexists, henvironment⟩ :=
      synchronizeState_of_simulated hnames.simulated orders configManager k
    rw [hcontains, Bool.and_eq_true] at hthere
    rw [hthere.1, Bool.true_or] at hexists
    refine .orphan ?_ (hnames.valid k hthere.1) hexists
    rw [henvironment]
    exact hnames.simulated

/-- Once the reported conflicts are settled and nothing else is touched, a name is
tracked, and managed in the system, iff it is configured. -/
theorem converged_of_settled {after : NamespaceStateManager}
    (hresult : (manager.synchronizeState orders configManager).1 = .ok result)
    (hsettled : ∀ conflict ∈ result.conflicts, after.Settled conflict)
    (huntouched : (∀ conflict ∈ result.conflicts, conflict.namespaceName ≠ k) →
      component k after = component k (manager.synchronizeState orders configManager).2) :
    after.namespaceStates.contains k = configManager.namespaceConfigs.contains k ∧
      (after.netlinkManager.namespaceExists k && configManager.matchesNamespacePrefix k) =
        configManager.namespaceConfigs.contains k ∧
      (configManager.matchesNamespacePrefix k = false →
        after.netlinkManager.namespaceExists k = manager.netlinkManager.namespaceExists k) := by
  obtain ⟨actual, hlist, hcontains⟩ := exists_list_of_simulated hnames.simulated configManager
  have hmissing : missingConflict k ∈ result.conflicts ↔ _ := missingConflict_mem_iff hlist hresult
  have horphan : orphanConflict k ∈ result.conflicts ↔ _ := orphanConflict_mem_iff hlist hresult
  rw [hcontains] at hmissing horphan
  by_cases hmiss : missingConflict k ∈ result.conflicts
  · obtain ⟨htracked, hpresent⟩ := (hsettled _ hmiss).missing
    obtain ⟨hconfigured, -, -⟩ := hmissing.mp hmiss
    rw [htracked, hpresent, hconfigured, (hmanaged k hconfigured).1]
    exact ⟨rfl, rfl, fun houtside => by cases houtside⟩
  by_cases horph : orphanConflict k ∈ result.conflicts
  · obtain ⟨htracked, hpresent⟩ := (hsettled _ horph).orphan
    obtain ⟨hunconfigured, hthere⟩ := horphan.mp horph
    rw [Bool.and_eq_true] at hthere
    rw [htracked, hpresent, hunconfigured, hthere.2]
    exact ⟨rfl, rfl, fun houtside => by cases houtside⟩
  · -- nothing was reported, so the synchronization has left nothing to do
    have hsame := huntouched fun conflict hconflict hk => by
      obtain ⟨k', -, -, -, rfl⟩ | ⟨k', -, -, rfl⟩ :=
        (mem_conflicts_iff hlist hresult).mp hconflict
      · exact hmiss (hk ▸ hconflict)
      · exact horph (hk ▸ hconflict)
    obtain ⟨htracked, hexists, -⟩ :=
      synchronizeState_of_simulated hnames.simulated orders configManager k
    have htracked' : after.namespaceStates.contains k = _ :=
      (congrArg (·.1.isSome) hsame).trans htracked
    have hexists' : after.netlinkManager.namespaceExists k = _ :=
      (congrArg (·.2.1) hsame).trans hexists
    rw [hmissing] at hmiss
    rw [horphan] at horph
    rw [htracked', hexists']
    cases hconfigured : configManager.namespaceConfigs.contains k with
    | true =>
      obtain ⟨hmatches, hvalid⟩ := hmanaged k hconfigured
      have hthere : manager.namespaceStates.contains k = true →
          manager.netlinkManager.namespaceExists k = true := by
        intro hwas
        by_contra habsent
        exact hmiss ⟨hconfigured, hwas, by simp [habsent]⟩
      refine ⟨rfl, ?_, fun houtside => by rw [hmatches] at houtside; cases houtside⟩
      cases hwas : manager.namespaceStates.contains k with
      | true => simp [hthere hwas, hmatches]
      | false => simp [hmatches, hvalid, Except.toBool]
    | false =>
      have hunmanaged : (manager.netlinkManager.namespaceExists k &&
          configManager.matchesNamespacePrefix k) = false := by
        by_contra hthere
        exact horph ⟨hconfigured, by simpa using hthere⟩
      refine ⟨by simp [hunmanaged], by simpa using hunmanaged, fun _ => by simp⟩

/-- Resolving the conflicts in any order settles them all. -/
theorem convergesFrom_of_names (orders : SyncOrders) :
    ConvergesFrom orders configManager manager := by
  obtain ⟨actual, hlist, -⟩ := exists_list_of_simulated hnames.simulated configManager
  have hok : ∃ result, (manager.synchronizeState orders configManager).1 = .ok result := by
    rw [synchronizeState_of_list hlist]
    exact ⟨_, rfl⟩
  obtain ⟨result, hresult⟩ := hok
  refine ⟨result, hresult, errors_synchronizeState hnames hmanaged hresult,
    fun conflicts hperm => ?_⟩
  have hpending := pending_of_mem_conflicts hnames hmanaged hresult
  obtain ⟨hresolved, huntouched, hsettled⟩ := resolveAll_of_pending
    ((hperm.map StateConflict.namespaceName).nodup_iff.mpr (nodup_conflicts hlist hresult))
    fun conflict hmem => hpending conflict (hperm.mem_iff.mp hmem)
  have hname (k : String) := converged_of_settled hnames hmanaged hresult
    (fun conflict hmem => hsettled conflict (hperm.mem_iff.mpr hmem))
    fun hnone => huntouched k fun hmem => by
      obtain ⟨conflict, hconflict, hk⟩ := List.mem_map.mp hmem
      exact hnone conflict (hperm.mem_iff.mp hconflict) hk
  exact ⟨hresolved, fun k => ⟨(hname k).1, (hname k).2.1⟩, fun k => (hname k).2.2⟩

end Converges

/-! ### What keeps the names of the simulation valid -/

/-- A simulation into which only valid names are entered. -/
theorem SimulatedNames.of_entered (h : manager.SimulatedNames)
    (hsimulated : manager'.netlinkManager.isSimulated = manager.netlinkManager.isSimulated)
    (hentered : ∀ k, manager'.netlinkManager.namespaceExists k = true →
      manager.netlinkManager.namespaceExists k = true ∨ validateNamespaceName k = .ok ()) :
    manager'.SimulatedNames where
  simulated := hsimulated.trans h.simulated
  valid k hk := (hentered k hk).elim (h.valid k) id

theorem SimulatedNames.synchronizeState (h : manager.SimulatedNames) (orders : SyncOrders)
    (configManager : ConfigManager) :
    (manager.synchronizeState orders configManager).2.SimulatedNames := by
  have henvironment := (synchronizeState_of_simulated h.simulated orders configManager "").2.2
  refine h.of_entered (congrArg Environment.simulated henvironment) fun k hk => ?_
  rw [(synchronizeState_of_simulated h.simulated orders configManager k).2.1] at hk
  simp only [Bool.or_eq_true, Bool.and_eq_true, Except.toBool_eq_true_iff] at hk
  exact hk.imp_right fun entered => entered.2

theorem SimulatedNames.createNewNamespace (h : manager.SimulatedNames)
    (entry : NamespaceConfigEntry) : (manager.createNewNamespace entry).2.SimulatedNames := by
  have hspec := createNewNamespace_spec manager entry
  have hsimulated : manager.netlinkManager.environment.simulated = true := h.simulated
  have hself : (manager.createNewNamespace entry).2.netlinkManager.environment =
        manager.netlinkManager.environment ∧
      ((manager.createNewNamespace entry).2.netlinkManager.namespaceExists entry.fullName = true →
        manager.netlinkManager.namespaceExists entry.fullName = true ∨
          validateNamespaceName entry.fullName = .ok ()) := by
    dsimp only at hspec
    split_ifs at hspec with hcreates
    · obtain ⟨-, createdAt, lastUpdated, hcomponent⟩ := hspec
      exact ⟨congrArg (·.2.2) hcomponent,
        fun _ => .inr (Except.toBool_eq_true_iff.mp (Environment.valid_of_creates hcreates))⟩
    · obtain ⟨-, createdAt, lastUpdated, hcomponent⟩ := hspec
      refine ⟨congrArg (·.2.2) hcomponent, fun hk => .inl ?_⟩
      have hpresent := (congrArg (·.2.1) hcomponent).symm.trans hk
      simpa [Environment.leavesPlaceholder_of_simulated hsimulated] using hpresent
  refine h.of_entered (congrArg Environment.simulated hself.1) fun k hk => ?_
  by_cases hname : k = entry.fullName
  · subst hname
    exact hself.2 hk
  · have hsame : component k (manager.createNewNamespace entry).2 = component k manager :=
      component_createNewNamespace_of_ne hname
    exact .inl ((congrArg (·.2.1) hsame).symm.trans hk)

theorem SimulatedNames.resolveConflict (h : manager.SimulatedNames) (conflict : StateConflict)
    (configManager : ConfigManager) :
    (manager.resolveConflict conflict configManager).2.SimulatedNames := by
  unfold NamespaceStateManager.resolveConflict
  cases conflict.resolution with
  | createNamespace =>
    dsimp only
    cases configManager.getNamespaceConfig conflict.namespaceName with
    | none => exact h
    | some entry =>
      have hcreated := h.createNewNamespace entry
      dsimp only
      split <;> next hresult =>
        rw [hresult] at hcreated
        exact hcreated
  | deleteNamespace =>
    have hspec := manager.netlinkManager.deleteNamespace_spec conflict.namespaceName
    have hdeleted : SimulatedNames { manager with netlinkManager :=
        (manager.netlinkManager.deleteNamespace conflict.namespaceName).2 } := by
      refine h.of_entered (congrArg Environment.simulated hspec.environment) fun k hk => .inl ?_
      by_cases hname : k = conflict.namespaceName
      · subst hname
        replace hk := hspec.present.symm.trans hk
        exact (Bool.and_eq_true_iff.mp hk).1
      · exact (hspec.others k hname).symm.trans hk
    dsimp only
    split <;> next hresult =>
      rw [hresult] at hdeleted
      exact ⟨hdeleted.simulated, hdeleted.valid⟩

end NamespaceStateManager

/-! ### Runs -/

namespace NetlinkManager

/-- A change of the simulated namespaces. -/
def simulate (change : SimulatedState → SimulatedState) (netlink : NetlinkManager) :
    NetlinkManager :=
  match netlink.backend with
  | .simulated state => { netlink with backend := .simulated (change state) }
  | .real => netlink

end NetlinkManager

namespace Convergence

open NamespaceStateManager

/-- What happens to the tracked states and the simulation: what the daemon does, with
any configurations, and namespaces that appear or vanish without it. -/
inductive Move
  | synchronize (orders : SyncOrders) (configManager : ConfigManager)
  | resolveConflict (conflict : StateConflict) (configManager : ConfigManager)
  | performMaintenance
  | track (state : NamespaceState)
  | untrack (name : String)
  | appears (info : NamespaceInfo) (active : info.active = true)
      (valid : validateNamespaceName info.name = .ok ())
  | vanishes (name : String)
  | hostChange (host : Host)

/-- The manager after a move. -/
def apply (manager : NamespaceStateManager) : Move → NamespaceStateManager
  | .synchronize orders configManager => (manager.synchronizeState orders configManager).2
  | .resolveConflict conflict configManager => (manager.resolveConflict conflict configManager).2
  | .performMaintenance => manager.performMaintenance
  -- the handlers of D-Bus calls record and forget states
  | .track state => manager.updateNamespaceState state
  | .untrack name => manager.removeNamespaceState name
  | .appears info active _ =>
    { manager with netlinkManager := manager.netlinkManager.simulate (·.add info active) }
  | .vanishes name =>
    { manager with netlinkManager := manager.netlinkManager.simulate (·.remove name) }
  | .hostChange host => { manager with netlinkManager := { manager.netlinkManager with host } }

variable {manager : NamespaceStateManager}

theorem simulatedNames_simulate (h : manager.SimulatedNames)
    {change : SimulatedState → SimulatedState}
    (hentered : ∀ state k, (change state).namespaces.contains k = true →
      state.namespaces.contains k = true ∨ validateNamespaceName k = .ok ()) :
    SimulatedNames
      { manager with netlinkManager := manager.netlinkManager.simulate change } := by
  obtain ⟨state, hbackend⟩ := NetlinkManager.exists_backend_of_isSimulated h.simulated
  refine ⟨?_, fun k hk => ?_⟩
  · simp [NetlinkManager.simulate, hbackend, NetlinkManager.isSimulated]
  · simp only [NetlinkManager.simulate, hbackend, NetlinkManager.namespaceExists] at hk
    rcases hentered state k hk with hwas | hvalid
    · refine h.valid k ?_
      rw [NetlinkManager.namespaceExists, hbackend]
      exact hwas
    · exact hvalid

theorem simulatedNames_apply (h : manager.SimulatedNames) (move : Move) :
    (apply manager move).SimulatedNames := by
  cases move with
  | synchronize orders configManager => exact h.synchronizeState orders configManager
  | resolveConflict conflict configManager => exact h.resolveConflict conflict configManager
  | performMaintenance => exact ⟨h.simulated, h.valid⟩
  | track state => exact ⟨h.simulated, h.valid⟩
  | untrack name => exact ⟨h.simulated, h.valid⟩
  | appears info active valid =>
    refine simulatedNames_simulate h fun state k hk => ?_
    simp only [SimulatedState.add, KeyedMap.contains, KeyedMap.lookup_insert] at hk
    split_ifs at hk with hname
    · exact .inr (hname ▸ valid)
    · exact .inl hk
  | vanishes name =>
    refine simulatedNames_simulate h fun state k hk => .inl ?_
    simp only [SimulatedState.remove, KeyedMap.contains, KeyedMap.lookup_erase] at hk
    split_ifs at hk
    · cases hk
    · exact hk
  | hostChange host =>
    refine h.of_entered rfl fun k hk => .inl ?_
    -- the simulation is not on the machine
    obtain ⟨state, hbackend⟩ := NetlinkManager.exists_backend_of_isSimulated h.simulated
    simpa [apply, NetlinkManager.namespaceExists, hbackend] using hk

/-- Convergence from every state that a run reaches, for every configuration under
managed names. -/
theorem converges_along_run {configManager : ConfigManager} (hmanaged : ManagedNames configManager)
    (host : Host) (moves : List Move) (orders : SyncOrders) :
    ConvergesFrom orders configManager (run apply (.new (.newSimulated host)) moves) := by
  have hstart : SimulatedNames (.new (.newSimulated host)) :=
    ⟨rfl, fun k hk => by cases hk⟩
  have hnames := run_invariant SimulatedNames (fun _ move h => simulatedNames_apply h move) hstart
    moves
  exact convergesFrom_of_names hnames hmanaged orders

/-- The namespace of the configuration vanishes after it was created, and another one
under the prefix appears. -/
def disturbed : List Move :=
  [.synchronize .sorted ConfigManager.underNew, .vanishes "new-one",
    .appears ⟨"new-two", 7, ⟨["sim", "netns", "new-two"]⟩, true⟩ rfl (by decide)]

theorem converges_disturbed :
    ConvergesFrom .sorted ConfigManager.underNew
      (run apply (.new (.newSimulated (.quiet 0 ConfigManager.oneNamespace))) disturbed) := by
  have hmanaged : ManagedNames ConfigManager.underNew := by
    have hkeys : ∀ k ∈ ConfigManager.underNew.namespaceConfigs.toMap.keys,
        ConfigManager.underNew.matchesNamespacePrefix k = true ∧
          validateNamespaceName k = .ok () := by
      decide
    intro k hk
    exact hkeys k (Finmap.mem_keys.mpr (Finmap.lookup_isSome.mp hk))
  exact converges_along_run hmanaged _ disturbed .sorted

end Convergence

end Segwire.Daemon
