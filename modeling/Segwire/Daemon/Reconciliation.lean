import Segwire.Daemon.EventLoop
import Segwire.Daemon.SyncReports

/-!
# Reconciliation of configurations and system

After a configuration event the daemon forces a synchronization. It creates the
configured namespaces that it does not track and that are not there. It deletes
nothing: a namespace without configuration, and a tracked one that has disappeared,
are reported as conflicts.

## Main definitions

* `Managers.Reconciled` — the managed namespaces in the system are the configured ones
* `Managers.ReconciledUpTo` — they are, up to the reported conflicts

## Main results

* `NamespaceStateManager.synchronizeState_of_simulated` — what a synchronization does to a
  name in the simulation
* `DaemonEventLoop.reconciled_up_to_conflicts` — every difference is reported, and
  nothing else is
* `DaemonEventLoop.not_reconciled_after_delete` — a namespace outlives its file
-/

namespace Segwire.Daemon

open Foundation Segwire.Common

namespace NamespaceStateManager

variable {manager : NamespaceStateManager} {configManager : ConfigManager} {orders : SyncOrders}
  {result : SyncResult} {k : String}

section Simulated

variable (hsimulated : manager.netlinkManager.isSimulated = true)
include hsimulated

/-- In the simulation, the managed namespaces are those that exist under the prefix. -/
theorem contains_managed_of_simulated {actual : KeyedMap NamespaceInfo.name}
    (hlist : manager.netlinkManager.listNamespaces = .ok actual) (k : String) :
    (managedActual configManager actual).contains k =
      (manager.netlinkManager.namespaceExists k && configManager.matchesNamespacePrefix k) := by
  rw [contains_managedActual, NetlinkManager.contains_listed hlist, hsimulated]
  simp

/-- The simulation lists its namespaces. -/
theorem exists_list_of_simulated (configManager : ConfigManager) : ∃ actual,
    manager.netlinkManager.listNamespaces = .ok actual ∧
      ∀ k, (managedActual configManager actual).contains k =
        (manager.netlinkManager.namespaceExists k && configManager.matchesNamespacePrefix k) := by
  have hlist : ∃ actual, manager.netlinkManager.listNamespaces = .ok actual := by
    cases hbackend : manager.netlinkManager.backend with
    | simulated state => exact ⟨state.namespaces, by rw [NetlinkManager.listNamespaces, hbackend]⟩
    | real =>
      rw [NetlinkManager.isSimulated, hbackend] at hsimulated
      cases hsimulated
  obtain ⟨actual, hactual⟩ := hlist
  exact ⟨actual, hactual, contains_managed_of_simulated hsimulated hactual⟩

/-- What a synchronization does to a name in the simulation. -/
theorem synchronizeState_of_simulated (orders : SyncOrders) (configManager : ConfigManager)
    (k : String) :
    (manager.synchronizeState orders configManager).2.namespaceStates.contains k =
        (configManager.namespaceConfigs.contains k ||
          (manager.namespaceStates.contains k && (manager.netlinkManager.namespaceExists k &&
            configManager.matchesNamespacePrefix k))) ∧
      (manager.synchronizeState orders configManager).2.netlinkManager.namespaceExists k =
        (manager.netlinkManager.namespaceExists k ||
          (configManager.namespaceConfigs.contains k && !manager.namespaceStates.contains k &&
            (validateNamespaceName k).toBool)) ∧
      (manager.synchronizeState orders configManager).2.netlinkManager.environment =
        manager.netlinkManager.environment := by
  obtain ⟨actual, hlist, hmanaged⟩ := exists_list_of_simulated hsimulated configManager
  refine ⟨(contains_synchronizeState hlist orders).trans (by rw [hmanaged k]), ?_⟩
  have hview {after : NamespaceStateManager} {c : Option NamespaceState × Bool × Environment}
      (h : component k after = c) : after.netlinkManager.namespaceExists k = c.2.1 ∧
        after.netlinkManager.environment = c.2.2 := by
    subst h
    exact ⟨rfl, rfl⟩
  cases hk : configManager.namespaceConfigs.lookup k with
  | none =>
    have hunconfigured := KeyedMap.contains_eq_false_iff.mpr hk
    obtain ⟨hexists, henvironment⟩ :=
      hview (component_synchronizeState_of_unconfigured orders hlist hk)
    refine ⟨hexists.trans ?_, henvironment⟩
    rw [hunconfigured, Bool.false_and, Bool.false_and, Bool.or_false]
    rfl
  | some entry =>
    have hconfigured : configManager.namespaceConfigs.contains k = true :=
      KeyedMap.contains_iff.mpr ⟨entry, hk⟩
    rw [hconfigured]
    cases hstate : manager.namespaceStates.lookup k with
    | some state =>
      have hwas : manager.namespaceStates.contains k = true :=
        KeyedMap.contains_iff.mpr ⟨state, hstate⟩
      rw [hwas]
      cases hactual : (managedActual configManager actual).lookup k with
      | some info =>
        obtain ⟨now, hnow⟩ := synchronizeState_of_tracked_of_managed orders hlist hk hstate hactual
        obtain ⟨hexists, henvironment⟩ := hview hnow
        exact ⟨hexists.trans (by simp [component]), henvironment⟩
      | none =>
        obtain ⟨hexists, henvironment⟩ :=
          hview (synchronizeState_of_tracked_of_missing orders hlist hk hstate hactual)
        exact ⟨hexists.trans (by simp [component]), henvironment⟩
    | none =>
      have hwas : manager.namespaceStates.contains k = false :=
        KeyedMap.contains_eq_false_iff.mpr hstate
      rw [hwas]
      cases hactual : (managedActual configManager actual).lookup k with
      | some info =>
        obtain ⟨createdAt, lastUpdated, hadopted⟩ :=
          synchronizeState_of_untracked_of_managed orders hlist hk hstate hactual
            (active_of_managed hlist hactual)
        obtain ⟨hexists, henvironment⟩ := hview hadopted
        have hpresent := namespaceExists_of_managed hlist hactual
        exact ⟨hexists.trans (by simp [component, hpresent]), henvironment⟩
      | none =>
        obtain ⟨createdAt, lastUpdated, hcreated⟩ :=
          synchronizeState_of_untracked_of_missing orders hlist hk hstate hactual
        split_ifs at hcreated with hcreates
        · obtain ⟨hexists, henvironment⟩ := hview hcreated
          exact ⟨hexists.trans (by simp [Environment.valid_of_creates hcreates]), henvironment⟩
        · -- a name that cannot be created is bad or taken, and no file is left for it
          obtain ⟨hexists, henvironment⟩ := hview hcreated.2
          refine ⟨hexists.trans ?_, henvironment⟩
          rw [Environment.creates_of_simulated hsimulated] at hcreates
          dsimp only
          rw [Environment.leavesPlaceholder_of_simulated hsimulated]
          cases hpresent : manager.netlinkManager.namespaceExists k <;>
            cases hvalid : (validateNamespaceName k).toBool <;>
            simp_all

/-- A synchronization without errors adds the configured names that were not tracked,
and takes nothing away. -/
theorem namespaceExists_synchronizeState
    (hresult : (manager.synchronizeState orders configManager).1 = .ok result)
    (herrors : result.errors = []) :
    (manager.synchronizeState orders configManager).2.netlinkManager.namespaceExists k =
      (manager.netlinkManager.namespaceExists k ||
        (configManager.namespaceConfigs.contains k && !manager.namespaceStates.contains k)) := by
  obtain ⟨actual, hlist, hmanaged⟩ := exists_list_of_simulated hsimulated configManager
  have hvalid (habsent : manager.netlinkManager.namespaceExists k = false)
      (hconfigured : configManager.namespaceConfigs.contains k = true)
      (huntracked : manager.namespaceStates.contains k = false) :
      (validateNamespaceName k).toBool = true := by
    obtain ⟨entry, hk⟩ := KeyedMap.contains_iff.mp hconfigured
    have hstate := KeyedMap.contains_eq_false_iff.mp huntracked
    have hmissing : (managedActual configManager actual).lookup k = none := by
      rw [← KeyedMap.contains_eq_false_iff, hmanaged, habsent, Bool.false_and]
    obtain ⟨createdAt, lastUpdated, hcreated⟩ :=
      synchronizeState_of_untracked_of_missing orders hlist hk hstate hmissing
    -- a creation that failed would have been reported as an error
    split_ifs at hcreated with hcreates
    · exact Environment.valid_of_creates hcreates
    · exact absurd herrors (hcreated.1 result hresult)
  rw [(synchronizeState_of_simulated hsimulated orders configManager k).2.1]
  cases habsent : manager.netlinkManager.namespaceExists k with
  | true => rw [Bool.true_or, Bool.true_or]
  | false =>
    cases hconfigured : configManager.namespaceConfigs.contains k with
    | false => rfl
    | true =>
      cases huntracked : manager.namespaceStates.contains k with
      | true => rfl
      | false => rw [hvalid habsent hconfigured huntracked, Bool.and_true]

end Simulated

end NamespaceStateManager

open NamespaceStateManager

namespace Managers

/-- A namespace of that name is in the system. -/
def namespaceExists (m : Managers) (k : String) : Bool :=
  m.stateManager.netlinkManager.namespaceExists k

/-- A configuration of that full name is loaded. -/
def isConfigured (m : Managers) (k : String) : Bool := m.configManager.namespaceConfigs.contains k

/-- The state of a namespace of that name is tracked. -/
def isTracked (m : Managers) (k : String) : Bool := m.stateManager.namespaceStates.contains k

/-- The namespaces in the system that carry the prefix are the configured ones. -/
def Reconciled (m : Managers) : Prop :=
  ∀ k, (m.namespaceExists k = true ∧ m.configManager.matchesNamespacePrefix k = true) ↔
    m.isConfigured k = true

/-- A synchronization from `m` to `m'` with the reported conflicts has added the
configured names that were untracked to the system and has taken nothing from it. A
configured name is there or reported missing. Under the prefix, the conflicts are
exactly the namespaces without configuration and the configurations without namespace. -/
structure ReconciledUpTo (m m' : Managers) (conflicts : List StateConflict) : Prop where
  present : ∀ k, m'.namespaceExists k = true ↔
    m.namespaceExists k = true ∨ (m.isConfigured k = true ∧ m.isTracked k = false)
  missing_or_present : ∀ k, m'.isConfigured k = true →
    m'.namespaceExists k = true ∨ missingConflict k ∈ conflicts
  orphan_iff : ∀ k, m'.configManager.matchesNamespacePrefix k = true →
    (orphanConflict k ∈ conflicts ↔ m'.namespaceExists k = true ∧ m'.isConfigured k = false)
  missing_iff : ∀ k, m'.configManager.matchesNamespacePrefix k = true →
    (missingConflict k ∈ conflicts ↔ m'.namespaceExists k = false ∧ m'.isConfigured k = true)

end Managers

namespace DaemonEventLoop

/-- When the monitoring thread has handled an event and its synchronization reports no
error, the system agrees with the configurations up to the reported conflicts. -/
theorem reconciled_up_to_conflicts {platform : Platform} {s : DaemonEventLoop} {orders : SyncOrders}
    {result : SyncResult} (haffected : s.configThread = .affected)
    (hsimulated : s.managers.stateManager.netlinkManager.isSimulated = true)
    (hresult : (s.managers.synchronize orders).1 = .ok result) (herrors : result.errors = []) :
    s.managers.ReconciledUpTo (step platform s (.forceSync orders)).managers result.conflicts := by
  let m := s.managers
  have hmanagers : (step platform s (.forceSync orders)).managers = (m.synchronize orders).2 := by
    simp only [step, haffected]
    rfl
  rw [hmanagers]
  have hexists (k : String) : (m.synchronize orders).2.namespaceExists k =
      (m.namespaceExists k || (m.isConfigured k && !m.isTracked k)) :=
    namespaceExists_synchronizeState hsimulated hresult herrors
  obtain ⟨actual, hlist, hmanaged⟩ := exists_list_of_simulated hsimulated m.configManager
  have hmissing (k : String) : missingConflict k ∈ result.conflicts ↔ m.isConfigured k = true ∧
      m.isTracked k = true ∧
        (m.namespaceExists k && m.configManager.matchesNamespacePrefix k) = false :=
    (missingConflict_mem_iff hlist hresult).trans (by rw [hmanaged k]; rfl)
  have horphan (k : String) : orphanConflict k ∈ result.conflicts ↔ m.isConfigured k = false ∧
      (m.namespaceExists k && m.configManager.matchesNamespacePrefix k) = true :=
    (orphanConflict_mem_iff hlist hresult).trans (by rw [hmanaged k]; rfl)
  constructor
  · intro k
    rw [hexists k]
    simp [m]
  · -- a configured name is there, or was added, or is tracked and missing
    intro k hconfigured
    replace hconfigured : m.isConfigured k = true := hconfigured
    rw [hexists k, hmissing k, hconfigured]
    cases m.namespaceExists k <;> cases m.isTracked k <;> simp
  · intro k hmatches
    replace hmatches : m.configManager.matchesNamespacePrefix k = true := hmatches
    change _ ↔ _ ∧ m.isConfigured k = false
    rw [hexists k, horphan k, hmatches]
    cases m.namespaceExists k <;> cases m.isConfigured k <;> simp
  · intro k hmatches
    replace hmatches : m.configManager.matchesNamespacePrefix k = true := hmatches
    change _ ↔ _ ∧ m.isConfigured k = true
    rw [hexists k, hmissing k, hmatches]
    cases m.namespaceExists k <;> cases m.isTracked k <;> cases m.isConfigured k <;> simp

section Deleted

/-- A platform that knows the text of one configuration. -/
def oneName : Platform := .ofTables [(bareText "one", .bare "one")] []

/-- A simulated daemon with one configuration. -/
def oneNamespace : Setup := .quiet true "new" 0 (oneFile (bareText "one") 0)

/-- The daemon creates its namespace, and its file is deleted. -/
def deletion : List Input :=
  let fs := Disk.fileSystem ⟨∅, {⟨["etc", "segwire", "namespaces"]⟩}⟩ .sorted
  [.initialSync .sorted, .configEvent (.deleted appToml) fs fs .sorted]

end Deleted

theorem reconciled_up_to_conflicts_after_delete :
    ∃ s₀ result, start oneName oneNamespace = .ok s₀ ∧
      ((run (step oneName) s₀ deletion).managers.synchronize .sorted).1 = .ok result ∧
      (run (step oneName) s₀ deletion).managers.ReconciledUpTo
        (step oneName (run (step oneName) s₀ deletion) (.forceSync .sorted)).managers
        result.conflicts :=
  ⟨_, _, rfl, rfl, reconciled_up_to_conflicts (by decide) (by decide) rfl (by decide)⟩

/-- A namespace outlives the file that configured it. -/
theorem not_reconciled_after_delete :
    ∃ s₀ result, start oneName oneNamespace = .ok s₀ ∧
      (run (step oneName) s₀ deletion).configThread = .affected ∧
      (run (step oneName) s₀ deletion).managers.stateManager.netlinkManager.isSimulated = true ∧
      ((run (step oneName) s₀ deletion).managers.synchronize .sorted).1 = .ok result ∧
      result.errors = [] ∧
      ¬ (step oneName (run (step oneName) s₀ deletion)
        (.forceSync .sorted)).managers.Reconciled := by
  refine ⟨_, _, rfl, by decide, by decide, rfl, by decide, fun h => ?_⟩
  -- the namespace is still there, and its configuration is not
  have hconfigured := (h "new-one").mp ⟨by decide, by decide⟩
  revert hconfigured
  decide

end DaemonEventLoop

end Segwire.Daemon
