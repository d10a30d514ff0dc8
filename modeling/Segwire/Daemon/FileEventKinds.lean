import Segwire.Daemon.ConfigStore
import Segwire.Daemon.ExecPath

/-!
# Created and modified files

An editor that writes a file in place has it reported as modified, and one that renames a new
file over it has it reported as created; the tests of the watcher accept either. The two are
handled alike except for the master configuration: only its modification reloads it, and its
creation reads it as a namespace configuration.

## Main definitions

* `ConfigManager.ReportedAlike` — both events have one result and leave one state
* `ConfigManager.MasterReloadIdle` — a reload of the master configuration does no more than a
  reload of its file as a namespace configuration

## Main results

* `ConfigManager.reportedAlike_iff` — exactly then the two agree on the master configuration
* `ConfigManager.not_reportedAlike_of_master_changed` — and never after it changed
-/

namespace Segwire.Daemon

open Foundation Segwire.Common

namespace ConfigManager

variable {platform : Platform} {fs fsScan : FileSystem} {order : IterOrder String}
  {manager : ConfigManager} {path : PathBuf}

/-- The creation and the modification of a file have the same result and leave the same state. -/
def ReportedAlike (platform : Platform) (fs fsScan : FileSystem) (order : IterOrder String)
    (manager : ConfigManager) (path : PathBuf) : Prop :=
  manager.handleFileEvent platform fs fsScan order (.created path) =
    manager.handleFileEvent platform fs fsScan order (.modified path)

/-- A reload of the master configuration, with the scan that follows it, does no more than a
reload of its file as a namespace configuration. -/
inductive MasterReloadIdle (platform : Platform) (fs fsScan : FileSystem)
    (manager : ConfigManager) : Prop
  /-- The file can be read neither as the one nor as the other, for the same reason. -/
  | unreadable (e : SegwireError)
      (hmaster : loadMasterConfig platform fs manager.configFilePath = .error e)
      (hfile : manager.loadNamespaceConfig platform fs manager.configFilePath = .error e)
  /-- The master configuration is the one in force, its file configures a namespace as well, and
  the scan finds the entry of that one and no other. -/
  | itself (entry : NamespaceConfigEntry)
      (hmaster : loadMasterConfig platform fs manager.configFilePath = .ok manager.daemonConfig)
      (hfile : manager.loadNamespaceConfig platform fs manager.configFilePath = .ok (some entry))
      (hscan : manager.scanNamespaceConfigs platform fsScan = (.ok [entry.fullName],
        { manager with namespaceConfigs := manager.namespaceConfigs.insert entry }))
  /-- The master configuration is the one in force, its file configures a namespace of somebody
  else as well, and the scan finds nothing where nothing was loaded. -/
  | nothing
      (hmaster : loadMasterConfig platform fs manager.configFilePath = .ok manager.daemonConfig)
      (hfile : manager.loadNamespaceConfig platform fs manager.configFilePath = .ok none)
      (hscan : manager.scanNamespaceConfigs platform fsScan = (.ok [], manager))
  /-- The master configuration is the one in force, and the scan fails for the reason for which
  its file cannot be read as a namespace configuration. -/
  | unscannable (e : SegwireError)
      (hmaster : loadMasterConfig platform fs manager.configFilePath = .ok manager.daemonConfig)
      (hfile : manager.loadNamespaceConfig platform fs manager.configFilePath = .error e)
      (hscan : manager.scanNamespaceConfigs platform fsScan = (.error e, manager))

theorem handleFileEvent_modified_of_ne (hne : path ≠ manager.configFilePath) :
    manager.handleFileEvent platform fs fsScan order (.modified path) =
      manager.handleFileEvent platform fs fsScan order (.created path) := by
  unfold handleFileEvent
  dsimp only
  rw [if_neg hne]

/-- A master configuration that cannot be loaded stays as it is. -/
theorem handleFileEvent_of_loadMasterConfig_eq_error {e : SegwireError}
    (h : loadMasterConfig platform fs manager.configFilePath = .error e) :
    manager.handleFileEvent platform fs fsScan order (.modified manager.configFilePath) =
      (.error e, manager) := by
  unfold handleFileEvent reloadMasterConfig
  dsimp only
  rw [if_pos rfl, h]

/-- The creation of a file, by what the file gives. -/
theorem handleFileEvent_created_eq (path : PathBuf) :
    manager.handleFileEvent platform fs fsScan order (.created path) =
      match manager.loadNamespaceConfig platform fs path with
      | .ok (some entry) => (.ok [entry.fullName],
          { manager with namespaceConfigs := manager.namespaceConfigs.insert entry })
      | .ok none => (.ok [], manager)
      | .error e => (.error e, manager) := by
  unfold handleFileEvent reloadNamespaceConfig
  dsimp only
  cases manager.loadNamespaceConfig platform fs path with
  | error e => rfl
  | ok loaded => cases loaded <;> rfl

theorem scanNamespaceConfigs_daemonConfig :
    (manager.scanNamespaceConfigs platform fsScan).2.daemonConfig = manager.daemonConfig := by
  unfold scanNamespaceConfigs
  split
  · rfl
  · split <;> rfl

theorem handleFileEvent_created_daemonConfig (path : PathBuf) :
    (manager.handleFileEvent platform fs fsScan order (.created path)).2.daemonConfig =
      manager.daemonConfig := by
  rw [handleFileEvent_created_eq]
  split <;> rfl

/-- A new master configuration takes effect only if it is reported as modified. -/
theorem not_reportedAlike_of_master_changed {config : DaemonConfig}
    (hload : loadMasterConfig platform fs manager.configFilePath = .ok config)
    (hne : config ≠ manager.daemonConfig) :
    ¬ ReportedAlike platform fs fsScan order manager manager.configFilePath := by
  intro hsame
  have hafter := congrArg (fun outcome => outcome.2.daemonConfig) hsame
  rw [handleFileEvent_of_reloadsMaster ⟨rfl, hload⟩ order,
    handleFileEvent_created_daemonConfig, scanNamespaceConfigs_daemonConfig] at hafter
  exact hne hafter.symm

/-- Without a master configuration to load, the file must not be readable at all. -/
theorem reportedAlike_iff_of_master_error {e : SegwireError}
    (hmaster : loadMasterConfig platform fs manager.configFilePath = .error e) :
    ReportedAlike platform fs fsScan order manager manager.configFilePath ↔
      manager.loadNamespaceConfig platform fs manager.configFilePath = .error e := by
  rw [ReportedAlike, handleFileEvent_of_loadMasterConfig_eq_error hmaster,
    handleFileEvent_created_eq]
  constructor
  · intro hsame
    cases hfile : manager.loadNamespaceConfig platform fs manager.configFilePath with
    | error e' =>
      rw [hfile] at hsame
      rw [Except.error.inj (Prod.mk.inj hsame).1]
    | ok loaded =>
      rw [hfile] at hsame
      cases loaded <;> cases hsame
  · intro hfile
    rw [hfile]

/-- A master configuration that is in force already is reloaded without effect, so the scan alone
is compared with the reading of the file. -/
theorem reportedAlike_iff_of_master_same
    (hmaster : loadMasterConfig platform fs manager.configFilePath = .ok manager.daemonConfig) :
    ReportedAlike platform fs fsScan order manager manager.configFilePath ↔
      MasterReloadIdle platform fs fsScan manager := by
  rw [ReportedAlike, handleFileEvent_of_reloadsMaster ⟨rfl, hmaster⟩ order,
    handleFileEvent_created_eq]
  constructor
  · intro hsame
    cases hfile : manager.loadNamespaceConfig platform fs manager.configFilePath with
    | error e =>
      rw [hfile] at hsame
      exact .unscannable e hmaster hfile hsame.symm
    | ok loaded =>
      rw [hfile] at hsame
      cases loaded with
      | none => exact .nothing hmaster hfile hsame.symm
      | some entry => exact .itself entry hmaster hfile hsame.symm
  · rintro (⟨_, hmaster', -⟩ | ⟨_, -, hfile, hscan⟩ | ⟨-, hfile, hscan⟩ | ⟨_, -, hfile, hscan⟩)
    · cases hmaster.symm.trans hmaster'
    · rw [hfile]
      exact hscan.symm
    · rw [hfile]
      exact hscan.symm
    · rw [hfile]
      exact hscan.symm

/-- A reload that is idle leaves the master configuration as it is. -/
theorem MasterReloadIdle.unreadable_or_same (h : MasterReloadIdle platform fs fsScan manager) :
    (∃ e, loadMasterConfig platform fs manager.configFilePath = .error e ∧
      manager.loadNamespaceConfig platform fs manager.configFilePath = .error e) ∨
    loadMasterConfig platform fs manager.configFilePath = .ok manager.daemonConfig := by
  cases h with
  | unreadable e hmaster hfile => exact .inl ⟨e, hmaster, hfile⟩
  | itself entry hmaster hfile hscan => exact .inr hmaster
  | nothing hmaster hfile hscan => exact .inr hmaster
  | unscannable e hmaster hfile hscan => exact .inr hmaster

/-- The two reports of a change of the master configuration. -/
theorem reportedAlike_configFilePath_iff :
    ReportedAlike platform fs fsScan order manager manager.configFilePath ↔
      MasterReloadIdle platform fs fsScan manager := by
  cases hmaster : loadMasterConfig platform fs manager.configFilePath with
  | error e =>
    rw [reportedAlike_iff_of_master_error hmaster]
    constructor
    · exact .unreadable e hmaster
    · intro h
      rcases h.unreadable_or_same with ⟨e', hmaster', hfile⟩ | hmaster'
      · rw [hfile, Except.error.inj (hmaster.symm.trans hmaster')]
      · cases hmaster.symm.trans hmaster'
  | ok config =>
    by_cases hconfig : config = manager.daemonConfig
    · subst hconfig
      exact reportedAlike_iff_of_master_same hmaster
    · refine iff_of_false (not_reportedAlike_of_master_changed hmaster hconfig) fun h => ?_
      rcases h.unreadable_or_same with ⟨e, hmaster', -⟩ | hmaster'
      · cases hmaster.symm.trans hmaster'
      · exact hconfig (Except.ok.inj (hmaster.symm.trans hmaster'))

/-- How a write is reported does not matter for any file but the master configuration, and for
that one only if its reload does no more than the reading of a namespace configuration. -/
theorem reportedAlike_iff (platform : Platform) (fs fsScan : FileSystem) (order : IterOrder String)
    (manager : ConfigManager) (path : PathBuf) :
    ReportedAlike platform fs fsScan order manager path ↔
      path ≠ manager.configFilePath ∨ MasterReloadIdle platform fs fsScan manager := by
  by_cases hmaster : path = manager.configFilePath
  · subst hmaster
    rw [reportedAlike_configFilePath_iff]
    simp
  · exact iff_of_true (handleFileEvent_modified_of_ne hmaster).symm (.inl hmaster)

/-- A master configuration with a new prefix that is renamed over the old one is not loaded. -/
theorem not_reportedAlike_renamed_master :
    ¬ ∀ (platform : Platform) (fs : FileSystem) (order : IterOrder String)
        (manager : ConfigManager) (path : PathBuf),
      ReportedAlike platform fs fs order manager path := by
  intro h
  have hsame := h DaemonEventLoop.twoPrefixes (DaemonEventLoop.underPrefix "new") .sorted
    (fromConfig (.standard "old") DaemonEventLoop.daemonToml) DaemonEventLoop.daemonToml
  have hprefix := congrArg (fun outcome => outcome.2.namespacePrefix) hsame
  revert hprefix
  decide

end ConfigManager

end Segwire.Daemon
