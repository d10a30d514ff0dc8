import Segwire.Daemon.ConfigStore

/-!
# The names that a file event reports

The handling of a file event returns names, and the daemon synchronizes at once if there
are any. A reload returns the name that it enters. A removal returns one name, although
several entries may come from the removed file; and a rescan returns the names that it
finds, and not those that it no longer finds.

## Main definitions

* `ConfigManager.ReportsChanges` — every name whose entry changed is returned
* `ConfigManager.RemovesOne`, `ConfigManager.RescanFindsAll` — what that takes

## Main results

* `ConfigManager.reportsChanges_iff` — the events that report what they change
* `ConfigManager.not_reportsChanges_of_broken`
-/

namespace Segwire.Daemon

open Foundation Segwire.Common

namespace ConfigManager

variable {platform : Platform} {fs fsScan : FileSystem} {manager : ConfigManager}
  {order : IterOrder String} {event : ConfigFileEvent} {path : PathBuf}

/-- If the event is handled, every name whose entry was added, replaced or removed is
returned; if no name is, no entry changed. -/
structure ReportsChanges (platform : Platform) (fs fsScan : FileSystem) (order : IterOrder String)
    (manager : ConfigManager) (event : ConfigFileEvent) : Prop where
  reported : ∀ names, (manager.handleFileEvent platform fs fsScan order event).1 = .ok names →
    ∀ k, (manager.handleFileEvent platform fs fsScan order event).2.namespaceConfigs.lookup k ≠
      manager.namespaceConfigs.lookup k → k ∈ names
  unchanged : (manager.handleFileEvent platform fs fsScan order event).1 = .ok [] →
    (manager.handleFileEvent platform fs fsScan order event).2.namespaceConfigs =
      manager.namespaceConfigs

/-- The entry of the name comes from the file. -/
def ComesFrom (manager : ConfigManager) (path : PathBuf) (k : String) : Prop :=
  ∃ entry, manager.namespaceConfigs.lookup k = some entry ∧ entry.filePath = path

/-- If a file was deleted, at most one entry comes from it. -/
def RemovesOne (manager : ConfigManager) (event : ConfigFileEvent) : Prop :=
  ∀ path, event = .deleted path → ∀ k k', manager.ComesFrom path k → manager.ComesFrom path k' →
    k = k'

/-- If the event reloads the master configuration, and its directory can be read then, some
file there gives each of the configured names under it. -/
def RescanFindsAll (platform : Platform) (fs fsScan : FileSystem) (manager : ConfigManager)
    (event : ConfigFileEvent) : Prop :=
  ∀ config, manager.ReloadsMaster platform fs event config →
    ∀ paths : List PathBuf, fsScan.readDir config.daemon.configDir = .ok (paths.map .ok) →
      ∀ k, manager.namespaceConfigs.contains k = true → ∃ path ∈ paths,
        scannedName platform fsScan { manager with daemonConfig := config } path = some k

/-- Without unreported changes, an event that returns no name changes nothing. -/
theorem ReportsChanges.of_reported
    (h : ∀ names, (manager.handleFileEvent platform fs fsScan order event).1 = .ok names →
      ∀ k, (manager.handleFileEvent platform fs fsScan order event).2.namespaceConfigs.lookup k ≠
        manager.namespaceConfigs.lookup k → k ∈ names) :
    manager.ReportsChanges platform fs fsScan order event where
  reported := h
  unchanged hempty := by
    apply KeyedMap.ext
    intro k
    by_contra hchanged
    exact List.not_mem_nil (h [] hempty k hchanged)

/-! ### Removals -/

/-- The name that a removal returns has an entry that comes from the file. -/
theorem comesFrom_of_removed {removed : String}
    (h : (manager.removeNamespaceConfig order path).1 = some removed) :
    manager.ComesFrom path removed := by
  obtain ⟨⟨k, entry⟩, hlast, rfl⟩ := Option.map_eq_some_iff.mp h
  obtain ⟨hentry, hpath⟩ := List.mem_filter.mp (List.mem_of_getLast? hlast)
  exact ⟨entry, KeyedMap.mem_iter.mp hentry, of_decide_eq_true hpath⟩

theorem exists_removed (order : IterOrder String) {k : String} (h : manager.ComesFrom path k) :
    ∃ removed, (manager.removeNamespaceConfig order path).1 = some removed := by
  obtain ⟨entry, hentry, hpath⟩ := h
  apply Option.ne_none_iff_exists'.mp
  intro hnone
  rw [removeNamespaceConfig, Option.map_eq_none_iff, List.getLast?_eq_none_iff,
    List.filter_eq_nil_iff] at hnone
  exact hnone (k, entry) (KeyedMap.mem_iter.mpr hentry) (decide_eq_true hpath)

/-- A removal changes the entries that come from the file. -/
theorem lookup_removeNamespaceConfig_ne_iff (order : IterOrder String) {k : String} :
    (manager.removeNamespaceConfig order path).2.namespaceConfigs.lookup k ≠
      manager.namespaceConfigs.lookup k ↔ manager.ComesFrom path k := by
  have hlookup : (manager.removeNamespaceConfig order path).2.namespaceConfigs.lookup k =
      (manager.namespaceConfigs.lookup k).filter fun entry => entry.filePath != path :=
    KeyedMap.lookup_retain ..
  rw [hlookup, ComesFrom]
  cases manager.namespaceConfigs.lookup k with
  | none => simp
  | some entry =>
    by_cases hpath : entry.filePath = path <;> simp [Option.filter, hpath]

theorem reportsChanges_deleted_iff :
    manager.ReportsChanges platform fs fsScan order (.deleted path) ↔
      manager.RemovesOne (.deleted path) := by
  have hhandle : manager.handleFileEvent platform fs fsScan order (.deleted path) =
      (.ok (manager.removeNamespaceConfig order path).1.toList,
        (manager.removeNamespaceConfig order path).2) := by
    unfold handleFileEvent
    dsimp only
    rcases manager.removeNamespaceConfig order path with ⟨_ | removed, manager'⟩ <;> rfl
  constructor
  · rintro ⟨hreported, -⟩ path' heq k k' hk hk'
    obtain rfl := ConfigFileEvent.deleted.inj heq
    obtain ⟨removed, hremoved⟩ := exists_removed order hk
    rw [hhandle] at hreported
    have hmem (k : String) (hk : manager.ComesFrom path k) : k = removed := by
      have hk := hreported _ rfl k ((lookup_removeNamespaceConfig_ne_iff order).mpr hk)
      rw [hremoved] at hk
      exact List.mem_singleton.mp hk
    exact (hmem k hk).trans (hmem k' hk').symm
  · intro hone
    apply ReportsChanges.of_reported
    rw [hhandle]
    intro names hnames k hchanged
    obtain rfl := Except.ok.inj hnames
    have hk := (lookup_removeNamespaceConfig_ne_iff order).mp hchanged
    obtain ⟨removed, hremoved⟩ := exists_removed order hk
    rw [hremoved]
    exact List.mem_singleton.mpr (hone path rfl k removed hk (comesFrom_of_removed hremoved))

/-! ### Reloads -/

/-- A reload changes the entry of the name that it returns. -/
theorem reported_reload {names : List String}
    (hnames : reloadedNames (manager.reloadNamespaceConfig platform fs path).1 = .ok names)
    {k : String} (hchanged : (manager.reloadNamespaceConfig platform fs
      path).2.namespaceConfigs.lookup k ≠ manager.namespaceConfigs.lookup k) : k ∈ names := by
  unfold reloadNamespaceConfig at hnames hchanged
  cases hload : manager.loadNamespaceConfig platform fs path with
  | error e =>
    rw [hload] at hnames
    cases hnames
  | ok loaded =>
    rw [hload] at hnames hchanged
    cases loaded with
    | none => exact absurd rfl hchanged
    | some entry =>
      obtain rfl := Except.ok.inj hnames
      rw [List.mem_singleton]
      by_contra hk
      exact hchanged (KeyedMap.lookup_insert_of_ne _ hk)

/-- An event that neither deletes a file nor reloads the master configuration reports what
it changes. -/
theorem reportsChanges_of_reload (hdeleted : ∀ path, event ≠ .deleted path)
    (hmaster : ∀ config, ¬ manager.ReloadsMaster platform fs event config) :
    manager.ReportsChanges platform fs fsScan order event := by
  apply ReportsChanges.of_reported
  cases event with
  | created path => exact fun names hnames k hchanged => reported_reload hnames hchanged
  | modified path =>
    unfold handleFileEvent
    dsimp only
    by_cases hpath : path = manager.configFilePath
    · rw [if_pos hpath]
      unfold reloadMasterConfig
      cases hload : loadMasterConfig platform fs manager.configFilePath with
      | error e =>
        intro names hnames
        cases hnames
      | ok config => exact absurd ⟨by rw [hpath], hload⟩ (hmaster config)
    · rw [if_neg hpath]
      exact fun names hnames k hchanged => reported_reload hnames hchanged
  | deleted path => exact absurd rfl (hdeleted path)

/-! ### Rescans -/

/-- A scan of a directory that can be read reports what it changes iff it finds every name
that was configured. -/
theorem reported_scan_iff {paths : List PathBuf}
    (hread : fsScan.readDir manager.configDirectory = .ok (paths.map .ok))
    (before : NamespaceConfigs) :
    (∀ names, (manager.scanNamespaceConfigs platform fsScan).1 = .ok names → ∀ k,
        (manager.scanNamespaceConfigs platform fsScan).2.namespaceConfigs.lookup k ≠
          before.lookup k → k ∈ names) ↔
      ∀ k, before.contains k = true →
        ∃ path ∈ paths, manager.scannedName platform fsScan path = some k := by
  rw [scan_of_readDir platform hread]
  simp only [← List.mem_filterMap]
  constructor
  · intro hreported k hk
    by_contra hlost
    refine hlost (hreported _ rfl k fun hsame => hlost (mem_scannedNames_iff.mpr ?_))
    rwa [KeyedMap.contains, hsame]
  · intro hall names hnames k hchanged
    obtain rfl := Except.ok.inj hnames
    by_cases hk : before.contains k = true
    · exact hall k hk
    · rw [mem_scannedNames_iff, KeyedMap.contains_iff, ← Option.ne_none_iff_exists']
      intro hnone
      refine hchanged (hnone.trans ?_)
      exact (KeyedMap.contains_eq_false_iff.mp (Bool.eq_false_iff.mpr hk)).symm

theorem reportsChanges_iff_of_reloadsMaster {config : DaemonConfig}
    (hmaster : manager.ReloadsMaster platform fs event config) :
    manager.ReportsChanges platform fs fsScan order event ↔
      manager.RescanFindsAll platform fs fsScan event := by
  let reloaded : ConfigManager := { manager with daemonConfig := config }
  have hhandle : manager.handleFileEvent platform fs fsScan order event =
      reloaded.scanNamespaceConfigs platform fsScan :=
    handleFileEvent_of_reloadsMaster hmaster order
  constructor
  · rintro ⟨hreported, -⟩ config' hmaster' paths hread
    obtain rfl := Except.ok.inj (hmaster.2.symm.trans hmaster'.2)
    rw [hhandle] at hreported
    exact (reported_scan_iff hread manager.namespaceConfigs).mp hreported
  · intro hall
    apply ReportsChanges.of_reported
    rw [hhandle]
    by_cases hreadable : DirectoryReadable fsScan config.daemon.configDir
    · obtain ⟨paths, hread⟩ := hreadable
      exact (reported_scan_iff hread manager.namespaceConfigs).mpr
        (hall config hmaster paths hread)
    · -- the scan fails
      exact fun names hnames => absurd (scan_ok_iff.mp ⟨names, hnames⟩) hreadable

/-- A file event reports what it changes iff it removes at most one entry, and a rescan finds
every name that was configured. -/
theorem reportsChanges_iff :
    manager.ReportsChanges platform fs fsScan order event ↔
      manager.RemovesOne event ∧ manager.RescanFindsAll platform fs fsScan event := by
  by_cases hmaster : ∃ config, manager.ReloadsMaster platform fs event config
  · obtain ⟨config, hmaster⟩ := hmaster
    have hone : manager.RemovesOne event := by
      rintro path rfl
      cases hmaster.1
    rw [reportsChanges_iff_of_reloadsMaster hmaster, and_iff_right hone]
  · rw [not_exists] at hmaster
    have hfinds : manager.RescanFindsAll platform fs fsScan event :=
      fun config hconfig => absurd hconfig (hmaster config)
    rw [and_iff_left hfinds]
    by_cases hdeleted : ∃ path, event = .deleted path
    · obtain ⟨path, rfl⟩ := hdeleted
      exact reportsChanges_deleted_iff
    · rw [not_exists] at hdeleted
      have hone : manager.RemovesOne event := fun path hpath => absurd hpath (hdeleted path)
      exact iff_of_true (reportsChanges_of_reload hdeleted hmaster) hone

section BrokenFile

/-- The file of the namespace can no longer be parsed, and the prefix has changed. -/
def brokenNamespace : FileSystem :=
  let files : HashMap PathBuf DiskFile :=
    (∅ : HashMap PathBuf DiskFile).insert daemonToml ⟨masterText "next", 0⟩
  Disk.fileSystem ⟨files.insert ⟨["etc", "segwire", "namespaces", "one.toml"]⟩ ⟨"name =", 1⟩,
    {⟨["etc", "segwire", "namespaces"]⟩}⟩ .sorted

end BrokenFile

/-- The rescan drops the only entry, and no name is returned. -/
theorem not_reportsChanges_of_broken :
    ¬ underNew.ReportsChanges nextPrefix brokenNamespace brokenNamespace .sorted
      (.modified daemonToml) := by
  intro h
  have hkept := congrArg (KeyedMap.contains · "new-one") (h.unchanged rfl)
  revert hkept
  decide

end ConfigManager

end Segwire.Daemon
