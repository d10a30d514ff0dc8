import Segwire.Daemon.ConfigManager
import Segwire.Foundation.Run

/-!
# Incremental configuration handling against a rescan

A configuration directory changes one file at a time, and the configuration
manager handles the event of each change. The entries it holds are compared with
those that a scan of the directory would build at that moment.

## Main definitions

* `ConfigRescan.step` — a file change and the handling of its event
* `ConfigRescan.Mirrors` — the loaded entries are those of the directory's files
* `ConfigRescan.KeepsName` — a change keeps the name a file is loaded under

## Main results

* `ConfigRescan.lookup_rescan_iff` — the entries that a scan builds
* `ConfigRescan.synced_along_run` — changes that keep names keep the manager in step
  with the directory
* `ConfigRescan.not_synced_renamed` — a renamed namespace leaves its old entry behind
-/

namespace Segwire.Daemon

open Foundation Segwire.Common

namespace ConfigManager

variable {platform : Platform} {fs : FileSystem} {manager : ConfigManager}

/-- The entry that the scan makes of a path. -/
def scannedEntry (platform : Platform) (fs : FileSystem) (manager : ConfigManager)
    (path : PathBuf) : Option NamespaceConfigEntry :=
  if fs.isFile path && path.extension == some "toml" then
    (manager.loadNamespaceConfig platform fs path).toOption.join
  else none

/-- The full name that the scan finds in a path. -/
def scannedName (platform : Platform) (fs : FileSystem) (manager : ConfigManager)
    (path : PathBuf) : Option String :=
  (manager.scannedEntry platform fs path).map (·.fullName)

theorem scanFile_eq (found : List String × NamespaceConfigs) (path : PathBuf) :
    manager.scanFile platform fs found path =
      (found.1 ++ (manager.scannedName platform fs path).toList,
        (manager.scannedEntry platform fs path).elim found.2 found.2.insert) := by
  unfold scanFile scannedName scannedEntry
  split_ifs
  · rcases manager.loadNamespaceConfig platform fs path with e | _ | entry
    · simp [Except.toOption]
    · simp [Except.toOption]
    · rfl
  · simp

theorem scanEntries_ok (platform : Platform) (fs : FileSystem) (manager : ConfigManager)
    (paths : List PathBuf) (found : List String × NamespaceConfigs) :
    manager.scanEntries platform fs (paths.map .ok) found =
      .ok (found.1 ++ paths.filterMap (manager.scannedName platform fs),
        found.2.collect (manager.scannedEntry platform fs) paths) := by
  induction paths generalizing found with
  | nil =>
    rw [List.filterMap_nil, List.append_nil]
    rfl
  | cons path paths ih =>
    rw [List.map_cons, scanEntries, ih, scanFile_eq, List.append_assoc]
    cases hname : manager.scannedName platform fs path with
    | none =>
      rw [List.filterMap_cons_none hname]
      rfl
    | some name =>
      rw [List.filterMap_cons_some hname]
      rfl

/-- A scan whose directory reads do not fail stores what the paths give, and returns the
names that it stored it under. -/
theorem scan_of_readDir (platform : Platform) {paths : List PathBuf}
    (h : fs.readDir manager.configDirectory = .ok (paths.map .ok)) :
    manager.scanNamespaceConfigs platform fs =
      (.ok (paths.filterMap (manager.scannedName platform fs)), { manager with
        namespaceConfigs := KeyedMap.empty.collect (manager.scannedEntry platform fs) paths }) := by
  rw [scanNamespaceConfigs, h]
  simp only [scanEntries_ok, List.nil_append]

/-- A scan returns the names that it stores entries under. -/
theorem mem_scannedNames_iff {paths : List PathBuf} {name : String} :
    name ∈ paths.filterMap (manager.scannedName platform fs) ↔
      (KeyedMap.empty.collect (manager.scannedEntry platform fs) paths :
        NamespaceConfigs).contains name = true := by
  rw [KeyedMap.contains_collect_iff]
  simp only [KeyedMap.contains, KeyedMap.lookup_empty, Option.isSome_none, Bool.false_eq_true,
    false_or]
  rfl

theorem daemonConfig_scan :
    (manager.scanNamespaceConfigs platform fs).2.daemonConfig = manager.daemonConfig := by
  unfold scanNamespaceConfigs
  split
  · rfl
  · split <;> rfl

theorem scannedEntry_eq_some_iff {path : PathBuf} {entry : NamespaceConfigEntry} :
    manager.scannedEntry platform fs path = some entry ↔
      fs.isFile path = true ∧ path.extension = some "toml" ∧
        manager.loadNamespaceConfig platform fs path = .ok (some entry) := by
  unfold scannedEntry
  split_ifs with hfile
  · rw [Bool.and_eq_true, beq_iff_eq] at hfile
    rcases manager.loadNamespaceConfig platform fs path with e | _ | loaded <;>
      simp [hfile, Except.toOption]
  · rw [Bool.and_eq_true, beq_iff_eq, not_and] at hfile
    -- a scan passes over the path
    simp only [false_iff, not_and]
    exact fun h h' => absurd h' (hfile h)

/-- Reloading a file inserts its entry if it gives one, and changes nothing else. -/
theorem reloadNamespaceConfig_snd (path : PathBuf) :
    (manager.reloadNamespaceConfig platform fs path).2 = { manager with
      namespaceConfigs := (manager.loadNamespaceConfig platform fs path).toOption.join.elim
        manager.namespaceConfigs manager.namespaceConfigs.insert } := by
  unfold reloadNamespaceConfig
  rcases manager.loadNamespaceConfig platform fs path with e | _ | entry <;> rfl

/-- Only what the file system says about the path itself matters. -/
theorem scannedEntry_congr {fs' : FileSystem} {path : PathBuf}
    (hfile : fs'.isFile path = fs.isFile path)
    (hmetadata : fs'.metadata path = fs.metadata path)
    (hread : fs'.readToString path = fs.readToString path) :
    manager.scannedEntry platform fs' path = manager.scannedEntry platform fs path := by
  rw [scannedEntry, scannedEntry, loadNamespaceConfig, loadNamespaceConfig,
    NamespaceConfig.fromFile, NamespaceConfig.fromFile, hfile, hmetadata, hread]

end ConfigManager

namespace ConfigRescan

/-- A configuration directory's disk, and the manager that follows it. -/
structure State where
  disk : Disk
  manager : ConfigManager

/-- How a write is reported. -/
inductive WriteReport
  | created | modified
  deriving DecidableEq, Repr

/-- A change of one file. -/
inductive Change
  | write (path : PathBuf) (file : DiskFile) (report : WriteReport)
  | delete (path : PathBuf)

namespace Change

/-- The path of the changed file. -/
def path : Change → PathBuf
  | write path _ _ | delete path => path

/-- The event that reports a change. -/
def event : Change → ConfigFileEvent
  | write path _ .created => .created path
  | write path _ .modified => .modified path
  | delete path => .deleted path

/-- The disk after a change. -/
def apply (disk : Disk) : Change → Disk
  | write path file _ => { disk with files := disk.files.insert path file }
  | delete path => { disk with files := disk.files.erase path }

end Change

variable (platform : Platform) (dirOrder : IterOrder PathBuf) (order : IterOrder String)

/-- The file system that the manager sees: directories are listed in `dirOrder`. -/
def State.fileSystem (s : State) : FileSystem := s.disk.fileSystem dirOrder

/-- A change, followed by the handling of its event. -/
def step (s : State) (change : Change) : State :=
  let disk := change.apply s.disk
  let fs := disk.fileSystem dirOrder
  ⟨disk, (s.manager.handleFileEvent platform fs fs order change.event).2⟩

/-- What a scan would build from the directory. -/
def rescan (s : State) : NamespaceConfigs :=
  (s.manager.scanNamespaceConfigs platform (s.fileSystem dirOrder)).2.namespaceConfigs

/-- The path and configuration of an entry, without its modification time. -/
def pathAndConfig (entry : NamespaceConfigEntry) : PathBuf × NamespaceConfig :=
  (entry.filePath, entry.config)

/-- The manager holds what a scan would build: the same names, with the same paths
and configurations. -/
def Synced (s : State) : Prop :=
  ∀ name, (s.manager.namespaceConfigs.lookup name).map pathAndConfig =
    ((rescan platform dirOrder s).lookup name).map pathAndConfig

/-- The full name, path and configuration of an entry. -/
def nameAndFile (entry : NamespaceConfigEntry) : String × PathBuf × NamespaceConfig :=
  (entry.fullName, pathAndConfig entry)

/-- The entry that a file of the disk gives. -/
def State.entryAt (s : State) (path : PathBuf) : Option NamespaceConfigEntry :=
  s.manager.scannedEntry platform (s.fileSystem dirOrder) path

/-- What a file of the disk contributes to the entries. -/
def State.fileAt (s : State) (path : PathBuf) : Option (String × PathBuf × NamespaceConfig) :=
  (s.entryAt platform dirOrder path).map nameAndFile

/-- The directory exists, its `.toml` files load and validate, and those to be
managed have pairwise distinct full names. -/
structure WellFormed (s : State) : Prop where
  exists_dir : s.manager.configDirectory ∈ s.disk.dirs
  loads : ∀ path ∈ s.disk.children s.manager.configDirectory, path ∈ s.disk.files →
    path.extension = some "toml" →
      (NamespaceConfig.fromFile platform (s.fileSystem dirOrder) path).toOption.isSome = true
  distinct : ∀ path ∈ s.disk.children s.manager.configDirectory,
    ∀ path' ∈ s.disk.children s.manager.configDirectory,
      ∀ name ∈ (s.entryAt platform dirOrder path).map NamespaceConfigEntry.fullName,
        (s.entryAt platform dirOrder path').map NamespaceConfigEntry.fullName = some name →
          path = path'

/-- A change inside the configuration directory that leaves it well formed. -/
def ChangesDirectory (s : State) (change : Change) : Prop :=
  change.path.parent = s.manager.configDirectory ∧ change.path ≠ s.manager.configDirectory ∧
    WellFormed platform dirOrder (step platform dirOrder order s change)

/-- What the changed file contributes after the change, to the manager as it is. -/
def fileAfter (s : State) (change : Change) : Option (String × PathBuf × NamespaceConfig) :=
  (s.manager.scannedEntry platform ((change.apply s.disk).fileSystem dirOrder) change.path).map
    nameAndFile

/-- A written file keeps the full name it was loaded under, if it was. The file of the
master configuration, reported as modified, can be reloaded or contributes what it
did. A file that a scan passes over gives no entry. -/
def KeepsName (s : State) : Change → Prop
  | .delete _ => True
  | .write path file report =>
    let change := Change.write path file report
    let fs := (change.apply s.disk).fileSystem dirOrder
    if report = .modified ∧ path = s.manager.configFilePath then
      (ConfigManager.loadMasterConfig platform fs path).toOption.isSome = true ∨
        fileAfter platform dirOrder s change = s.fileAt platform dirOrder path
    else if path.extension = some "toml" then
      ∀ name, (s.fileAt platform dirOrder path).map Prod.fst = some name →
        (fileAfter platform dirOrder s change).map Prod.fst = some name
    else (s.manager.loadNamespaceConfig platform fs path).toOption.join = none

/-- The manager holds exactly what the directory's files contribute. -/
def Mirrors (s : State) : Prop :=
  ∀ name file, (s.manager.namespaceConfigs.lookup name).map pathAndConfig = some file ↔
    ∃ path ∈ s.disk.children s.manager.configDirectory,
      s.fileAt platform dirOrder path = some (name, file)

variable {platform : Platform} {dirOrder : IterOrder PathBuf} {order : IterOrder String}
variable {s : State} {change : Change}

theorem mem_children {disk : Disk} {dir path : PathBuf} :
    path ∈ disk.children dir ↔
      (path ∈ disk.files ∨ path ∈ disk.dirs) ∧ path.parent = dir ∧ path ≠ dir := by
  simp [Disk.children, Finmap.mem_keys]

theorem fileAt_eq_some_iff {path : PathBuf} {name : String} {file : PathBuf × NamespaceConfig} :
    s.fileAt platform dirOrder path = some (name, file) ↔
      ∃ entry, s.entryAt platform dirOrder path = some entry ∧ entry.fullName = name ∧
        pathAndConfig entry = file := by
  simp [State.fileAt, nameAndFile]

/-- A file contributes an entry with its own path. -/
theorem path_eq_of_fileAt {path : PathBuf} {name : String} {file : PathBuf × NamespaceConfig}
    (h : s.fileAt platform dirOrder path = some (name, file)) : file.1 = path := by
  obtain ⟨entry, hentry, -, rfl⟩ := fileAt_eq_some_iff.mp h
  exact (ConfigManager.entry_of_load (ConfigManager.scannedEntry_eq_some_iff.mp hentry).2.2).1

theorem mem_files_of_fileAt {path : PathBuf} {contribution : String × PathBuf × NamespaceConfig}
    (h : s.fileAt platform dirOrder path = some contribution) : path ∈ s.disk.files := by
  obtain ⟨entry, hentry, -⟩ := Option.map_eq_some_iff.mp h
  exact of_decide_eq_true (ConfigManager.scannedEntry_eq_some_iff.mp hentry).1

/-- Only files contribute, so the children of the directory can be described by
their paths. -/
theorem exists_child_iff {dir : PathBuf} {contribution : String × PathBuf × NamespaceConfig} :
    (∃ path ∈ s.disk.children dir, s.fileAt platform dirOrder path = some contribution) ↔
      ∃ path, path.parent = dir ∧ path ≠ dir ∧
        s.fileAt platform dirOrder path = some contribution := by
  constructor
  · rintro ⟨path, hpath, hfile⟩
    exact ⟨path, (mem_children.mp hpath).2.1, (mem_children.mp hpath).2.2, hfile⟩
  · rintro ⟨path, hparent, hne, hfile⟩
    exact ⟨path, mem_children.mpr ⟨Or.inl (mem_files_of_fileAt hfile), hparent, hne⟩, hfile⟩

/-- In a well-formed directory, two files that contribute under one name are the same. -/
theorem WellFormed.eq_of_fileAt (h : WellFormed platform dirOrder s) {path path' : PathBuf}
    {name : String} {file file' : PathBuf × NamespaceConfig}
    (hparent : path.parent = s.manager.configDirectory) (hne : path ≠ s.manager.configDirectory)
    (hfile : s.fileAt platform dirOrder path = some (name, file))
    (hparent' : path'.parent = s.manager.configDirectory)
    (hne' : path' ≠ s.manager.configDirectory)
    (hfile' : s.fileAt platform dirOrder path' = some (name, file')) : path = path' := by
  have hchild {p : PathBuf} {contents : PathBuf × NamespaceConfig}
      (hp : p.parent = s.manager.configDirectory) (hp' : p ≠ s.manager.configDirectory)
      (hcontents : s.fileAt platform dirOrder p = some (name, contents)) :
      p ∈ s.disk.children s.manager.configDirectory ∧
        (s.entryAt platform dirOrder p).map NamespaceConfigEntry.fullName = some name := by
    obtain ⟨entry, hentry, hentryName, -⟩ := fileAt_eq_some_iff.mp hcontents
    refine ⟨mem_children.mpr ⟨Or.inl (mem_files_of_fileAt hcontents), hp, hp'⟩, ?_⟩
    rw [hentry, Option.map_some, hentryName]
  obtain ⟨hmem, hname⟩ := hchild hparent hne hfile
  obtain ⟨hmem', hname'⟩ := hchild hparent' hne' hfile'
  exact h.distinct path hmem path' hmem' name hname hname'

/-- The entries that a scan of a well-formed directory builds. -/
theorem lookup_rescan_iff (h : WellFormed platform dirOrder s) {name : String}
    {entry : NamespaceConfigEntry} :
    (rescan platform dirOrder s).lookup name = some entry ↔
      ∃ path ∈ s.disk.children s.manager.configDirectory,
        s.entryAt platform dirOrder path = some entry ∧ entry.fullName = name := by
  have hread : (s.fileSystem dirOrder).readDir s.manager.configDirectory =
      .ok ((dirOrder.order (s.disk.children s.manager.configDirectory)).map .ok) :=
    if_pos h.exists_dir
  have hscan := ConfigManager.scan_of_readDir platform hread
  rw [rescan, hscan]
  change (KeyedMap.empty.collect _ _ : NamespaceConfigs).lookup name = _ ↔ _
  -- distinct names make the order in which the directory is listed irrelevant
  rw [KeyedMap.lookup_collect_iff]
  · simp only [dirOrder.mem_order]
    rfl
  · intro path hpath path' hpath' entry entry' hentry hentry' hname
    refine h.distinct path (dirOrder.mem_order.mp hpath) path' (dirOrder.mem_order.mp hpath')
      entry.fullName ?_ ?_
    · exact Option.mem_def.mpr (by rw [State.entryAt, hentry]; rfl)
    · rw [State.entryAt, hentry', hname]
      rfl

theorem map_lookup_rescan_iff (h : WellFormed platform dirOrder s) {name : String}
    {file : PathBuf × NamespaceConfig} :
    ((rescan platform dirOrder s).lookup name).map pathAndConfig = some file ↔
      ∃ path ∈ s.disk.children s.manager.configDirectory,
        s.fileAt platform dirOrder path = some (name, file) := by
  simp only [Option.map_eq_some_iff, lookup_rescan_iff h, fileAt_eq_some_iff]
  constructor
  · rintro ⟨entry, ⟨path, hpath, hentry, hname⟩, hfile⟩
    exact ⟨path, hpath, entry, hentry, hname, hfile⟩
  · rintro ⟨path, hpath, entry, hentry, hname, hfile⟩
    exact ⟨entry, ⟨path, hpath, hentry, hname⟩, hfile⟩

/-- In a well-formed directory, to hold what the files contribute is to hold what a
scan would build. -/
theorem mirrors_iff_synced (hwell : WellFormed platform dirOrder s) :
    Mirrors platform dirOrder s ↔ Synced platform dirOrder s := by
  simp only [Mirrors, ← map_lookup_rescan_iff hwell]
  exact forall_congr' fun name => Option.ext_iff.symm

/-- The contributions of the files that a change does not touch are as before. -/
theorem scannedEntry_apply_of_ne (change : Change) {path : PathBuf} (hne : path ≠ change.path) :
    s.manager.scannedEntry platform ((change.apply s.disk).fileSystem dirOrder) path =
      s.entryAt platform dirOrder path := by
  have hlookup : (change.apply s.disk).files.lookup path = s.disk.files.lookup path := by
    cases change with
    | write changed file report => exact Finmap.lookup_insert_of_ne _ hne
    | delete changed => exact Finmap.lookup_erase_ne hne
  have hdirs : (change.apply s.disk).dirs = s.disk.dirs := by
    cases change <;> rfl
  apply ConfigManager.scannedEntry_congr
  · simp [State.fileSystem, Disk.fileSystem, ← Finmap.lookup_isSome, hlookup]
  · simp [State.fileSystem, Disk.fileSystem, hlookup, hdirs]
  · simp [State.fileSystem, Disk.fileSystem, hlookup]

/-- A manager with the same master configuration makes the same entries of files. -/
theorem scannedEntry_congr_manager {manager manager' : ConfigManager} {fs : FileSystem}
    (h : manager'.daemonConfig = manager.daemonConfig) (path : PathBuf) :
    manager'.scannedEntry platform fs path = manager.scannedEntry platform fs path := by
  -- loading reads the master configuration of the manager only
  obtain ⟨daemonConfig, configFilePath, namespaceConfigs⟩ := manager
  obtain ⟨daemonConfig', configFilePath', namespaceConfigs'⟩ := manager'
  obtain rfl := h
  rfl

section Contributions

/-! A step that keeps the master configuration changes the contribution of one file. -/

variable (hconfig : (step platform dirOrder order s change).manager.daemonConfig =
  s.manager.daemonConfig)
include hconfig

theorem fileAt_step_of_ne {path : PathBuf} (hne : path ≠ change.path) :
    (step platform dirOrder order s change).fileAt platform dirOrder path =
      s.fileAt platform dirOrder path := by
  rw [State.fileAt, State.entryAt, scannedEntry_congr_manager hconfig]
  exact congrArg (Option.map nameAndFile) (scannedEntry_apply_of_ne change hne)

theorem fileAt_step_self :
    (step platform dirOrder order s change).fileAt platform dirOrder change.path =
      fileAfter platform dirOrder s change := by
  rw [State.fileAt, State.entryAt, scannedEntry_congr_manager hconfig]
  rfl

theorem configDirectory_step :
    (step platform dirOrder order s change).manager.configDirectory =
      s.manager.configDirectory := by
  rw [ConfigManager.configDirectory, hconfig]
  rfl

/-- When neither the entries nor the contribution of the changed file differ, the
manager stays in step. -/
theorem mirrors_of_same (h : Mirrors platform dirOrder s)
    (hconfigs : (step platform dirOrder order s change).manager.namespaceConfigs =
      s.manager.namespaceConfigs)
    (hsame : fileAfter platform dirOrder s change = s.fileAt platform dirOrder change.path) :
    Mirrors platform dirOrder (step platform dirOrder order s change) := by
  have hfile (path : PathBuf) :
      (step platform dirOrder order s change).fileAt platform dirOrder path =
      s.fileAt platform dirOrder path := by
    by_cases hpath : path = change.path
    · rw [hpath, fileAt_step_self hconfig, hsame]
    · exact fileAt_step_of_ne hconfig hpath
  intro name file
  rw [exists_child_iff, configDirectory_step hconfig, hconfigs, h name file, exists_child_iff]
  simp only [hfile]

end Contributions

/-! ### Deletions -/

theorem manager_step_delete (path : PathBuf) :
    (step platform dirOrder order s (.delete path)).manager =
      (s.manager.removeNamespaceConfig order path).2 := by
  simp only [step, Change.event, ConfigManager.handleFileEvent]
  split <;> simp_all

/-- A deleted file contributes nothing. -/
theorem fileAfter_delete (path : PathBuf) :
    fileAfter platform dirOrder s (.delete path) = none := by
  simp [fileAfter, ConfigManager.scannedEntry, Change.apply, Change.path, Disk.fileSystem]

theorem map_filter_eq_some_iff {found : Option NamespaceConfigEntry} {path : PathBuf}
    {file : PathBuf × NamespaceConfig} :
    (found.filter fun entry => entry.filePath != path).map pathAndConfig = some file ↔
      found.map pathAndConfig = some file ∧ file.1 ≠ path := by
  simp only [Option.map_eq_some_iff, Option.filter_eq_some_iff, bne_iff_ne]
  constructor
  · rintro ⟨entry, ⟨hfound, hne⟩, rfl⟩
    exact ⟨⟨entry, hfound, rfl⟩, hne⟩
  · rintro ⟨⟨entry, hfound, rfl⟩, hne⟩
    exact ⟨entry, ⟨hfound, hne⟩, rfl⟩

/-- Deleting a file removes exactly its entry. -/
theorem mirrors_delete {path : PathBuf} (h : Mirrors platform dirOrder s) :
    Mirrors platform dirOrder (step platform dirOrder order s (.delete path)) := by
  have hmanager : (step platform dirOrder order s (.delete path)).manager = _ :=
    manager_step_delete path
  have hconfig : (step platform dirOrder order s (.delete path)).manager.daemonConfig =
      s.manager.daemonConfig := by
    rw [hmanager]
    rfl
  intro name file
  rw [exists_child_iff, configDirectory_step hconfig, hmanager, ConfigManager.removeNamespaceConfig]
  -- the entries of the deleted path go, and an entry has the path of the file it came from
  simp only [KeyedMap.lookup_retain, map_filter_eq_some_iff, h name file, exists_child_iff]
  constructor
  · rintro ⟨⟨path', hparent, hne, hfile⟩, hkept⟩
    have hpath : path' ≠ path := path_eq_of_fileAt hfile ▸ hkept
    exact ⟨path', hparent, hne, (fileAt_step_of_ne hconfig hpath).trans hfile⟩
  · rintro ⟨path', hparent, hne, hfile⟩
    have hpath : path' ≠ path := by
      rintro rfl
      have hgone := (fileAt_step_self hconfig).trans (fileAfter_delete path')
      cases hgone.symm.trans hfile
    rw [fileAt_step_of_ne hconfig hpath] at hfile
    exact ⟨⟨path', hparent, hne, hfile⟩, path_eq_of_fileAt hfile ▸ hpath⟩

/-! ### Writes -/

section Write

variable {path : PathBuf} {file : DiskFile} {report : WriteReport}

/-- The entry that the reload of a written file inserts. -/
def loadedEntry (platform : Platform) (dirOrder : IterOrder PathBuf) (s : State)
    (change : Change) : Option NamespaceConfigEntry :=
  (s.manager.loadNamespaceConfig platform ((change.apply s.disk).fileSystem dirOrder)
    change.path).toOption.join

theorem manager_step_write
    (hplain : ¬ (report = .modified ∧ path = s.manager.configFilePath)) :
    (step platform dirOrder order s (.write path file report)).manager =
      { s.manager with
        namespaceConfigs := (loadedEntry platform dirOrder s (.write path file report)).elim
          s.manager.namespaceConfigs s.manager.namespaceConfigs.insert } := by
  rw [loadedEntry, ← ConfigManager.reloadNamespaceConfig_snd]
  cases report with
  | created => rfl
  | modified =>
    have hother : path ≠ s.manager.configFilePath := fun h => hplain ⟨rfl, h⟩
    simp only [step, Change.event, Change.path, ConfigManager.handleFileEvent, if_neg hother]

/-- A written `.toml` file contributes the entry that the reload inserts. -/
theorem fileAfter_write (htoml : path.extension = some "toml") :
    fileAfter platform dirOrder s (.write path file report) =
      (loadedEntry platform dirOrder s (.write path file report)).map nameAndFile := by
  simp [fileAfter, loadedEntry, ConfigManager.scannedEntry, Change.path, Change.apply,
    Disk.fileSystem, htoml]

/-- A file that a scan passes over contributes nothing. -/
theorem fileAt_of_extension (s : State) (file : DiskFile) (report : WriteReport)
    (hother : path.extension ≠ some "toml") :
    s.fileAt platform dirOrder path = none ∧
      fileAfter platform dirOrder s (.write path file report) = none := by
  simp [State.fileAt, State.entryAt, fileAfter, ConfigManager.scannedEntry, Change.path, hother]

/-- A write that keeps the name of the file's entry replaces that entry. -/
theorem mirrors_write_toml (h : Mirrors platform dirOrder s)
    (hplain : ¬ (report = .modified ∧ path = s.manager.configFilePath))
    (htoml : path.extension = some "toml")
    (hchange : ChangesDirectory platform dirOrder order s (.write path file report))
    (hname : ∀ name, (s.fileAt platform dirOrder path).map Prod.fst = some name →
      (fileAfter platform dirOrder s (.write path file report)).map Prod.fst = some name) :
    Mirrors platform dirOrder (step platform dirOrder order s (.write path file report)) := by
  obtain ⟨hparent, hne, hwell⟩ := hchange
  have hmanager : (step platform dirOrder order s (.write path file report)).manager = _ :=
    manager_step_write hplain
  have hconfig : (step platform dirOrder order s (.write path file report)).manager.daemonConfig =
      s.manager.daemonConfig := by
    rw [hmanager]
  have hself : (step platform dirOrder order s (.write path file report)).fileAt platform dirOrder
      path = _ :=
    (fileAt_step_self hconfig).trans (fileAfter_write htoml)
  have hother {path' : PathBuf} (hpath : path' ≠ path) :
      (step platform dirOrder order s (.write path file report)).fileAt platform dirOrder path' =
        s.fileAt platform dirOrder path' :=
    fileAt_step_of_ne hconfig hpath
  rw [fileAfter_write htoml] at hname
  cases hloaded : loadedEntry platform dirOrder s (.write path file report) with
  | none =>
    -- the file contributed nothing before either, since a name would have been kept
    have hbefore : s.fileAt platform dirOrder path = none := by
      cases hold : s.fileAt platform dirOrder path with
      | none => rfl
      | some old =>
        have hkept := hname old.1 (by rw [hold]; rfl)
        rw [hloaded] at hkept
        cases hkept
    refine mirrors_of_same hconfig h ?_ ?_
    · rw [hmanager, hloaded]
      rfl
    · rw [fileAfter_write htoml, hloaded]
      exact hbefore.symm
  | some latest =>
    rw [hloaded, Option.map_some] at hself
    intro name contents
    rw [exists_child_iff, configDirectory_step hconfig]
    simp only [hmanager, hloaded, Option.elim_some, KeyedMap.lookup_insert]
    split_ifs with hlatest
    · -- what is stored under the new name comes from the written file alone
      subst hlatest
      constructor
      · intro heq
        obtain rfl := Option.some.inj heq
        exact ⟨path, hparent, hne, hself⟩
      · rintro ⟨path', hparent', hne', hfile'⟩
        -- two files of one name would contradict the distinctness after the write
        rw [← configDirectory_step hconfig] at hparent hne hparent' hne'
        have hpath : path' = path := hwell.eq_of_fileAt hparent' hne' hfile' hparent hne hself
        rw [hpath, hself] at hfile'
        exact congrArg some (Prod.mk.inj (Option.some.inj hfile')).2
    · -- under any other name, neither the old nor the new contribution of the file counts
      rw [h name contents, exists_child_iff]
      refine exists_congr fun path' => and_congr_right fun _ => and_congr_right fun _ => ?_
      by_cases hpath : path' = path
      · subst hpath
        rw [hself]
        constructor
        · intro hfile
          -- an old name of the file would be its new one as well
          have hkept := hname name (by rw [hfile]; rfl)
          rw [hloaded] at hkept
          exact absurd (Option.some.inj hkept).symm hlatest
        · intro hfile
          exact absurd (Prod.mk.inj (Option.some.inj hfile)).1.symm hlatest
      · rw [hother hpath]

end Write

/-! ### The master configuration -/

theorem readDir_configDirectory (dirOrder : IterOrder PathBuf) {disk : Disk} {dir : PathBuf}
    (h : dir ∈ disk.dirs) :
    (disk.fileSystem dirOrder).readDir dir = .ok ((dirOrder.order (disk.children dir)).map .ok) :=
  if_pos h

section Master

variable {file : DiskFile}

/-- The write of the master configuration file. -/
def masterWrite (s : State) (file : DiskFile) : Change :=
  .write s.manager.configFilePath file .modified

/-- A reload of the master configuration rebuilds the entries. -/
theorem synced_master {config : DaemonConfig}
    (hwell : WellFormed platform dirOrder (step platform dirOrder order s (masterWrite s file)))
    (hload : ConfigManager.loadMasterConfig platform
      (((masterWrite s file).apply s.disk).fileSystem dirOrder) s.manager.configFilePath =
        .ok config) :
    Synced platform dirOrder (step platform dirOrder order s (masterWrite s file)) := by
  let fs := ((masterWrite s file).apply s.disk).fileSystem dirOrder
  let reloaded : ConfigManager := { s.manager with daemonConfig := config }
  have hmanager : (step platform dirOrder order s (masterWrite s file)).manager =
      (reloaded.scanNamespaceConfigs platform fs).2 := by
    simp only [step, masterWrite, Change.event, ConfigManager.handleFileEvent, if_true,
      ConfigManager.reloadMasterConfig]
    rw [masterWrite] at hload
    rw [hload]
    rfl
  have hsame : (reloaded.scanNamespaceConfigs platform fs).2.configDirectory =
      reloaded.configDirectory := by
    rw [ConfigManager.configDirectory, ConfigManager.daemonConfig_scan]
    rfl
  have hdir : reloaded.configDirectory ∈ ((masterWrite s file).apply s.disk).dirs := by
    have hexists := hwell.exists_dir
    rw [hmanager, hsame] at hexists
    exact hexists
  have hread := readDir_configDirectory dirOrder hdir
  have hread' := hread
  rw [← hsame] at hread'
  have hscan := ConfigManager.scan_of_readDir platform hread
  have hscan' := ConfigManager.scan_of_readDir platform hread'
  -- a second scan of the same directory finds what the first one did
  have hrescan : (reloaded.scanNamespaceConfigs platform fs).2.namespaceConfigs =
      ((reloaded.scanNamespaceConfigs platform fs).2.scanNamespaceConfigs platform
        fs).2.namespaceConfigs := by
    rw [hscan', hscan]
    rfl
  intro name
  rw [rescan, hmanager]
  change Option.map _ ((reloaded.scanNamespaceConfigs platform fs).2.namespaceConfigs.lookup name) =
    Option.map _ (((reloaded.scanNamespaceConfigs platform fs).2.scanNamespaceConfigs platform
      fs).2.namespaceConfigs.lookup name)
  rw [← hrescan]

/-- A master configuration that cannot be reloaded changes nothing. -/
theorem manager_step_master_error {e : SegwireError} (order : IterOrder String)
    (hload : ConfigManager.loadMasterConfig platform
      (((masterWrite s file).apply s.disk).fileSystem dirOrder) s.manager.configFilePath =
        .error e) :
    (step platform dirOrder order s (masterWrite s file)).manager = s.manager := by
  rw [masterWrite] at hload
  simp only [step, masterWrite, Change.event, ConfigManager.handleFileEvent, if_true,
    ConfigManager.reloadMasterConfig, hload]

theorem mirrors_master (h : Mirrors platform dirOrder s)
    (hwell : WellFormed platform dirOrder (step platform dirOrder order s (masterWrite s file)))
    (hkeeps : KeepsName platform dirOrder s (masterWrite s file)) :
    Mirrors platform dirOrder (step platform dirOrder order s (masterWrite s file)) := by
  rw [masterWrite, KeepsName, if_pos ⟨rfl, rfl⟩] at hkeeps
  cases hload : ConfigManager.loadMasterConfig platform
      (((masterWrite s file).apply s.disk).fileSystem dirOrder) s.manager.configFilePath with
  | ok config => exact (mirrors_iff_synced hwell).mpr (synced_master hwell hload)
  | error e =>
    have hmanager := manager_step_master_error order hload
    -- nothing was scanned, so the master file must contribute what it did before
    rcases hkeeps with hloads | hsame
    · change (ConfigManager.loadMasterConfig platform
        (((masterWrite s file).apply s.disk).fileSystem dirOrder)
          s.manager.configFilePath).toOption.isSome = true at hloads
      rw [hload] at hloads
      cases hloads
    · exact mirrors_of_same (by rw [hmanager]) h (by rw [hmanager]) hsame

end Master

/-! ### Runs -/

/-- A change that keeps names keeps the manager in step with the directory. -/
theorem mirrors_step (h : Mirrors platform dirOrder s)
    (hchange : ChangesDirectory platform dirOrder order s change)
    (hkeeps : KeepsName platform dirOrder s change) :
    Mirrors platform dirOrder (step platform dirOrder order s change) := by
  cases change with
  | delete path => exact mirrors_delete h
  | write path file report =>
    by_cases hmaster : report = .modified ∧ path = s.manager.configFilePath
    · obtain ⟨rfl, rfl⟩ := hmaster
      exact mirrors_master h hchange.2.2 hkeeps
    · rw [KeepsName, if_neg hmaster] at hkeeps
      split_ifs at hkeeps with htoml
      · exact mirrors_write_toml h hmaster htoml hchange hkeeps
      · have hmanager : (step platform dirOrder order s (.write path file report)).manager =
            s.manager := by
          rw [manager_step_write hmaster, loadedEntry]
          simp only [Change.path, hkeeps, Option.elim_none]
        obtain ⟨hbefore, hafter⟩ := fileAt_of_extension s file report htoml
        exact mirrors_of_same (by rw [hmanager]) h (by rw [hmanager]) (hafter.trans hbefore.symm)

/-- In every run that starts from a scan of a well-formed directory and in which
every change keeps names, the manager holds after every event what a scan would
build. -/
theorem synced_along_run {s : State} {changes : List Change}
    (hwell : WellFormed platform dirOrder s)
    (hscan : s.manager.namespaceConfigs = rescan platform dirOrder s)
    (hrun : AlongRun (step platform dirOrder order) (fun s change =>
      ChangesDirectory platform dirOrder order s change ∧ KeepsName platform dirOrder s change)
      s changes) :
    ∀ earlier later, changes = earlier ++ later →
      Synced platform dirOrder (run (step platform dirOrder order) s earlier) := by
  intro earlier later hsplit
  subst hsplit
  have hstart : Synced platform dirOrder s := fun name => by rw [hscan]
  have hinv := AlongRun.invariant
    (fun s => WellFormed platform dirOrder s ∧ Mirrors platform dirOrder s)
    (fun s change hinv h => ⟨h.1.2.2, mirrors_step hinv.2 h.1 h.2⟩)
    ⟨hwell, (mirrors_iff_synced hwell).mpr hstart⟩ hrun.left
  exact (mirrors_iff_synced hinv.1).mp hinv.2

/-! ### A renamed namespace -/

section Renamed

/-- The file of a namespace. -/
def appToml : PathBuf := ⟨["etc", "segwire", "namespaces", "app.toml"]⟩

/-- The file of another namespace. -/
def webToml : PathBuf := ⟨["etc", "segwire", "namespaces", "web.toml"]⟩

/-- A platform that knows the texts of two configurations. -/
def twoNames : Platform :=
  .ofTables [(bareText "one", .bare "one"), (bareText "two", .bare "two")] []

/-- The directory with these files. -/
def diskWith (files : HashMap PathBuf DiskFile) : Disk :=
  ⟨files, {⟨["etc", "segwire", "namespaces"]⟩}⟩

/-- The file of the namespace `one`. -/
def oneFile : HashMap PathBuf DiskFile :=
  (∅ : HashMap PathBuf DiskFile).insert appToml ⟨bareText "one", 0⟩

/-- The files of the namespaces `one` and `two`. -/
def twoFiles : HashMap PathBuf DiskFile := oneFile.insert webToml ⟨bareText "two", 0⟩

/-- The directory with these files, as the daemon finds it. -/
def scanned (files : HashMap PathBuf DiskFile) : State :=
  let manager := ConfigManager.fromConfig (.standard "new") ⟨["etc", "segwire", "daemon.toml"]⟩
  ⟨diskWith files,
    (manager.scanNamespaceConfigs twoNames ((diskWith files).fileSystem .sorted)).2⟩

theorem wellFormed_oneFile : WellFormed twoNames .sorted (scanned oneFile) where
  exists_dir := by decide
  loads := by decide
  distinct := by decide

theorem wellFormed_twoFiles : WellFormed twoNames .sorted (scanned twoFiles) where
  exists_dir := by decide
  loads := by decide
  distinct := by decide

/-- The file of `one` is rewritten under its name, and the one of `two` is deleted. -/
def touchedAndDeleted : List Change :=
  [.write appToml ⟨bareText "one", 1⟩ .modified, .delete webToml]

/-- The file is rewritten under another name. -/
def renamed : Change := .write appToml ⟨bareText "two", 1⟩ .modified

theorem changesDirectory_renamed :
    ChangesDirectory twoNames .sorted .sorted (scanned oneFile) renamed :=
  ⟨by decide, by decide, by decide, by decide, by decide⟩

theorem alongRun_touchedAndDeleted : AlongRun (step twoNames .sorted .sorted) (fun s change =>
    ChangesDirectory twoNames .sorted .sorted s change ∧ KeepsName twoNames .sorted s change)
      (scanned twoFiles) touchedAndDeleted := by
  refine ⟨⟨⟨by decide, by decide, by decide, by decide, by decide⟩, ?_⟩,
    ⟨⟨by decide, by decide, by decide, by decide, by decide⟩, trivial⟩, trivial⟩
  have hsame : fileAfter twoNames .sorted (scanned twoFiles)
      (.write appToml ⟨bareText "one", 1⟩ .modified) =
        (scanned twoFiles).fileAt twoNames .sorted appToml := by
    decide
  intro name hname
  rw [← hname, ← hsame]

end Renamed

/-- The entries agree with a scan after the rewriting and after the deletion. -/
theorem synced_along_touched :
    Synced twoNames .sorted
        (run (step twoNames .sorted .sorted) (scanned twoFiles) (touchedAndDeleted.take 1)) ∧
      Synced twoNames .sorted
        (run (step twoNames .sorted .sorted) (scanned twoFiles) touchedAndDeleted) := by
  have hsynced := synced_along_run wellFormed_twoFiles (by decide) alongRun_touchedAndDeleted
  exact ⟨hsynced (touchedAndDeleted.take 1) (touchedAndDeleted.drop 1) rfl,
    hsynced touchedAndDeleted [] rfl⟩

/-- The entry of the old name stays behind when a file is rewritten under a new one. -/
theorem not_synced_renamed :
    WellFormed twoNames .sorted (scanned oneFile) ∧
      (scanned oneFile).manager.namespaceConfigs = rescan twoNames .sorted (scanned oneFile) ∧
      AlongRun (step twoNames .sorted .sorted) (ChangesDirectory twoNames .sorted .sorted)
        (scanned oneFile) [renamed] ∧
      ¬ Synced twoNames .sorted
        (run (step twoNames .sorted .sorted) (scanned oneFile) [renamed]) := by
  refine ⟨wellFormed_oneFile, by decide, ⟨changesDirectory_renamed, trivial⟩, fun h => ?_⟩
  -- a scan does not find the old name any more
  have hold := h "new-one"
  revert hold
  decide

end ConfigRescan

end Segwire.Daemon
