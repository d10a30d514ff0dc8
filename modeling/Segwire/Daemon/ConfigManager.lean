import Segwire.Common.ConfigLoading

/-!
# Configuration management

The daemon keeps the namespace configurations of its configuration directory in a
map from full names to entries. A scan builds the map anew; a file event changes
it incrementally. File-system calls answer as the `FileSystem` of the call says.

## Main definitions

* `ConfigManager` — master configuration and loaded entries
* `ConfigManager.scanNamespaceConfigs` — the scan
* `ConfigManager.handleFileEvent` — the incremental update
-/

namespace Segwire.Daemon

open Foundation Foundation.Text Segwire.Common

/-- Entry for a namespace configuration with metadata. -/
structure NamespaceConfigEntry where
  config : NamespaceConfig
  filePath : PathBuf
  fullName : String
  lastModified : SystemTime
  deriving DecidableEq

/-- The loaded entries by their full names. -/
abbrev NamespaceConfigs := KeyedMap NamespaceConfigEntry.fullName

/-- Configuration manager for the daemon. -/
structure ConfigManager where
  daemonConfig : DaemonConfig
  configFilePath : PathBuf
  namespaceConfigs : NamespaceConfigs

/-- File system event types for configuration monitoring. -/
inductive ConfigFileEvent
  | created (path : PathBuf)
  | modified (path : PathBuf)
  | deleted (path : PathBuf)
  deriving DecidableEq, Repr

/-- The path that an event is about. -/
def ConfigFileEvent.path : ConfigFileEvent → PathBuf
  | created path | modified path | deleted path => path

namespace ConfigManager

/-- Create a new configuration manager from an already-loaded config. -/
def fromConfig (daemonConfig : DaemonConfig) (configFilePath : PathBuf) : ConfigManager :=
  ⟨daemonConfig, configFilePath, .empty⟩

/-- Load master daemon configuration from file. -/
def loadMasterConfig (platform : Platform) (fs : FileSystem) (configPath : PathBuf) :
    SegwireResult DaemonConfig := do
  rejectIf (!fs.pathExists configPath) (.fileNotFound configPath.display)
  let _ ← (fs.metadata configPath).mapError fun _ => .config (.fileNotFound configPath.display)
  let config ← DaemonConfig.fromFile platform fs configPath
  rejectIf (!fs.pathExists config.daemon.configDir)
    (.invalidValue "daemon.config_dir" config.daemon.configDir.display)
  let _ ← (fs.readDir config.daemon.configDir).mapError fun e =>
    .config (.invalidValue "daemon.config_dir" ("Directory not readable: " ++ e.message))
  return config

/-- Get the namespace prefix for this daemon instance. -/
def namespacePrefix (manager : ConfigManager) : String :=
  manager.daemonConfig.daemon.namespacePrefix

/-- Get the configuration directory path. -/
def configDirectory (manager : ConfigManager) : PathBuf := manager.daemonConfig.daemon.configDir

/-- Get a specific namespace configuration by name. -/
def getNamespaceConfig (manager : ConfigManager) (name : String) : Option NamespaceConfigEntry :=
  manager.namespaceConfigs.lookup name

/-- Reload the master configuration from disk. -/
def reloadMasterConfig (platform : Platform) (fs : FileSystem) (manager : ConfigManager) :
    SegwireResult Unit × ConfigManager :=
  match loadMasterConfig platform fs manager.configFilePath with
  | .error e => (.error e, manager)
  | .ok newConfig => (.ok (), { manager with daemonConfig := newConfig })

/-- `matches_namespace_prefix` for the prefix `pfx`. -/
def matchesPrefix (pfx namespaceName : String) : Bool :=
  if startsWith namespaceName pfx then
    -- the prefix alone is a name of its own
    if byteLen namespaceName = byteLen pfx then true
    else
      let remaining := String.ofList (namespaceName.toList.drop pfx.toList.length)
      startsWith remaining "-" || startsWith remaining "_"
  else false

/-- Validate that a namespace name matches this daemon's prefix. -/
def matchesNamespacePrefix (manager : ConfigManager) (namespaceName : String) : Bool :=
  matchesPrefix manager.namespacePrefix namespaceName

/-- Generate the full namespace name with prefix. -/
def generateFullNamespaceName (manager : ConfigManager) (configName : String) : String :=
  -- the prefix is not put before itself
  if manager.matchesNamespacePrefix configName then configName
  else manager.namespacePrefix ++ "-" ++ configName

/-- Check if the daemon should cleanup namespaces on shutdown. -/
def shouldCleanupOnShutdown (manager : ConfigManager) : Bool :=
  manager.daemonConfig.daemon.cleanupOnShutdown

/-- A name with separators must match the prefix; any other name gets it. -/
def shouldManage (manager : ConfigManager) (configName : String) : Bool :=
  if containsChar configName '-' || containsChar configName '_' then
    manager.matchesNamespacePrefix configName
  else true

/-- Load a single namespace configuration file. -/
def loadNamespaceConfig (platform : Platform) (fs : FileSystem) (manager : ConfigManager)
    (configPath : PathBuf) : SegwireResult (Option NamespaceConfigEntry) := do
  let metadata ← (fs.metadata configPath).mapError fun _ =>
    .config (.fileNotFound configPath.display)
  let lastModified ← metadata.modified.mapError fun e =>
    .config (.invalidValue "file_metadata" ("Cannot get modification time: " ++ e.message))
  let config ← NamespaceConfig.fromFile platform fs configPath
  if manager.shouldManage config.namespace_.name then
    return some {
      config
      filePath := configPath
      fullName := manager.generateFullNamespaceName config.namespace_.name
      lastModified }
  else return none

section Loading

variable {platform : Platform} {fs : FileSystem} {manager : ConfigManager}
  {configPath : PathBuf} {entry : NamespaceConfigEntry}

/-- A loaded entry is made of the configuration in the file, which is to be managed. -/
theorem exists_of_load
    (h : manager.loadNamespaceConfig platform fs configPath = .ok (some entry)) :
    ∃ config lastModified, NamespaceConfig.fromFile platform fs configPath = .ok config ∧
      manager.shouldManage config.namespace_.name = true ∧
      entry = {
        config
        filePath := configPath
        fullName := manager.generateFullNamespaceName config.namespace_.name
        lastModified } := by
  unfold loadNamespaceConfig at h
  obtain ⟨metadata, -, h⟩ := Except.bind_eq_ok_iff.mp h
  obtain ⟨lastModified, -, h⟩ := Except.bind_eq_ok_iff.mp h
  obtain ⟨config, hconfig, h⟩ := Except.bind_eq_ok_iff.mp h
  split_ifs at h with hmanage
  · exact ⟨config, lastModified, hconfig, hmanage, (Option.some.inj (Except.ok.inj h)).symm⟩
  · cases h

/-- A loaded entry carries the path it was loaded from and a generated name. -/
theorem entry_of_load
    (h : manager.loadNamespaceConfig platform fs configPath = .ok (some entry)) :
    entry.filePath = configPath ∧
      entry.fullName = manager.generateFullNamespaceName entry.config.namespace_.name := by
  obtain ⟨config, lastModified, -, -, rfl⟩ := exists_of_load h
  exact ⟨rfl, rfl⟩

/-- A loaded entry has a configuration that passes its checks. -/
theorem validate_of_load
    (h : manager.loadNamespaceConfig platform fs configPath = .ok (some entry)) :
    entry.config.validate = .ok () := by
  obtain ⟨config, lastModified, hconfig, -, rfl⟩ := exists_of_load h
  exact NamespaceConfig.validate_of_fromFile hconfig

end Loading

/-- What the scan does with one entry of the directory: load it if it is a `.toml`
file, and pass over it when it cannot be loaded or is not to be managed. -/
def scanFile (platform : Platform) (fs : FileSystem) (manager : ConfigManager)
    (found : List String × NamespaceConfigs) (path : PathBuf) : List String × NamespaceConfigs :=
  if fs.isFile path && path.extension == some "toml" then
    match manager.loadNamespaceConfig platform fs path with
    | .ok (some entry) => (found.1 ++ [entry.fullName], found.2.insert entry)
    | .ok none | .error _ => found
  else found

/-- The loop of the scan, which an unreadable directory entry ends. -/
def scanEntries (platform : Platform) (fs : FileSystem) (manager : ConfigManager) :
    List (Except IoError PathBuf) → List String × NamespaceConfigs →
      SegwireResult (List String × NamespaceConfigs)
  | [], found => .ok found
  | .error e :: _, _ =>
    .error (.config (.invalidValue "config_dir" ("Cannot read directory entry: " ++ e.message)))
  | .ok path :: rest, found =>
    scanEntries platform fs manager rest (manager.scanFile platform fs found path)

/-- Scan the configuration directory for namespace configuration files. -/
def scanNamespaceConfigs (platform : Platform) (fs : FileSystem) (manager : ConfigManager) :
    SegwireResult (List String) × ConfigManager :=
  match fs.readDir manager.configDirectory with
  | .error e =>
    (.error (.config (.invalidValue "config_dir" ("Cannot read directory: " ++ e.message))),
      manager)
  | .ok entries =>
    match manager.scanEntries platform fs entries ([], .empty) with
    -- an aborted scan leaves the loaded entries as they were
    | .error e => (.error e, manager)
    | .ok (loadedConfigs, namespaceConfigs) =>
      (.ok loadedConfigs, { manager with namespaceConfigs })

/-- Reload a specific namespace configuration file. -/
def reloadNamespaceConfig (platform : Platform) (fs : FileSystem) (manager : ConfigManager)
    (configPath : PathBuf) : SegwireResult (Option String) × ConfigManager :=
  match manager.loadNamespaceConfig platform fs configPath with
  | .ok (some entry) =>
    (.ok (some entry.fullName),
      -- the entry replaces that of the same name only, wherever that came from
      { manager with namespaceConfigs := manager.namespaceConfigs.insert entry })
  -- a file that no longer gives an entry does not take back its old one
  | .ok none => (.ok none, manager)
  | .error e => (.error e, manager)

/-- Remove a namespace configuration (when file is deleted). The name returned is
that of the last entry removed, in the order the map is iterated in. -/
def removeNamespaceConfig (order : IterOrder String) (manager : ConfigManager)
    (configPath : PathBuf) : Option String × ConfigManager :=
  let removedName := (((manager.namespaceConfigs.iter order).filter fun (_, entry) =>
    entry.filePath = configPath).getLast?).map Prod.fst
  let namespaceConfigs :=
    manager.namespaceConfigs.retain fun _ entry => entry.filePath != configPath
  (removedName, { manager with namespaceConfigs })

/-- The names that a reloaded file contributes to the answer of an event. -/
def reloadedNames : SegwireResult (Option String) → SegwireResult (List String)
  | .ok (some name) => .ok [name]
  | .ok none => .ok []
  | .error e => .error e

/-- Handle a file system event by updating configurations. The scan that follows a
change of the master configuration may find another file system than the reload. -/
def handleFileEvent (platform : Platform) (fs fsScan : FileSystem) (order : IterOrder String)
    (manager : ConfigManager) : ConfigFileEvent → SegwireResult (List String) × ConfigManager
  | .created path =>
    let (result, manager) := manager.reloadNamespaceConfig platform fs path
    (reloadedNames result, manager)
  | .modified path =>
    -- only a modification of the master configuration reloads it
    if path = manager.configFilePath then
      match manager.reloadMasterConfig platform fs with
      | (.error e, manager) => (.error e, manager)
      | (.ok (), manager) => manager.scanNamespaceConfigs platform fsScan
    else
      let (result, manager) := manager.reloadNamespaceConfig platform fs path
      (reloadedNames result, manager)
  | .deleted path =>
    match manager.removeNamespaceConfig order path with
    | (some removedName, manager) => (.ok [removedName], manager)
    | (none, manager) => (.ok [], manager)

end ConfigManager

end Segwire.Daemon
