import Segwire.Common.Dbus

/-!
# Configuration files behind D-Bus methods

The helpers of the D-Bus service that read configuration files: validation of one
file, and the count of the files of the configuration directory that parse.

## Main definitions

* `validateConfigFile` — the answer of `ValidateConfiguration`
* `reloadAllConfigurations` — the counts of `ReloadConfiguration`
-/

namespace Segwire.Daemon

open Foundation Segwire.Common

/-- Load and parse a namespace configuration file. -/
def loadNamespaceConfig (platform : Platform) (fs : FileSystem) (configPath : PathBuf) :
    SegwireResult NamespaceConfig := do
  let configContent ← (fs.readToString configPath).mapError .system
  (platform.namespaceConfigFromStr configContent).mapError fun e => .config (.invalidToml e)

/-- The loop of `scan_config_directory`, which an unreadable entry ends. -/
def collectConfigFiles (fs : FileSystem) :
    List (Except IoError PathBuf) → SegwireResult (List PathBuf)
  | [] => .ok []
  | .error e :: _ => .error (.system e)
  | .ok path :: rest => do
    let configFiles ← collectConfigFiles fs rest
    return if fs.isFile path && path.extension == some "toml" then path :: configFiles
      else configFiles

/-- Scan configuration directory for TOML files. -/
def scanConfigDirectory (fs : FileSystem) (configDir : PathBuf) : SegwireResult (List PathBuf) :=
  if !fs.pathExists configDir then
    .error (.system ⟨"Configuration directory not found: " ++ configDir.display⟩)
  else do
    let entries ← (fs.readDir configDir).mapError .system
    let configFiles ← collectConfigFiles fs entries
    return configFiles.insertionSort (· ≤ ·)

/-- Reload all configuration files and return counts: the loaded ones, and errors. -/
def reloadAllConfigurations (platform : Platform) (fs : FileSystem) (configDir : PathBuf) :
    SegwireResult (Nat × Nat) := do
  let configFiles ← scanConfigDirectory fs configDir
  let loaded :=
    configFiles.filter fun file => (loadNamespaceConfig platform fs file).toOption.isSome
  return (loaded.length, configFiles.length - loaded.length)

/-- The warnings about a configuration that parses. -/
def configWarnings (config : NamespaceConfig) : List String :=
  (if config.interfaces.moveInterfaces = [] ∧ config.interfaces.virtualInterfaces = [] then
    ["No interfaces specified for namespace"] else []) ++
  (if config.dns.servers = [] then ["No DNS servers specified"] else [])

/-- Validate a configuration file and return validation result. -/
def validateConfigFile (platform : Platform) (fs : FileSystem) (configPath : PathBuf) :
    ValidationResult :=
  if !fs.pathExists configPath then
    ⟨false, ["Configuration file does not exist: " ++ configPath.display], []⟩
  else
    match loadNamespaceConfig platform fs configPath with
    | .error e => ⟨false, ["Configuration parsing failed: " ++ e.display], []⟩
    | .ok config =>
      match config.validate with
      | .error e => ⟨false, [e.display], configWarnings config⟩
      | .ok () => ⟨true, [], configWarnings config⟩

/-- The result is valid iff the file can be read and parsed and the configuration
in it, templates and all, passes the checks. -/
theorem validateConfigFile_valid_iff {platform : Platform} {fs : FileSystem}
    {configPath : PathBuf} :
    (validateConfigFile platform fs configPath).valid = true ↔
      fs.pathExists configPath = true ∧ ∃ config,
        loadNamespaceConfig platform fs configPath = .ok config ∧ config.validate = .ok () := by
  unfold validateConfigFile
  cases fs.pathExists configPath with
  | false => simp
  | true =>
    cases loadNamespaceConfig platform fs configPath with
    | error e => simp
    | ok config =>
      cases hvalid : config.validate with
      | error e => simp [hvalid]
      | ok accepted => simp [hvalid]

end Segwire.Daemon
