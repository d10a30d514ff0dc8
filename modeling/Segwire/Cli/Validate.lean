import Segwire.Daemon.DbusConfigFiles

/-!
# The validate command, and agreement of the validators

The command line checks a file by itself; the daemon checks it when asked over
D-Bus and again when it loads it. The first two check the text as it stands, the
third substitutes environment variables first.

## Main definitions

* `Cli.validateSingleFile` — the command's check of one file
* `Cli.ValidatorsAgree` — the three validators give one answer
* `Cli.TemplatesImmaterial` — the templates of a configuration do not decide it

## Main results

* `Cli.validatorsAgree_iff` — when the validators agree
* `Cli.not_validatorsAgree_templated` — a documented kind of template on which they
  do not
-/

namespace Segwire.Cli

open Foundation Segwire.Common Segwire.Daemon

/-- The findings about one file. -/
structure FileFindings where
  hasErrors : Bool
  hasWarnings : Bool
  errors : List String
  warnings : List String
  deriving DecidableEq, Repr

namespace FileFindings

/-- Add an error. -/
def error (findings : FileFindings) (message : String) : FileFindings :=
  { findings with hasErrors := true, errors := findings.errors ++ [message] }

/-- Add a warning. -/
def warning (findings : FileFindings) (message : String) : FileFindings :=
  { findings with hasWarnings := true, warnings := findings.warnings ++ [message] }

@[simp] theorem hasErrors_error (findings : FileFindings) (message : String) :
    (findings.error message).hasErrors = true := rfl

@[simp] theorem hasErrors_warning (findings : FileFindings) (message : String) :
    (findings.warning message).hasErrors = findings.hasErrors := rfl

end FileFindings

/-- The warning about a path that does not end in `.toml`. -/
def checkExtension (path : PathBuf) (findings : FileFindings) : FileFindings :=
  match path.extension with
  | some extension =>
    if extension ≠ "toml" then findings.warning "File does not have .toml extension" else findings
  | none => findings.warning "File has no extension, expected .toml"

/-- Warnings about the size and the permissions of the file. -/
def validateFileProperties (fs : FileSystem) (path : PathBuf) (findings : FileFindings) :
    FileFindings :=
  match fs.metadata path with
  | .error e => findings.warning ("Could not check file properties: " ++ e.message)
  | .ok metadata =>
    let findings :=
      if 1024 * 1024 < metadata.len then
        findings.warning ("File is unusually large (" ++ toString metadata.len ++
          " bytes), consider splitting configuration")
      else findings
    if metadata.mode &&& 0o002 ≠ 0 then
      findings.warning "File is world-writable, this may be a security risk"
    else findings

/-- The checks of the content: TOML syntax, then the configuration. -/
def checkContent (platform : Platform) (content : String) (findings : FileFindings) :
    FileFindings :=
  match platform.namespaceConfigFromStr content with
  | .error e => findings.error ("Cannot parse as NamespaceConfig: " ++ e.message)
  | .ok config =>
    match config.validate with
    | .error e => findings.error ("Semantic validation error: " ++ e.display)
    | .ok () => findings

/-- The check of one file, where `warnings` asks for warnings as well as errors. -/
def validateSingleFile (platform : Platform) (fs : FileSystem) (warnings : Bool) (path : PathBuf) :
    FileFindings :=
  let findings := checkExtension path ⟨false, false, [], []⟩
  match fs.readToString path with
  | .error e => findings.error ("Cannot read file: " ++ e.message)
  | .ok content =>
    -- the text is parsed for its syntax first, and again to be decoded
    match platform.parseToml content with
    | .error e => findings.error ("TOML syntax error: " ++ e.message)
    | .ok _ =>
      let findings := checkContent platform content findings
      if warnings || findings.hasErrors then validateFileProperties fs path findings else findings

@[simp] theorem hasErrors_checkExtension (path : PathBuf) (findings : FileFindings) :
    (checkExtension path findings).hasErrors = findings.hasErrors := by
  unfold checkExtension
  split
  · split <;> rfl
  · rfl

@[simp] theorem hasErrors_validateFileProperties (fs : FileSystem) (path : PathBuf)
    (findings : FileFindings) :
    (validateFileProperties fs path findings).hasErrors = findings.hasErrors := by
  unfold validateFileProperties
  split
  · rfl
  · dsimp only
    split_ifs <;> rfl

/-- The command reports no error iff the file can be read and parsed and the
configuration in it, templates and all, passes the checks. -/
theorem validateSingleFile_hasErrors_iff {platform : Platform} {fs : FileSystem} {warnings : Bool}
    {path : PathBuf} :
    (validateSingleFile platform fs warnings path).hasErrors = false ↔
      ∃ config, loadNamespaceConfig platform fs path = .ok config ∧ config.validate = .ok () := by
  unfold validateSingleFile loadNamespaceConfig Platform.namespaceConfigFromStr
  cases hread : fs.readToString path with
  | error e => simp [Except.mapError]
  | ok content =>
    cases hparse : platform.parseToml content with
    | error e => simp [Except.mapError, hparse]
    | ok value =>
      -- the properties of the file give warnings only
      have hproperties (findings : FileFindings) :
          (if (warnings || findings.hasErrors) = true then validateFileProperties fs path findings
            else findings).hasErrors = findings.hasErrors := by
        split_ifs <;> simp
      simp only [hproperties, checkContent, Platform.namespaceConfigFromStr, hparse,
        Except.mapError, Except.ok_bind]
      cases hdecode : platform.toNamespaceConfig value with
      | error e => simp
      | ok config =>
        cases hvalid : config.validate with
        | error e => simp [hvalid]
        | ok accepted => simp [hvalid]

/-- Loading succeeds iff the file can be read and parsed and the configuration in
it passes the checks once its templates are substituted. -/
theorem fromFile_isOk_iff {platform : Platform} {fs : FileSystem} {path : PathBuf} :
    (∃ config, NamespaceConfig.fromFile platform fs path = .ok config) ↔
      ∃ config, loadNamespaceConfig platform fs path = .ok config ∧
        ∃ config', config.substituteEnvironmentVariables platform.envVar = .ok config' ∧
          config'.validate = .ok () := by
  unfold NamespaceConfig.fromFile loadNamespaceConfig
  cases fs.readToString path with
  | error e => simp [Except.mapError]
  | ok content =>
    simp only [Except.mapError, Except.ok_bind]
    cases platform.namespaceConfigFromStr content with
    | error e => simp
    | ok config =>
      simp only [Except.ok_bind, Except.ok.injEq, exists_eq_left']
      constructor
      · rintro ⟨loaded, hload⟩
        obtain ⟨config', hsubst, hload⟩ := Except.bind_eq_ok_iff.mp hload
        exact ⟨config', hsubst, (Except.check_bind_eq_ok_iff.mp hload).1⟩
      · rintro ⟨config', hsubst, hvalid⟩
        exact ⟨config', Except.bind_eq_ok_iff.mpr
          ⟨config', hsubst, Except.check_bind_eq_ok_iff.mpr ⟨hvalid, rfl⟩⟩⟩

/-- The three validators accept the file, or none of them does. -/
def ValidatorsAgree (platform : Platform) (fs : FileSystem) (warnings : Bool) (path : PathBuf) :
    Prop :=
  ((validateConfigFile platform fs path).valid = true ↔
      (validateSingleFile platform fs warnings path).hasErrors = false) ∧
    ((validateSingleFile platform fs warnings path).hasErrors = false ↔
      ∃ config, NamespaceConfig.fromFile platform fs path = .ok config)

/-- A configuration that passes the checks as it stands has templates that resolve
to well-formed values; one that does not pass them is not repaired by its
templates. -/
def TemplatesImmaterial (systemEnv : String → Option String) (config : NamespaceConfig) : Prop :=
  (config.validate = .ok () → config.TemplatesResolve systemEnv) ∧
    (config.validate ≠ .ok () → ∀ config',
      config.substituteEnvironmentVariables systemEnv = .ok config' → config'.validate ≠ .ok ())

/-- The validators agree on an existing file iff the templates of the configuration
in it, if there is one, are immaterial. -/
theorem validatorsAgree_iff {platform : Platform} {fs : FileSystem} {warnings : Bool}
    {path : PathBuf} (hexists : fs.pathExists path = true) :
    ValidatorsAgree platform fs warnings path ↔
      ∀ config, loadNamespaceConfig platform fs path = .ok config →
        TemplatesImmaterial platform.envVar config := by
  rw [ValidatorsAgree, validateConfigFile_valid_iff, validateSingleFile_hasErrors_iff,
    fromFile_isOk_iff]
  cases loadNamespaceConfig platform fs path with
  | error e => simp [hexists]
  | ok config =>
    simp only [hexists, true_and, Except.ok.injEq, exists_eq_left', forall_eq']
    rw [TemplatesImmaterial]
    -- the two sides of the condition are about valid and about invalid texts
    by_cases hvalid : config.validate = .ok ()
    · rw [NamespaceConfig.loads_of_validate_iff hvalid]
      simp [hvalid]
    · simp [hvalid]

/-- A configuration with a gateway under a variable of its own environment. -/
def templatedConfig : NamespaceConfig where
  namespace_ := ⟨"web", ""⟩
  interfaces := ⟨[], []⟩
  routing := ⟨some "${SUBNET}.1", []⟩
  dns := ⟨[], []⟩
  wireguard := none
  environment := (∅ : HashMap String String).insert "SUBNET" "10.0.0"

/-- Its text. -/
def templatedText : String :=
  "namespace.name = 'web'\nrouting.default_gateway = '${SUBNET}.1'\nenvironment.SUBNET = '10.0.0'"

/-- The path of a namespace file. -/
def webToml : PathBuf := ⟨["etc", "segwire", "namespaces", "web.toml"]⟩

/-- The files of a system with one namespace file. -/
def oneFile (content : String) : FileSystem :=
  Disk.fileSystem ⟨(∅ : HashMap PathBuf DiskFile).insert webToml ⟨content, 0⟩, ∅⟩
    .sorted

/-- A platform that knows the text of the templated configuration. -/
def templatedPlatform : Platform := .ofTables [(templatedText, templatedConfig)] []

theorem validatorsAgree_templated_iff :
    ValidatorsAgree templatedPlatform (oneFile templatedText) false webToml ↔
      ∀ config, loadNamespaceConfig templatedPlatform (oneFile templatedText) webToml = .ok config →
        TemplatesImmaterial templatedPlatform.envVar config :=
  validatorsAgree_iff (by decide)

/-- The daemon loads the templated configuration, and both validators reject it. -/
theorem not_validatorsAgree_templated :
    ¬ ValidatorsAgree templatedPlatform (oneFile templatedText) false webToml := by
  intro hagree
  have hrejected : (validateSingleFile templatedPlatform (oneFile templatedText) false
      webToml).hasErrors = true := by
    decide
  have hloaded : NamespaceConfig.fromFile templatedPlatform (oneFile templatedText) webToml =
      .ok { templatedConfig with routing := ⟨some "10.0.0.1", []⟩ } := by
    decide
  have haccepted := hagree.2.mpr ⟨_, hloaded⟩
  rw [hrejected] at haccepted
  cases haccepted

end Segwire.Cli
