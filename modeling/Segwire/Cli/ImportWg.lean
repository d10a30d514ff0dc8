import Segwire.Common.ConfigSubstitution
import Segwire.Common.WireguardSections

/-!
# The import-wg command

Converts a wg-quick file into a namespace configuration, checks it, and writes it as a TOML file.
The checks are made on the text as it stands, and nothing is escaped. Loading the file substitutes
environment variables first, so a reference in the host of an endpoint, which the checks do not
look into, does not come back as it was imported.

## Main definitions

* `ImportSystem` — what the command meets
* `execute` — the command
* `LoadsAsImported` — the file loads as the configuration that was imported
* `EndpointsLiteral` — no endpoint of the wg-quick file has a reference

## Main results

* `importConfig_of_execute`, `fromFile_execute_iff` — what a run that writes a file has done, and
  when the file loads as the configuration
* `loadsAsImported_iff`
-/

namespace Segwire.Cli.ImportWg

open Foundation Foundation.Text Segwire.Common

/-- Arguments for the import-wg command. -/
structure ImportWgArgs where
  namespace_ : String
  configPath : PathBuf
  interface : Option String
  output : Option PathBuf
  stdout : Bool
  deriving DecidableEq, Repr

/-- The file-system calls of the command that may fail for reasons of their own. -/
inductive ImportCall
  | read | createDir | write
  deriving DecidableEq, Repr

/-- What the command meets: third-party code, with `toml::to_string_pretty`, the directory that
`HOME` names, the calls that fail, and the time. -/
structure ImportSystem where
  platform : Platform
  toStringPretty : NamespaceConfig → Except TomlError String
  home : Option PathBuf
  faults : ImportCall → Option IoError
  now : SystemTime

/-- What is left after a run that succeeds: the lines on standard output, and the disk. -/
structure Imported where
  printed : List String
  disk : Disk

/-- A call that may fail. -/
def ImportSystem.attempt {α : Type} (system : ImportSystem) (call : ImportCall)
    (answer : Except IoError α) : Except IoError α :=
  match system.faults call with
  | some e => .error e
  | none => answer

variable (system : ImportSystem) (args : ImportWgArgs) (disk : Disk)

/-- `std::fs::read_to_string(&args.config_path)` -/
def readConfig : Except IoError String :=
  system.attempt .read ((disk.fileSystem .sorted).readToString args.configPath)

/-- Parse the text, check the generated configuration and serialize it. -/
def importConfig (content : String) : Option (Except String (NamespaceConfig × String)) :=
  (parseWgQuick content args.namespace_ args.interface).map fun result => do
    let nsConfig ← result.mapError fun e => "Failed to parse WireGuard config: " ++ e.display
    nsConfig.validate.mapError fun e => "Generated config fails validation: " ++ e.display
    let tomlOutput ← (system.toStringPretty nsConfig).mapError fun e =>
      "Failed to serialize config to TOML: " ++ e.message
    return (nsConfig, tomlOutput)

/-- The directory that namespace files are written to by default. -/
def defaultDir : PathBuf := ⟨["etc", "segwire", "namespaces"]⟩

/-- Determine output path. -/
def outputDir : PathBuf :=
  args.output.getD <|
    if (disk.fileSystem .sorted).pathExists defaultDir then defaultDir
    else (((system.home.getD ⟨["tmp"]⟩).join ".config").join "segwire").join "namespaces"

/-- The file that is written. The name has no separator, as it has been checked. -/
def outputFile : PathBuf := (outputDir system args disk).join (args.namespace_ ++ ".toml")

/-- The lines about a file that has been written. -/
def report (nsConfig : NamespaceConfig) : List String :=
  ["✅ Imported WireGuard config into: " ++ (outputFile system args disk).display,
    "   Namespace: " ++ args.namespace_,
    "   Interface: " ++ args.interface.getD "wg0",
    "   Peers: " ++ toString (nsConfig.wireguard.elim 0 fun wg => wg.peers.length),
    "",
    "Run 'segwire reload' to apply the new configuration."]

/-- Write the output file, unless there is one. -/
def writeOutput (tomlOutput : String) : Except String Disk := do
  let created ← (system.attempt .createDir
      (disk.createDirAll (outputDir system args disk))).mapError fun e =>
    "Cannot create output directory '" ++ (outputDir system args disk).display ++ "': " ++ e.message
  let file := outputFile system args disk
  if (created.fileSystem .sorted).pathExists file then
    .error ("Output file already exists: " ++ file.display ++
      ". Use --stdout to preview or remove the existing file.")
  else
    (system.attempt .write (created.write file tomlOutput system.now)).mapError fun e =>
      "Cannot write output file '" ++ file.display ++ "': " ++ e.message

/-- Execute the import-wg command. A run that fails says nothing about the disk, and there is no
result where the parser panics. -/
def execute : Option (Except String Imported) :=
  match readConfig system args disk with
  | .error e => some (.error ("Cannot read WireGuard config '" ++ args.configPath.display ++
      "': " ++ e.message))
  | .ok content =>
    (importConfig system args content).map fun result => do
      let (nsConfig, tomlOutput) ← result
      if args.stdout then return ⟨[tomlOutput], disk⟩
      let written ← writeOutput system args disk tomlOutput
      return ⟨report system args disk nsConfig, written⟩

/-! ### A run that writes a file -/

variable {system : ImportSystem} {args : ImportWgArgs} {disk : Disk} {imported : Imported}
  {content tomlOutput : String} {nsConfig : NamespaceConfig}

theorem importConfig_eq_ok_iff :
    importConfig system args content = some (.ok (nsConfig, tomlOutput)) ↔
      parseWgQuick content args.namespace_ args.interface = some (.ok nsConfig) ∧
        nsConfig.validate = .ok () ∧ system.toStringPretty nsConfig = .ok tomlOutput := by
  unfold importConfig
  constructor
  · intro h
    obtain ⟨result, hparse, h⟩ := Option.map_eq_some_iff.mp h
    obtain ⟨config, hresult, h⟩ := Except.bind_eq_ok_iff.mp h
    obtain ⟨hvalid, h⟩ := Except.check_bind_eq_ok_iff.mp h
    obtain ⟨text, htoml, h⟩ := Except.bind_eq_ok_iff.mp h
    rw [Except.mapError_eq_ok_iff] at hresult hvalid htoml
    obtain ⟨rfl, rfl⟩ := Prod.mk.inj (Except.pure_eq_ok_iff.mp h)
    rw [hparse, hresult]
    exact ⟨rfl, hvalid, htoml⟩
  · rintro ⟨hparse, hvalid, htoml⟩
    rw [hparse, Option.map_some]
    simp only [Except.mapError, Except.ok_bind, hvalid, htoml]
    rfl

/-- A run that succeeds has read and converted the wg-quick file, and one that does not print to
standard output has written the output file. -/
theorem importConfig_of_execute (h : execute system args disk = some (.ok imported))
    (hfile : args.stdout = false) :
    ∃ content nsConfig tomlOutput, readConfig system args disk = .ok content ∧
      importConfig system args content = some (.ok (nsConfig, tomlOutput)) ∧
      writeOutput system args disk tomlOutput = .ok imported.disk := by
  unfold execute at h
  cases hread : readConfig system args disk with
  | error e =>
    rw [hread] at h
    cases h
  | ok content =>
    rw [hread] at h
    obtain ⟨result, himport, h⟩ := Option.map_eq_some_iff.mp h
    obtain ⟨⟨nsConfig, tomlOutput⟩, rfl, h⟩ := Except.bind_eq_ok_iff.mp h
    rw [Except.ok_bind, hfile] at h
    dsimp only at h
    -- what follows is the writing of the output file
    rw [if_neg Bool.false_ne_true] at h
    obtain ⟨written, hwritten, h⟩ := Except.bind_eq_ok_iff.mp h
    obtain rfl := Except.pure_eq_ok_iff.mp h
    exact ⟨content, nsConfig, tomlOutput, rfl, himport, hwritten⟩

/-- The output file reads back as it was written. -/
theorem readToString_of_writeOutput {written : Disk}
    (h : writeOutput system args disk tomlOutput = .ok written) :
    (written.fileSystem .sorted).readToString (outputFile system args disk) = .ok tomlOutput := by
  obtain ⟨created, -, h⟩ := Except.bind_eq_ok_iff.mp h
  dsimp only at h
  split_ifs at h
  rw [Except.mapError_eq_ok_iff, ImportSystem.attempt] at h
  cases hfault : system.faults .write with
  | some e =>
    rw [hfault] at h
    cases h
  | none =>
    rw [hfault] at h
    exact Disk.readToString_write h .sorted

/-! ### Loading the file -/

/-- Under every system environment, the file that a run has written loads as the configuration
that was imported. -/
def LoadsAsImported (system : ImportSystem) (args : ImportWgArgs) (disk : Disk)
    (imported : Imported) : Prop :=
  ∃ content nsConfig, readConfig system args disk = .ok content ∧
    parseWgQuick content args.namespace_ args.interface = some (.ok nsConfig) ∧
    ∀ systemEnv : String → Option String,
      NamespaceConfig.fromFile { system.platform with envVar := systemEnv }
        (imported.disk.fileSystem .sorted) (outputFile system args disk) = .ok nsConfig

/-- No endpoint that the wg-quick file gives for a peer has a reference. -/
def EndpointsLiteral (system : ImportSystem) (args : ImportWgArgs) (disk : Disk) : Prop :=
  ∀ content, readConfig system args disk = .ok content →
    ∀ peer ∈ peersOf (wgLines content), ∀ endpoint, peer.endpoint = some endpoint →
      ¬ HasReference endpoint.toList

/-- Loading substitutes in the parsed configuration, and checks it again. -/
theorem fromFile_eq_self_iff {platform : Platform} {fs : FileSystem} {path : PathBuf}
    (hread : fs.readToString path = .ok tomlOutput)
    (htoml : platform.namespaceConfigFromStr tomlOutput = .ok nsConfig)
    (hvalid : nsConfig.validate = .ok ()) :
    NamespaceConfig.fromFile platform fs path = .ok nsConfig ↔
      ∀ s ∈ nsConfig.strings, ¬ HasReference s.toList := by
  rw [← NamespaceConfig.substituteEnvironmentVariables_eq_self_iff]
  unfold NamespaceConfig.fromFile
  rw [hread]
  simp only [Except.mapError, Except.ok_bind, htoml]
  constructor
  · intro h
    -- what is loaded is what the substitution has made of the parsed configuration
    obtain ⟨config', hsubst, h⟩ := Except.bind_eq_ok_iff.mp h
    obtain ⟨-, h⟩ := Except.check_bind_eq_ok_iff.mp h
    rwa [Except.pure_eq_ok_iff.mp h] at hsubst
  · intro hsubst
    exact Except.bind_eq_ok_iff.mpr ⟨_, hsubst, Except.check_bind_eq_ok_iff.mpr ⟨hvalid, rfl⟩⟩

/-- What can have references in a configuration that was imported and accepted. -/
theorem literal_iff_of_importConfig
    (h : importConfig system args content = some (.ok (nsConfig, tomlOutput))) :
    (∀ s ∈ nsConfig.strings, ¬ HasReference s.toList) ↔
      ∀ peer ∈ peersOf (wgLines content), ∀ endpoint, peer.endpoint = some endpoint →
        ¬ HasReference endpoint.toList := by
  obtain ⟨hparse, hvalid, -⟩ := importConfig_eq_ok_iff.mp h
  obtain ⟨result, hraw, hresult⟩ := Option.map_eq_some_iff.mp hparse
  obtain ⟨config, rfl, rfl⟩ := Except.map_eq_ok_iff.mp hresult
  have hpeers : config.peers = peersOf (wgLines content) :=
    congrArg WgQuickConfig.peers (parseWgQuickRaw_eq_configOf hraw)
  rw [← hpeers]
  -- the description is the same for all imported configurations
  have hdescription : ¬ HasReference
      "WireGuard namespace (imported from wg-quick config)".toList :=
    ReferenceFree.not_hasReference (by decide)
  rw [NamespaceConfig.literal_iff_of_validate hvalid]
  constructor
  · rintro ⟨-, hendpoints⟩ peer hpeer
    exact hendpoints _ rfl peer.toConfig (List.mem_map_of_mem hpeer)
  · intro hendpoints
    refine ⟨hdescription, ?_⟩
    rintro wg ⟨⟩ _ hmem
    obtain ⟨peer, hpeer, rfl⟩ := List.mem_map.mp hmem
    exact hendpoints peer hpeer

/-- The file that a run has written loads, under any system environment, as the configuration that
was imported iff no endpoint has a reference. -/
theorem fromFile_execute_iff
    (htoml : ∀ config text, system.toStringPretty config = .ok text →
      system.platform.namespaceConfigFromStr text = .ok config)
    (hrun : execute system args disk = some (.ok imported)) (hfile : args.stdout = false) :
    ∃ content nsConfig, readConfig system args disk = .ok content ∧
      parseWgQuick content args.namespace_ args.interface = some (.ok nsConfig) ∧
      ∀ systemEnv : String → Option String,
        NamespaceConfig.fromFile { system.platform with envVar := systemEnv }
            (imported.disk.fileSystem .sorted) (outputFile system args disk) = .ok nsConfig ↔
          ∀ peer ∈ peersOf (wgLines content), ∀ endpoint, peer.endpoint = some endpoint →
            ¬ HasReference endpoint.toList := by
  obtain ⟨content, nsConfig, tomlOutput, hread, himport, hwritten⟩ :=
    importConfig_of_execute hrun hfile
  obtain ⟨hparse, hvalid, hpretty⟩ := importConfig_eq_ok_iff.mp himport
  have hback := readToString_of_writeOutput hwritten
  -- the environment of the system has no part in parsing
  have hparsed (systemEnv : String → Option String) :
      Platform.namespaceConfigFromStr { system.platform with envVar := systemEnv } tomlOutput =
        .ok nsConfig := htoml nsConfig tomlOutput hpretty
  refine ⟨content, nsConfig, hread, hparse, fun systemEnv => ?_⟩
  rw [fromFile_eq_self_iff hback (hparsed systemEnv) hvalid]
  exact literal_iff_of_importConfig himport

section Fixture

/-- A wg-quick file whose only peer has this endpoint. -/
def tunnelFile (endpoint : String) : String :=
  "[Interface]\nPrivateKey = AAAAAAAAAAAAAAAAAAAAAAAAAAAAAAAAAAAAAAAAAAA=\n[Peer]\n" ++
    "PublicKey = AQAAAAAAAAAAAAAAAAAAAAAAAAAAAAAAAAAAAAAAAAA=\nEndpoint = " ++ endpoint ++ "\n"

/-- The configuration that is imported from it. -/
def tunnelConfig (endpoint : String) : NamespaceConfig :=
  (WgQuickConfig.mk "AAAAAAAAAAAAAAAAAAAAAAAAAAAAAAAAAAAAAAAAAAA=" 0 [] [] 0
    [⟨"AQAAAAAAAAAAAAAAAAAAAAAAAAAAAAAAAAAAAAAAAAA=", none, some endpoint, [], 0⟩]
    ).toNamespaceConfig "vpn" "wg0"

/-- Its text, as the `toml` crate writes it. -/
def tunnelText (endpoint : String) : String :=
  "[namespace]\nname = \"vpn\"\n" ++
    "description = \"WireGuard namespace (imported from wg-quick config)\"\n\n" ++
    "[interfaces]\nmove_interfaces = []\n\n[[interfaces.virtual_interfaces]]\nname = \"wg0\"\n" ++
    "interface_type = \"wireguard\"\naddresses = []\n\n[routing]\nroutes = []\n\n" ++
    "[dns]\nservers = []\nsearch = []\n\n[wireguard]\n" ++
    "private_key = \"AAAAAAAAAAAAAAAAAAAAAAAAAAAAAAAAAAAAAAAAAAA=\"\n" ++
    "listen_port = 0\nfwmark = 0\n\n[[wireguard.peers]]\n" ++
    "public_key = \"AQAAAAAAAAAAAAAAAAAAAAAAAAAAAAAAAAAAAAAAAAA=\"\n" ++
    "endpoint = \"" ++ endpoint ++ "\"\nallowed_ips = []\npersistent_keepalive = 0\n\n" ++
    "[environment]\n"

/-- A system whose `toml` crate knows this text. -/
def tunnelSystem (endpoint : String) : ImportSystem where
  platform := .ofTables [(tunnelText endpoint, tunnelConfig endpoint)] []
  toStringPretty config :=
    if config = tunnelConfig endpoint then .ok (tunnelText endpoint)
    else .error ⟨"unsupported value"⟩
  home := none
  faults _ := none
  now := 0

/-- The wg-quick file at its usual place. -/
def tunnelDisk (endpoint : String) : Disk where
  files := (∅ : HashMap PathBuf DiskFile).insert ⟨["etc", "wireguard", "wg0.conf"]⟩
    ⟨tunnelFile endpoint, 0⟩
  dirs := ∅

/-- `segwire import-wg vpn /etc/wireguard/wg0.conf -o /tmp` -/
def tunnelArgs : ImportWgArgs :=
  ⟨"vpn", ⟨["etc", "wireguard", "wg0.conf"]⟩, none, some ⟨["tmp"]⟩, false⟩

/-- The crate parses what it has written. -/
theorem fromStr_tunnelSystem (endpoint : String) (config : NamespaceConfig) (text : String)
    (h : (tunnelSystem endpoint).toStringPretty config = .ok text) :
    (tunnelSystem endpoint).platform.namespaceConfigFromStr text = .ok config := by
  change (if config = tunnelConfig endpoint then _ else _) = _ at h
  split_ifs at h with hconfig
  obtain rfl := Except.ok.inj h
  rw [hconfig]
  simp [tunnelSystem, Platform.namespaceConfigFromStr, Platform.ofTables]

theorem exists_execute_tunnel (endpoint : String)
    (h : ((execute (tunnelSystem endpoint) tunnelArgs (tunnelDisk endpoint)).elim false
      Except.toBool) = true) :
    ∃ imported, execute (tunnelSystem endpoint) tunnelArgs (tunnelDisk endpoint) =
      some (.ok imported) := by
  cases hrun : execute (tunnelSystem endpoint) tunnelArgs (tunnelDisk endpoint) with
  | none =>
    rw [hrun] at h
    cases h
  | some result =>
    cases result with
    | error e =>
      rw [hrun] at h
      cases h
    | ok imported => exact ⟨imported, rfl⟩

end Fixture

/-- If `toml::from_str` undoes `to_string_pretty`, a written file loads as it was imported iff no
endpoint has a reference. -/
theorem loadsAsImported_iff (system : ImportSystem) (args : ImportWgArgs) (disk : Disk)
    (imported : Imported)
    (htoml : ∀ config text, system.toStringPretty config = .ok text →
      system.platform.namespaceConfigFromStr text = .ok config)
    (hrun : execute system args disk = some (.ok imported)) (hfile : args.stdout = false) :
    LoadsAsImported system args disk imported ↔ EndpointsLiteral system args disk := by
  obtain ⟨content, nsConfig, hread, hparse, hloads⟩ := fromFile_execute_iff htoml hrun hfile
  constructor
  · rintro ⟨content', config', hread', hparse', hall⟩ other hother
    obtain rfl := Except.ok.inj (hread.symm.trans hread')
    obtain rfl := Except.ok.inj (Option.some.inj (hparse.symm.trans hparse'))
    obtain rfl := Except.ok.inj (hread.symm.trans hother)
    exact (hloads fun _ => none).mp (hall fun _ => none)
  · intro hendpoints
    exact ⟨content, nsConfig, hread, hparse, fun systemEnv =>
      (hloads systemEnv).mpr (hendpoints content hread)⟩

theorem loadsAsImported_literal :
    ∃ imported, execute (tunnelSystem "vpn.example.org:51820") tunnelArgs
        (tunnelDisk "vpn.example.org:51820") = some (.ok imported) ∧
      (LoadsAsImported (tunnelSystem "vpn.example.org:51820") tunnelArgs
          (tunnelDisk "vpn.example.org:51820") imported ↔
        EndpointsLiteral (tunnelSystem "vpn.example.org:51820") tunnelArgs
          (tunnelDisk "vpn.example.org:51820")) := by
  obtain ⟨imported, hrun⟩ := exists_execute_tunnel "vpn.example.org:51820" (by decide +kernel)
  exact ⟨imported, hrun, loadsAsImported_iff _ _ _ imported
    (fromStr_tunnelSystem "vpn.example.org:51820") hrun rfl⟩

/-- The reference in the endpoint is accepted as a host name, and then it is not found. -/
theorem not_loadsAsImported_reference :
    ¬ ∀ (system : ImportSystem) (args : ImportWgArgs) (disk : Disk) (imported : Imported),
        (∀ config text, system.toStringPretty config = .ok text →
          system.platform.namespaceConfigFromStr text = .ok config) →
        execute system args disk = some (.ok imported) → args.stdout = false →
          LoadsAsImported system args disk imported := by
  intro hclaim
  obtain ⟨imported, hrun⟩ := exists_execute_tunnel "${VPN_HOST}:51820" (by decide +kernel)
  have htoml := fromStr_tunnelSystem "${VPN_HOST}:51820"
  obtain ⟨content, nsConfig, hread, hparse, hall⟩ := hclaim _ _ _ imported htoml hrun rfl
  obtain ⟨content', config', hread', hparse', hloads⟩ := fromFile_execute_iff htoml hrun rfl
  obtain rfl := Except.ok.inj (hread.symm.trans hread')
  obtain rfl := Except.ok.inj (Option.some.inj (hparse.symm.trans hparse'))
  obtain rfl : tunnelFile "${VPN_HOST}:51820" = content := by
    have hcontent : readConfig (tunnelSystem "${VPN_HOST}:51820") tunnelArgs
        (tunnelDisk "${VPN_HOST}:51820") = .ok (tunnelFile "${VPN_HOST}:51820") := by
      decide +kernel
    exact Except.ok.inj (hcontent.symm.trans hread)
  have hpeer : ∃ peer ∈ peersOf (wgLines (tunnelFile "${VPN_HOST}:51820")),
      peer.endpoint = some "${VPN_HOST}:51820" := by
    decide +kernel
  obtain ⟨peer, hmem, hendpoint⟩ := hpeer
  have hliteral := (hloads fun _ => none).mp (hall fun _ => none) peer hmem _ hendpoint
  exact hliteral ⟨[], "VPN_HOST".toList, ":51820".toList, by decide, by decide, by decide⟩

end Segwire.Cli.ImportWg
