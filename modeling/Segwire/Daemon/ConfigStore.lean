import Segwire.Daemon.ConfigRescan

/-!
# The store of loaded configurations

Scans and file events fill and empty the map of loaded entries. An entry is entered
under the full name generated from its configuration, under the prefix of that
moment; only the reload of the master configuration changes the prefix, and the scan
that follows it builds the map anew.

## Main definitions

* `ConfigManager.fullNameUnder` — the names that a prefix generates
* `ConfigManager.Linked` — entries sit under the names generated from them
* `ConfigManager.Call`, `ConfigManager.Call.apply` — the calls that change the store
* `ConfigManager.UnchangedOnError` — a failed event leaves the configuration alone

## Main results

* `ConfigManager.linked_along_run` — the entries stay linked as long as directories
  can be read
* `ConfigManager.unchangedOnError_iff` — what a failed event changes
* `ConfigManager.changed_on_error`
-/

namespace Segwire.Daemon

open Foundation Foundation.Text Segwire.Common

namespace ConfigManager

variable {platform : Platform} {fs fsScan : FileSystem} {manager : ConfigManager} {pfx : String}

/-! ### Generated names -/

theorem matchesPrefix_append (pfx name : String) :
    matchesPrefix pfx (pfx ++ "-" ++ name) = true := by
  have hstart : startsWith (pfx ++ "-" ++ name) pfx = true :=
    startsWith_iff.mpr ⟨"-" ++ name, String.append_assoc⟩
  have hrest : String.ofList ((pfx ++ "-" ++ name).toList.drop pfx.toList.length) = "-" ++ name :=
    String.toList_inj.mp (by simp)
  have hdash : startsWith ("-" ++ name) "-" = true := startsWith_iff.mpr ⟨name, rfl⟩
  unfold matchesPrefix
  dsimp only
  rw [if_pos hstart, hrest, hdash]
  split_ifs <;> rfl

/-- The full name of a namespace under the prefix `pfx`. -/
def fullNameUnder (pfx name : String) : String :=
  if matchesPrefix pfx name then name else pfx ++ "-" ++ name

theorem generateFullNamespaceName_eq (manager : ConfigManager) (name : String) :
    manager.generateFullNamespaceName name = fullNameUnder manager.namespacePrefix name := rfl

theorem matchesPrefix_fullNameUnder (pfx name : String) :
    matchesPrefix pfx (fullNameUnder pfx name) = true := by
  unfold fullNameUnder
  split_ifs with h
  · exact h
  · exact matchesPrefix_append pfx name

/-- A full name is its own full name. -/
theorem fullNameUnder_idem (pfx name : String) :
    fullNameUnder pfx (fullNameUnder pfx name) = fullNameUnder pfx name :=
  if_pos (matchesPrefix_fullNameUnder pfx name)

theorem generateFullNamespaceName_of_matches {name : String}
    (h : manager.matchesNamespacePrefix name = true) :
    manager.generateFullNamespaceName name = name :=
  if_pos h

/-- A generated name carries the prefix. -/
theorem matches_generateFullNamespaceName (manager : ConfigManager) (name : String) :
    manager.matchesNamespacePrefix (manager.generateFullNamespaceName name) = true :=
  matchesPrefix_fullNameUnder manager.namespacePrefix name

/-! ### What the stored entries satisfy

Every entry of the store was loaded from a file, so a property of loaded entries is a
property of the stored ones. -/

section Stored

variable {P : NamespaceConfigEntry → Prop}

/-- Every entry that the manager loads satisfies `P`. -/
def Loads (platform : Platform) (fs : FileSystem) (manager : ConfigManager)
    (P : NamespaceConfigEntry → Prop) : Prop :=
  ∀ path entry, manager.loadNamespaceConfig platform fs path = .ok (some entry) → P entry

/-- Reloading one file stores its entry beside the others, or changes nothing. -/
theorem reloadNamespaceConfig_cases (platform : Platform) (fs : FileSystem)
    (manager : ConfigManager) (path : PathBuf) :
    (∃ e, manager.reloadNamespaceConfig platform fs path = (.error e, manager)) ∨
      ∃ name namespaceConfigs,
        manager.reloadNamespaceConfig platform fs path =
            (.ok name, { manager with namespaceConfigs }) ∧
          ∀ P, manager.Loads platform fs P → manager.namespaceConfigs.Forall P →
            namespaceConfigs.Forall P := by
  unfold reloadNamespaceConfig
  cases hload : manager.loadNamespaceConfig platform fs path with
  | error e => exact .inl ⟨e, rfl⟩
  | ok loaded =>
    cases loaded with
    | none => exact .inr ⟨none, manager.namespaceConfigs, rfl, fun P _ hstored => hstored⟩
    | some entry =>
      exact .inr ⟨_, _, rfl, fun P hloads hstored => hstored.insert (hloads path entry hload)⟩

theorem forall_scanFile (hloads : manager.Loads platform fs P)
    {found : List String × NamespaceConfigs} (hfound : found.2.Forall P) (path : PathBuf) :
    (manager.scanFile platform fs found path).2.Forall P := by
  rw [scanFile_eq]
  dsimp only
  cases hscanned : manager.scannedEntry platform fs path with
  | none => exact hfound
  | some entry => exact hfound.insert (hloads path entry (scannedEntry_eq_some_iff.mp hscanned).2.2)

theorem forall_scanEntries (hloads : manager.Loads platform fs P)
    {entries : List (Except IoError PathBuf)} {found scanned : List String × NamespaceConfigs}
    (hfound : found.2.Forall P)
    (h : manager.scanEntries platform fs entries found = .ok scanned) : scanned.2.Forall P := by
  induction entries generalizing found with
  | nil => exact Except.ok.inj h ▸ hfound
  | cons entry entries ih =>
    cases entry with
    | error e => cases h
    | ok path => exact ih (forall_scanFile hloads hfound path) h

/-- The scan builds the store anew unless it fails, and then keeps the old one. -/
theorem scanNamespaceConfigs_cases (platform : Platform) (fs : FileSystem)
    (manager : ConfigManager) :
    (∃ e, manager.scanNamespaceConfigs platform fs = (.error e, manager)) ∨
      ∃ names namespaceConfigs,
        manager.scanNamespaceConfigs platform fs =
            (.ok names, { manager with namespaceConfigs }) ∧
          ∀ P, manager.Loads platform fs P → namespaceConfigs.Forall P := by
  unfold scanNamespaceConfigs
  cases fs.readDir manager.configDirectory with
  | error e => exact .inl ⟨_, rfl⟩
  | ok entries =>
    dsimp only
    cases hscan : manager.scanEntries platform fs entries ([], .empty) with
    | error e => exact .inl ⟨_, rfl⟩
    | ok scanned =>
      exact .inr ⟨_, _, rfl, fun P hloads => forall_scanEntries hloads KeyedMap.forall_empty hscan⟩

end Stored

/-! ### File events -/

/-- The event is a modification of the master configuration file, and the file gives
`config`. -/
def ReloadsMaster (platform : Platform) (fs : FileSystem) (manager : ConfigManager)
    (event : ConfigFileEvent) (config : DaemonConfig) : Prop :=
  event = .modified manager.configFilePath ∧
    loadMasterConfig platform fs manager.configFilePath = .ok config

theorem handleFileEvent_of_reloadsMaster {event : ConfigFileEvent} {config : DaemonConfig}
    (h : manager.ReloadsMaster platform fs event config) (order : IterOrder String) :
    manager.handleFileEvent platform fs fsScan order event =
      ConfigManager.scanNamespaceConfigs platform fsScan
        { manager with daemonConfig := config } := by
  obtain ⟨rfl, hload⟩ := h
  unfold handleFileEvent reloadMasterConfig
  dsimp only
  rw [if_pos rfl, hload]

/-- An event that does not reload the master configuration fails and changes nothing,
or changes the store only. -/
theorem handleFileEvent_cases (fsScan : FileSystem) (event : ConfigFileEvent)
    (order : IterOrder String)
    (hnone : ∀ config, ¬ manager.ReloadsMaster platform fs event config) :
    (∃ e, manager.handleFileEvent platform fs fsScan order event = (.error e, manager)) ∨
      ∃ names namespaceConfigs,
        manager.handleFileEvent platform fs fsScan order event =
            (.ok names, { manager with namespaceConfigs }) ∧
          ∀ P, manager.Loads platform fs P → manager.namespaceConfigs.Forall P →
            namespaceConfigs.Forall P := by
  -- a created file and a modified one are both reloaded
  have reloaded : ∀ path,
      let outcome := manager.reloadNamespaceConfig platform fs path
      (∃ e, (reloadedNames outcome.1, outcome.2) = (.error e, manager)) ∨
        ∃ names namespaceConfigs,
          (reloadedNames outcome.1, outcome.2) = (.ok names, { manager with namespaceConfigs }) ∧
            ∀ P, manager.Loads platform fs P → manager.namespaceConfigs.Forall P →
              namespaceConfigs.Forall P := by
    intro path
    obtain ⟨e, houtcome⟩ | ⟨name, stored, houtcome, hstored⟩ :=
      reloadNamespaceConfig_cases platform fs manager path
    · exact .inl ⟨e, by rw [houtcome]; rfl⟩
    · cases name with
      | none => exact .inr ⟨[], stored, by rw [houtcome]; rfl, hstored⟩
      | some name => exact .inr ⟨[name], stored, by rw [houtcome]; rfl, hstored⟩
  cases event with
  | created path => exact reloaded path
  | modified path =>
    unfold handleFileEvent
    dsimp only
    by_cases hmaster : path = manager.configFilePath
    · rw [if_pos hmaster]
      unfold reloadMasterConfig
      cases hload : loadMasterConfig platform fs manager.configFilePath with
      | error e => exact .inl ⟨e, rfl⟩
      | ok config => exact absurd ⟨by rw [hmaster], hload⟩ (hnone config)
    · rw [if_neg hmaster]
      exact reloaded path
  | deleted path =>
    have hremoved : ∀ P, manager.Loads platform fs P → manager.namespaceConfigs.Forall P →
        (manager.namespaceConfigs.retain fun _ entry => entry.filePath != path).Forall P :=
      fun P _ hstored => hstored.retain _
    unfold handleFileEvent removeNamespaceConfig
    dsimp only
    split <;> next hresult =>
      obtain ⟨-, rfl⟩ := Prod.mk.inj hresult
      exact .inr ⟨_, _, rfl, hremoved⟩

/-! ### Linked entries -/

/-- Every entry sits under its full name, which carries the prefix and is the one
generated from the configuration. -/
def Linked (manager : ConfigManager) : Prop :=
  ∀ k entry, manager.namespaceConfigs.lookup k = some entry →
    k = entry.fullName ∧ manager.matchesNamespacePrefix k = true ∧
      k = manager.generateFullNamespaceName entry.config.namespace_.name

/-- The entry has the name that `manager` generates from its configuration. -/
def Generated (manager : ConfigManager) (entry : NamespaceConfigEntry) : Prop :=
  entry.fullName = manager.generateFullNamespaceName entry.config.namespace_.name

theorem linked_iff : manager.Linked ↔ manager.namespaceConfigs.Forall manager.Generated := by
  constructor
  · intro h k entry hentry
    obtain ⟨hkey, -, hgenerated⟩ := h k entry hentry
    exact hkey.symm.trans hgenerated
  · intro h k entry hentry
    have hgenerated := h k entry hentry
    obtain rfl := KeyedMap.key_eq_of_lookup hentry
    refine ⟨rfl, ?_, hgenerated⟩
    rw [hgenerated]
    exact matches_generateFullNamespaceName manager _

theorem loads_generated (platform : Platform) (fs : FileSystem) (manager : ConfigManager) :
    manager.Loads platform fs manager.Generated :=
  fun _ _ hload => (entry_of_load hload).2

end ConfigManager

/-- The directory and every entry of it can be read. -/
def DirectoryReadable (fs : FileSystem) (dir : PathBuf) : Prop :=
  ∃ paths : List PathBuf, fs.readDir dir = .ok (paths.map .ok)

namespace ConfigManager

variable {platform : Platform} {fs fsScan : FileSystem} {manager : ConfigManager}

/-- A scan fails if the directory or an entry of it cannot be read, and never else. -/
theorem scan_ok_iff :
    (∃ names, (manager.scanNamespaceConfigs platform fs).1 = .ok names) ↔
      DirectoryReadable fs manager.configDirectory := by
  constructor
  · rintro ⟨names, hscan⟩
    unfold scanNamespaceConfigs at hscan
    cases hread : fs.readDir manager.configDirectory with
    | error e =>
      rw [hread] at hscan
      cases hscan
    | ok entries =>
      rw [hread] at hscan
      dsimp only at hscan
      -- an entry that cannot be read ends the loop with an error
      have readable : ∀ found scanned, manager.scanEntries platform fs entries found = .ok scanned →
          ∃ paths : List PathBuf, entries = paths.map .ok := by
        clear hread hscan
        induction entries with
        | nil => exact fun _ _ _ => ⟨[], rfl⟩
        | cons entry entries ih =>
          intro found scanned hentries
          cases entry with
          | error e => cases hentries
          | ok path =>
            obtain ⟨paths, rfl⟩ := ih _ _ hentries
            exact ⟨path :: paths, rfl⟩
      cases hentries : manager.scanEntries platform fs entries ([], .empty) with
      | error e =>
        rw [hentries] at hscan
        cases hscan
      | ok scanned =>
        obtain ⟨paths, rfl⟩ := readable _ _ hentries
        exact ⟨paths, hread⟩
  · rintro ⟨paths, hread⟩
    exact ⟨_, congrArg Prod.fst (scan_of_readDir platform hread)⟩

/-! ### Runs of calls -/

/-- A call that works on the store, with what the file system answers during it. -/
inductive Call
  | scan (fs : FileSystem)
  | fileEvent (event : ConfigFileEvent) (fs fsScan : FileSystem) (order : IterOrder String)

/-- The manager after a call. -/
def apply (platform : Platform) (manager : ConfigManager) : Call → ConfigManager
  | .scan fs => (manager.scanNamespaceConfigs platform fs).2
  | .fileEvent event fs fsScan order => (manager.handleFileEvent platform fs fsScan order event).2

/-- The directory that the call scans, if it scans one, can be read. -/
def ReadsDirectory (platform : Platform) (manager : ConfigManager) : Call → Prop
  | .scan fs => DirectoryReadable fs manager.configDirectory
  | .fileEvent event fs fsScan _ => ∀ config, manager.ReloadsMaster platform fs event config →
      DirectoryReadable fsScan config.daemon.configDir

/-- A call whose directory can be read keeps the entries linked. -/
theorem linked_apply (h : manager.Linked) {call : Call}
    (hreads : manager.ReadsDirectory platform call) : (manager.apply platform call).Linked := by
  rw [linked_iff] at h ⊢
  cases call with
  | scan fs =>
    unfold apply
    dsimp only
    obtain ⟨e, hscan⟩ | ⟨names, scanned, hscan, hscanned⟩ :=
      scanNamespaceConfigs_cases platform fs manager
    · rw [hscan]
      exact h
    · rw [hscan]
      exact hscanned _ (loads_generated platform fs manager)
  | fileEvent event fs fsScan order =>
    unfold apply
    dsimp only
    by_cases hmaster : ∃ config, manager.ReloadsMaster platform fs event config
    · obtain ⟨config, hmaster⟩ := hmaster
      rw [handleFileEvent_of_reloadsMaster hmaster]
      let reloaded : ConfigManager := { manager with daemonConfig := config }
      obtain ⟨e, hscan⟩ | ⟨names, scanned, hscan, hscanned⟩ :=
        scanNamespaceConfigs_cases platform fsScan reloaded
      -- the old entries would be kept under the new prefix, but the scan cannot fail
      · have hreadable : DirectoryReadable fsScan reloaded.configDirectory := hreads config hmaster
        have hok : ∃ names, (reloaded.scanNamespaceConfigs platform fsScan).1 = .ok names :=
          scan_ok_iff.mpr hreadable
        rw [hscan] at hok
        obtain ⟨names, hok⟩ := hok
        cases hok
      · rw [hscan]
        exact hscanned _ (loads_generated platform fsScan reloaded)
    · rw [not_exists] at hmaster
      obtain ⟨e, hevent⟩ | ⟨names, stored, hevent, hstored⟩ :=
        handleFileEvent_cases fsScan event order hmaster
      · rw [hevent]
        exact h
      · rw [hevent]
        exact hstored _ (loads_generated platform fs manager) h

/-- As long as directories can be read, every call of a run leaves the entries linked,
whatever the files contain and however the prefix changes. -/
theorem linked_along_run {daemonConfig : DaemonConfig} {configPath : PathBuf} {calls : List Call}
    (hreads : AlongRun (apply platform) (ReadsDirectory platform)
      (fromConfig daemonConfig configPath) calls) :
    ∀ earlier later, calls = earlier ++ later →
      (run (apply platform) (fromConfig daemonConfig configPath) earlier).Linked := by
  intro earlier later hsplit
  subst hsplit
  have hstart : (fromConfig daemonConfig configPath).Linked :=
    linked_iff.mpr KeyedMap.forall_empty
  exact AlongRun.invariant Linked (fun _ _ hlinked hread => linked_apply hlinked hread) hstart
    hreads.left

/-! ### Failed events -/

/-- A failed event leaves the master configuration and the entries as they were. -/
def UnchangedOnError (platform : Platform) (fs fsScan : FileSystem) (order : IterOrder String)
    (manager : ConfigManager) (event : ConfigFileEvent) : Prop :=
  ∀ e, (manager.handleFileEvent platform fs fsScan order event).1 = .error e →
    (manager.handleFileEvent platform fs fsScan order event).2.daemonConfig =
        manager.daemonConfig ∧
      (manager.handleFileEvent platform fs fsScan order event).2.namespaceConfigs =
        manager.namespaceConfigs

/-- A failed event changes the configuration exactly when it reloads a master
configuration that differs from the old one and whose directory then cannot be
scanned. -/
theorem unchangedOnError_iff (order : IterOrder String) (event : ConfigFileEvent) :
    manager.UnchangedOnError platform fs fsScan order event ↔
      ¬ ∃ config, manager.ReloadsMaster platform fs event config ∧
        config ≠ manager.daemonConfig ∧
        ¬ DirectoryReadable fsScan config.daemon.configDir := by
  unfold UnchangedOnError
  by_cases hmaster : ∃ config, manager.ReloadsMaster platform fs event config
  · obtain ⟨config, hmaster⟩ := hmaster
    rw [handleFileEvent_of_reloadsMaster hmaster]
    let reloaded : ConfigManager := { manager with daemonConfig := config }
    have hok : (∃ names, (reloaded.scanNamespaceConfigs platform fsScan).1 = .ok names) ↔
        DirectoryReadable fsScan config.daemon.configDir := scan_ok_iff
    obtain ⟨e, hscan⟩ | ⟨names, scanned, hscan, -⟩ :=
      scanNamespaceConfigs_cases platform fsScan reloaded
    · -- the new master configuration stays although the scan fails
      have hunreadable : ¬ DirectoryReadable fsScan config.daemon.configDir := by
        rw [← hok, hscan]
        rintro ⟨names, hnames⟩
        cases hnames
      rw [hscan]
      constructor
      · rintro hunchanged ⟨config', hmaster', hne, -⟩
        obtain rfl := Except.ok.inj (hmaster.2.symm.trans hmaster'.2)
        exact hne (hunchanged e rfl).1
      · intro hsame e' _
        have heq : config = manager.daemonConfig := by
          by_contra hne
          exact hsame ⟨config, hmaster, hne, hunreadable⟩
        exact ⟨heq, rfl⟩
    · have hreadable := hok.mp ⟨names, congrArg Prod.fst hscan⟩
      rw [hscan]
      constructor
      · rintro - ⟨config', hmaster', -, hunreadable⟩
        obtain rfl := Except.ok.inj (hmaster.2.symm.trans hmaster'.2)
        exact hunreadable hreadable
      · rintro - e hfailed
        cases hfailed
  · have hnone := not_exists.mp hmaster
    constructor
    · rintro - ⟨config, hconfig, -⟩
      exact hnone config hconfig
    · rintro - e hfailed
      obtain ⟨e', hevent⟩ | ⟨names, stored, hevent, -⟩ :=
        handleFileEvent_cases fsScan event order hnone
      · rw [hevent]
        exact ⟨rfl, rfl⟩
      · rw [hevent] at hfailed
        cases hfailed

section NewPrefix

/-- The master configuration file. -/
def daemonToml : PathBuf := ⟨["etc", "segwire", "daemon.toml"]⟩

/-- A platform that knows a namespace and a master configuration with another prefix. -/
def nextPrefix : Platform :=
  .ofTables [(bareText "one", .bare "one")] [(masterText "next", .standard "next")]

/-- A configuration directory with one file, and the new master configuration. -/
def oneNamespace : FileSystem :=
  let files : HashMap PathBuf DiskFile :=
    (∅ : HashMap PathBuf DiskFile).insert daemonToml ⟨masterText "next", 0⟩
  Disk.fileSystem ⟨files.insert ⟨["etc", "segwire", "namespaces", "one.toml"]⟩ ⟨bareText "one", 0⟩,
    {⟨["etc", "segwire", "namespaces"]⟩}⟩ .sorted

/-- The same files, when the directory can no longer be listed. -/
def unlistable : FileSystem :=
  { oneNamespace with readDir := fun _ => .error ⟨"Permission denied"⟩ }

/-- The manager of a daemon with the prefix `new` after its first scan. -/
def underNew : ConfigManager :=
  ((fromConfig (.standard "new") daemonToml).scanNamespaceConfigs nextPrefix oneNamespace).2

end NewPrefix

theorem linked_along_prefix_change :
    (run (apply nextPrefix) (fromConfig (.standard "new") daemonToml)
      [.scan oneNamespace,
        .fileEvent (.modified daemonToml) oneNamespace oneNamespace .sorted]).Linked := by
  have hreadable : DirectoryReadable oneNamespace ⟨["etc", "segwire", "namespaces"]⟩ :=
    ⟨[⟨["etc", "segwire", "namespaces", "one.toml"]⟩], by decide⟩
  have hreads : AlongRun (apply nextPrefix) (ReadsDirectory nextPrefix)
      (fromConfig (.standard "new") daemonToml)
      [.scan oneNamespace,
        .fileEvent (.modified daemonToml) oneNamespace oneNamespace .sorted] := by
    refine ⟨hreadable, ?_, trivial⟩
    rintro config ⟨-, hload⟩
    obtain rfl := Except.ok.inj hload
    exact hreadable
  exact linked_along_run hreads _ [] rfl

/-- The new prefix is kept over the entries of the old one when the scan fails. -/
theorem changed_on_error :
    ¬ underNew.UnchangedOnError nextPrefix oneNamespace unlistable .sorted
      (.modified daemonToml) := by
  intro hunchanged
  have hprefix := congrArg (fun config => config.daemon.namespacePrefix) (hunchanged _ rfl).1
  revert hprefix
  decide

end ConfigManager

end Segwire.Daemon
