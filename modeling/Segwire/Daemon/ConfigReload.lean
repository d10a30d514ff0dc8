import Segwire.Daemon.ConfigStore
import Segwire.Daemon.EventLoop
import Segwire.Daemon.NamespaceHandlers
import Segwire.Daemon.SyncReports

/-!
# What ReloadConfiguration applies

`ReloadConfiguration` parses the files of the configuration directory and answers how
many there were. It neither stores what it parsed nor synchronizes anything, so that it
applies the files only where they have already been applied.

## Main definitions

* `NamespaceStateManager.UpToDate` — a synchronization changes only time stamps of a name
* `Managers.ReloadApplied` — the files on disk are what is loaded, counted and tracked
* `Managers.FilesApplied` — they are so before the call

## Main results

* `NamespaceStateManager.untimed_synchronizeState_iff` — when a synchronization changes
  nothing but time stamps
* `Managers.reloadApplies_iff`, `Managers.reload_not_applied_added`
-/

namespace Segwire.Daemon

open Foundation Segwire.Common

/-! ### Synchronizations that change nothing -/

/-- The state is active and has the settings of the configuration. -/
structure Reflects (entry : NamespaceConfigEntry) (state : NamespaceState) : Prop where
  status : state.status = .active
  interfaces : state.interfaces = configuredInterfaces entry.config true
  routes : state.routes = configuredRoutes entry.config
  dnsConfig : state.dnsConfig = ⟨entry.config.dns.servers, entry.config.dns.search⟩

theorem untimed_touch (state : NamespaceState) (now : SystemTime) :
    untimed (state.touch now) = untimed state := rfl

/-- An update from an active namespace changes nothing but time stamps iff the state
reflects the configuration. -/
theorem untimed_updateStateFromConfigAndActual_iff {entry : NamespaceConfigEntry}
    {info : NamespaceInfo} (hactive : info.active = true) (now : SystemTime)
    (state : NamespaceState) :
    untimed (updateStateFromConfigAndActual entry info now state) = untimed state ↔
      Reflects entry state := by
  unfold updateStateFromConfigAndActual
  rw [untimed_touch, hactive]
  constructor
  · intro hsame
    exact ⟨(congrArg NamespaceState.status hsame).symm,
      (congrArg NamespaceState.interfaces hsame).symm,
      (congrArg NamespaceState.routes hsame).symm,
      (congrArg NamespaceState.dnsConfig hsame).symm⟩
  · rintro ⟨hstatus, hinterfaces, hroutes, hdns⟩
    rw [← hinterfaces, ← hroutes, ← hdns, if_pos rfl, ← hstatus]

namespace NamespaceStateManager

variable {manager : NamespaceStateManager} {configManager : ConfigManager}
  {actual : KeyedMap NamespaceInfo.name} {k : String}

/-- A configured name is tracked, a tracked one is configured or there, and the state of
a namespace that is there and whose file is newer has the settings of the file. -/
structure UpToDate (manager : NamespaceStateManager) (configManager : ConfigManager)
    (managed : KeyedMap NamespaceInfo.name) (k : String) : Prop where
  configured : configManager.namespaceConfigs.contains k = true →
    manager.namespaceStates.contains k = true
  known : manager.namespaceStates.contains k = true →
    configManager.namespaceConfigs.contains k = true ∨ managed.contains k = true
  settings : ∀ entry state, configManager.namespaceConfigs.lookup k = some entry →
    manager.namespaceStates.lookup k = some state → managed.contains k = true →
    state.lastUpdated < unixSeconds entry.lastModified → Reflects entry state

/-- A tracked name that is managed is updated if its file is newer. -/
theorem exists_lookup_synchronizeState {entry : NamespaceConfigEntry} {state : NamespaceState}
    {info : NamespaceInfo} (orders : SyncOrders)
    (hlist : manager.netlinkManager.listNamespaces = .ok actual)
    (hk : configManager.namespaceConfigs.lookup k = some entry)
    (hstate : manager.namespaceStates.lookup k = some state)
    (hmanaged : (managedActual configManager actual).lookup k = some info) :
    ∃ now, (manager.synchronizeState orders configManager).2.namespaceStates.lookup k =
      some (if state.lastUpdated < unixSeconds entry.lastModified then
        updateStateFromConfigAndActual entry info now state else state.touch now) := by
  obtain ⟨now, hnow⟩ := synchronizeState_of_tracked_of_managed orders hlist hk hstate hmanaged
  refine ⟨now, (congrArg Prod.fst hnow).trans ?_⟩
  have hneeds : needsNamespaceUpdate state entry info =
      decide (state.lastUpdated < unixSeconds entry.lastModified) := by
    rw [needsNamespaceUpdate, hasConfigurationDrift, active_of_managed hlist hmanaged,
      Bool.not_true, Bool.or_false]
  rw [hneeds]
  by_cases hnewer : state.lastUpdated < unixSeconds entry.lastModified
  · rw [decide_eq_true hnewer, if_pos hnewer, if_pos rfl]
  · rw [decide_eq_false hnewer, if_neg hnewer, if_neg Bool.false_ne_true]

/-- A synchronization changes nothing but time stamps of a name that is up to date. -/
theorem untimed_synchronizeState_iff (orders : SyncOrders)
    (hlist : manager.netlinkManager.listNamespaces = .ok actual) :
    (((manager.synchronizeState orders configManager).2.namespaceStates.lookup k).map untimed =
        (manager.namespaceStates.lookup k).map untimed) ↔
      manager.UpToDate configManager (managedActual configManager actual) k := by
  constructor
  · intro hsame
    have htracked : manager.namespaceStates.contains k =
        (configManager.namespaceConfigs.contains k || manager.namespaceStates.contains k &&
          (managedActual configManager actual).contains k) := by
      have hsome := congrArg Option.isSome hsame
      rw [Option.isSome_map, Option.isSome_map] at hsome
      exact hsome.symm.trans (contains_synchronizeState hlist orders)
    refine ⟨fun hconfigured => ?_, fun hwas => ?_, fun entry state hk hstate hthere hnewer => ?_⟩
    · rw [htracked, hconfigured, Bool.true_or]
    · rw [hwas, Bool.true_and] at htracked
      exact Bool.or_eq_true_iff.mp htracked.symm
    · obtain ⟨info, hmanaged⟩ := KeyedMap.contains_iff.mp hthere
      obtain ⟨now, hnow⟩ := exists_lookup_synchronizeState orders hlist hk hstate hmanaged
      rw [hnow, if_pos hnewer, hstate, Option.map_some, Option.map_some, Option.some_inj] at hsame
      exact (untimed_updateStateFromConfigAndActual_iff (active_of_managed hlist hmanaged) now
        state).mp hsame
  · intro hdate
    cases hk : configManager.namespaceConfigs.lookup k with
    | none =>
      have hafter := congrArg Prod.fst (component_synchronizeState_of_unconfigured orders hlist hk)
      refine (congrArg _ hafter).trans ?_
      split_ifs with hmanaged
      · rfl
      · -- a name that is neither configured nor there is not tracked
        cases hstate : manager.namespaceStates.lookup k with
        | none => rfl
        | some state =>
          rcases hdate.known (KeyedMap.contains_iff.mpr ⟨state, hstate⟩) with hconfigured | hthere
          · rw [KeyedMap.contains_eq_false_iff.mpr hk] at hconfigured
            cases hconfigured
          · exact absurd hthere hmanaged
    | some entry =>
      obtain ⟨state, hstate⟩ :=
        KeyedMap.contains_iff.mp (hdate.configured (KeyedMap.contains_iff.mpr ⟨entry, hk⟩))
      rw [hstate]
      cases hmanaged : (managedActual configManager actual).lookup k with
      | none =>
        have hsame := synchronizeState_of_tracked_of_missing orders hlist hk hstate hmanaged
        exact congrArg _ ((congrArg Prod.fst hsame).trans hstate)
      | some info =>
        obtain ⟨now, hnow⟩ := exists_lookup_synchronizeState orders hlist hk hstate hmanaged
        rw [hnow, Option.map_some, Option.map_some, Option.some_inj]
        split_ifs with hnewer
        · exact (untimed_updateStateFromConfigAndActual_iff (active_of_managed hlist hmanaged) now
            state).mpr (hdate.settings entry state hk hstate
              (KeyedMap.contains_iff.mpr ⟨info, hmanaged⟩) hnewer)
        · exact untimed_touch _ _

end NamespaceStateManager

/-! ### The files of the directory -/

section Files

variable (platform : Platform) (fs : FileSystem) (configDir : PathBuf)

/-- The `.toml` files that the directory lists. -/
def listedFiles : List PathBuf :=
  match fs.readDir configDir with
  | .error _ => []
  | .ok entries => (entries.filterMap Except.toOption).filter fun path =>
      fs.isFile path && path.extension == some "toml"

/-- The file can be read and parsed. -/
def parses (path : PathBuf) : Bool := (loadNamespaceConfig platform fs path).toOption.isSome

/-- `NamespaceConfig::from_file` accepts the file. -/
def accepts (path : PathBuf) : Bool := (NamespaceConfig.fromFile platform fs path).toOption.isSome

/-- How many of the files `NamespaceConfig::from_file` accepts. -/
def acceptedCount : Nat := (listedFiles fs configDir).countP (accepts platform fs)

/-- How many of the files parse and are not accepted. -/
def parsedOnlyCount : Nat :=
  (listedFiles fs configDir).countP fun path => parses platform fs path && !accepts platform fs path

/-- How many of the files are accepted and do not parse as they stand. -/
def acceptedOnlyCount : Nat :=
  (listedFiles fs configDir).countP fun path => accepts platform fs path && !parses platform fs path

variable {platform fs configDir}

/-- Collecting the files fails at an entry that cannot be read, and never else. -/
theorem collectConfigFiles_of_paths (fs : FileSystem) (paths : List PathBuf) :
    collectConfigFiles fs (paths.map .ok) =
      .ok (paths.filter fun path => fs.isFile path && path.extension == some "toml") := by
  induction paths with
  | nil => rfl
  | cons path paths ih =>
    rw [List.map_cons, collectConfigFiles, ih, List.filter_cons]
    rfl

theorem exists_paths_of_collectConfigFiles {entries : List (Except IoError PathBuf)}
    {files : List PathBuf} (h : collectConfigFiles fs entries = .ok files) :
    ∃ paths : List PathBuf, entries = paths.map .ok := by
  induction entries generalizing files with
  | nil => exact ⟨[], rfl⟩
  | cons entry entries ih =>
    cases entry with
    | error e => cases h
    | ok path =>
      obtain ⟨rest, hrest, -⟩ := Except.bind_eq_ok_iff.mp h
      obtain ⟨paths, rfl⟩ := ih hrest
      exact ⟨path :: paths, rfl⟩

theorem listedFiles_of_paths {paths : List PathBuf}
    (hread : fs.readDir configDir = .ok (paths.map .ok)) :
    listedFiles fs configDir =
      paths.filter fun path => fs.isFile path && path.extension == some "toml" := by
  have hpaths : (paths.map Except.ok : List (Except IoError PathBuf)).filterMap
      Except.toOption = paths := by
    rw [List.filterMap_map]
    exact List.filterMap_some
  rw [listedFiles, hread]
  dsimp only
  rw [hpaths]

/-- A reload of a directory that can be read counts the files that parse. -/
theorem reloadAllConfigurations_of_readable (hexists : fs.pathExists configDir = true)
    (hreadable : DirectoryReadable fs configDir) :
    ∃ errorCount, reloadAllConfigurations platform fs configDir =
      .ok ((listedFiles fs configDir).countP (parses platform fs), errorCount) := by
  obtain ⟨paths, hread⟩ := hreadable
  have hscan : scanConfigDirectory fs configDir =
      .ok ((listedFiles fs configDir).insertionSort (· ≤ ·)) := by
    rw [scanConfigDirectory, hexists, hread, listedFiles_of_paths hread]
    change (collectConfigFiles fs (paths.map .ok) >>= _) = _
    rw [collectConfigFiles_of_paths]
    rfl
  have hcount : (((listedFiles fs configDir).insertionSort (· ≤ ·)).filter fun file =>
      (loadNamespaceConfig platform fs file).toOption.isSome).length =
        (listedFiles fs configDir).countP (parses platform fs) := by
    rw [← List.countP_eq_length_filter]
    exact (List.perm_insertionSort _ _).countP_eq _
  rw [reloadAllConfigurations, hscan, ← hcount]
  exact ⟨_, rfl⟩

theorem readable_of_reloadAllConfigurations {counts : Nat × Nat}
    (h : reloadAllConfigurations platform fs configDir = .ok counts) :
    fs.pathExists configDir = true ∧ DirectoryReadable fs configDir := by
  obtain ⟨configFiles, hscan, -⟩ := Except.bind_eq_ok_iff.mp h
  unfold scanConfigDirectory at hscan
  split_ifs at hscan with hexists
  obtain ⟨entries, hread, hscan⟩ := Except.bind_eq_ok_iff.mp hscan
  obtain ⟨files, hcollect, -⟩ := Except.bind_eq_ok_iff.mp hscan
  obtain ⟨paths, rfl⟩ := exists_paths_of_collectConfigFiles hcollect
  exact ⟨by simpa using hexists, paths, Except.mapError_eq_ok_iff.mp hread⟩

/-- The count of the files that parse is that of the accepted files, modulo `2 ^ 32`. -/
theorem countP_parses_mod_eq_iff :
    (listedFiles fs configDir).countP (parses platform fs) % 2 ^ 32 =
        acceptedCount platform fs configDir ↔
      acceptedCount platform fs configDir < 2 ^ 32 ∧
        parsedOnlyCount platform fs configDir % 2 ^ 32 =
          acceptedOnlyCount platform fs configDir % 2 ^ 32 := by
  have hparses := List.countP_eq_countP_filter_add (listedFiles fs configDir)
    (parses platform fs) (accepts platform fs)
  have haccepts := List.countP_eq_countP_filter_add (listedFiles fs configDir)
    (accepts platform fs) (parses platform fs)
  simp only [List.countP_filter] at hparses haccepts
  -- the files that both loaders take count alike
  have hboth : (fun path => accepts platform fs path && parses platform fs path) =
      fun path => parses platform fs path && accepts platform fs path := by
    funext path
    exact Bool.and_comm _ _
  rw [hboth] at haccepts
  unfold acceptedCount parsedOnlyCount acceptedOnlyCount
  omega

end Files

/-! ### The call -/

namespace Managers

variable (m : Managers) (svc : ServiceState) (sur : Surroundings) (caller : Caller)

/-- The managers after a call to `ReloadConfiguration`. -/
def reloaded : Managers := ((svc.handle sur caller .reloadConfiguration).run m).2

/-- The call is answered with success and this `loaded_count`. -/
def ReloadSucceeds (loadedCount : Nat) : Prop :=
  ∃ result, ((svc.handle sur caller .reloadConfiguration).run m).1 = .ok (.operation result) ∧
    result.success = true ∧ result.details.lookup "loaded_count" = some (toString loadedCount)

/-- The configuration manager after a scan of the files on disk. -/
def scanned (platform : Platform) : ConfigManager :=
  (m.configManager.scanNamespaceConfigs platform m.host.files).2

/-- From `m` to `m'`, the files on disk have been loaded and counted, and the tracked
states are those that a synchronization leaves, up to time stamps. -/
structure ReloadApplied (m m' : Managers) (platform : Platform) (loadedCount : Nat) : Prop where
  loaded : m'.configManager.namespaceConfigs = (m.scanned platform).namespaceConfigs
  counted : loadedCount =
    acceptedCount platform m.host.files m.configManager.configDirectory
  synchronized : ∃ orders, ∀ k, (m'.stateManager.namespaceStates.lookup k).map untimed =
    ((m.stateManager.synchronizeState orders (m.scanned platform)).2.namespaceStates.lookup
      k).map untimed

/-- A call that succeeds applies the files. -/
def ReloadApplies : Prop :=
  ∀ loadedCount, m.ReloadSucceeds svc sur caller loadedCount →
    m.ReloadApplied (m.reloaded svc sur caller) sur.platform loadedCount

/-- The files on disk are loaded already, the daemon's two loaders accept equally many of
them up to overflow, and every name is up to date with them. -/
structure FilesApplied (m : Managers) (platform : Platform) : Prop where
  loaded : m.configManager.namespaceConfigs = (m.scanned platform).namespaceConfigs
  few : acceptedCount platform m.host.files m.configManager.configDirectory < 2 ^ 32
  balanced : parsedOnlyCount platform m.host.files m.configManager.configDirectory % 2 ^ 32 =
    acceptedOnlyCount platform m.host.files m.configManager.configDirectory % 2 ^ 32
  upToDate : ∀ actual, m.stateManager.netlinkManager.listNamespaces = .ok actual → ∀ k,
    m.stateManager.UpToDate (m.scanned platform)
      (NamespaceStateManager.managedActual (m.scanned platform) actual) k

variable {m svc sur caller}

/-- The call changes nothing. -/
theorem reloaded_eq : m.reloaded svc sur caller = m := by
  unfold reloaded
  by_cases hserved : Served svc sur caller .reloadConfiguration
  · rw [hserved.handle]
    rfl
  · obtain ⟨e, he⟩ := exists_handle_of_not_served hserved
    rw [he]
    rfl

/-- The call succeeds iff it is served and the directory is there and can be read. -/
theorem reloadSucceeds_iff {loadedCount : Nat} :
    m.ReloadSucceeds svc sur caller loadedCount ↔
      (Served svc sur caller .reloadConfiguration ∧
        m.host.files.pathExists m.configManager.configDirectory = true ∧
        DirectoryReadable m.host.files m.configManager.configDirectory) ∧
      loadedCount = (listedFiles m.host.files m.configManager.configDirectory).countP
        (parses sur.platform m.host.files) % 2 ^ 32 := by
  have hrun (hserved : Served svc sur caller .reloadConfiguration) {counts : Nat × Nat}
      (hreload : reloadAllConfigurations sur.platform m.host.files
        m.configManager.configDirectory = .ok counts) :
      ((svc.handle sur caller .reloadConfiguration).run m).1 =
        .ok (.operation (reloadResult (counts.1 % 2 ^ 32) (counts.2 % 2 ^ 32))) := by
    rw [hserved.handle]
    simp only [ServiceState.serve, reloadConfiguration, Task.run_bind, Task.run_read, hreload]
  have hfailed (hserved : Served svc sur caller .reloadConfiguration) {e : SegwireError}
      (hreload : reloadAllConfigurations sur.platform m.host.files
        m.configManager.configDirectory = .error e) :
      ((svc.handle sur caller .reloadConfiguration).run m).1 =
        .ok (.operation (.failure ("Configuration reload failed: " ++ e.display))) := by
    rw [hserved.handle]
    simp only [ServiceState.serve, reloadConfiguration, Task.run_bind, Task.run_read, hreload]
  have hcount (loadedCount errorCount : Nat) :
      (reloadResult loadedCount errorCount).details.lookup "loaded_count" =
        some (toString loadedCount) := by
    simp [reloadResult, OperationResult.withDetail]
  constructor
  · rintro ⟨result, hreply, hsuccess, hdetail⟩
    by_cases hserved : Served svc sur caller .reloadConfiguration
    · cases hreload : reloadAllConfigurations sur.platform m.host.files
          m.configManager.configDirectory with
      | error e =>
        rw [hfailed hserved hreload] at hreply
        obtain rfl := Reply.operation.inj (Except.ok.inj hreply)
        cases hsuccess
      | ok counts =>
        obtain ⟨hexists, hreadable⟩ := readable_of_reloadAllConfigurations hreload
        obtain ⟨errorCount, hcounts⟩ :=
          reloadAllConfigurations_of_readable hexists hreadable
        rw [hrun hserved hcounts] at hreply
        obtain rfl := Reply.operation.inj (Except.ok.inj hreply)
        rw [hcount] at hdetail
        refine ⟨⟨hserved, hexists, hreadable⟩, ?_⟩
        exact (Text.toString_nat_injective (Option.some.inj hdetail)).symm
    · obtain ⟨e, he⟩ := exists_handle_of_not_served hserved
      rw [he] at hreply
      cases hreply
  · rintro ⟨⟨hserved, hexists, hreadable⟩, rfl⟩
    obtain ⟨errorCount, hcounts⟩ := reloadAllConfigurations_of_readable hexists hreadable
    exact ⟨_, hrun hserved hcounts, rfl, hcount _ _⟩

/-- A call applies the files iff it does not succeed, or they were applied before it. -/
theorem reloadApplies_iff :
    m.ReloadApplies svc sur caller ↔
      (Served svc sur caller .reloadConfiguration →
        m.host.files.pathExists m.configManager.configDirectory = true →
        DirectoryReadable m.host.files m.configManager.configDirectory →
          m.FilesApplied sur.platform) := by
  unfold ReloadApplies
  rw [reloaded_eq]
  constructor
  · intro happlies hserved hexists hreadable
    obtain ⟨hloaded, hcounted, orders, hstates⟩ :=
      happlies _ (reloadSucceeds_iff.mpr ⟨⟨hserved, hexists, hreadable⟩, rfl⟩)
    obtain ⟨hfew, hbalanced⟩ := countP_parses_mod_eq_iff.mp hcounted
    refine ⟨hloaded, hfew, hbalanced, fun actual hlist k => ?_⟩
    exact (NamespaceStateManager.untimed_synchronizeState_iff orders hlist).mp (hstates k).symm
  · intro happlied loadedCount hsucceeds
    obtain ⟨⟨hserved, hexists, hreadable⟩, rfl⟩ := reloadSucceeds_iff.mp hsucceeds
    obtain ⟨hloaded, hfew, hbalanced, hdate⟩ := happlied hserved hexists hreadable
    refine ⟨hloaded, countP_parses_mod_eq_iff.mpr ⟨hfew, hbalanced⟩, .sorted, fun k => ?_⟩
    cases hlist : m.stateManager.netlinkManager.listNamespaces with
    | error e =>
      -- without a list of the namespaces, a synchronization does nothing
      rw [NamespaceStateManager.synchronizeState, hlist]
    | ok actual =>
      have hsame := (NamespaceStateManager.untimed_synchronizeState_iff .sorted hlist).mpr
        (hdate actual hlist k)
      exact hsame.symm

section Added

/-- The standard directory without files. -/
def emptyDirectory : FileSystem :=
  Disk.fileSystem ⟨∅, {⟨["etc", "segwire", "namespaces"]⟩}⟩ .sorted

/-- A file is added, and its event is still to come. -/
def fileAdded : List Input :=
  [.hostChange (.quiet 1 (oneFile (bareText "one") 0))]

end Added

/-- The reload counts a file that has been added, and does not load it. -/
theorem reload_not_applied_added :
    ∃ s₀, DaemonEventLoop.start ConfigManager.nextPrefix (.quiet true "new" 0 emptyDirectory) =
        .ok s₀ ∧
      let s := run (DaemonEventLoop.step ConfigManager.nextPrefix) s₀ fileAdded
      ¬ s.managers.ReloadApplies s.service (.authorizing ConfigManager.nextPrefix) operator := by
  refine ⟨_, rfl, fun happlies => ?_⟩
  have happlied := happlies 1 ⟨_, rfl, rfl, by decide⟩
  have hloaded := congrArg (·.contains "new-one") happlied.loaded
  revert hloaded
  decide

end Managers

end Segwire.Daemon
