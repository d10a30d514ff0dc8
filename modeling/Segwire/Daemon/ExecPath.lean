import Segwire.Daemon.PrefixedNames

/-!
# The path that ExecAuthorize returns

`ExecAuthorize` looks a namespace up under its generated full name, else under the
name as requested, but always builds the path from the full name. The two coincide
for names that carry the prefix. A state kept from before a change of the prefix is
found under the requested name, and the path is that of another namespace.

## Main definitions

* `DaemonEventLoop.ExecPathChecked` — the namespace of a returned path is active
* `DaemonEventLoop.FallsBack` — the requests answered through the requested name

## Main results

* `DaemonEventLoop.execPath_along_run` — exactly these fail, and none before the
  prefix changes
* `DaemonEventLoop.execPath_unchecked_after_prefix_change`
-/

namespace Segwire.Daemon

open Foundation Segwire.Common

/-- The path of a namespace. -/
def netnsPath (k : String) : String := "/run/netns/" ++ k

theorem netnsPath_inj {k k' : String} (h : netnsPath k = netnsPath k') : k = k' :=
  String.append_right_inj (s := "/run/netns/") |>.mp h

variable {platform : Platform} {m : Managers} {namespaceName : String}

/-- What `ExecAuthorize` returns once it is authorized. -/
theorem run_execAuthorize_iff {path : String} :
    ((execAuthorize namespaceName).run m).1 = .ok (.nsPath path) ↔
      ∃ state, findNamespaceState (m.configManager.generateFullNamespaceName namespaceName)
          namespaceName m = some state ∧
        state.status = .active ∧
        m.host.netnsPathExists (m.configManager.generateFullNamespaceName namespaceName) = true ∧
        netnsPath (m.configManager.generateFullNamespaceName namespaceName) = path := by
  unfold execAuthorize
  simp only [Task.run_bind, Task.run_read]
  cases findNamespaceState (m.configManager.generateFullNamespaceName namespaceName)
      namespaceName m with
  | none => simp
  | some state =>
    dsimp only
    split_ifs with hactive
    · rw [NamespaceState.isActive_iff] at hactive
      simp only [Task.run_bind, Task.run_read]
      split_ifs with hexists
      · simp [hactive, hexists, netnsPath]
      · simp [hexists]
    · rw [NamespaceState.isActive_iff] at hactive
      simp [hactive]

namespace DaemonEventLoop

/-- If `ExecAuthorize` returns the path of a namespace, that namespace is tracked as
active. -/
def ExecPathChecked (s : DaemonEventLoop) (sur : Surroundings) (caller : Caller)
    (namespaceName : String) : Prop :=
  ∀ k, ((s.service.handle sur caller (.execAuthorize namespaceName)).run s.managers).1 =
      .ok (.nsPath (netnsPath k)) → s.managers.IsActive k

/-- A request that is answered through the requested name: it is served, its full name
is not tracked but has a path, and the requested name is tracked as active. -/
structure FallsBack (s : DaemonEventLoop) (sur : Surroundings) (caller : Caller)
    (namespaceName : String) : Prop where
  argument : (Method.execAuthorize namespaceName).checkArgument sur.platform = .ok ()
  authorized : checkAuthorization s.service sur.bus "exec" caller = .ok ()
  untracked : s.managers.stateManager.getNamespaceState
    (s.managers.configManager.generateFullNamespaceName namespaceName) = none
  active : s.managers.IsActive namespaceName
  present : s.managers.host.netnsPathExists
    (s.managers.configManager.generateFullNamespaceName namespaceName) = true

variable {s : DaemonEventLoop} {sur : Surroundings} {caller : Caller}

/-- `ExecAuthorize` returns a path only for a request that passes the checks. -/
theorem run_handle_execAuthorize_iff {path : String} :
    ((s.service.handle sur caller (.execAuthorize namespaceName)).run s.managers).1 =
        .ok (.nsPath path) ↔
      (Method.execAuthorize namespaceName).checkArgument sur.platform = .ok () ∧
        checkAuthorization s.service sur.bus "exec" caller = .ok () ∧
        ((execAuthorize namespaceName).run s.managers).1 = .ok (.nsPath path) := by
  unfold ServiceState.handle
  cases (Method.execAuthorize namespaceName).checkArgument sur.platform with
  | error e => simp
  | ok accepted =>
    simp only [Method.action, ServiceState.serve]
    cases checkAuthorization s.service sur.bus "exec" caller with
    | error e => simp
    | ok authorized => simp

/-- The path is that of an active namespace unless the request is answered through the
requested name. -/
theorem execPathChecked_iff :
    s.ExecPathChecked sur caller namespaceName ↔ ¬ s.FallsBack sur caller namespaceName := by
  constructor
  · rintro hchecked ⟨hargument, hauthorized, huntracked, ⟨state, hstate, hactive⟩, hpresent⟩
    have hfound : findNamespaceState
        (s.managers.configManager.generateFullNamespaceName namespaceName) namespaceName
        s.managers = some state := by
      rw [findNamespaceState, huntracked]
      exact hstate
    obtain ⟨tracked, htracked, -⟩ := hchecked _ (run_handle_execAuthorize_iff.mpr
      ⟨hargument, hauthorized, run_execAuthorize_iff.mpr ⟨state, hfound, hactive, hpresent, rfl⟩⟩)
    rw [NamespaceStateManager.getNamespaceState, htracked] at huntracked
    cases huntracked
  · intro hback k hrun
    obtain ⟨hargument, hauthorized, hserved⟩ := run_handle_execAuthorize_iff.mp hrun
    obtain ⟨state, hfound, hactive, hpresent, hpath⟩ := run_execAuthorize_iff.mp hserved
    obtain rfl := netnsPath_inj hpath
    cases hfull : s.managers.stateManager.getNamespaceState
        (s.managers.configManager.generateFullNamespaceName namespaceName) with
    -- the state was found under the full name, from which the path is built
    | some tracked =>
      rw [findNamespaceState, hfull] at hfound
      obtain rfl := Option.some.inj hfound
      exact ⟨tracked, hfull, hactive⟩
    | none =>
      rw [findNamespaceState, hfull] at hfound
      exact absurd ⟨hargument, hauthorized, hfull, ⟨state, hfound, hactive⟩, hpresent⟩ hback

/-- While all names carry the prefix, a requested name that is tracked is its own full
name. -/
theorem Prefixed.not_fallsBack {pfx : String} (h : s.Prefixed pfx) :
    ¬ s.FallsBack sur caller namespaceName := by
  intro hback
  obtain ⟨state, hstate, -⟩ := hback.active
  have hmatches : s.managers.configManager.matchesNamespacePrefix namespaceName = true := by
    rw [ConfigManager.matchesNamespacePrefix, h.managers.config.prefix_eq]
    exact h.managers.tracked namespaceName (KeyedMap.contains_iff.mpr ⟨state, hstate⟩)
  -- generating the full name of a name with the prefix does nothing
  have huntracked := hback.untracked
  rw [ConfigManager.generateFullNamespaceName_of_matches hmatches,
    NamespaceStateManager.getNamespaceState, hstate] at huntracked
  cases huntracked

/-- In every state that a run of the daemon reaches, a returned path is that of an
active namespace unless the request is answered through the requested name; if no step
of the run changed the prefix, no request is. -/
theorem execPath_along_run {setup : Setup} {s₀ : DaemonEventLoop}
    (hstart : start platform setup = .ok s₀) (inputs : List Input) :
    (∀ sur caller namespaceName,
      (run (step platform) s₀ inputs).ExecPathChecked sur caller namespaceName ↔
        ¬ (run (step platform) s₀ inputs).FallsBack sur caller namespaceName) ∧
    (AlongRun (step platform) (KeepsPrefix platform) s₀ inputs →
      ∀ sur caller namespaceName,
        (run (step platform) s₀ inputs).ExecPathChecked sur caller namespaceName) :=
  ⟨fun _ _ _ => execPathChecked_iff,
    fun hkeeps _ _ _ => execPathChecked_iff.mpr (prefixed_along_run hstart hkeeps).not_fallsBack⟩

section PrefixChange

/-- A master configuration that lies in the configuration directory. -/
def daemonToml : PathBuf := ⟨["etc", "segwire", "namespaces", "daemon.toml"]⟩

/-- The directory with one namespace and a master configuration. -/
def underPrefix (pfx : String) : FileSystem :=
  let files : HashMap PathBuf DiskFile :=
    (∅ : HashMap PathBuf DiskFile).insert appToml ⟨bareText "app", 0⟩
  Disk.fileSystem ⟨files.insert daemonToml ⟨masterText pfx, 0⟩,
    {⟨["etc", "segwire", "namespaces"]⟩}⟩ .sorted

/-- A platform that knows the texts of the namespace and of two master configurations. -/
def twoPrefixes : Platform :=
  .ofTables [(bareText "app", .bare "app")]
    [(masterText "old", .standard "old"), (masterText "new", .standard "new")]

/-- A daemon with the prefix `old`, on the machine itself. -/
def oldPrefix : Setup :=
  { Setup.quiet false "old" 5 (underPrefix "old") with configPath := daemonToml }

/-- The namespace of the daemon and one of somebody else. -/
def crowded : Host :=
  let netns : HashMap String NetnsFile := (∅ : HashMap String NetnsFile).insert "old-app" ⟨true⟩
  { Host.quiet 6 (underPrefix "new") with
    netns := some (netns.insert "new-old-app" ⟨true⟩) }

/-- The daemon creates its namespace `old-app`, and somebody else creates `new-old-app`. -/
def bothCreated : List Input := [.initialSync .sorted, .hostChange crowded]

/-- The monitoring thread handles a change of the master configuration. -/
def masterChanged (pfx : String) : Input :=
  .configEvent (.modified daemonToml) (underPrefix pfx) (underPrefix pfx) .sorted

end PrefixChange

theorem execPath_along_masterChanged : ∃ s₀, start twoPrefixes oldPrefix = .ok s₀ ∧
    ∀ sur caller namespaceName,
      (run (step twoPrefixes) s₀
        (bothCreated ++ [masterChanged "old"])).ExecPathChecked sur caller
          namespaceName := by
  have hstart : start twoPrefixes oldPrefix = .ok _ := rfl
  refine ⟨_, hstart, (execPath_along_run hstart _).2 ⟨trivial, trivial, ?_, trivial⟩⟩
  intro _ _ config hload
  obtain rfl := Except.ok.inj hload
  rfl

/-- Before the change of the prefix is synchronized, the path of somebody else's namespace
is returned for the name of the daemon's own. -/
theorem execPath_unchecked_after_prefix_change : ∃ s₀, start twoPrefixes oldPrefix = .ok s₀ ∧
    ¬ (run (step twoPrefixes) s₀ (bothCreated ++ [masterChanged "new"])).ExecPathChecked
      (.authorizing twoPrefixes) operator "old-app" := by
  refine ⟨_, rfl, fun hchecked => ?_⟩
  -- under the new prefix the full name of `old-app` is that of the other namespace
  obtain ⟨state, hstate, -⟩ := hchecked "new-old-app" rfl
  have htracked := KeyedMap.contains_iff.mpr ⟨state, hstate⟩
  revert htracked
  decide

end DaemonEventLoop

end Segwire.Daemon
