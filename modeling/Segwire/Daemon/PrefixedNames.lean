import Segwire.Daemon.ConfigStore
import Segwire.Daemon.NamespaceSync
import Segwire.Daemon.StepInvariants

/-!
# Names that carry the prefix

The daemon enters configurations and states under full names, which it generates
under its current prefix. As long as no reload of the master configuration changes
the prefix, every name it holds carries it: the map of configurations is filled from
generated names only, and a name is tracked only if it was configured or tracked
before.

## Main definitions

* `ConfigManager.Holds` — a property of the entries that are configured under a prefix
* `ConfigManager.Prefixed`, `Managers.Prefixed` — the names carry a given prefix
* `NamespaceStateManager.Names` — a property of the names of every tracked state
* `DaemonEventLoop.KeepsPrefix` — the steps that leave the prefix as it is

## Main results

* `ConfigManager.Holds.handleFileEvent` — one file event
* `NamespaceStateManager.Names.synchronizeState` — one synchronization
* `DaemonEventLoop.prefixed_step`, `DaemonEventLoop.prefixed_along_run`
-/

namespace Segwire.Daemon

open Foundation Foundation.Text Segwire.Common

/-! ### The configured names -/

namespace ConfigManager

variable {platform : Platform} {fs fsScan : FileSystem} {manager : ConfigManager} {pfx : String}

/-- The manager's prefix is `pfx`, and every configured name carries it. -/
structure Prefixed (pfx : String) (manager : ConfigManager) : Prop where
  prefix_eq : manager.namespacePrefix = pfx
  configured : manager.namespaceConfigs.All fun k => matchesPrefix pfx k = true

/-- A change of the master configuration, if the event is one and the file loads,
leaves the prefix as it is. -/
def KeepsPrefix (platform : Platform) (fs : FileSystem) (manager : ConfigManager) :
    ConfigFileEvent → Prop
  | .modified path => path = manager.configFilePath → ∀ config,
      loadMasterConfig platform fs path = .ok config →
        config.daemon.namespacePrefix = manager.namespacePrefix
  | .created _ | .deleted _ => True

/-- The manager's prefix is `pfx`, and every configured entry satisfies `P`. -/
structure Holds (pfx : String) (P : NamespaceConfigEntry → Prop) (manager : ConfigManager) :
    Prop where
  prefix_eq : manager.namespacePrefix = pfx
  configured : manager.namespaceConfigs.Forall P

namespace Holds

variable {P : NamespaceConfigEntry → Prop}
  (hloads : ∀ platform fs (manager : ConfigManager),
    manager.namespacePrefix = pfx → manager.Loads platform fs P)
include hloads

/-- What is loaded under the prefix is what a scan enters. -/
theorem scanNamespaceConfigs (h : manager.Holds pfx P) (platform : Platform) (fs : FileSystem) :
    (manager.scanNamespaceConfigs platform fs).2.Holds pfx P := by
  obtain ⟨e, hscan⟩ | ⟨names, scanned, hscan, hscanned⟩ :=
    scanNamespaceConfigs_cases platform fs manager
  · rw [hscan]
    exact h
  · rw [hscan]
    exact ⟨h.prefix_eq, hscanned P (hloads platform fs manager h.prefix_eq)⟩

/-- A file event that keeps the prefix enters what is loaded under it. -/
theorem handleFileEvent (h : manager.Holds pfx P) (order : IterOrder String)
    {event : ConfigFileEvent} (hkeeps : manager.KeepsPrefix platform fs event) :
    (manager.handleFileEvent platform fs fsScan order event).2.Holds pfx P := by
  by_cases hmaster : ∃ config, manager.ReloadsMaster platform fs event config
  · obtain ⟨config, hmaster⟩ := hmaster
    rw [handleFileEvent_of_reloadsMaster hmaster]
    obtain ⟨rfl, hload⟩ := hmaster
    have hreloaded : Holds pfx P { manager with daemonConfig := config } :=
      ⟨(hkeeps rfl config hload).trans h.prefix_eq, h.configured⟩
    exact hreloaded.scanNamespaceConfigs hloads platform fsScan
  · obtain ⟨e, hevent⟩ | ⟨names, stored, hevent, hstored⟩ :=
      handleFileEvent_cases fsScan event order (not_exists.mp hmaster)
    · rw [hevent]
      exact h
    · rw [hevent]
      exact ⟨h.prefix_eq, hstored P (hloads platform fs manager h.prefix_eq) h.configured⟩

end Holds

theorem prefixed_iff_holds :
    manager.Prefixed pfx ↔ manager.Holds pfx fun entry => matchesPrefix pfx entry.fullName = true :=
  ⟨fun h => ⟨h.prefix_eq, KeyedMap.all_iff_forall.mp h.configured⟩,
    fun h => ⟨h.prefix_eq, KeyedMap.all_iff_forall.mpr h.configured⟩⟩

theorem loads_prefixed (hpfx : manager.namespacePrefix = pfx) :
    manager.Loads platform fs fun entry => matchesPrefix pfx entry.fullName = true := by
  intro path entry hload
  rw [(entry_of_load hload).2, ← hpfx]
  exact matches_generateFullNamespaceName manager _

theorem Prefixed.scanNamespaceConfigs (h : manager.Prefixed pfx) (platform : Platform)
    (fs : FileSystem) : (manager.scanNamespaceConfigs platform fs).2.Prefixed pfx :=
  prefixed_iff_holds.mpr
    ((prefixed_iff_holds.mp h).scanNamespaceConfigs (fun _ _ _ => loads_prefixed) platform fs)

/-- A file event that keeps the prefix enters names that carry it. -/
theorem Prefixed.handleFileEvent (h : manager.Prefixed pfx) (order : IterOrder String)
    {event : ConfigFileEvent} (hkeeps : manager.KeepsPrefix platform fs event) :
    (manager.handleFileEvent platform fs fsScan order event).2.Prefixed pfx :=
  prefixed_iff_holds.mpr
    ((prefixed_iff_holds.mp h).handleFileEvent (fun _ _ _ => loads_prefixed) order hkeeps)

end ConfigManager

/-! ### The tracked names -/

namespace NamespaceStateManager

variable {manager manager' : NamespaceStateManager} {configManager : ConfigManager}
  {entry : NamespaceConfigEntry} {p : String → String → Prop}

/-- The short name and the full name of every tracked state satisfy `p`. -/
def Names (p : String → String → Prop) (manager : NamespaceStateManager) : Prop :=
  manager.namespaceStates.Forall fun state => p state.name state.fullName

namespace Names

variable (h : manager.Names p)
include h

theorem of_states (hstates : manager'.namespaceStates = manager.namespaceStates) :
    manager'.Names p := by
  unfold Names
  rwa [hstates]

/-- A change in place that keeps the names keeps what holds of them. -/
theorem modifyState {change : SystemTime → NamespaceState → NamespaceState} (k : String)
    (hfull : ∀ now state, (change now state).fullName = state.fullName)
    (hname : ∀ now state, (change now state).name = state.name) :
    (manager.modifyState k change).Names p := by
  unfold NamespaceStateManager.modifyState getNamespaceState
  cases hstate : manager.namespaceStates.lookup k with
  | none => exact h
  | some state =>
    refine KeyedMap.Forall.insert (h.of_states rfl) ?_
    rw [hname, hfull]
    exact h k state hstate

theorem trackCreation (hentry : p entry.config.namespace_.name entry.fullName) :
    (manager.trackCreation entry).Names p :=
  KeyedMap.Forall.insert (h.of_states rfl) hentry

omit h in
theorem setNetlink (h : manager.Names p) (netlinkManager : NetlinkManager) :
    Names p { manager with netlinkManager } := h

theorem createNewNamespace (hentry : p entry.config.namespace_.name entry.fullName) :
    (manager.createNewNamespace entry).2.Names p := by
  have htracked := h.trackCreation hentry
  unfold NamespaceStateManager.createNewNamespace
  dsimp only
  split
  · next info netlink _ =>
    have hactive := (htracked.setNetlink ((netlink.applyInterfaces entry.fullName
      entry.config).applyRoutesAndDns entry.fullName entry.config)).modifyState entry.fullName
        (fullName_setStatus .active) fun _ _ => rfl
    exact hactive.modifyState entry.fullName
      (fullName_updateStateFromConfigAndActual entry info) fun _ _ => rfl
  · next e netlink _ =>
    exact (htracked.setNetlink netlink).modifyState entry.fullName
      (fullName_setStatus .failed) fun _ _ => rfl

theorem updateExistingNamespace (actual : NamespaceInfo) :
    (manager.updateExistingNamespace entry actual).2.Names p := by
  have htouched := (h.setNetlink
    (manager.netlinkManager.applyRoutesAndDns entry.fullName entry.config)).modifyState
      entry.fullName fullName_touch fun _ _ => rfl
  exact htouched.modifyState entry.fullName
    (fullName_updateStateFromConfigAndActual entry actual) fun _ _ => rfl

/-- Processing a configuration enters at most the names of that configuration. -/
theorem processConfiguredNamespace (hentry : p entry.config.namespace_.name entry.fullName)
    (managed : KeyedMap NamespaceInfo.name) :
    (manager.processConfiguredNamespace entry managed).2.Names p := by
  unfold NamespaceStateManager.processConfiguredNamespace
  dsimp only
  split
  · split_ifs
    · exact h.updateExistingNamespace _
    · exact h.modifyState _ fullName_touch fun _ _ => rfl
  · exact h
  · exact KeyedMap.Forall.insert (h.of_states rfl) hentry
  · exact h.createNewNamespace hentry

omit h in
theorem foldl_remove (h : manager.Names p) (names : List String) :
    (names.foldl removeNamespaceState manager).Names p := by
  induction names generalizing manager with
  | nil => exact h
  | cons name names ih => exact ih (h.erase name)

/-- A synchronization tracks the names of configurations beside those that were tracked. -/
theorem synchronizeState
    (hconfigured : configManager.namespaceConfigs.Forall fun entry =>
      p entry.config.namespace_.name entry.fullName) (orders : SyncOrders) :
    (manager.synchronizeState orders configManager).2.Names p := by
  unfold NamespaceStateManager.synchronizeState
  cases manager.netlinkManager.listNamespaces with
  | error e => exact h
  | ok actual =>
    have hloop : (((configManager.namespaceConfigs.iter orders.configs).foldl
        (syncConfigured (managedActual configManager actual)) (.empty, manager)).2).Names p := by
      refine List.foldlRecOn
        (motive := fun acc : SyncResult × NamespaceStateManager => acc.2.Names p) _ _ h
        fun acc hacc e he => ?_
      exact hacc.processConfiguredNamespace (hconfigured e.1 e.2 (KeyedMap.mem_iter.mp he)) _
    exact (hloop.foldl_remove _).of_states rfl

theorem resolveConflict
    (hconfigured : configManager.namespaceConfigs.Forall fun entry =>
      p entry.config.namespace_.name entry.fullName) (conflict : StateConflict) :
    (manager.resolveConflict conflict configManager).2.Names p := by
  unfold NamespaceStateManager.resolveConflict
  split
  · split
    · next entry hentry =>
      have hcreated := h.createNewNamespace (hconfigured _ entry hentry)
      split <;> next hresult => exact congrArg Prod.snd hresult ▸ hcreated
    · exact h
  · split
    · exact h.erase _
    · exact h

end Names

end NamespaceStateManager

/-! ### What the managers hold -/

namespace Managers

open ConfigManager

variable {m : Managers} {pfx : String}

/-- The daemon's prefix is `pfx`, and every name it holds carries it. -/
structure Prefixed (pfx : String) (m : Managers) : Prop where
  config : m.configManager.Prefixed pfx
  tracked : m.stateManager.namespaceStates.All fun k => matchesPrefix pfx k = true

theorem names_of_prefixed (h : m.Prefixed pfx) :
    m.stateManager.Names fun _ fullName => matchesPrefix pfx fullName = true :=
  KeyedMap.all_iff_forall.mp h.tracked

theorem stepClosed_prefixed (pfx : String) :
    StepClosed (Managers.Prefixed pfx) fun k => matchesPrefix pfx k = true where
  setHost _ _ h := ⟨h.config, h.tracked⟩
  generated m name h := by
    rw [← h.config.prefix_eq]
    exact m.configManager.matches_generateFullNamespaceName name
  record _ _ h hname := ⟨h.config, h.tracked.insert hname⟩
  forget _ _ h := ⟨h.config, h.tracked.erase _⟩
  synchronize _ orders h :=
    ⟨h.config, KeyedMap.all_iff_forall.mpr ((names_of_prefixed h).synchronizeState
      (KeyedMap.all_iff_forall.mp h.config.configured) orders)⟩
  maintain _ h := ⟨h.config, h.tracked.retain _⟩
  resolve _ conflict h :=
    ⟨h.config, KeyedMap.all_iff_forall.mpr ((names_of_prefixed h).resolveConflict
      (KeyedMap.all_iff_forall.mp h.config.configured) conflict)⟩

end Managers

/-- The sections of a handler keep to names that carry the prefix. -/
def KeepsPrefixed (pfx : String) {α : Type} (handler : Handler α) : Prop :=
  handler.Keeps (Managers.Prefixed pfx) fun _ => True

/-! ### Runs of the daemon -/

namespace DaemonEventLoop

variable {platform : Platform} {s : DaemonEventLoop} {pfx : String}

/-- No step but the reload of a master configuration with another prefix changes the
prefix. -/
def KeepsPrefix (platform : Platform) (s : DaemonEventLoop) : Input → Prop
  | .configEvent event fs _ _ =>
    s.configThread = .waiting → s.managers.configManager.KeepsPrefix platform fs event
  | _ => True

/-- The names that the daemon holds carry the prefix, and the D-Bus call being served
keeps to such names. -/
structure Prefixed (pfx : String) (s : DaemonEventLoop) : Prop where
  managers : s.managers.Prefixed pfx
  call : ∀ handler ∈ s.call, KeepsPrefixed pfx handler

theorem prefixed_start {setup : Setup} (h : start platform setup = .ok s) :
    s.Prefixed setup.daemonConfig.daemon.namespacePrefix := by
  obtain ⟨netlinkManager, -, h⟩ := Except.bind_eq_ok_iff.mp h
  have hempty : (ConfigManager.fromConfig setup.daemonConfig setup.configPath).Prefixed
      setup.daemonConfig.daemon.namespacePrefix := ⟨rfl, KeyedMap.all_empty⟩
  have hscanned := hempty.scanNamespaceConfigs platform setup.host.files
  dsimp only at h
  split at h
  · cases h
  · next hscan =>
    obtain rfl := Except.ok.inj h
    rw [hscan] at hscanned
    exact ⟨⟨hscanned, KeyedMap.all_empty⟩, fun handler hhandler => by cases hhandler⟩

/-- A step that keeps the prefix keeps the names under it. -/
theorem prefixed_step (h : s.Prefixed pfx) {input : Input} (hkeeps : s.KeepsPrefix platform input) :
    (step platform s input).Prefixed pfx := by
  have hstep : (step platform s input).Keeping (Managers.Prefixed pfx) := by
    refine (Managers.stepClosed_prefixed pfx).keeping_step ⟨h.managers, h.call⟩ ?_
    -- the handling of a file event is the only step that can enter new names
    rintro event fs fsScan order rfl hthread
    exact ⟨h.managers.config.handleFileEvent order (hkeeps hthread), h.managers.tracked⟩
  exact ⟨hstep.managers, hstep.call⟩

/-- In a run of the daemon that keeps the prefix, every name it holds carries it. -/
theorem prefixed_along_run {setup : Setup} (hstart : start platform setup = .ok s)
    {inputs : List Input} (hkeeps : AlongRun (step platform) (KeepsPrefix platform) s inputs) :
    (run (step platform) s inputs).Prefixed setup.daemonConfig.daemon.namespacePrefix :=
  AlongRun.invariant (Prefixed setup.daemonConfig.daemon.namespacePrefix)
    (fun _ _ hs hstep => prefixed_step hs hstep) (prefixed_start hstart) hkeeps

end DaemonEventLoop

end Segwire.Daemon
