import Segwire.Daemon.ListedNames
import Segwire.Daemon.NamespaceHandlers

/-!
# Shutdown

Before it ends, the daemon may clean up: it returns the moved interfaces of its
namespaces and deletes them from the machine. It goes through the configured names, and
so leaves the namespaces that it tracks but that are no longer configured.

## Main definitions

* `cleanUp`, `gracefulShutdown` — the clean-up of one namespace, and the shutdown
* `DaemonEventLoop.CleansUp` — the tracked namespaces are gone, those of others are not
* `DaemonEventLoop.CoversTracked` — the states in which that will be so

## Main results

* `run_gracefulShutdown` — what a shutdown deletes
* `DaemonEventLoop.cleansUp_along_run` — when a shutdown is complete
* `DaemonEventLoop.not_cleansUp_after_removal` — a namespace that lost its file
-/

namespace Segwire.Daemon

open Foundation Segwire.Common ConfigManager

/-- The signals that a shutdown emits. -/
inductive ShutdownSignal
  | namespaceDeleted (name reason : String)
  | operationProgress (operation : String) (progress : Rat) (message : String)
  deriving DecidableEq, Repr

/-- The clean-up of one namespace: its interfaces are moved back, and it is deleted. -/
def cleanUp (name : String) (configEntry : Option NamespaceConfigEntry) (netlink : NetlinkManager) :
    SegwireResult Unit × NetlinkManager :=
  let moveInterfaces := (configEntry.map (·.config.interfaces.moveInterfaces)).getD []
  let netlink := moveInterfaces.foldl (fun netlink ifName =>
    (netlink.moveInterfaceFromNamespaceToDefault name ifName).2) netlink
  netlink.deleteNamespace name

/-- The loop of the clean-up. A failure is logged, and the next namespace follows. -/
def cleanUpEach : List String → Handler (List ShutdownSignal)
  | [] => return []
  | name :: names => do
    let _ ← .atomic fun m =>
      Managers.onMachine (cleanUp name (m.configManager.getNamespaceConfig name)) m
    let rest ← cleanUpEach names
    return .namespaceDeleted name "daemon_shutdown" :: rest

/-- Perform graceful shutdown with cleanup. -/
def gracefulShutdown (order : IterOrder String) : Handler (List ShutdownSignal) := do
  let shouldCleanup ← .read fun m => m.configManager.shouldCleanupOnShutdown
  let managedNamespaces ← .read fun m => (m.configManager.namespaceConfigs.iter order).map Prod.fst
  let deleted ← if shouldCleanup then cleanUpEach managedNamespaces else return []
  return deleted ++ [.operationProgress "daemon_shutdown" 1 "Daemon shutdown completed"]

/-! ### One namespace -/

/-- The names are gone from the directory as far as they are valid, and nothing else has
changed. -/
structure Managers.Cleaned (names : List String) (m m' : Managers) : Prop where
  setHost : ∃ host, m' = m.setHost host
  works : m'.host.Works
  netnsFile : ∀ k, m'.host.netnsFile k =
    if k ∈ names ∧ validateNamespaceName k = .ok () then none else m.host.netnsFile k

namespace NetlinkManager

variable {netlink : NetlinkManager} {name : String}

/-- The moves of interfaces leave the namespaces as they are. -/
theorem sameSystem_moveBack (moveInterfaces : List String) (name : String)
    (netlink : NetlinkManager) :
    netlink.SameSystem (moveInterfaces.foldl (fun netlink ifName =>
      (netlink.moveInterfaceFromNamespaceToDefault name ifName).2) netlink) :=
  SameSystem.foldl (fun _ _ => sameSystem_request ..) _ _

theorem works_of_sameSystem {netlink' : NetlinkManager} (h : netlink.SameSystem netlink')
    (hworks : netlink.host.Works) : netlink'.host.Works := by
  obtain ⟨ticks, issued, rfl⟩ := h
  exact ⟨hworks.isRoot, hworks.noFaults, hworks.mounted⟩

end NetlinkManager

/-! ### The shutdown -/

namespace Managers

variable {m m' m'' : Managers} {names names' : List String}

theorem Cleaned.nil (h : m.host.Works) : Cleaned [] m m :=
  ⟨⟨m.host, rfl⟩, h, fun _ => (if_neg fun hk => List.not_mem_nil hk.1).symm⟩

theorem Cleaned.trans (h : Cleaned names m m') (h' : Cleaned names' m' m'') :
    Cleaned (names ++ names') m m'' := by
  obtain ⟨host, rfl⟩ := h.setHost
  obtain ⟨host', rfl⟩ := h'.setHost
  refine ⟨⟨host', rfl⟩, h'.works, fun k => ?_⟩
  rw [h'.netnsFile k, h.netnsFile k]
  by_cases hvalid : validateNamespaceName k = .ok () <;>
    by_cases hk : k ∈ names <;> by_cases hk' : k ∈ names' <;> simp [hvalid, hk, hk']

/-- The clean-up of one namespace. -/
theorem cleaned_cleanUp (h : m.host.Works) (name : String)
    (configEntry : Option NamespaceConfigEntry) :
    Cleaned [name] m (onMachine (cleanUp name configEntry) m).2 := by
  have hmoved := NetlinkManager.sameSystem_moveBack
    ((configEntry.map (·.config.interfaces.moveInterfaces)).getD []) name m.machine
  have hopened : m.machine.host.Works := by
    refine ⟨h.isRoot, h.noFaults, fun k file hfile => h.mounted k file ?_⟩
    rwa [← Host.netnsFile_opened]
  have hbackend := NetlinkManager.isSimulated_eq_false_iff.mp hmoved.isSimulated
  obtain ⟨hworks, hfiles⟩ := NetlinkManager.deleteNamespace_of_works hbackend
    (NetlinkManager.works_of_sameSystem hmoved hopened) name
  rw [onMachine_of_opens _ (NetlinkManager.opens_of_works h)]
  have hsame (k : String) : m.machine.host.netnsFile k = m.host.netnsFile k :=
    Host.netnsFile_opened m.host k
  refine ⟨⟨_, rfl⟩, hworks, fun k => (hfiles k).trans ?_⟩
  rw [hmoved.netnsFile, hsame]
  simp only [List.mem_singleton]

/-- The loop of the clean-up deletes the names that it goes through. -/
theorem cleaned_cleanUpEach (h : m.host.Works) (names : List String) :
    Cleaned names m ((cleanUpEach names).run m).2 := by
  -- each namespace is cleaned up in the state that the earlier ones left
  induction names generalizing m with
  | nil => exact .nil h
  | cons name names ih =>
    have hfirst := cleaned_cleanUp h name (m.configManager.getNamespaceConfig name)
    simp only [cleanUpEach, Task.run_bind, Task.run_atomic]
    exact hfirst.trans (ih hfirst.works)

/-- What is left in the system: the simulated namespaces, and those of other names. -/
theorem namespaceExists_of_cleaned (h : Cleaned names m m') (k : String) :
    m'.stateManager.netlinkManager.namespaceExists k = true ↔
      m.stateManager.netlinkManager.namespaceExists k = true ∧
        ¬ (m.stateManager.netlinkManager.isSimulated = false ∧
          k ∈ names ∧ validateNamespaceName k = .ok ()) := by
  obtain ⟨⟨host, rfl⟩, -, hfiles⟩ := h
  cases hbackend : m.stateManager.netlinkManager.backend with
  | simulated state =>
    -- the clean-up acts on the machine, whatever the daemon itself acts on
    simp [NetlinkManager.namespaceExists, NetlinkManager.isSimulated, setHost, hbackend]
  | real =>
    have hreal : m.stateManager.netlinkManager.isSimulated = false :=
      NetlinkManager.isSimulated_eq_false_iff.mpr hbackend
    have hsame : (m.setHost host).stateManager.netlinkManager.isSimulated = false := hreal
    have hafter : (m.setHost host).stateManager.netlinkManager.namespaceExists k =
        (host.netnsFile k).isSome := namespaceExists_of_real hsame k
    have hbefore : m.stateManager.netlinkManager.namespaceExists k =
        (m.host.netnsFile k).isSome := namespaceExists_of_real hreal k
    have hfile : host.netnsFile k =
        if k ∈ names ∧ validateNamespaceName k = .ok () then none else m.host.netnsFile k :=
      hfiles k
    rw [hafter, hbefore, hfile, hreal]
    split_ifs with hk <;> simp [hk]

/-- A shutdown that cleans up deletes the configured names. -/
theorem run_gracefulShutdown (h : m.host.Works)
    (hcleanup : m.configManager.shouldCleanupOnShutdown = true) (order : IterOrder String) :
    Cleaned ((m.configManager.namespaceConfigs.iter order).map Prod.fst) m
      ((gracefulShutdown order).run m).2 := by
  simp only [gracefulShutdown, Task.run_bind, Task.run_read, hcleanup, if_true]
  exact cleaned_cleanUpEach h _

end Managers

/-! ### Complete clean-up -/

namespace DaemonEventLoop

variable {platform : Platform} {s : DaemonEventLoop} {pfx : String}

/-- After a shutdown none of the namespaces that were tracked is in the system, and those that
do not carry the prefix are as they were. -/
structure CleansUp (order : IterOrder String) (s : DaemonEventLoop) : Prop where
  tracked : ∀ k, s.managers.stateManager.namespaceStates.contains k = true →
    ((gracefulShutdown order).run s.managers).2.stateManager.netlinkManager.namespaceExists k =
      false
  others : ∀ k, s.managers.configManager.matchesNamespacePrefix k = false →
    ((gracefulShutdown order).run s.managers).2.host.netnsFile k = s.managers.host.netnsFile k

/-- The tracked namespaces that are in the system are on the machine, configured, and under
valid names. The configured names under which the machine has a namespace carry the prefix,
as far as they are valid. -/
structure CoversTracked (s : DaemonEventLoop) : Prop where
  tracked : ∀ k, s.managers.stateManager.namespaceStates.contains k = true →
    s.managers.stateManager.netlinkManager.namespaceExists k = true →
      s.managers.stateManager.netlinkManager.isSimulated = false ∧
        s.managers.configManager.namespaceConfigs.contains k = true ∧
        validateNamespaceName k = .ok ()
  owned : ∀ k, s.managers.configManager.namespaceConfigs.contains k = true →
    validateNamespaceName k = .ok () → s.managers.host.netnsPathExists k = true →
      s.managers.configManager.matchesNamespacePrefix k = true

/-- A shutdown is complete iff the configurations cover what is tracked. -/
theorem cleansUp_iff (hworks : s.managers.host.Works)
    (hcleanup : s.managers.configManager.shouldCleanupOnShutdown = true)
    (order : IterOrder String) : s.CleansUp order ↔ s.CoversTracked := by
  have hexists (k : String) := Managers.namespaceExists_of_cleaned
    (Managers.run_gracefulShutdown hworks hcleanup order) k
  obtain ⟨-, -, hfiles⟩ := Managers.run_gracefulShutdown hworks hcleanup order
  simp only [KeyedMap.mem_map_fst_iter] at hfiles hexists
  constructor
  · rintro ⟨htracked, hothers⟩
    constructor
    · intro k hk hthere
      by_contra hcover
      have hgone := htracked k hk
      rw [(hexists k).mpr ⟨hthere, hcover⟩] at hgone
      cases hgone
    · intro k hk hvalid hthere
      by_contra hforeign
      have hsame := hothers k (Bool.eq_false_iff.mpr hforeign)
      rw [hfiles k, if_pos ⟨hk, hvalid⟩] at hsame
      rw [Host.netnsPathExists_eq, ← hsame] at hthere
      cases hthere
  · rintro ⟨htracked, howned⟩
    constructor
    · intro k hk
      rw [← Bool.not_eq_true, hexists k]
      rintro ⟨hthere, huncovered⟩
      exact huncovered (htracked k hk hthere)
    · intro k hforeign
      rw [hfiles k]
      split_ifs with hk
      · cases hfile : s.managers.host.netnsFile k with
        | none => rfl
        | some file =>
          have hmatches := howned k hk.1 hk.2 (by rw [Host.netnsPathExists_eq, hfile]; rfl)
          rw [hforeign] at hmatches
          cases hmatches
      · rfl

/-! ### Runs that keep the configured names -/

/-- No configured name is lost. -/
def KeepsConfigured (platform : Platform) (s : DaemonEventLoop) (input : Input) : Prop :=
  ∀ k, s.managers.configManager.namespaceConfigs.contains k = true →
    (step platform s input).managers.configManager.namespaceConfigs.contains k = true

/-- Neither the prefix nor a configured name is lost. -/
def KeepsNames (platform : Platform) (s : DaemonEventLoop) (input : Input) : Prop :=
  s.KeepsPrefix platform input ∧ s.KeepsConfigured platform input

end DaemonEventLoop

/-- The entries have names under the prefix `pfx`, and the names of the daemon are in `names`. -/
structure Managers.Within (pfx : String) (names : Set String) (m : Managers) : Prop where
  config : m.configManager.Holds pfx fun entry =>
    NamedUnder pfx entry.config.namespace_.name entry.fullName
  configured : m.configManager.namespaceConfigs.All (· ∈ names)
  tracked : m.stateManager.Names fun _ fullName => fullName ∈ names

/-- A name is generated for a stored configuration, and so is one of the configured names. -/
theorem Managers.stepPreserves_within (pfx : String) (names : Set String) :
    StepPreserves (Managers.Within pfx names)
      (fun config => fullNameUnder pfx config.namespace_.name ∈ names)
      fun _ fullName => fullName ∈ names where
  setHost _ _ h := ⟨h.config, h.configured, h.tracked⟩
  stored _ k entry h hentry := by
    rw [← (h.config.configured k entry hentry).full]
    exact KeyedMap.all_iff_forall.mp h.configured k entry hentry
  generated m config h hname := by
    rw [generateFullNamespaceName_eq, h.config.prefix_eq]
    exact hname
  record _ _ _ _ _ h hname := ⟨h.config, h.configured, KeyedMap.Forall.insert h.tracked hname⟩
  forget _ _ h := ⟨h.config, h.configured, KeyedMap.Forall.erase h.tracked _⟩
  synchronize _ orders h := ⟨h.config, h.configured,
    h.tracked.synchronizeState (KeyedMap.all_iff_forall.mp h.configured) orders⟩
  maintain _ h := ⟨h.config, h.configured, KeyedMap.Forall.retain h.tracked _⟩
  resolve _ conflict h := ⟨h.config, h.configured,
    h.tracked.resolveConflict (KeyedMap.all_iff_forall.mp h.configured) conflict⟩

namespace DaemonEventLoop

variable {platform : Platform} {s : DaemonEventLoop} {pfx : String} {names : Set String}

theorem within_step (h : s.Keeping (Managers.Within pfx names)) {input : Input}
    (hkeeps : s.KeepsPrefix platform input)
    (hconfigured : (step platform s input).managers.configManager.namespaceConfigs.All
      (· ∈ names)) :
    (step platform s input).Keeping (Managers.Within pfx names) := by
  apply (Managers.stepPreserves_within pfx names).keeping_step h
  rintro event fs fsScan order rfl hthread
  refine ⟨h.managers.config.handleFileEvent (fun _ _ _ => loads_named) order (hkeeps hthread),
    ?_, h.managers.tracked⟩
  simp only [step, hthread] at hconfigured
  exact hconfigured

theorem contains_run_of_keepsNames {inputs : List Input}
    (hkeeps : AlongRun (step platform) (KeepsNames platform) s inputs) {k : String}
    (hk : s.managers.configManager.namespaceConfigs.contains k = true) :
    (run (step platform) s inputs).managers.configManager.namespaceConfigs.contains k = true :=
  AlongRun.invariant (fun s => s.managers.configManager.namespaceConfigs.contains k = true)
    (fun _ _ hs hstep => hstep.2 k hs) hk hkeeps

/-- If the names of the daemon are among those that are configured when a run ends, they
still are so then. -/
theorem within_run {inputs : List Input}
    (hkeeps : AlongRun (step platform) (KeepsNames platform) s inputs)
    (hnames : ∀ k, (run (step platform) s inputs).managers.configManager.namespaceConfigs.contains
      k = true → k ∈ names)
    (h : s.Keeping (Managers.Within pfx names)) :
    (run (step platform) s inputs).Keeping (Managers.Within pfx names) := by
  induction inputs generalizing s with
  | nil => exact h
  | cons input inputs ih =>
    have hnext : (step platform s input).Keeping (Managers.Within pfx names) := by
      apply within_step h hkeeps.1.1
      -- what is configured after the step is so to the end
      intro k hk
      exact hnames k (contains_run_of_keepsNames hkeeps.2 hk)
    exact ih hkeeps.2 hnames hnext

/-- As long as neither the prefix nor a configured name is lost, every tracked name is
configured. -/
theorem configured_of_tracked {setup : Setup} (hstart : start platform setup = .ok s)
    {inputs : List Input} (hkeeps : AlongRun (step platform) (KeepsNames platform) s inputs)
    {k : String} (hk : (run (step platform) s inputs).managers.stateManager.namespaceStates.contains
      k = true) :
    (run (step platform) s inputs).managers.configManager.namespaceConfigs.contains k = true := by
  let names : Set String := { k | (run (step platform)
    s inputs).managers.configManager.namespaceConfigs.contains k = true }
  have hwithin : s.Keeping
      (Managers.Within setup.daemonConfig.daemon.namespacePrefix names) := by
    have hnamed := named_start hstart
    obtain ⟨netlinkManager, -, hstart⟩ := Except.bind_eq_ok_iff.mp hstart
    dsimp only at hstart
    split at hstart
    · cases hstart
    · obtain rfl := Except.ok.inj hstart
      exact ⟨⟨hnamed.managers.config, fun k hk => contains_run_of_keepsNames hkeeps hk,
        KeyedMap.forall_empty⟩, fun handler hhandler => by cases hhandler⟩
  have htracked := (within_run hkeeps (fun _ hk => hk) hwithin).managers.tracked
  exact KeyedMap.all_iff_forall.mpr htracked k hk

/-- In every state that the daemon reaches with the clean-up enabled, on a machine that works, a
shutdown is complete iff the configurations cover what is tracked. It is complete if the
daemon is not simulated, no step of the run lost the prefix or a configured name, and the
configured names are valid. -/
theorem cleansUp_along_run {setup : Setup} (hstart : start platform setup = .ok s)
    (inputs : List Input) (hworks : (run (step platform) s inputs).managers.host.Works)
    (hcleanup : (run (step platform)
      s inputs).managers.configManager.shouldCleanupOnShutdown = true) (order : IterOrder String) :
    ((run (step platform) s inputs).CleansUp order ↔
        (run (step platform) s inputs).CoversTracked) ∧
      ((run (step platform) s inputs).managers.stateManager.netlinkManager.isSimulated = false →
        AlongRun (step platform) (KeepsNames platform) s inputs →
        (∀ k, (run (step platform) s inputs).managers.configManager.namespaceConfigs.contains k =
          true → validateNamespaceName k = .ok ()) →
        (run (step platform) s inputs).CleansUp order) := by
  have hiff := cleansUp_iff hworks hcleanup order
  refine ⟨hiff, fun hreal hkeeps hvalid => hiff.mpr ⟨fun k hk _ => ?_, fun k hk _ _ => ?_⟩⟩
  · have hconfigured := configured_of_tracked hstart hkeeps hk
    exact ⟨hreal, hconfigured, hvalid k hconfigured⟩
  · have hkeepsPrefix : AlongRun (step platform) (KeepsPrefix platform) s inputs :=
      alongRun_iff_forall_split.mpr fun earlier i later hsplit =>
        (alongRun_iff_forall_split.mp hkeeps earlier i later hsplit).1
    have hprefixed := (prefixed_along_run hstart hkeepsPrefix).managers.config
    rw [matchesNamespacePrefix, hprefixed.prefix_eq]
    exact hprefixed.configured k hk

section RemovedFile

/-- The file of the namespace is removed. -/
def fileRemoved : Input :=
  .configEvent (.deleted appToml) (underPrefix "old") (underPrefix "old")
    .sorted

/-- The only namespace of the machine is mounted. -/
theorem mounted_oldApp (name : String) (file : NetnsFile)
    (h : (((∅ : HashMap String NetnsFile).insert "old-app" ⟨false⟩).insert "old-app"
      ⟨true⟩).lookup name = some file) : file = ⟨true⟩ := by
  rw [HashMap.lookup_insert_eq_ite, HashMap.lookup_insert_eq_ite] at h
  split_ifs at h
  · exact (Option.some.inj h).symm
  · cases h

end RemovedFile

theorem cleansUp_after_initialSync : ∃ s₀, start twoPrefixes oldPrefix = .ok s₀ ∧
    (run (step twoPrefixes) s₀ [.initialSync .sorted]).CleansUp .sorted := by
  have hstart : start twoPrefixes oldPrefix = .ok _ := rfl
  refine ⟨_, hstart, (cleansUp_along_run hstart [.initialSync .sorted] ⟨rfl, fun _ => rfl,
    mounted_oldApp⟩ rfl .sorted).2 rfl ⟨⟨trivial, fun k hk => hk⟩, trivial⟩ ?_⟩
  intro k hk
  have hkeys : ∀ k ∈ (((ConfigManager.fromConfig oldPrefix.daemonConfig
        daemonToml).scanNamespaceConfigs twoPrefixes
          oldPrefix.host.files).2.namespaceConfigs.toMap.keys),
        validateNamespaceName k = .ok () := by decide
  exact hkeys k (Finmap.mem_keys.mpr (Finmap.lookup_isSome.mp hk))

/-- A namespace that lost its file is left behind, on a machine that works. -/
theorem not_cleansUp_after_removal : ∃ s₀, start twoPrefixes oldPrefix = .ok s₀ ∧
    let s := run (step twoPrefixes) s₀ [.initialSync .sorted, fileRemoved, .forceSync .sorted]
    s.managers.host.Works ∧ s.managers.configManager.shouldCleanupOnShutdown = true ∧
      ¬ s.CleansUp .sorted := by
  refine ⟨_, rfl, ⟨rfl, fun _ => rfl, mounted_oldApp⟩, rfl, fun hclean => ?_⟩
  have hgone := hclean.tracked "old-app" (by decide)
  revert hgone
  decide

end DaemonEventLoop

end Segwire.Daemon
