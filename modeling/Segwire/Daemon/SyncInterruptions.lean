import Segwire.Daemon.SyncSections

/-!
# What a synchronization leaves alone

A synchronization creates only namespaces that are configured and untracked, and takes
none away. So the file of a name that is tracked stays as it is, and so does a file that
is there; a simulated synchronization touches no file at all.

## Main definitions

* `Managers.Guaranteed` — what the sections of a synchronization do at most
* `Managers.Settled` — no name outside a set will be created

## Main results

* `Managers.guarantees_listedSections` — the sections do at most that
* `Managers.viewOf_of_interrupted`, `Managers.guaranteed_of_interrupted` — a synchronization
  that somebody interrupts
-/

namespace Segwire.Daemon

open Foundation Segwire.Common

/-! ### The system -/

namespace Host

variable {host host' : Host} {k : String}

/-- The machine without its namespaces, clock readings and requests. -/
def fixed (host : Host) : Host := { host with netns := none, ticks := 0, requests := [] }

theorem faults_of_fixed (h : host'.fixed = host.fixed) : host'.faults = host.faults := by
  have hfaults := congrArg Host.faults h
  exact hfaults

theorem isRoot_of_fixed (h : host'.fixed = host.fixed) : host'.isRoot = host.isRoot := by
  have hroot := congrArg Host.isRoot h
  exact hroot

theorem Touched.fixed (h : host.Touched k host') : host'.fixed = host.fixed := by
  obtain ⟨netns, rfl⟩ := h.machine
  rfl

end Host

/-- A simulated creation does nothing to the machine, nor does one whose file is there. -/
theorem NetlinkManager.host_createNamespace {netlink : NetlinkManager} {name : String}
    (h : netlink.isSimulated = true ∨ netlink.host.netnsPathExists name = true) :
    (netlink.createNamespace name).2.host = netlink.host := by
  unfold createNamespace
  cases validateNamespaceName name with
  | error e => rfl
  | ok accepted =>
    cases hbackend : netlink.backend with
    | simulated state =>
      dsimp only [createSimulated]
      split_ifs <;> rfl
    | real =>
      rw [isSimulated, hbackend] at h
      obtain ⟨e, he⟩ := createReal_error (.inl (h.resolve_left Bool.false_ne_true))
      dsimp only
      rw [he]

open NamespaceStateManager

namespace NamespaceStateManager

variable {manager : NamespaceStateManager} {entry : NamespaceConfigEntry}
  {managed : KeyedMap NamespaceInfo.name}

/-- Reading the clock does nothing to the system. -/
theorem sameSystem_now (manager : NamespaceStateManager) :
    manager.netlinkManager.SameSystem manager.now.2.netlinkManager :=
  ⟨manager.netlinkManager.host.ticks + 1, [], by rw [List.append_nil]; rfl⟩

theorem sameSystem_trackCreation (manager : NamespaceStateManager) (entry : NamespaceConfigEntry) :
    manager.netlinkManager.SameSystem (manager.trackCreation entry).netlinkManager :=
  (sameSystem_now manager).trans (sameSystem_now manager.now.2)

theorem sameSystem_finishCreation (manager : NamespaceStateManager) (entry : NamespaceConfigEntry)
    (created : SegwireResult NamespaceInfo) :
    manager.netlinkManager.SameSystem
      (finishCreation entry created manager).2.netlinkManager := by
  cases created with
  | error e => exact sameSystem_modifyState _ _ _
  | ok info =>
    exact (sameSystem_apply manager.netlinkManager entry).trans
      ((sameSystem_modifyState _ _ _).trans (sameSystem_modifyState _ _ _))

/-- A name that is tracked or managed is processed without anything being created. -/
theorem sameSystem_processConfiguredNamespace
    (h : (manager.namespaceStates.lookup entry.fullName).isSome = true ∨
      managed.contains entry.fullName = true) :
    manager.netlinkManager.SameSystem
      (manager.processConfiguredNamespace entry managed).2.netlinkManager := by
  cases hstate : manager.namespaceStates.lookup entry.fullName with
  | some state =>
    cases hactual : managed.lookup entry.fullName with
    | some actual =>
      simp only [processConfiguredNamespace, getNamespaceState, hstate, hactual]
      split_ifs
      · exact sameSystem_updateExistingNamespace manager entry actual
      · exact sameSystem_modifyState _ _ _
    | none =>
      rw [process_of_tracked_of_missing hstate hactual]
      exact NetlinkManager.sameSystem_iff.mpr (.refl _)
  | none =>
    cases hactual : managed.lookup entry.fullName with
    | some actual =>
      simp only [processConfiguredNamespace, getNamespaceState, hstate, hactual]
      exact (sameSystem_now manager).trans
        ((sameSystem_now manager.now.2).trans (sameSystem_now manager.now.2.now.2))
    | none =>
      rw [hstate, KeyedMap.contains, hactual] at h
      simp at h

theorem netlinkManager_foldl_remove (names : List String) (manager : NamespaceStateManager) :
    (names.foldl removeNamespaceState manager).netlinkManager = manager.netlinkManager := by
  induction names generalizing manager with
  | nil => rfl
  | cons name names ih => exact ih (manager.removeNamespaceState name)

theorem sameSystem_finishSync (orders : SyncOrders) (configManager : ConfigManager)
    (managed : KeyedMap NamespaceInfo.name) (result : SyncResult)
    (manager : NamespaceStateManager) :
    manager.netlinkManager.SameSystem
      (finishSync orders configManager managed result manager).2.netlinkManager := by
  let toRemove := manager.staleNames orders.states configManager managed
  have hremoved : (toRemove.foldl removeNamespaceState manager).netlinkManager =
      manager.netlinkManager := netlinkManager_foldl_remove toRemove manager
  have hnow := sameSystem_now (toRemove.foldl removeNamespaceState manager)
  rw [hremoved] at hnow
  exact hnow

end NamespaceStateManager

/-! ### Configured names that are tracked -/

namespace Managers

variable {m m' m'' mid mid' : Managers} {k : String} {entry : NamespaceConfigEntry}
  {orders : SyncOrders} {managed : KeyedMap NamespaceInfo.name}
  {entries : List (String × NamespaceConfigEntry)} {p : String → Prop}

/-- The configured names outside `p` are tracked. -/
def Settled (configManager : ConfigManager) (p : String → Prop) (m : Managers) : Prop :=
  ∀ k, configManager.namespaceConfigs.contains k = true → ¬ p k →
    m.stateManager.namespaceStates.contains k = true

theorem settled_true (configManager : ConfigManager) (m : Managers) :
    m.Settled configManager fun _ => True :=
  fun _ _ h => absurd trivial h

/-- No name of the configurations is forgotten. -/
def Remembers (configManager : ConfigManager) (m m' : Managers) : Prop :=
  ∀ k, configManager.namespaceConfigs.contains k = true →
    m.stateManager.namespaceStates.contains k = true →
    m'.stateManager.namespaceStates.contains k = true

section Remembers

variable {configManager : ConfigManager}

theorem remembers_trackCreation (entry : NamespaceConfigEntry) (m : Managers) :
    Remembers configManager m
      (onStates (fun manager => ((), manager.trackCreation entry)) m).2 := by
  intro k _ hk
  have hcomponent : component k (m.stateManager.trackCreation entry) = _ := component_trackCreation
  change (component k (m.stateManager.trackCreation entry)).1.isSome = true
  rw [hcomponent]
  split_ifs
  · rfl
  · exact hk

theorem remembers_finishCreation (entry : NamespaceConfigEntry)
    (created : SegwireResult NamespaceInfo) (m : Managers) :
    Remembers configManager m (onStates (finishCreation entry created) m).2 := by
  intro k _ hk
  by_cases hself : k = entry.fullName
  · subst hself
    obtain ⟨now, now', hfinish⟩ := viewOf_finishCreation entry created m
    have hstate := congrArg (·.state.isSome) hfinish
    exact hstate.trans (Option.isSome_map.trans hk)
  · have hcomponent : component k (finishCreation entry created m.stateManager).2 =
        component k m.stateManager := component_finishCreation_of_ne hself
    exact (congrArg (·.1.isSome) hcomponent).trans hk

theorem remembers_process (managed : KeyedMap NamespaceInfo.name) (entry : NamespaceConfigEntry)
    (m : Managers) : Remembers configManager m
      (onStates (·.processConfiguredNamespace entry managed) m).2 := by
  intro k _ hk
  by_cases hself : k = entry.fullName
  · subst hself
    obtain ⟨state, hstate⟩ := KeyedMap.contains_iff.mp hk
    cases hactual : managed.lookup entry.fullName with
    | some info =>
      obtain ⟨-, now, hnow⟩ := process_of_tracked_of_managed hstate hactual
      exact congrArg (·.1.isSome) hnow
    | none =>
      change ((m.stateManager.processConfiguredNamespace entry managed).2.namespaceStates.contains
        entry.fullName) = true
      rw [process_of_tracked_of_missing hstate hactual]
      exact hk
  · have hcomponent : component k (m.stateManager.processConfiguredNamespace entry managed).2 =
        component k m.stateManager := component_processConfiguredNamespace_of_ne hself
    exact (congrArg (·.1.isSome) hcomponent).trans hk

theorem remembers_finishSync (orders : SyncOrders) (configManager : ConfigManager)
    (managed : KeyedMap NamespaceInfo.name) (result : SyncResult) (m : Managers) :
    Remembers configManager m (onStates (finishSync orders configManager managed result) m).2 := by
  intro k hconfigured hk
  obtain ⟨entry, hentry⟩ := KeyedMap.contains_iff.mp hconfigured
  have hfinish := congrArg (·.state.isSome)
    (viewOf_finishSync orders configManager managed result k m)
  rw [if_neg (by simp [hentry])] at hfinish
  exact hfinish.trans hk

end Remembers

/-! ### Guarantees -/

/-- The configurations, the kind of the system and the machine are the same, apart from
clock readings, requests and files; no file is gone, and those of names outside `p` are the
same. -/
structure Guaranteed (p : String → Prop) (m m' : Managers) : Prop where
  configManager : m'.configManager = m.configManager
  simulated :
    m'.stateManager.netlinkManager.isSimulated = m.stateManager.netlinkManager.isSimulated
  fixed : m'.host.fixed = m.host.fixed
  netnsDir : m'.host.netns.isSome = m.host.netns.isSome
  present : ∀ k file, m.host.netnsFile k = some file → m'.host.netnsFile k = some file
  kept : ∀ k, ¬ p k ∨ m.stateManager.netlinkManager.isSimulated = true →
    m'.host.netnsFile k = m.host.netnsFile k

namespace Guaranteed

theorem refl (m : Managers) : Guaranteed p m m :=
  ⟨rfl, rfl, rfl, rfl, fun _ _ h => h, fun _ _ => rfl⟩

theorem trans (h : Guaranteed p m m') (h' : Guaranteed p m' m'') : Guaranteed p m m'' where
  configManager := h'.configManager.trans h.configManager
  simulated := h'.simulated.trans h.simulated
  fixed := h'.fixed.trans h.fixed
  netnsDir := h'.netnsDir.trans h.netnsDir
  present k file hfile := h'.present k file (h.present k file hfile)
  kept k hk := (h'.kept k (by rwa [h.simulated])).trans (h.kept k hk)

theorem of_sameSystem {α : Type} {body : NamespaceStateManager → α × NamespaceStateManager}
    (hsame : m.stateManager.netlinkManager.SameSystem (body m.stateManager).2.netlinkManager) :
    Guaranteed p m (onStates body m).2 where
  configManager := rfl
  simulated := hsame.isSimulated
  fixed := by
    obtain ⟨ticks, issued, hsame⟩ := hsame
    change (body m.stateManager).2.netlinkManager.host.fixed = _
    rw [hsame]
    rfl
  netnsDir := congrArg Environment.netnsDir hsame.environment
  present k file hfile := (hsame.netnsFile k).trans hfile
  kept k _ := hsame.netnsFile k

theorem createOnSystem {name : String} (hp : p name) (m : Managers) :
    Guaranteed p m (onStates (NamespaceStateManager.createOnSystem name) m).2 := by
  have hspec := m.stateManager.netlinkManager.createNamespace_spec name
  have htouched := m.stateManager.netlinkManager.touched_createNamespace name
  refine ⟨rfl, congrArg Environment.simulated hspec.environment, htouched.fixed,
    congrArg Environment.netnsDir hspec.environment, fun k file hfile => ?_, fun k hk => ?_⟩
  · by_cases hself : k = name
    · subst hself
      have hhost : (m.stateManager.netlinkManager.createNamespace k).2.host = m.host :=
        NetlinkManager.host_createNamespace (.inr (congrArg Option.isSome hfile))
      exact (congrArg (·.netnsFile k) hhost).trans hfile
    · exact (htouched.others k hself).trans hfile
  · by_cases hself : k = name
    · subst hself
      have hhost : (m.stateManager.netlinkManager.createNamespace k).2.host = m.host :=
        NetlinkManager.host_createNamespace (.inl (hk.resolve_left (not_not_intro hp)))
      exact congrArg (·.netnsFile k) hhost
    · exact htouched.others k hself

end Guaranteed

section Guarantees

variable {configManager : ConfigManager}

theorem Settled.of_remembers (hm : m.Settled configManager p)
    (hremembers : Remembers configManager m m') : m'.Settled configManager p :=
  fun k hconfigured hk => hremembers k hconfigured (hm k hconfigured hk)

/-- A configured name that is not tracked may be created. -/
theorem Settled.mem_of_untracked (hm : m.Settled configManager p)
    (hconfigured : configManager.namespaceConfigs.contains k = true)
    (huntracked : m.stateManager.namespaceStates.lookup k = none) : p k := by
  by_contra hp
  have htracked := hm k hconfigured hp
  rw [KeyedMap.contains, huntracked] at htracked
  cases htracked

theorem guarantees_createSections (hp : p entry.fullName) :
    (createSections entry).Guarantees (Settled configManager p) (Guaranteed p) := by
  refine (Task.guarantees_atomic fun m hm => ?_).bind fun _ =>
    (Task.guarantees_atomic fun m hm => ?_).bind fun created =>
      Task.guarantees_atomic fun m hm => ?_
  · exact ⟨hm.of_remembers (remembers_trackCreation entry m),
      .of_sameSystem (sameSystem_trackCreation m.stateManager entry)⟩
  · exact ⟨hm, .createOnSystem hp m⟩
  · exact ⟨hm.of_remembers (remembers_finishCreation entry created m),
      .of_sameSystem (sameSystem_finishCreation m.stateManager entry created)⟩

/-- A name that is neither tracked nor managed is created only if it is in `p`. -/
theorem guaranteed_process (hm : m.Settled configManager p)
    (hconfigured : configManager.namespaceConfigs.contains entry.fullName = true) :
    Guaranteed p m (onStates (·.processConfiguredNamespace entry managed) m).2 := by
  by_cases hfound : (m.stateManager.namespaceStates.lookup entry.fullName).isSome = true ∨
      managed.contains entry.fullName = true
  · exact .of_sameSystem (sameSystem_processConfiguredNamespace hfound)
  · rw [not_or, Option.isSome_iff_ne_none, not_not, Bool.not_eq_true,
      KeyedMap.contains_eq_false_iff] at hfound
    have hrun : (createSections entry).run m =
        onStates (·.processConfiguredNamespace entry managed) m := by
      rw [run_createSections, onStates, onStates,
        process_of_untracked_of_missing hfound.1 hfound.2]
    rw [← hrun]
    exact ((guarantees_createSections (hm.mem_of_untracked hconfigured hfound.1)).run
      Guaranteed.refl (fun _ _ _ => Guaranteed.trans) hm).2

theorem guarantees_processSections
    (hconfigured : configManager.namespaceConfigs.contains entry.fullName = true) :
    (processSections managed entry).Guarantees (Settled configManager p) (Guaranteed p) := by
  refine Task.guarantees_read_bind Guaranteed.refl fun m hm => ?_
  split
  next hstate _ => exact guarantees_createSections (hm.mem_of_untracked hconfigured hstate)
  next =>
    exact Task.guarantees_atomic fun m hm => ⟨hm.of_remembers (remembers_process managed entry m),
      guaranteed_process hm hconfigured⟩

theorem guarantees_loopSections
    (hconfigured : ∀ e ∈ entries, configManager.namespaceConfigs.contains e.2.fullName = true)
    (result : SyncResult) : (loopSections managed result entries).Guarantees
      (Settled configManager p) (Guaranteed p) := by
  induction entries generalizing result with
  | nil => exact Task.guarantees_done result
  | cons e entries ih =>
    obtain ⟨hfirst, hothers⟩ := List.forall_mem_cons.mp hconfigured
    exact (guarantees_processSections hfirst).bind fun action => ih hothers _

/-- What the sections of a synchronization do at most. -/
theorem guarantees_listedSections (orders : SyncOrders) (configManager : ConfigManager)
    (list : SegwireResult (KeyedMap NamespaceInfo.name)) (p : String → Prop) :
    (listedSections orders configManager list).Guarantees (Settled configManager p)
      (Guaranteed p) := by
  cases list with
  | error e => exact Task.guarantees_done _
  | ok actual =>
    refine (guarantees_loopSections (fun e he => ?_) .empty).bind fun result =>
      Task.guarantees_atomic fun m hm =>
        ⟨hm.of_remembers (remembers_finishSync orders configManager _ result m),
          .of_sameSystem (sameSystem_finishSync _ _ _ _ _)⟩
    have hentry := KeyedMap.mem_iter.mp he
    rw [KeyedMap.key_eq_of_lookup hentry]
    exact KeyedMap.contains_iff.mpr ⟨e.2, hentry⟩

end Guarantees

/-! ### Interruptions -/

/-- What a synchronization does at most. -/
theorem guaranteed_synchronize (hm : m.Settled m.configManager p) (orders : SyncOrders) :
    Guaranteed p m (m.synchronize orders).2 := by
  have hrun := (guarantees_listedSections orders m.configManager
    m.stateManager.netlinkManager.listNamespaces p).run Guaranteed.refl
      (fun _ _ _ => Guaranteed.trans) hm
  rw [← run_synchronizeSections]
  exact hrun.2

section Interrupted

variable (hinterrupted : Interrupted mid mid' (listedSections orders m.configManager
  m.stateManager.netlinkManager.listNamespaces) m m')
include hinterrupted

/-- What a synchronization does at most before and after an interruption that leaves the
states alone. -/
theorem guaranteed_of_interrupted (hm : m.Settled m.configManager p)
    (hstates : mid'.stateManager.namespaceStates = mid.stateManager.namespaceStates) :
    Guaranteed p m mid ∧ Guaranteed p mid' m' := by
  refine (guarantees_listedSections orders m.configManager _ p).of_interrupted Guaranteed.refl
    (fun _ _ _ => Guaranteed.trans) hinterrupted hm fun hmid k hconfigured hk => ?_
  rw [hstates]
  exact hmid k hconfigured hk

/-- An interruption that does not touch what belongs to a name makes no difference to it. -/
theorem viewOf_of_interrupted (hview : viewOf k mid' = viewOf k mid) :
    (viewOf k m').observed = (viewOf k m).synchronized m.configManager k := by
  obtain ⟨result, -, hobserved⟩ :=
    (leads_listedSections orders k m).of_interrupted hinterrupted hview
  exact hobserved

end Interrupted

/-! ### Interleavings with a synchronization -/

section Interleaving

variable {ι ρ : Type} {Allowed : ι → Bool → Managers → Prop} {effect : Managers → Managers}
  {next : Managers → GuardedTask ι Managers ρ} {out : ρ × Managers} {label : ι}

theorem done_cases {result : ρ} (h : Interleaves Allowed (.done result : GuardedTask ι Managers ρ)
    (synchronizeSections orders) false m out) : out = (result, (m.synchronize orders).2) := by
  have hout := h.done_cases
  change out = (result, ((synchronizeSections orders).run m).2) at hout
  rwa [run_synchronizeSections] at hout

/-- The synchronization comes before a section, or after it. -/
theorem locked_cases (h : Interleaves Allowed (.locked label effect next)
    (synchronizeSections orders) false m out) :
    Continues Allowed (.locked label effect next) (m.synchronize orders).2 out ∨
      Allowed label false m ∧
        Interleaves Allowed (next m) (synchronizeSections orders) false (effect m) out := by
  have hcases := h.locked_cases
  change Continues _ _ ((synchronizeSections orders).run m).2 out ∨ _ at hcases
  rwa [run_synchronizeSections] at hcases

/-- The synchronization comes before a call, is interrupted by it, or comes after it. -/
theorem call_cases (h : Interleaves Allowed (.call label effect next)
    (synchronizeSections orders) false m out) (hnext : ∀ m, (next m).Blocked) :
    Continues Allowed (.call label effect next) (m.synchronize orders).2 out ∨
    (∃ mid m', Interrupted mid (effect mid) (listedSections orders m.configManager
      m.stateManager.netlinkManager.listNamespaces) m m' ∧ Allowed label true mid ∧
      Continues Allowed (next mid) m' out) ∨
    Allowed label false m ∧
      Interleaves Allowed (next m) (synchronizeSections orders) false (effect m) out := by
  have hcases := h.call_cases hnext
  change Continues _ _ ((synchronizeSections orders).run m).2 out ∨ _ at hcases
  rwa [run_synchronizeSections] at hcases

end Interleaving

end Managers

end Segwire.Daemon
