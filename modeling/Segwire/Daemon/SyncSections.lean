import Segwire.Daemon.EventLoop
import Segwire.Daemon.NamespaceHandlers
import Segwire.Daemon.NamespaceSync
import Segwire.Foundation.Interleaving

/-!
# A synchronization, section by section

A synchronization holds the locks of both managers from its first section to its last, but
the machine is not locked: a handler may create or delete a namespace there in between.
What the synchronization does to a name then depends on the name as it was listed and as
it is when its turn comes.

## Main definitions

* `Managers.synchronizeSections` — a synchronization, with its calls on namespaces apart
* `Managers.viewOf` — what belongs to one name
* `NameView.synchronized` — what a synchronization makes of it

## Main results

* `Managers.run_synchronizeSections` — without interruptions it is a synchronization
* `Managers.leads_listedSections` — what it does to a name that nobody else touches
-/

namespace Segwire.Daemon

open Foundation Segwire.Common

/-! ### The sections -/

namespace NamespaceStateManager

/-- What is left of a creation from a configuration after the creation of the namespace. -/
def finishCreation (configEntry : NamespaceConfigEntry) (created : SegwireResult NamespaceInfo)
    (manager : NamespaceStateManager) : SegwireResult SyncAction × NamespaceStateManager :=
  let fullName := configEntry.fullName
  match created with
  | .ok namespaceInfo =>
    let netlink := manager.netlinkManager.applyInterfaces fullName configEntry.config
    let netlink := netlink.applyRoutesAndDns fullName configEntry.config
    let manager := { manager with netlinkManager := netlink }
    let manager := manager.modifyState fullName fun now state => state.setStatus .active now
    let manager := manager.modifyState fullName
      (updateStateFromConfigAndActual configEntry namespaceInfo)
    (.ok .created, manager)
  | .error e =>
    (.error e, manager.modifyState fullName fun now state => state.setStatus .failed now)

/-- The creation of the namespace itself. -/
def createOnSystem (fullName : String) (manager : NamespaceStateManager) :
    SegwireResult NamespaceInfo × NamespaceStateManager :=
  let (created, netlinkManager) := manager.netlinkManager.createNamespace fullName
  (created, { manager with netlinkManager })

theorem component_finishCreation_of_ne {manager : NamespaceStateManager}
    {entry : NamespaceConfigEntry} {created : SegwireResult NamespaceInfo} {k : String}
    (hk : k ≠ entry.fullName) :
    component k (finishCreation entry created manager).2 = component k manager := by
  cases created with
  | error e => rw [finishCreation, component_modifyState (fullName_setStatus _), if_neg hk]
  | ok info =>
    rw [finishCreation, component_modifyState (fullName_updateStateFromConfigAndActual _ _),
      if_neg hk, component_modifyState (fullName_setStatus _), if_neg hk]
    exact component_of_sameSystem manager (sameSystem_apply _ entry)

theorem createNewNamespace_eq (manager : NamespaceStateManager) (entry : NamespaceConfigEntry) :
    manager.createNewNamespace entry =
      let (created, manager) := createOnSystem entry.fullName (manager.trackCreation entry)
      finishCreation entry created manager := by
  unfold createNewNamespace createOnSystem finishCreation
  dsimp only
  rcases (manager.trackCreation entry).netlinkManager.createNamespace entry.fullName with
    ⟨e | info, netlink⟩ <;> rfl

/-- The end of a synchronization: the orphans and the clean-up. -/
def finishSync (orders : SyncOrders) (configManager : ConfigManager)
    (managed : KeyedMap NamespaceInfo.name) (result : SyncResult)
    (manager : NamespaceStateManager) : SegwireResult SyncResult × NamespaceStateManager :=
  let orphans := orphanConflicts orders.actual configManager managed
  let toRemove := manager.staleNames orders.states configManager managed
  let manager := toRemove.foldl removeNamespaceState manager
  let (lastSync, manager) := manager.now
  (.ok { result with conflicts := result.conflicts ++ orphans, deleted := toRemove },
    { manager with lastSync })

end NamespaceStateManager

open NamespaceStateManager

namespace Managers

variable {m : Managers} {k : String} {entry : NamespaceConfigEntry} {orders : SyncOrders}
  {managed : KeyedMap NamespaceInfo.name} {entries : List (String × NamespaceConfigEntry)}

/-- What is done to the state manager, done to the managers. -/
def onStates {α : Type} (body : NamespaceStateManager → α × NamespaceStateManager)
    (m : Managers) : α × Managers :=
  let (result, stateManager) := body m.stateManager
  (result, { m with stateManager })

/-- The creation of a namespace from its configuration. The requests about its network are
one section, as they neither create nor delete a namespace. -/
def createSections (entry : NamespaceConfigEntry) : Task Managers (SegwireResult SyncAction) := do
  .atomic (onStates fun manager => ((), manager.trackCreation entry))
  let created ← .atomic (onStates (createOnSystem entry.fullName))
  .atomic (onStates (finishCreation entry created))

/-- The processing of a configured namespace. -/
def processSections (managed : KeyedMap NamespaceInfo.name) (entry : NamespaceConfigEntry) :
    Task Managers (SegwireResult SyncAction) := do
  let state ← .read fun m => m.stateManager.getNamespaceState entry.fullName
  match state, managed.lookup entry.fullName with
  | none, none => createSections entry
  | _, _ => .atomic (onStates (·.processConfiguredNamespace entry managed))

/-- The loop over the configurations. -/
def loopSections (managed : KeyedMap NamespaceInfo.name) :
    SyncResult → List (String × NamespaceConfigEntry) → Task Managers SyncResult
  | result, [] => return result
  | result, (name, entry) :: entries => do
    let action ← processSections managed entry
    loopSections managed (result.record name action) entries

/-- A synchronization, once the namespaces have been listed. -/
def listedSections (orders : SyncOrders) (configManager : ConfigManager)
    (list : SegwireResult (KeyedMap NamespaceInfo.name)) :
    Task Managers (SegwireResult SyncResult) :=
  match list with
  | .error e => return .ok { SyncResult.empty with
      errors := ["Failed to list system namespaces: " ++ e.display] }
  | .ok actual => do
    let managed := managedActual configManager actual
    let result ← loopSections managed .empty (configManager.namespaceConfigs.iter orders.configs)
    .atomic (onStates (finishSync orders configManager managed result))

/-- A synchronization. The lock on the configurations is held, too. -/
def synchronizeSections (orders : SyncOrders) : Task Managers (SegwireResult SyncResult) := do
  let (configManager, list) ← .read fun m =>
    (m.configManager, m.stateManager.netlinkManager.listNamespaces)
  listedSections orders configManager list

theorem run_createSections (entry : NamespaceConfigEntry) (m : Managers) :
    (createSections entry).run m = onStates (·.createNewNamespace entry) m := by
  simp only [createSections, Task.run_bind, Task.run_atomic, onStates, createNewNamespace_eq]

theorem run_processSections (managed : KeyedMap NamespaceInfo.name) (entry : NamespaceConfigEntry)
    (m : Managers) :
    (processSections managed entry).run m =
      onStates (·.processConfiguredNamespace entry managed) m := by
  rw [processSections, Task.run_bind, Task.run_read]
  cases hstate : m.stateManager.namespaceStates.lookup entry.fullName with
  | some state =>
    have hfound : m.stateManager.getNamespaceState entry.fullName = some state := hstate
    rw [hfound]
    cases managed.lookup entry.fullName <;> rfl
  | none =>
    have hfound : m.stateManager.getNamespaceState entry.fullName = none := hstate
    rw [hfound]
    cases hactual : managed.lookup entry.fullName with
    | some actual => rfl
    | none =>
      simp only [run_createSections, onStates, process_of_untracked_of_missing hstate hactual]

theorem run_loopSections (managed : KeyedMap NamespaceInfo.name)
    (entries : List (String × NamespaceConfigEntry)) (result : SyncResult) (m : Managers) :
    (loopSections managed result entries).run m =
      let acc := entries.foldl (syncConfigured managed) (result, m.stateManager)
      (acc.1, { m with stateManager := acc.2 }) := by
  induction entries generalizing result m with
  | nil => rfl
  | cons entry entries ih =>
    rw [loopSections, Task.run_bind, run_processSections, ih]
    rfl

/-- Without interruptions, the sections make up a synchronization. -/
theorem run_synchronizeSections (orders : SyncOrders) (m : Managers) :
    (synchronizeSections orders).run m = m.synchronize orders := by
  rw [synchronizeSections, Task.run_bind, Task.run_read, synchronize, synchronizeState]
  cases hlist : m.stateManager.netlinkManager.listNamespaces with
  | error e => rfl
  | ok actual =>
    simp only [listedSections, Task.run_bind, run_loopSections, Task.run_atomic]
    rfl

end Managers

/-! ### What a synchronization looks at -/

namespace Environment

/-- The environment as far as creations and lists depend on it: a simulation needs no
directory. -/
def effective (environment : Environment) : Environment :=
  { environment with netnsDir := environment.simulated || environment.netnsDir }

theorem creates_effective (environment : Environment) (isPresent : Bool) (name : String) :
    environment.effective.creates isPresent name = environment.creates isPresent name := by
  unfold creates effective
  cases environment.simulated <;> simp

theorem leavesPlaceholder_effective (environment : Environment) (isPresent : Bool)
    (name : String) : environment.effective.leavesPlaceholder isPresent name =
      environment.leavesPlaceholder isPresent name := by
  unfold leavesPlaceholder effective
  cases environment.simulated <;> simp

/-- The namespaces cannot be listed. -/
def listFails (environment : Environment) : Bool :=
  !environment.simulated && environment.netnsDir && (environment.faults .readNetnsDir).isSome

theorem listFails_effective (environment : Environment) :
    environment.effective.listFails = environment.listFails := by
  unfold listFails effective
  cases environment.simulated <;> simp

end Environment

/-- What belongs to one name, as a synchronization looks at it: its tracked state, its
presence in the system, and the environment of a creation. -/
structure NameView where
  state : Option NamespaceState
  isPresent : Bool
  environment : Environment

namespace NameView

/-- The state without its time stamps, and the presence. -/
def observed (c : NameView) : Option NamespaceState × Bool := (c.state.map untimed, c.isPresent)

/-- The name is listed, and it carries the prefix. -/
def isManaged (configManager : ConfigManager) (k : String) (c : NameView) : Bool :=
  c.isPresent &&
    (c.environment.simulated || (c.environment.faults (.readNetnsEntry k)).isNone) &&
    configManager.matchesNamespacePrefix k

/-- What the processing of its configuration makes of a name, which is managed or not. -/
def processed (entry : NamespaceConfigEntry) (managed : Bool) (c : NameView) :
    Option NamespaceState × Bool :=
  match c.state, managed with
  | some state, true =>
    (some (if state.lastUpdated < unixSeconds entry.lastModified then
        { activeState entry 0 0 with
          name := state.name, fullName := state.fullName, configPath := state.configPath }
      else untimed state), c.isPresent)
  | some state, false => (some (untimed state), c.isPresent)
  | none, true => (some (activeState entry 0 0), c.isPresent)
  | none, false =>
    if c.environment.creates c.isPresent entry.fullName then (some (activeState entry 0 0), true)
    else (some (failedState entry 0 0),
      c.isPresent || c.environment.leavesPlaceholder c.isPresent entry.fullName)

/-- What a synchronization makes of a name. -/
def synchronized (configManager : ConfigManager) (k : String) (c : NameView) :
    Option NamespaceState × Bool :=
  if c.environment.listFails then c.observed
  else
    match configManager.namespaceConfigs.lookup k with
    | some entry => c.processed entry (c.isManaged configManager k)
    | none => (if c.isManaged configManager k then c.state.map untimed else none, c.isPresent)

variable {c : NameView} {configManager : ConfigManager} {k : String}
  {entry : NamespaceConfigEntry}

/-- Without configuration or already tracked, a name is neither created nor deleted. -/
theorem synchronized_present
    (h : configManager.namespaceConfigs.contains k = true → c.state.isSome = true) :
    (c.synchronized configManager k).2 = c.isPresent := by
  unfold synchronized
  by_cases hlist : c.environment.listFails = true
  · rw [if_pos hlist]
    rfl
  · rw [if_neg hlist]
    cases hk : configManager.namespaceConfigs.lookup k with
    | none => rfl
    | some entry =>
      obtain ⟨state, hstate⟩ :=
        Option.isSome_iff_exists.mp (h (KeyedMap.contains_iff.mpr ⟨entry, hk⟩))
      unfold processed
      rw [hstate]
      cases c.isManaged configManager k <;> rfl

/-- A name that is neither configured nor tracked stays untracked. -/
theorem synchronized_of_unknown (hk : configManager.namespaceConfigs.lookup k = none)
    (huntracked : c.state = none) : (c.synchronized configManager k).1 = none := by
  unfold synchronized observed
  rw [hk, huntracked]
  split_ifs <;> rfl

/-- A configured name that is tracked stays tracked. -/
theorem isSome_synchronized (hk : configManager.namespaceConfigs.contains k = true)
    (htracked : c.state.isSome = true) : (c.synchronized configManager k).1.isSome = true := by
  obtain ⟨entry, hentry⟩ := KeyedMap.contains_iff.mp hk
  obtain ⟨state, hstate⟩ := Option.isSome_iff_exists.mp htracked
  unfold synchronized observed processed
  rw [hentry, hstate]
  by_cases hlist : c.environment.listFails = true
  · rw [if_pos hlist]
    rfl
  · rw [if_neg hlist]
    cases c.isManaged configManager k <;> rfl

section Untracked

variable (hk : configManager.namespaceConfigs.lookup k = some entry) (huntracked : c.state = none)
include hk huntracked

/-- In a simulation, a synchronization creates what is configured and untracked. -/
theorem synchronized_present_of_simulated (hsimulated : c.environment.simulated = true)
    (hvalid : (validateNamespaceName k).toBool = true) :
    (c.synchronized configManager k).2 = true := by
  obtain rfl : entry.fullName = k := KeyedMap.key_eq_of_lookup hk
  unfold synchronized processed Environment.listFails
  rw [hk, huntracked, hsimulated, if_neg (by simp)]
  cases hmanaged : c.isManaged configManager entry.fullName with
  | true =>
    rw [isManaged, Bool.and_eq_true, Bool.and_eq_true] at hmanaged
    exact hmanaged.1.1
  | false =>
    dsimp only
    split_ifs with hcreates
    · rfl
    · rw [Environment.creates, hvalid, hsimulated] at hcreates
      simp at hcreates
      simp [hcreates]

/-- An absent namespace that a synchronization tries to create and that stays absent cannot
be created, and no file is left. -/
theorem not_creates_of_synchronized (habsent : c.isPresent = false)
    (hlist : c.environment.listFails = false)
    (hafter : (c.synchronized configManager k).2 = false) :
    c.environment.creates false k = false ∧ c.environment.leavesPlaceholder false k = false := by
  obtain rfl : entry.fullName = k := KeyedMap.key_eq_of_lookup hk
  have hmanaged : c.isManaged configManager entry.fullName = false := by
    rw [isManaged, habsent, Bool.false_and, Bool.false_and]
  unfold synchronized processed at hafter
  rw [hk, huntracked, hmanaged, habsent, if_neg (by simp [hlist])] at hafter
  dsimp only at hafter
  split_ifs at hafter with hcreates
  exact ⟨Bool.eq_false_of_not_eq_true hcreates, hafter⟩

end Untracked

end NameView

namespace Managers

variable {m : Managers} {k : String} {entry : NamespaceConfigEntry} {orders : SyncOrders}
  {managed : KeyedMap NamespaceInfo.name} {entries : List (String × NamespaceConfigEntry)}
  {result : SyncResult} {c : NameView}

/-- What belongs to one name, as a synchronization looks at it. -/
def viewOf (k : String) (m : Managers) : NameView where
  state := m.stateManager.namespaceStates.lookup k
  isPresent := m.stateManager.netlinkManager.namespaceExists k
  environment := m.stateManager.netlinkManager.environment.effective

/-- The view of a name is that of its component. -/
theorem viewOf_of_component {state : Option NamespaceState} {isPresent : Bool}
    {environment : Environment}
    (h : component k m.stateManager = (state, isPresent, environment)) :
    viewOf k m = ⟨state, isPresent, environment.effective⟩ := by
  change NameView.mk (component k m.stateManager).1 (component k m.stateManager).2.1
    (component k m.stateManager).2.2.effective = _
  rw [h]

theorem viewOf_onStates {α : Type} {body : NamespaceStateManager → α × NamespaceStateManager}
    (h : component k (body m.stateManager).2 = component k m.stateManager) :
    viewOf k (onStates body m).2 = viewOf k m :=
  viewOf_of_component h

/-! ### Other names -/

/-- Of another name, a creation takes no notice. -/
theorem leaves_createSections_of_ne (hk : k ≠ entry.fullName) :
    (createSections entry).Leaves (viewOf k) := by
  refine (Task.leaves_atomic fun m => viewOf_onStates ?_).bind fun _ =>
    (Task.leaves_atomic fun m => viewOf_onStates ?_).bind fun created =>
      Task.leaves_atomic fun m => viewOf_onStates ?_
  · exact component_trackCreation.trans (if_neg hk)
  · exact component_of_create_of_ne
      (m.stateManager.netlinkManager.createNamespace_spec entry.fullName) hk
  · exact component_finishCreation_of_ne hk

theorem leaves_processSections_of_ne (hk : k ≠ entry.fullName) :
    (processSections managed entry).Leaves (viewOf k) := by
  refine (Task.leaves_read _).bind fun state => ?_
  split
  · exact leaves_createSections_of_ne hk
  · exact Task.leaves_atomic fun m =>
      viewOf_onStates (component_processConfiguredNamespace_of_ne hk)

theorem leaves_loopSections_of_notMem (hk : ∀ e ∈ entries, k ≠ e.2.fullName)
    (result : SyncResult) :
    (loopSections managed result entries).Leaves (viewOf k) := by
  induction entries generalizing result with
  | nil => exact Task.leaves_done result
  | cons e entries ih =>
    obtain ⟨hself, hothers⟩ := List.forall_mem_cons.mp hk
    exact (leaves_processSections_of_ne hself).bind fun action => ih hothers _

/-! ### Its own name -/

/-- The state recorded while a namespace is being created. -/
def creatingState (entry : NamespaceConfigEntry) (created touched : SystemTime) : NamespaceState :=
  (NamespaceState.new entry.config.namespace_.name entry.fullName entry.filePath.display
    created).setStatus .creating touched

theorem exists_viewOf_trackCreation (entry : NamespaceConfigEntry) (m : Managers) :
    ∃ created touched,
      viewOf entry.fullName (onStates (fun manager => ((), manager.trackCreation entry)) m).2 =
        { viewOf entry.fullName m with state := some (creatingState entry created touched) } := by
  have hcomponent : component entry.fullName (m.stateManager.trackCreation entry) = _ :=
    component_trackCreation
  rw [if_pos rfl] at hcomponent
  exact ⟨_, _, viewOf_of_component hcomponent⟩

/-- The creation on the system succeeds, or it fails and may leave a file behind. -/
theorem viewOf_createOnSystem (k : String) (m : Managers) :
    let c := viewOf k m
    let after := onStates (createOnSystem k) m
    if c.environment.creates c.isPresent k then
      ∃ info, after.1 = .ok info ∧ info.active = true ∧
        viewOf k after.2 = { c with isPresent := true }
    else
      ∃ e, after.1 = .error e ∧ viewOf k after.2 =
        { c with isPresent := c.isPresent || c.environment.leavesPlaceholder c.isPresent k } := by
  intro c after
  have hspec := m.stateManager.netlinkManager.createNamespace_spec k
  have hview : viewOf k after.2 = ⟨c.state,
      (m.stateManager.netlinkManager.createNamespace k).2.namespaceExists k, c.environment⟩ := by
    change NameView.mk _ _ (m.stateManager.netlinkManager.createNamespace k).2.environment.effective
      = _
    rw [hspec.environment]
    rfl
  have hcreates : c.environment.creates c.isPresent k =
      m.stateManager.netlinkManager.environment.creates
        (m.stateManager.netlinkManager.namespaceExists k) k := Environment.creates_effective _ _ _
  have hplaceholder : c.environment.leavesPlaceholder c.isPresent k =
      m.stateManager.netlinkManager.environment.leavesPlaceholder
        (m.stateManager.netlinkManager.namespaceExists k) k :=
    Environment.leavesPlaceholder_effective _ _ _
  rw [hview, hspec.present, hcreates, hplaceholder]
  change if _ then ∃ info, (m.stateManager.netlinkManager.createNamespace k).1 = _ ∧ _
    else ∃ e, (m.stateManager.netlinkManager.createNamespace k).1 = _ ∧ _
  split_ifs with hmade
  · obtain ⟨info, hinfo⟩ := hspec.ok_iff.mpr hmade
    refine ⟨info, hinfo, hspec.active info hinfo, ?_⟩
    rw [hmade, Bool.or_true, Bool.true_or]
  · cases hresult : (m.stateManager.netlinkManager.createNamespace k).1 with
    | ok info => exact absurd (hspec.ok_iff.mp ⟨info, hresult⟩) hmade
    | error e =>
      refine ⟨e, rfl, ?_⟩
      rw [Bool.not_eq_true] at hmade
      rw [hmade, Bool.or_false]
      rfl

/-- The end of a creation changes the status of the state, and gives it its settings. -/
theorem viewOf_finishCreation (entry : NamespaceConfigEntry)
    (created : SegwireResult NamespaceInfo) (m : Managers) :
    ∃ now now', viewOf entry.fullName (onStates (finishCreation entry created) m).2 =
      { viewOf entry.fullName m with
        state := (viewOf entry.fullName m).state.map fun state =>
          match created with
          | .ok info => updateStateFromConfigAndActual entry info now' (state.setStatus .active now)
          | .error _ => state.setStatus .failed now } := by
  have hstate : (component entry.fullName m.stateManager).1 = (viewOf entry.fullName m).state := rfl
  cases created with
  | error e =>
    refine ⟨m.stateManager.now.1, 0, viewOf_of_component ?_⟩
    exact (component_modifyState (fullName_setStatus _)).trans (if_pos rfl)
  | ok info =>
    let applied := { m.stateManager with
      netlinkManager := (m.stateManager.netlinkManager.applyInterfaces entry.fullName
        entry.config).applyRoutesAndDns entry.fullName entry.config }
    have happlied : component entry.fullName applied = component entry.fullName m.stateManager :=
      component_of_sameSystem m.stateManager (sameSystem_apply _ entry)
    let active := applied.modifyState entry.fullName fun now state => state.setStatus .active now
    refine ⟨applied.now.1, active.now.1, viewOf_of_component ?_⟩
    refine (component_modifyState (fullName_updateStateFromConfigAndActual _ _)).trans ?_
    rw [if_pos rfl, component_modifyState (fullName_setStatus _), if_pos rfl, happlied, hstate,
      Option.map_map]
    rfl

/-- What a creation does to its own name. -/
theorem leads_createSections (entry : NamespaceConfigEntry) (c : NameView) :
    (createSections entry).Leads (viewOf entry.fullName) c fun _ c' =>
      c'.environment = c.environment ∧ c'.observed =
        if c.environment.creates c.isPresent entry.fullName then
          (some (activeState entry 0 0), true)
        else (some (failedState entry 0 0),
          c.isPresent || c.environment.leavesPlaceholder c.isPresent entry.fullName) := by
  -- the three sections follow each other, and the name is tracked from the first on
  have htrack : (Task.atomic (onStates fun manager => ((), manager.trackCreation entry))).Leads
      (viewOf entry.fullName) c fun _ c' =>
        ∃ created touched, c' = { c with state := some (creatingState entry created touched) } := by
    refine Task.leads_atomic ?_
    rintro m rfl
    exact exists_viewOf_trackCreation entry m
  refine htrack.bind ?_
  rintro - - ⟨created, touched, rfl⟩
  refine (Task.leads_atomic (Q := fun result c' =>
    if c.environment.creates c.isPresent entry.fullName then
      ∃ info, result = .ok info ∧ info.active = true ∧
        c' = ⟨some (creatingState entry created touched), true, c.environment⟩
    else
      ∃ e, result = .error e ∧ c' = ⟨some (creatingState entry created touched),
        c.isPresent || c.environment.leavesPlaceholder c.isPresent entry.fullName,
        c.environment⟩) ?_).bind ?_
  · intro m hm
    have hcreate := viewOf_createOnSystem entry.fullName m
    rw [hm] at hcreate
    exact hcreate
  · rintro result c' hc'
    refine Task.leads_atomic fun m hm => ?_
    obtain ⟨now, now', hfinish⟩ := viewOf_finishCreation entry result m
    rw [hfinish, hm]
    split_ifs at hc' ⊢
    · obtain ⟨info, rfl, hactive, rfl⟩ := hc'
      refine ⟨rfl, Prod.ext ?_ rfl⟩
      -- the second change in place supplies what the first one lacks, the settings
      have hsettled : updateStateFromConfigAndActual entry info now'
          ((creatingState entry created touched).setStatus .active now) =
            activeState entry (unixSeconds created) (unixSeconds now') :=
        updateStateFromConfigAndActual_new hactive created now now'
      exact congrArg (fun state => some (untimed state)) hsettled
    · obtain ⟨e, rfl, rfl⟩ := hc'
      exact ⟨rfl, rfl⟩

/-- What the processing of its configuration does to a name that is tracked or managed. -/
theorem viewOf_process (hactive : ∀ info, managed.lookup entry.fullName = some info →
    info.active = true) (m : Managers) (hfound : (viewOf entry.fullName m).state.isSome = true ∨
    managed.contains entry.fullName = true) :
    let c := viewOf entry.fullName m
    let c' := viewOf entry.fullName (onStates (·.processConfiguredNamespace entry managed) m).2
    c'.environment = c.environment ∧
      c'.observed = c.processed entry (managed.contains entry.fullName) := by
  intro c c'
  have hafter {state : Option NamespaceState}
      (hcomponent : component entry.fullName
        (m.stateManager.processConfiguredNamespace entry managed).2 =
          (state, (component entry.fullName m.stateManager).2)) :
      c'.environment = c.environment ∧ c'.observed = (state.map untimed, c.isPresent) := by
    have hc' : c' = ⟨state, c.isPresent, c.environment⟩ := viewOf_of_component hcomponent
    rw [hc']
    exact ⟨rfl, rfl⟩
  unfold NameView.processed KeyedMap.contains
  cases hactual : managed.lookup entry.fullName with
  | some info =>
    cases hstate : c.state with
    | some state =>
      obtain ⟨-, now, hnow⟩ := process_of_tracked_of_managed hstate hactual
      obtain ⟨henvironment, hobserved⟩ := hafter hnow
      refine ⟨henvironment, hobserved.trans (Prod.ext ?_ rfl)⟩
      -- an active namespace is updated iff its configuration is newer than its state
      have hneeds : needsNamespaceUpdate state entry info =
          decide (state.lastUpdated < unixSeconds entry.lastModified) := by
        rw [needsNamespaceUpdate, hasConfigurationDrift, hactive info hactual, Bool.not_true,
          Bool.or_false]
      rw [hneeds]
      by_cases hnewer : state.lastUpdated < unixSeconds entry.lastModified
      · simp [hnewer, updateStateFromConfigAndActual, hactive info hactual, activeState, untimed,
          NamespaceState.touch]
      · simp [hnewer, untimed, NamespaceState.touch]
    | none =>
      obtain ⟨-, createdAt, lastUpdated, hadopted⟩ :=
        process_of_untracked_of_managed hstate hactual (hactive info hactual)
      exact hafter hadopted
  | none =>
    cases hstate : c.state with
    | some state =>
      have hkept : component entry.fullName
          (m.stateManager.processConfiguredNamespace entry managed).2 =
            (some state, (component entry.fullName m.stateManager).2) := by
        rw [process_of_tracked_of_missing hstate hactual]
        exact Prod.ext hstate rfl
      exact hafter hkept
    | none =>
      rw [KeyedMap.contains, hactual] at hfound
      have huntracked : (viewOf entry.fullName m).state = none := hstate
      rw [huntracked] at hfound
      simp at hfound

/-- What the processing of its configuration does to a name. -/
theorem leads_processSections (hactive : ∀ info, managed.lookup entry.fullName = some info →
    info.active = true) (c : NameView) :
    (processSections managed entry).Leads (viewOf entry.fullName) c fun _ c' =>
      c'.environment = c.environment ∧
        c'.observed = c.processed entry (managed.contains entry.fullName) := by
  -- what is read first decides, and stays
  have hprocess (hfound : c.state.isSome = true ∨ managed.contains entry.fullName = true) :
      (Task.atomic (onStates (·.processConfiguredNamespace entry managed))).Leads
        (viewOf entry.fullName) c fun _ c' => c'.environment = c.environment ∧
          c'.observed = c.processed entry (managed.contains entry.fullName) := by
    refine Task.leads_atomic ?_
    rintro m rfl
    exact viewOf_process hactive m hfound
  have hread : (Task.read fun m : Managers =>
      m.stateManager.getNamespaceState entry.fullName).Leads (viewOf entry.fullName) c
        fun state c' => c.state = state ∧ c = c' := by
    refine Task.leads_atomic ?_
    rintro m rfl
    exact ⟨rfl, rfl⟩
  refine hread.bind ?_
  rintro state c' ⟨rfl, rfl⟩
  split
  next hstate hactual =>
    refine (leads_createSections entry c).mono fun _ c' hc' => ?_
    unfold NameView.processed KeyedMap.contains
    rw [hstate, hactual]
    exact hc'
  next hfound =>
    refine hprocess ?_
    rw [KeyedMap.contains, Option.isSome_iff_ne_none, Option.isSome_iff_ne_none, ← not_and_or]
    rintro ⟨huntracked, hmissing⟩
    exact hfound huntracked hmissing

/-! ### The whole synchronization -/

/-- What the loop does to a configured name. -/
theorem leads_loopSections
    (hactive : ∀ name info, managed.lookup name = some info → info.active = true)
    (hkeyed : ∀ e ∈ entries, e.2.fullName = e.1) (hnodup : (entries.map Prod.fst).Nodup)
    (hmem : (k, entry) ∈ entries) (result : SyncResult) (c : NameView) :
    (loopSections managed result entries).Leads (viewOf k) c fun _ c' =>
      c'.environment = c.environment ∧ c'.observed = c.processed entry (managed.contains k) := by
  induction entries generalizing result with
  | nil => cases hmem
  | cons e entries ih =>
    obtain ⟨hfirst, hnodup⟩ := List.nodup_cons.mp hnodup
    obtain ⟨hkey, hkeyed'⟩ := List.forall_mem_cons.mp hkeyed
    rcases List.mem_cons.mp hmem with rfl | hmem
    · obtain rfl : entry.fullName = k := hkey
      refine (leads_processSections (hactive _) c).bind fun action c' hc' => ?_
      -- the remaining configurations are those of other names
      have hothers : ∀ e ∈ entries, entry.fullName ≠ e.2.fullName := by
        intro e he hsame
        rw [hkeyed' e he] at hsame
        exact hfirst (List.mem_map.mpr ⟨e, he, hsame.symm⟩)
      refine (leaves_loopSections_of_notMem hothers _).leads.mono ?_
      rintro - c'' rfl
      exact hc'
    · have hk : k ≠ e.2.fullName := by
        rintro rfl
        rw [hkey] at hmem
        exact hfirst (List.mem_map.mpr ⟨_, hmem, rfl⟩)
      refine (leaves_processSections_of_ne hk).leads.bind ?_
      rintro action c' rfl
      exact ih hkeyed' hnodup hmem _

/-- The end of a synchronization forgets the state of a name that is neither configured nor
managed. -/
theorem viewOf_finishSync (orders : SyncOrders) (configManager : ConfigManager)
    (managed : KeyedMap NamespaceInfo.name) (result : SyncResult) (k : String) (m : Managers) :
    viewOf k (onStates (finishSync orders configManager managed result) m).2 =
      { viewOf k m with
        state :=
          if configManager.namespaceConfigs.lookup k = none ∧ managed.lookup k = none then none
          else (viewOf k m).state } := by
  let toRemove := m.stateManager.staleNames orders.states configManager managed
  have hcomponent : component k (finishSync orders configManager managed result m.stateManager).2 =
      if k ∈ toRemove then (none, (component k m.stateManager).2)
      else component k m.stateManager := component_foldl_remove toRemove
  have hstale : k ∈ toRemove ↔ _ := mem_staleNames
  split_ifs with hunknown
  · by_cases hmem : k ∈ toRemove
    · rw [if_pos hmem] at hcomponent
      exact viewOf_of_component hcomponent
    · -- the name was not tracked
      rw [if_neg hmem] at hcomponent
      rw [hstale, not_and] at hmem
      have huntracked : (viewOf k m).state = none := by
        by_contra htracked
        exact hmem (Option.isSome_iff_ne_none.mpr htracked) hunknown
      exact (viewOf_onStates hcomponent).trans (by rw [← huntracked])
  · rw [if_neg fun hmem => hunknown (hstale.mp hmem).2] at hcomponent
    exact viewOf_onStates hcomponent

/-- The names that a synchronization finds managed. -/
theorem contains_managed {actual : KeyedMap NamespaceInfo.name}
    (hlist : m.stateManager.netlinkManager.listNamespaces = .ok actual) (k : String) :
    (managedActual m.configManager actual).contains k =
      (viewOf k m).isManaged m.configManager k := by
  rw [contains_managedActual, NetlinkManager.contains_listed hlist]
  rfl

theorem listFails_iff (k : String) (m : Managers) :
    (viewOf k m).environment.listFails = true ↔
      ∃ e, m.stateManager.netlinkManager.listNamespaces = .error e := by
  have heffective : (viewOf k m).environment.listFails =
      m.stateManager.netlinkManager.environment.listFails := Environment.listFails_effective _
  rw [heffective, Environment.listFails, NetlinkManager.environment, NetlinkManager.isSimulated,
    NetlinkManager.listNamespaces]
  cases m.stateManager.netlinkManager.backend with
  | simulated state => simp
  | real =>
    cases m.stateManager.netlinkManager.host.netns with
    | none => simp
    | some files =>
      cases hfault : m.stateManager.netlinkManager.host.faults .readNetnsDir <;> simp [hfault]

/-- What a synchronization does to a name, once the namespaces have been listed. -/
theorem leads_listedSections (orders : SyncOrders) (k : String) (m : Managers) :
    (listedSections orders m.configManager m.stateManager.netlinkManager.listNamespaces).Leads
      (viewOf k) (viewOf k m) fun _ c' => c'.environment = (viewOf k m).environment ∧
        c'.observed = (viewOf k m).synchronized m.configManager k := by
  have hfails := listFails_iff k m
  unfold NameView.synchronized
  cases hlist : m.stateManager.netlinkManager.listNamespaces with
  | error e =>
    rw [if_pos (hfails.mpr ⟨e, hlist⟩)]
    exact Task.leads_done ⟨rfl, rfl⟩
  | ok actual =>
    have hlisted : ¬ (viewOf k m).environment.listFails = true := by
      rw [hfails, hlist]
      rintro ⟨e, ⟨⟩⟩
    rw [if_neg hlisted, ← contains_managed hlist]
    let managed := managedActual m.configManager actual
    let entries := m.configManager.namespaceConfigs.iter orders.configs
    have hfinish (result : SyncResult) (c : NameView) :
        (Task.atomic (onStates (finishSync orders m.configManager managed result))).Leads
          (viewOf k) c fun _ c' => c' = { c with
            state := if m.configManager.namespaceConfigs.lookup k = none ∧ managed.lookup k = none
              then none else c.state } := by
      refine Task.leads_atomic ?_
      rintro m' rfl
      exact viewOf_finishSync _ _ _ _ _ m'
    cases hk : m.configManager.namespaceConfigs.lookup k with
    | some entry =>
      have hloop : (loopSections managed .empty entries).Leads (viewOf k) (viewOf k m) _ :=
        leads_loopSections (fun _ _ hmanaged => active_of_managed hlist hmanaged)
          (fun e he => KeyedMap.key_eq_of_lookup (KeyedMap.mem_iter.mp he))
          (KeyedMap.nodup_map_fst_iter _ _) (KeyedMap.mem_iter.mpr hk) .empty (viewOf k m)
      refine hloop.bind fun result c' hc' => (hfinish result c').mono ?_
      rintro - c'' rfl
      rw [if_neg (by simp [hk])]
      exact hc'
    | none =>
      have hloop : (loopSections managed .empty entries).Leaves (viewOf k) := by
        refine leaves_loopSections_of_notMem ?_ .empty
        rintro e he rfl
        have hconfigured := KeyedMap.mem_iter.mp he
        rw [← KeyedMap.key_eq_of_lookup hconfigured, hk] at hconfigured
        cases hconfigured
      refine hloop.leads.bind ?_
      rintro result c' rfl
      refine (hfinish result _).mono ?_
      rintro - c'' rfl
      refine ⟨rfl, Prod.ext ?_ rfl⟩
      cases hmanaged : managed.lookup k <;>
        simp [NameView.observed, KeyedMap.contains, hk, managed, hmanaged]

end Managers

end Segwire.Daemon
