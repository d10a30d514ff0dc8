import Segwire.Daemon.EventLoop
import Segwire.Daemon.NamespaceSync

/-!
# Configuration updates

A synchronization brings the recorded settings of a namespace up to date only if it
finds that the namespace needs an update: the whole-second modification time of the
configuration file must be later than the last update of the tracked state, and every
synchronization counts as one. Settings that differ although the file is no newer
stay as they are.

## Main definitions

* `Managers.AppliesConfigurations` — a synchronization records what is configured
* `Managers.ChangesAreNewer` — where the recorded settings differ, the file is newer

## Main results

* `Managers.appliesConfigurations_iff` — the two agree for a synchronization without errors
* `DaemonEventLoop.applies_along_run` — no update is lost in a run whose changes are newer
* `DaemonEventLoop.update_lost_same_second` — an update within the second of the last one
-/

namespace Segwire.Daemon

open Foundation Segwire.Common NamespaceStateManager

/-- The settings that a tracked state records. -/
def recordedSettings (state : NamespaceState) : List InterfaceInfo × List RouteInfo × DnsInfo :=
  (state.interfaces, state.routes, state.dnsConfig)

/-- The settings that an entry gives a namespace. -/
def derivedSettings (entry : NamespaceConfigEntry) (info : NamespaceInfo) :
    List InterfaceInfo × List RouteInfo × DnsInfo :=
  (configuredInterfaces entry.config info.active, configuredRoutes entry.config,
    ⟨entry.config.dns.servers, entry.config.dns.search⟩)

theorem recordedSettings_activeState {entry : NamespaceConfigEntry} {info : NamespaceInfo}
    (hactive : info.active = true) (createdAt lastUpdated : Nat) :
    recordedSettings (activeState entry createdAt lastUpdated) = derivedSettings entry info := by
  rw [derivedSettings, hactive]
  rfl

namespace Managers

/-- After a synchronization without errors, every configured name of the list has the
settings that its loaded entry gives. -/
def AppliesConfigurations (m : Managers) (orders : SyncOrders) : Prop :=
  ∀ result, (m.synchronize orders).1 = .ok result → result.errors = [] →
    ∀ actual, m.stateManager.netlinkManager.listNamespaces = .ok actual →
      ∀ k entry info, m.configManager.namespaceConfigs.lookup k = some entry →
        actual.lookup k = some info →
          ∃ state, (m.synchronize orders).2.stateManager.namespaceStates.lookup k = some state ∧
            recordedSettings state = derivedSettings entry info

/-- Wherever the recorded settings of a listed name differ from those its loaded entry
gives, the name carries the prefix and is found to need an update. -/
def ChangesAreNewer (m : Managers) : Prop :=
  ∀ actual, m.stateManager.netlinkManager.listNamespaces = .ok actual →
    ∀ k entry info state, m.configManager.namespaceConfigs.lookup k = some entry →
      actual.lookup k = some info → m.stateManager.namespaceStates.lookup k = some state →
        recordedSettings state ≠ derivedSettings entry info →
          m.configManager.matchesNamespacePrefix k = true ∧
            needsNamespaceUpdate state entry info = true

/-- `ChangesAreNewer` looks at the loaded entries only. -/
theorem changesAreNewer_iff_keys {m : Managers} : m.ChangesAreNewer ↔
    ∀ actual ∈ m.stateManager.netlinkManager.listNamespaces.toOption,
      ∀ k ∈ m.configManager.namespaceConfigs.toMap.keys,
        ∀ entry ∈ m.configManager.namespaceConfigs.lookup k, ∀ info ∈ actual.lookup k,
          ∀ state ∈ m.stateManager.namespaceStates.lookup k,
            recordedSettings state ≠ derivedSettings entry info →
              m.configManager.matchesNamespacePrefix k = true ∧
                needsNamespaceUpdate state entry info = true := by
  have hlist (actual : KeyedMap NamespaceInfo.name) :
      actual ∈ m.stateManager.netlinkManager.listNamespaces.toOption ↔
        m.stateManager.netlinkManager.listNamespaces = .ok actual := by
    cases m.stateManager.netlinkManager.listNamespaces <;> simp [Except.toOption]
  constructor
  · intro hnewer actual hactual k _ entry hk info hinfo state hstate
    exact hnewer actual ((hlist actual).mp hactual) k entry info state hk hinfo hstate
  · intro hnewer actual hactual k entry info state hk hinfo hstate
    exact hnewer actual ((hlist actual).mpr hactual) k
      (Finmap.mem_keys.mpr (Finmap.mem_of_lookup_eq_some hk)) entry hk info hinfo state hstate

instance (m : Managers) : Decidable m.ChangesAreNewer :=
  decidable_of_iff' _ changesAreNewer_iff_keys

variable {m : Managers} {orders : SyncOrders} {result : SyncResult}
  {actual : KeyedMap NamespaceInfo.name} {k : String} {entry : NamespaceConfigEntry}
  {info : NamespaceInfo}

/-- What a synchronization records for a tracked name of the list. -/
theorem settings_of_tracked (orders : SyncOrders) {state : NamespaceState}
    (hlist : m.stateManager.netlinkManager.listNamespaces = .ok actual)
    (hk : m.configManager.namespaceConfigs.lookup k = some entry)
    (hinfo : actual.lookup k = some info)
    (hstate : m.stateManager.namespaceStates.lookup k = some state) :
    ∃ state', (m.synchronize orders).2.stateManager.namespaceStates.lookup k = some state' ∧
      recordedSettings state' =
        if m.configManager.matchesNamespacePrefix k && needsNamespaceUpdate state entry info then
          derivedSettings entry info
        else recordedSettings state := by
  cases hmatches : m.configManager.matchesNamespacePrefix k with
  | true =>
    have hmanaged := lookup_managedActual_eq_some_iff.mpr ⟨hinfo, hmatches⟩
    obtain ⟨now, hnow⟩ := synchronizeState_of_tracked_of_managed orders hlist hk hstate hmanaged
    refine ⟨_, congrArg Prod.fst hnow, ?_⟩
    cases needsNamespaceUpdate state entry info <;> rfl
  | false =>
    have hmissing : (managedActual m.configManager actual).lookup k = none := by
      rw [← KeyedMap.contains_eq_false_iff, contains_managedActual, hmatches, Bool.and_false]
    have hsame := synchronizeState_of_tracked_of_missing orders hlist hk hstate hmissing
    exact ⟨state, (congrArg Prod.fst hsame).trans hstate, rfl⟩

/-- An untracked name of the list that a synchronization without errors meets is
recorded with its settings. -/
theorem settings_of_untracked
    (hresult : (m.synchronize orders).1 = .ok result) (herrors : result.errors = [])
    (hlist : m.stateManager.netlinkManager.listNamespaces = .ok actual)
    (hk : m.configManager.namespaceConfigs.lookup k = some entry)
    (hinfo : actual.lookup k = some info)
    (huntracked : m.stateManager.namespaceStates.lookup k = none) :
    ∃ state, (m.synchronize orders).2.stateManager.namespaceStates.lookup k = some state ∧
      recordedSettings state = derivedSettings entry info := by
  have hactive : info.active = true := NetlinkManager.active_of_listed hlist hinfo
  cases hmatches : m.configManager.matchesNamespacePrefix k with
  | true =>
    have hmanaged := lookup_managedActual_eq_some_iff.mpr ⟨hinfo, hmatches⟩
    obtain ⟨createdAt, lastUpdated, hadopted⟩ :=
      synchronizeState_of_untracked_of_managed orders hlist hk huntracked hmanaged hactive
    exact ⟨_, congrArg Prod.fst hadopted, recordedSettings_activeState hactive _ _⟩
  | false =>
    -- a listed name exists, so its creation fails
    have hmissing : (managedActual m.configManager actual).lookup k = none := by
      rw [← KeyedMap.contains_eq_false_iff, contains_managedActual, hmatches, Bool.and_false]
    have hpresent : m.stateManager.netlinkManager.namespaceExists k = true := by
      have hlisted : actual.contains k = true := KeyedMap.contains_iff.mpr ⟨info, hinfo⟩
      rw [NetlinkManager.contains_listed hlist, Bool.and_eq_true] at hlisted
      exact hlisted.1
    obtain ⟨createdAt, lastUpdated, hfailed⟩ :=
      synchronizeState_of_untracked_of_missing orders hlist hk huntracked hmissing
    rw [hpresent, if_neg (by simp [Environment.creates])] at hfailed
    exact absurd herrors (hfailed.1 result hresult)

/-- A synchronization without errors records what is configured iff the changes are
newer than what is recorded. -/
theorem appliesConfigurations_iff (hresult : (m.synchronize orders).1 = .ok result)
    (herrors : result.errors = []) : m.AppliesConfigurations orders ↔ m.ChangesAreNewer := by
  constructor
  · intro happlies actual hlist k entry info state hk hinfo hstate hdiffer
    obtain ⟨applied, happlied, hsettings⟩ :=
      happlies result hresult herrors actual hlist k entry info hk hinfo
    obtain ⟨state', hstate', hsettings'⟩ := settings_of_tracked orders hlist hk hinfo hstate
    obtain rfl := Option.some.inj (happlied.symm.trans hstate')
    rw [hsettings] at hsettings'
    -- settings that were not written are the old ones, which differ
    split_ifs at hsettings' with hupdated
    · exact Bool.and_eq_true_iff.mp hupdated
    · exact absurd hsettings'.symm hdiffer
  · intro hnewer _ _ _ actual hlist k entry info hk hinfo
    cases hstate : m.stateManager.namespaceStates.lookup k with
    | none => exact settings_of_untracked hresult herrors hlist hk hinfo hstate
    | some state =>
      obtain ⟨state', hstate', hsettings⟩ := settings_of_tracked orders hlist hk hinfo hstate
      refine ⟨state', hstate', ?_⟩
      rw [hsettings]
      split_ifs with hupdated
      · rfl
      · -- nothing was written, so the old settings must be the configured ones
        by_contra hdiffer
        exact hupdated (Bool.and_eq_true_iff.mpr
          (hnewer actual hlist k entry info state hk hinfo hstate hdiffer))

end Managers

namespace DaemonEventLoop

variable {platform : Platform}

/-- In every run whose synchronizations find the changes to be newer than what is
recorded, every synchronization without errors records what is configured. -/
theorem applies_along_run {s : DaemonEventLoop} {inputs : List Input}
    (hnewer : AlongRun (step platform) (fun s input =>
      ∀ orders, s.syncOrders input = some orders → s.managers.ChangesAreNewer) s inputs) :
    ∀ earlier input later, inputs = earlier ++ input :: later →
      ∀ orders, (run (step platform) s earlier).syncOrders input = some orders →
        (run (step platform) s earlier).managers.AppliesConfigurations orders := by
  intro earlier input later hsplit orders horders result hresult herrors
  have hstep := alongRun_iff_forall_split.mp hnewer earlier input later hsplit orders horders
  exact (Managers.appliesConfigurations_iff hresult herrors).mpr hstep result hresult herrors

section Resolver

/-- A configuration with a name server. -/
def withResolver : NamespaceConfig := { NamespaceConfig.bare "one" with dns := ⟨["10.0.0.53"], []⟩ }

/-- The text of the configuration. -/
def resolverToml : String := bareText "one" ++ "[dns]\nservers = ['10.0.0.53']\n"

/-- A platform that knows the configuration with and without the name server. -/
def resolverTexts : Platform :=
  .ofTables [(bareText "one", .bare "one"), (resolverToml, withResolver)] []

/-- A simulated daemon whose clock shows five seconds. -/
def atFiveSeconds : Setup := .quiet true "new" 5 (oneFile (bareText "one") 0)

/-- The daemon creates its namespace; the file is given a name server at time `modified`,
which the monitoring thread handles. -/
def resolverAdded (modified : SystemTime) : List Input :=
  let fs := oneFile resolverToml modified
  [.initialSync .sorted, .configEvent (.modified appToml) fs fs .sorted]

end Resolver

theorem applies_along_newer_change : ∃ s₀, start resolverTexts atFiveSeconds = .ok s₀ ∧
    ∀ earlier input later,
      resolverAdded (9 * 10 ^ 9) ++ [.forceSync .sorted] = earlier ++ input :: later →
        ∀ orders, (run (step resolverTexts) s₀ earlier).syncOrders input = some orders →
          (run (step resolverTexts) s₀ earlier).managers.AppliesConfigurations orders := by
  refine ⟨_, rfl, applies_along_run ⟨fun _ _ => ?_, fun _ h => ?_, fun _ _ => ?_, trivial⟩⟩
  · decide
  · cases h
  · decide

/-- A change within the second of the last synchronization is never applied. -/
theorem update_lost_same_second : ∃ s₀, start resolverTexts atFiveSeconds = .ok s₀ ∧
    (run (step resolverTexts) s₀ (resolverAdded (5 * 10 ^ 9 + 1))).syncOrders
      (.forceSync .sorted) = some .sorted ∧
    ¬ (run (step resolverTexts) s₀ (resolverAdded (5 * 10 ^ 9 + 1))).managers.AppliesConfigurations
      .sorted := by
  refine ⟨_, rfl, rfl, fun happlies => ?_⟩
  -- the file is newer by a nanosecond, in the same second as the synchronization
  obtain ⟨state, hstate, hsettings⟩ := happlies _ rfl (by decide) _ rfl "new-one" _ _ rfl rfl
  have hrecorded := congrArg (Option.map recordedSettings) hstate
  rw [Option.map_some, hsettings] at hrecorded
  exact absurd hrecorded (by decide)

end DaemonEventLoop

end Segwire.Daemon
