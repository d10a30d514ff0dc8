import Segwire.Daemon.EventLoop
import Segwire.Daemon.NamespaceSync

/-!
# Status and system

The status that a synchronization leaves for a configured namespace says whether the
namespace is there only if the branch taken sets it. A tracked namespace that is there
and needs no update keeps its status, and so does a tracked one that is not there.

## Main definitions

* `Managers.StatusAgrees` — after a synchronization, active means existing
* `Managers.StatusDecided` — the state before it in which that will be so

## Main results

* `Managers.statusAgrees_iff` — the two are equivalent
* `DaemonEventLoop.statusAgrees_along_run_iff` — and so they are along runs
* `DaemonEventLoop.active_after_outside_removal` — an active namespace that is gone
-/

namespace Segwire.Daemon

open Foundation Segwire.Common NamespaceStateManager

namespace Managers

/-- After a synchronization that obtains its list, a configured name is tracked as
active iff it is in the system. -/
def StatusAgrees (m : Managers) (orders : SyncOrders) : Prop :=
  (∃ actual, m.stateManager.netlinkManager.listNamespaces = .ok actual) →
    ∀ k, m.configManager.namespaceConfigs.contains k = true →
      ((m.synchronize orders).2.IsActive k ↔
        (m.synchronize orders).2.stateManager.netlinkManager.namespaceExists k = true)

/-- What a synchronization finds of a configured name: a tracked namespace that is
managed is active already or needs an update, a tracked one that is not managed has the
right status, and an untracked one that is not managed is not there and cannot leave an
unremovable file behind. -/
def StatusDecidedFor (m : Managers) (managed : KeyedMap NamespaceInfo.name)
    (entry : NamespaceConfigEntry) (k : String) : Prop :=
  match m.stateManager.namespaceStates.lookup k, managed.lookup k with
  | some state, some info =>
    state.status = .active ∨ needsNamespaceUpdate state entry info = true
  | some state, none =>
    state.status = .active ↔ m.stateManager.netlinkManager.namespaceExists k = true
  | none, some _ => True
  | none, none =>
    m.stateManager.netlinkManager.namespaceExists k = false ∧
      m.stateManager.netlinkManager.environment.leavesPlaceholder false k = false

/-- A synchronization that obtains its list finds every configured name so. -/
def StatusDecided (m : Managers) : Prop :=
  ∀ actual, m.stateManager.netlinkManager.listNamespaces = .ok actual →
    ∀ k entry, m.configManager.namespaceConfigs.lookup k = some entry →
      m.StatusDecidedFor (managedActual m.configManager actual) entry k

variable {m : Managers} {orders : SyncOrders} {k : String} {entry : NamespaceConfigEntry}
  {actual : KeyedMap NamespaceInfo.name}

/-- Active means existing, read off what belongs to the name. -/
theorem isActive_iff_exists_iff (m : Managers) {found : Option NamespaceState} {isPresent : Bool}
    {environment : Environment}
    (h : component k m.stateManager = (found, isPresent, environment)) :
    (m.IsActive k ↔ m.stateManager.netlinkManager.namespaceExists k = true) ↔
      ((∃ state, found = some state ∧ state.status = .active) ↔ isPresent = true) := by
  obtain ⟨hstate, hrest⟩ := Prod.mk.inj h
  rw [IsActive, hstate, (Prod.mk.inj hrest).1]

/-- For one configured name, active means existing after the synchronization iff it
was found so before. -/
theorem statusAgrees_for_iff (orders : SyncOrders)
    (hlist : m.stateManager.netlinkManager.listNamespaces = .ok actual)
    (hk : m.configManager.namespaceConfigs.lookup k = some entry) :
    ((m.synchronize orders).2.IsActive k ↔
        (m.synchronize orders).2.stateManager.netlinkManager.namespaceExists k = true) ↔
      m.StatusDecidedFor (managedActual m.configManager actual) entry k := by
  unfold StatusDecidedFor
  cases hstate : m.stateManager.namespaceStates.lookup k with
  | some state =>
    cases hmanaged : (managedActual m.configManager actual).lookup k with
    | some info =>
      have hactive := active_of_managed hlist hmanaged
      have hpresent := namespaceExists_of_managed hlist hmanaged
      obtain ⟨now, hnow⟩ := synchronizeState_of_tracked_of_managed orders hlist hk hstate hmanaged
      rw [isActive_iff_exists_iff (m.synchronize orders).2 hnow, hpresent]
      -- an update writes the status, a touch does not
      split_ifs with hneeds
      · simp [updateStateFromConfigAndActual, NamespaceState.touch, hactive, hneeds]
      · simp [NamespaceState.touch, hneeds]
    | none =>
      -- neither the state nor the system changes
      have hsame := synchronizeState_of_tracked_of_missing orders hlist hk hstate hmanaged
      rw [isActive_iff_exists_iff (m.synchronize orders).2 hsame, hstate]
      simp
  | none =>
    cases hmanaged : (managedActual m.configManager actual).lookup k with
    | some info =>
      have hpresent := namespaceExists_of_managed hlist hmanaged
      obtain ⟨createdAt, lastUpdated, hadopted⟩ := synchronizeState_of_untracked_of_managed orders
        hlist hk hstate hmanaged (active_of_managed hlist hmanaged)
      rw [isActive_iff_exists_iff (m.synchronize orders).2 hadopted, hpresent]
      simp [activeState]
    | none =>
      obtain ⟨createdAt, lastUpdated, hcreated⟩ :=
        synchronizeState_of_untracked_of_missing orders hlist hk hstate hmanaged
      cases hpresent : m.stateManager.netlinkManager.namespaceExists k with
      | true =>
        -- the creation fails, and the failed name exists
        rw [hpresent, if_neg (by simp [Environment.creates])] at hcreated
        rw [isActive_iff_exists_iff (m.synchronize orders).2 hcreated.2]
        simp [failedState]
      | false =>
        rw [hpresent] at hcreated
        split_ifs at hcreated with hcreates
        · rw [isActive_iff_exists_iff (m.synchronize orders).2 hcreated]
          simp [activeState, Environment.leavesPlaceholder_of_creates hcreates]
        · rw [isActive_iff_exists_iff (m.synchronize orders).2 hcreated.2]
          simp [failedState]

/-- After a synchronization that obtains its list, active means existing iff the
state before it had decided the status. -/
theorem statusAgrees_iff : m.StatusAgrees orders ↔ m.StatusDecided := by
  constructor
  · intro hagrees actual hlist k entry hk
    exact (statusAgrees_for_iff orders hlist hk).mp
      (hagrees ⟨actual, hlist⟩ k (KeyedMap.contains_iff.mpr ⟨entry, hk⟩))
  · rintro hdecided ⟨actual, hlist⟩ k hconfigured
    obtain ⟨entry, hk⟩ := KeyedMap.contains_iff.mp hconfigured
    exact (statusAgrees_for_iff orders hlist hk).mpr (hdecided actual hlist k entry hk)

end Managers

namespace DaemonEventLoop

variable {platform : Platform}

/-- Along every run, every synchronization leaves the right statuses iff every
synchronization finds them decided. -/
theorem statusAgrees_along_run_iff {s : DaemonEventLoop} {inputs : List Input} :
    AlongRun (step platform) (fun s input =>
        ∀ orders, s.syncOrders input = some orders → s.managers.StatusAgrees orders) s inputs ↔
      AlongRun (step platform) (fun s input =>
        ∀ orders, s.syncOrders input = some orders → s.managers.StatusDecided) s inputs :=
  alongRun_congr (fun _ => True) (fun _ _ _ => trivial)
    (fun _ _ _ => forall_congr' fun _ => forall_congr' fun _ => Managers.statusAgrees_iff)
    trivial inputs

section OutsideRemoval

/-- A platform that knows the text of one configuration. -/
def oneText : Platform := .ofTables [(bareText "one", .bare "one")] []

/-- A daemon with one configuration, on the machine itself. -/
def onMachine : Setup := .quiet false "new" 5 (oneFile (bareText "one") 0)

/-- The daemon creates its namespace, somebody removes it, and a minute later the
daemon finds that a synchronization is needed. -/
def outsideRemoval : List Input :=
  [.initialSync .sorted, .hostChange (.quiet 65 (oneFile (bareText "one") 0)), .checkNeedsSync]

end OutsideRemoval

/-- A namespace that was removed outside the daemon is still tracked as active after the
next synchronization. -/
theorem active_after_outside_removal : ∃ s₀, start oneText onMachine = .ok s₀ ∧
    (run (step oneText) s₀ outsideRemoval).syncOrders (.periodicSync .sorted) = some .sorted ∧
    ¬ (run (step oneText) s₀ outsideRemoval).managers.StatusAgrees .sorted := by
  refine ⟨_, rfl, rfl, fun hagrees => ?_⟩
  -- the tracked state is still that of the initial synchronization
  have hexists := (hagrees ⟨_, rfl⟩ "new-one" (by decide)).mp ⟨_, rfl, by decide⟩
  revert hexists
  decide

end DaemonEventLoop

end Segwire.Daemon
