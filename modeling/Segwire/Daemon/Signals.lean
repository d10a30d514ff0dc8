import Segwire.Daemon.Reconciliation
import Segwire.Daemon.StatusAgreement
import Segwire.Daemon.SyncReports
import Segwire.Foundation.Switch

/-!
# Signals

The background threads send what a synchronization reports to the main loop, which emits
a D-Bus signal for each event between two D-Bus calls. A client that follows the signals
`NamespaceCreated` and `NamespaceDeleted` knows the tracked names as long as every change
of them is announced. D-Bus calls and resolved conflicts announce nothing, nor does a
synchronization when it adopts a namespace or fails to create one.

## Main definitions

* `DaemonEvent`, `sent` — the events, and those that a step sends
* `Signalling` — the daemon with the events under way and the signals emitted
* `Signalling.Faithful` — the signals are a log of the tracked names
* `Signalling.Announced` — a step announces what it does to the tracking of a name

## Main results

* `Managers.logs_synchronize_iff` — when a synchronization announces what it does
* `Signalling.logs_step_iff` — the signals remain a log iff the step is announced
* `Signalling.faithful_along_run_iff`, `Signalling.not_faithful_after_delete`
-/

namespace Segwire.Daemon

open Foundation Segwire.Common

/-- Events sent from background threads to the main loop for D-Bus signal emission. -/
inductive DaemonEvent
  | created (name source : String)
  | deleted (name source : String)
  | statusChanged (name oldStatus newStatus : String)
  deriving DecidableEq, Repr

/-- The tracking of a name that an event announces to the clients. -/
def DaemonEvent.announces (k : String) : DaemonEvent → Option Bool
  | .created name _ => if name = k then some true else none
  | .deleted name _ => if name = k then some false else none
  | .statusChanged _ _ _ => none

/-- The creations and deletions of a name among events. -/
def signals (k : String) (events : List DaemonEvent) : List Bool :=
  events.filterMap (·.announces k)

/-- The events for a result of a synchronization. -/
def resultEvents (source : String) (result : SyncResult) : List DaemonEvent :=
  result.created.map (.created · source) ++ result.deleted.map (.deleted · source) ++
    result.updated.map (.statusChanged · "unknown" "updated")

namespace DaemonEventLoop

/-- The events that a step sends. -/
def sent (s : DaemonEventLoop) : Input → List DaemonEvent
  | .forceSync orders =>
    match s.configThread, (s.managers.synchronize orders).1 with
    | .affected, .ok result => resultEvents "config_change" result
    | _, _ => []
  | .initialSync orders =>
    match s.stateThread, (s.managers.synchronize orders).1 with
    -- what the initial synchronization deletes is not sent
    | .starting, .ok result => result.created.map (.created · "initial_sync")
    | _, _ => []
  | .periodicSync orders =>
    match s.stateThread, (s.managers.synchronize orders).1 with
    | .syncNeeded, .ok result =>
      if result.created = [] ∧ result.updated = [] ∧ result.deleted = [] ∧ result.conflicts = []
      then [] else resultEvents "sync" result
    | _, _ => []
  | _ => []

end DaemonEventLoop

/-! ### The signals of a synchronization -/

theorem signals_append (k : String) (events events' : List DaemonEvent) :
    signals k (events ++ events') = signals k events ++ signals k events' :=
  List.filterMap_append

theorem signals_cons (k : String) (event : DaemonEvent) (events : List DaemonEvent) :
    signals k (event :: events) = (event.announces k).toList ++ signals k events := by
  rw [signals, List.filterMap_cons]
  cases event.announces k <;> rfl

/-- Events of one kind announce a name as often as it occurs among theirs. -/
theorem signals_map {event : String → DaemonEvent} {k : String} {announced : Bool}
    (h : ∀ name, (event name).announces k = if name = k then some announced else none)
    (names : List String) :
    signals k (names.map event) = (names.filter (· = k)).map fun _ => announced := by
  induction names with
  | nil => rfl
  | cons name names ih =>
    rw [List.map_cons, signals, List.filterMap_cons, h, List.filter_cons, ← signals, ih]
    by_cases hk : name = k <;> simp [hk]

theorem signals_statusChanged (k old new : String) (names : List String) :
    signals k (names.map (.statusChanged · old new)) = [] := by
  induction names with
  | nil => rfl
  | cons name names ih => exact ih

/-- The signals of a name in the events for a result. -/
theorem signals_resultEvents (k source : String) (result : SyncResult) :
    signals k (resultEvents source result) =
      ((result.created.filter (· = k)).map fun _ => true) ++
        (result.deleted.filter (· = k)).map fun _ => false := by
  rw [resultEvents, signals_append, signals_append, signals_statusChanged, List.append_nil,
    signals_map fun _ => rfl, signals_map fun _ => rfl]

open NamespaceStateManager

namespace Managers

variable {m : Managers} {k source : String} {orders : SyncOrders} {result : SyncResult}

/-- A synchronization announces what it does to the tracking of the name, apart from
forgetting it: the namespace is not adopted, and its creation does not fail. -/
def SyncAnnounced (m : Managers) (k : String) : Prop :=
  ∀ actual, m.stateManager.netlinkManager.listNamespaces = .ok actual →
    m.isConfigured k = true → m.isTracked k = false →
      (managedActual m.configManager actual).contains k = false ∧
        m.stateManager.netlinkManager.environment.creates (m.namespaceExists k) k = true

/-- A synchronization forgets the name: it is tracked, and neither configured nor managed. -/
def Stale (m : Managers) (k : String) : Prop :=
  ∃ actual, m.stateManager.netlinkManager.listNamespaces = .ok actual ∧
    m.isTracked k = true ∧ m.isConfigured k = false ∧
      (managedActual m.configManager actual).contains k = false

theorem exists_synchronize_ok (m : Managers) (orders : SyncOrders) :
    ∃ result, (m.synchronize orders).1 = .ok result := by
  cases hlist : m.stateManager.netlinkManager.listNamespaces <;>
    simp only [synchronize, synchronizeState, hlist] <;>
    exact ⟨_, rfl⟩

theorem synchronize_of_list_error {e : SegwireError}
    (hlist : m.stateManager.netlinkManager.listNamespaces = .error e) :
    m.synchronize orders = (.ok { SyncResult.empty with
      errors := ["Failed to list system namespaces: " ++ e.display] }, m) := by
  simp only [synchronize, synchronizeState, hlist]

/-- After a synchronization a name is tracked that is configured, or was tracked and is there. -/
theorem isTracked_synchronize {actual : KeyedMap NamespaceInfo.name}
    (hlist : m.stateManager.netlinkManager.listNamespaces = .ok actual) (orders : SyncOrders) :
    (m.synchronize orders).2.isTracked k = (m.isConfigured k ||
      m.isTracked k && (managedActual m.configManager actual).contains k) :=
  contains_synchronizeState hlist orders

variable (hresult : (m.synchronize orders).1 = .ok result)
include hresult

/-- The signals for the result of a synchronization are a log of what it does iff it
announces that. -/
theorem logs_synchronize_iff :
    Logs (m.isTracked k) (signals k (resultEvents source result))
      ((m.synchronize orders).2.isTracked k) ↔ m.SyncAnnounced k := by
  rw [signals_resultEvents, SyncAnnounced]
  cases hlist : m.stateManager.netlinkManager.listNamespaces with
  | error e =>
    rw [synchronize_of_list_error hlist] at hresult ⊢
    obtain rfl := Except.ok.inj hresult
    simp [SyncResult.empty]
  | ok actual =>
    have htracked := isTracked_synchronize (k := k) hlist orders
    rw [created_synchronizeState hlist hresult, deleted_synchronizeState hlist hresult, htracked]
    simp only [Except.ok.injEq, forall_eq']
    change Logs _ (List.map _ (if m.isConfigured k && !m.isTracked k && _ &&
      m.stateManager.netlinkManager.environment.creates (m.namespaceExists k) k then _ else _) ++
        List.map _ (if m.isTracked k && !m.isConfigured k && _ then _ else _)) _ ↔ _
    cases m.isConfigured k <;> cases m.isTracked k <;>
      cases (managedActual m.configManager actual).contains k <;>
      cases m.stateManager.netlinkManager.environment.creates (m.namespaceExists k) k <;>
      simp

/-- The signals for the creations alone are one iff, moreover, the name is not forgotten. -/
theorem logs_initial_iff :
    Logs (m.isTracked k) (signals k (result.created.map (.created · source)))
      ((m.synchronize orders).2.isTracked k) ↔ m.SyncAnnounced k ∧ ¬ m.Stale k := by
  rw [signals_map fun _ => rfl, SyncAnnounced, Stale]
  cases hlist : m.stateManager.netlinkManager.listNamespaces with
  | error e =>
    rw [synchronize_of_list_error hlist] at hresult ⊢
    obtain rfl := Except.ok.inj hresult
    simp [SyncResult.empty]
  | ok actual =>
    have htracked := isTracked_synchronize (k := k) hlist orders
    rw [created_synchronizeState hlist hresult, htracked]
    simp only [Except.ok.injEq, forall_eq', exists_eq_left']
    change Logs _ (List.map _ (if m.isConfigured k && !m.isTracked k && _ &&
      m.stateManager.netlinkManager.environment.creates (m.namespaceExists k) k then _ else _)) _
        ↔ _
    cases m.isConfigured k <;> cases m.isTracked k <;>
      cases (managedActual m.configManager actual).contains k <;>
      cases m.stateManager.netlinkManager.environment.creates (m.namespaceExists k) k <;>
      simp

/-- No signal is sent for a name that maintenance forgets right after the synchronization. -/
theorem signals_of_expired (hexpired : (m.synchronize orders).2.stateManager.Expired k) :
    signals k (resultEvents source result) = [] := by
  obtain ⟨state, hstate, hfailed, -⟩ := hexpired
  have htracked : (m.synchronize orders).2.stateManager.namespaceStates.contains k = true :=
    KeyedMap.contains_iff.mpr ⟨state, hstate⟩
  rw [signals_resultEvents]
  cases hlist : m.stateManager.netlinkManager.listNamespaces with
  | error e =>
    rw [synchronize_of_list_error hlist] at hresult
    obtain rfl := Except.ok.inj hresult
    rfl
  | ok actual =>
    have hcontains : (m.synchronize orders).2.stateManager.namespaceStates.contains k =
        (m.configManager.namespaceConfigs.contains k ||
          m.stateManager.namespaceStates.contains k &&
            (managedActual m.configManager actual).contains k) :=
      contains_synchronizeState hlist orders
    rw [created_synchronizeState hlist hresult, deleted_synchronizeState hlist hresult]
    rw [if_neg, if_neg]
    · rfl
    · -- a deleted name is not tracked any more
      intro hdeleted
      rw [Bool.and_eq_true, Bool.and_eq_true, Bool.not_eq_true', Bool.not_eq_true'] at hdeleted
      rw [hdeleted.1.2, hdeleted.2, Bool.and_false, Bool.or_false] at hcontains
      cases htracked.symm.trans hcontains
    · -- the state of a created name is active
      intro hcreated
      rw [Bool.and_eq_true, Bool.and_eq_true, Bool.and_eq_true, Bool.not_eq_true',
        Bool.not_eq_true', KeyedMap.contains_eq_false_iff, KeyedMap.contains_eq_false_iff]
        at hcreated
      obtain ⟨⟨⟨hconfigured, huntracked⟩, hmissing⟩, hcreates⟩ := hcreated
      obtain ⟨entry, hk⟩ := KeyedMap.contains_iff.mp hconfigured
      obtain ⟨createdAt, lastUpdated, hcreated⟩ :=
        synchronizeState_of_untracked_of_missing orders hlist hk huntracked hmissing
      rw [if_pos hcreates] at hcreated
      obtain rfl : state = activeState entry createdAt lastUpdated :=
        Option.some.inj (hstate.symm.trans (congrArg Prod.fst hcreated))
      cases hfailed

/-- With the maintenance that follows a periodic synchronization, the signals are a log iff
either the synchronization announces what it does or the state is forgotten at once. -/
theorem logs_periodic_iff :
    Logs (m.isTracked k) (signals k (resultEvents source result))
      ((m.synchronize orders).2.stateManager.performMaintenance.namespaceStates.contains k) ↔
    (m.SyncAnnounced k ↔ ¬ (m.synchronize orders).2.stateManager.Expired k) := by
  let after := (m.synchronize orders).2
  have hmaintained : after.stateManager.performMaintenance.namespaceStates.contains k = true ↔
      after.isTracked k = true ∧ ¬ after.stateManager.Expired k := contains_performMaintenance_iff
  have hlogs : Logs _ (signals k (resultEvents source result)) (after.isTracked k) ↔ _ :=
    logs_synchronize_iff hresult
  by_cases hexpired : after.stateManager.Expired k
  · have htracked : after.isTracked k = true := by
      obtain ⟨state, hstate, -⟩ := hexpired
      exact KeyedMap.contains_iff.mpr ⟨state, hstate⟩
    have hforgotten : after.stateManager.performMaintenance.namespaceStates.contains k = false := by
      rw [← Bool.not_eq_true, hmaintained]
      exact fun h => h.2 hexpired
    rw [signals_of_expired hresult hexpired, htracked, logs_nil] at hlogs
    rw [signals_of_expired hresult hexpired, hforgotten, logs_nil, ← hlogs,
      iff_false_right (not_not_intro hexpired), Bool.not_eq_true]
  · have hkept : after.stateManager.performMaintenance.namespaceStates.contains k =
        after.isTracked k := by
      rw [Bool.eq_iff_iff, hmaintained]
      exact and_iff_left hexpired
    rw [hkept, hlogs]
    exact (iff_true_right hexpired).symm

/-- A resolution leaves the tracking of its name as it is: what it creates is tracked, and
what it deletes is not. -/
def ResolutionAnnounced (m : Managers) (conflict : StateConflict) : Prop :=
  if conflict.resolution = .createNamespace then
    m.isConfigured conflict.namespaceName = true → m.isTracked conflict.namespaceName = true
  else
    m.stateManager.netlinkManager.deletes conflict.namespaceName = true →
      m.isTracked conflict.namespaceName = false

omit hresult in
theorem isTracked_resolveConflict_iff {conflict : StateConflict} :
    (m.stateManager.resolveConflict conflict m.configManager).2.namespaceStates.contains k =
        m.isTracked k ↔
      (conflict.namespaceName = k → m.ResolutionAnnounced conflict) := by
  by_cases hk : conflict.namespaceName = k
  · subst hk
    rw [contains_resolveConflict, ResolutionAnnounced]
    change (if _ then m.isTracked conflict.namespaceName || m.isConfigured conflict.namespaceName
      else m.isTracked conflict.namespaceName && _) = _ ↔ _
    split_ifs
    · cases m.isTracked conflict.namespaceName <;> simp
    · cases m.isTracked conflict.namespaceName <;> simp
  · have hsame : component k (m.stateManager.resolveConflict conflict m.configManager).2 =
        component k m.stateManager := component_resolveConflict_of_ne (Ne.symm hk)
    exact iff_of_true (congrArg (·.1.isSome) hsame) fun h => absurd h hk

end Managers

namespace DaemonEventLoop

variable {platform : Platform} {k : String}

/-- The step announces what it does to the tracking of the name. -/
def Announces (s : DaemonEventLoop) (k : String) : Input → Prop
  | .forceSync _ => s.configThread = .affected → s.managers.SyncAnnounced k
  | .initialSync _ => s.stateThread = .starting →
      s.managers.SyncAnnounced k ∧ ¬ s.managers.Stale k
  | .periodicSync orders => s.stateThread = .syncNeeded →
      (s.managers.SyncAnnounced k ↔ ¬ (s.managers.synchronize orders).2.stateManager.Expired k)
  | .resolveConflict conflict => conflict.namespaceName = k →
      s.managers.ResolutionAnnounced conflict
  -- a section of a call announces nothing
  | .dbusSection => ∀ handler ∈ s.call,
      (handler.advance s.managers).2.isTracked k = s.managers.isTracked k
  | _ => True

/-- The events that a step sends are a log of what it does iff it announces that. -/
theorem logs_sent_iff (s : DaemonEventLoop) (input : Input) :
    Logs (s.managers.isTracked k) (signals k (s.sent input))
      ((s.step platform input).managers.isTracked k) ↔ s.Announces k input := by
  cases input with
  | configEvent event fs fsScan order =>
    unfold step
    cases s.configThread <;> exact iff_of_true rfl trivial
  | forceSync orders =>
    obtain ⟨result, hresult⟩ := s.managers.exists_synchronize_ok orders
    cases hthread : s.configThread with
    | waiting =>
      refine iff_of_true ?_ fun h => absurd (hthread.symm.trans h) (by decide)
      simp only [step, sent, hthread]
      exact rfl
    | affected =>
      have hsent : s.sent (.forceSync orders) = resultEvents "config_change" result := by
        simp only [sent, hthread, hresult]
      have hstep : (s.step platform (.forceSync orders)).managers =
          (s.managers.synchronize orders).2 := by simp only [step, hthread]
      rw [hsent, hstep, Managers.logs_synchronize_iff hresult]
      exact (imp_iff_right hthread).symm
  | initialSync orders =>
    obtain ⟨result, hresult⟩ := s.managers.exists_synchronize_ok orders
    cases hthread : s.stateThread with
    | starting =>
      have hsent :
          s.sent (.initialSync orders) = result.created.map (.created · "initial_sync") := by
        simp only [sent, hthread, hresult]
      have hstep : (s.step platform (.initialSync orders)).managers =
          (s.managers.synchronize orders).2 := by simp only [step, hthread]
      rw [hsent, hstep, Managers.logs_initial_iff hresult]
      exact (imp_iff_right hthread).symm
    | idle | syncNeeded =>
      refine iff_of_true ?_ fun h => absurd (hthread.symm.trans h) (by decide)
      simp only [step, sent, hthread]
      exact rfl
  | checkNeedsSync =>
    unfold step
    cases s.stateThread <;> exact iff_of_true rfl trivial
  | periodicSync orders =>
    obtain ⟨result, hresult⟩ := s.managers.exists_synchronize_ok orders
    cases hthread : s.stateThread with
    | syncNeeded =>
      have hsent : signals k (s.sent (.periodicSync orders)) =
          signals k (resultEvents "sync" result) := by
        simp only [sent, hthread, hresult]
        split_ifs with hempty
        · -- nothing was reported that could have been sent
          simp [resultEvents, hempty]
        · rfl
      have hstep : (s.step platform (.periodicSync orders)).managers.isTracked k =
          (s.managers.synchronize orders).2.stateManager.performMaintenance.namespaceStates.contains
            k := by
        simp only [step, hthread]
        rfl
      rw [hsent, hstep, Managers.logs_periodic_iff hresult]
      exact (imp_iff_right hthread).symm
    | starting | idle =>
      refine iff_of_true ?_ fun h => absurd (hthread.symm.trans h) (by decide)
      simp only [step, sent, hthread]
      exact rfl
  | resolveConflict conflict =>
    exact eq_comm.trans Managers.isTracked_resolveConflict_iff
  | dbusCall sur caller method =>
    unfold step
    cases s.call <;> exact iff_of_true rfl trivial
  | dbusSection =>
    unfold step Announces
    cases s.call with
    | none =>
      refine iff_of_true rfl ?_
      intro handler hcall
      cases hcall
    | some handler => simp [sent, signals, eq_comm]
  | hostChange host => exact iff_of_true rfl trivial

end DaemonEventLoop

/-! ### The daemon with its signals -/

/-- The daemon, the events under way to the main loop, and the events for which signals have
been emitted. -/
structure Signalling where
  loop : DaemonEventLoop
  queue : List DaemonEvent
  emitted : List DaemonEvent

/-- A step of the daemon, or the emission of a signal, which the bus may refuse. -/
inductive SignalInput
  | daemon (input : Input)
  | emit (accepted : Bool)

namespace Signalling

/-- The daemon without events. -/
def start (loop : DaemonEventLoop) : Signalling := ⟨loop, [], []⟩

/-- One step. The main loop takes events from the queue when it serves no call. -/
def step (platform : Platform) (s : Signalling) : SignalInput → Signalling
  | .daemon input =>
    { s with loop := s.loop.step platform input, queue := s.queue ++ s.loop.sent input }
  | .emit accepted =>
    match s.loop.call, s.queue with
    | none, event :: queue =>
      -- a failure to emit is logged, and the event is gone
      { s with queue, emitted := if accepted then s.emitted ++ [event] else s.emitted }
    | _, _ => s

/-- The events whose signals will have been emitted when the queue is drained. -/
def log (s : Signalling) : List DaemonEvent := s.emitted ++ s.queue

/-- The signals about each name begin with a creation and alternate, and when the queue is
drained, the names whose last signal is a creation are the tracked ones. -/
structure Faithful (s : Signalling) : Prop where
  starts : ∀ k, ∀ b ∈ (signals k s.log).head?, b = true
  alternates : ∀ k, (signals k s.log).IsChain (· ≠ ·)
  tracked : ∀ k, (signals k s.log).getLast? = some true ↔ s.loop.managers.isTracked k = true

variable {platform : Platform} {s : Signalling}

theorem faithful_iff :
    s.Faithful ↔ ∀ k, Logs false (signals k s.log) (s.loop.managers.isTracked k) := by
  have hlast (k : String) : (signals k s.log).getLast?.getD false = s.loop.managers.isTracked k ↔
      ((signals k s.log).getLast? = some true ↔ s.loop.managers.isTracked k = true) := by
    rcases (signals k s.log).getLast? with _ | _ | _ <;>
      cases s.loop.managers.isTracked k <;>
      simp
  simp only [logs_iff, hlast, forall_and, Bool.not_false]
  exact ⟨fun ⟨h, h', h''⟩ => ⟨h, h', h''⟩, fun ⟨h, h', h''⟩ => ⟨h, h', h''⟩⟩

/-- The step announces what it does to the tracking of the name: the step of the daemon does,
and no creation or deletion is lost when its signal is to be emitted. -/
def Announces (s : Signalling) (k : String) : SignalInput → Prop
  | .daemon input => s.loop.Announces k input
  | .emit accepted => s.loop.call = none → ∀ event ∈ s.queue.head?,
      accepted = true ∨ event.announces k = none

/-- A log stays one iff the step is announced. -/
theorem logs_step_iff {k : String} {input : SignalInput}
    (h : Logs false (signals k s.log) (s.loop.managers.isTracked k)) :
    Logs false (signals k (s.step platform input).log)
        ((s.step platform input).loop.managers.isTracked k) ↔
      s.Announces k input := by
  cases input with
  | daemon input =>
    have hlog : (s.step platform (.daemon input)).log = s.log ++ s.loop.sent input :=
      (List.append_assoc _ _ _).symm
    rw [hlog, signals_append, logs_append_iff h]
    exact s.loop.logs_sent_iff input
  | emit accepted =>
    cases hcall : s.loop.call with
    | some handler =>
      have hstep : s.step platform (.emit accepted) = s := by simp only [step, hcall]
      rw [hstep]
      exact iff_of_true h fun hnone => nomatch hcall.symm.trans hnone
    | none =>
      cases hqueue : s.queue with
      | nil =>
        have hstep : s.step platform (.emit accepted) = s := by simp only [step, hcall, hqueue]
        rw [hstep]
        exact iff_of_true h fun _ event hevent => by simp [hqueue] at hevent
      | cons event queue =>
        have hannounces : s.Announces k (.emit accepted) ↔
            accepted = true ∨ event.announces k = none := by
          simp [Announces, hcall, hqueue]
        have hstep : s.step platform (.emit accepted) = { s with
            queue, emitted := if accepted then s.emitted ++ [event] else s.emitted } := by
          simp only [step, hcall, hqueue]
        rw [log, hqueue, signals_append, signals_cons] at h
        rw [hannounces, hstep, log, signals_append]
        cases accepted with
        | true =>
          refine iff_of_true ?_ (.inl rfl)
          rw [if_pos rfl, signals_append, signals_cons, List.append_assoc]
          have hnil : signals k [] = [] := rfl
          rw [hnil, List.append_nil]
          exact h
        | false =>
          cases hevent : event.announces k with
          | none =>
            rw [hevent] at h
            exact iff_of_true h (.inr rfl)
          | some c =>
            -- the event would have been an entry of the log
            rw [hevent] at h
            exact iff_of_false h.not_erased nofun

/-- The step announces all that it does to the tracked names. -/
def Announced (s : Signalling) (input : SignalInput) : Prop := ∀ k, s.Announces k input

theorem Faithful.step_iff {input : SignalInput} (h : s.Faithful) :
    (s.step platform input).Faithful ↔ s.Announced input := by
  rw [faithful_iff] at h ⊢
  exact forall_congr' fun k => logs_step_iff (h k)

theorem faithful_start {loop : DaemonEventLoop} {setup : Setup}
    (hstart : DaemonEventLoop.start platform setup = .ok loop) : (start loop).Faithful := by
  rw [faithful_iff]
  intro k
  have huntracked : loop.managers.isTracked k = false := by
    obtain ⟨netlinkManager, -, h⟩ := Except.bind_eq_ok_iff.mp hstart
    dsimp only at h
    split at h
    · cases h
    · obtain rfl := Except.ok.inj h
      exact KeyedMap.contains_eq_false_iff.mpr (KeyedMap.lookup_empty k)
  exact huntracked.symm

/-- In every state that a run of the daemon reaches, the signals are a log of the tracked
names iff every step of the run announces what it does to them. -/
theorem faithful_along_run_iff {setup : Setup} {s₀ : DaemonEventLoop}
    (hstart : DaemonEventLoop.start platform setup = .ok s₀) (inputs : List SignalInput) :
    (∀ earlier later, inputs = earlier ++ later →
        (run (step platform) (start s₀) earlier).Faithful) ↔
      AlongRun (step platform) Announced (start s₀) inputs :=
  forall_reached_iff_alongRun Faithful (fun _ _ h => h.step_iff) (faithful_start hstart)

section Deleted

/-- The daemon creates its namespace and emits the signal. -/
def announcedCreation : List SignalInput := [.daemon (.initialSync .sorted), .emit true]

/-- Then the namespace is deleted by a D-Bus call. -/
def silentDeletion : List SignalInput :=
  announcedCreation ++
    .daemon (.dbusCall (.authorizing DaemonEventLoop.oneText) operator (.deleteNamespace "one")) ::
      List.replicate 4 (.daemon .dbusSection)

end Deleted

theorem faithful_after_creation :
    ∃ s₀, DaemonEventLoop.start DaemonEventLoop.oneText DaemonEventLoop.onMachine = .ok s₀ ∧
      ∀ earlier later, announcedCreation = earlier ++ later →
        (run (step DaemonEventLoop.oneText) (start s₀) earlier).Faithful := by
  have hstart :
      DaemonEventLoop.start DaemonEventLoop.oneText DaemonEventLoop.onMachine = .ok _ := rfl
  refine ⟨_, hstart, (faithful_along_run_iff hstart _).mpr ⟨fun k _ => ⟨?_, ?_⟩, ?_, trivial⟩⟩
  · -- the one configured namespace is neither tracked nor there
    intro actual hlist hconfigured huntracked
    obtain rfl := Except.ok.inj hlist
    obtain rfl : k = "new-one" :=
      KeyedMap.All.insert (p := (· = "new-one")) KeyedMap.all_empty rfl k hconfigured
    decide
  · rintro ⟨actual, -, htracked, -⟩
    cases htracked
  · exact fun k _ event _ => .inl rfl

/-- After a deletion over D-Bus, the last signal is still that of the creation. -/
theorem not_faithful_after_delete :
    ∃ s₀, DaemonEventLoop.start DaemonEventLoop.oneText DaemonEventLoop.onMachine = .ok s₀ ∧
      ¬ (run (step DaemonEventLoop.oneText) (start s₀) silentDeletion).Faithful := by
  refine ⟨_, rfl, fun hfaithful => ?_⟩
  have htracked := hfaithful.tracked "new-one"
  revert htracked
  decide

end Signalling

end Segwire.Daemon
