import Segwire.Daemon.LockedHandlers
import Segwire.Daemon.Shutdown
import Segwire.Daemon.Signals
import Segwire.Foundation.LockRuns

/-!
# The threads of the daemon

`DaemonEventLoop::run` starts two threads and serves D-Bus calls itself until a shutdown is
requested; then it cleans up and joins the threads. This is the code of the three of them, with
the locks that they take and the channel that they share. The clock, the files, the bus and the
scheduler are free, and the machine may change at any time.

The event loop of the other modules is made of sections; here is what they are made of.

## Main definitions

* `SharedState` — what the threads share
* `configMonitor`, `stateSync`, `mainLoop` — the threads up to their next control point
* `daemonSystem`, `startThreads` — the daemon from the start of its threads

## Main results

* `orderly_daemonSystem` — every thread takes its locks in their order
-/

namespace Segwire.Daemon

open Foundation Segwire.Common

/-- What the threads share: the managers, the flag, the channel of events to the main thread, and
the bus with the signals that have been emitted there. -/
structure SharedState where
  managers : Managers
  shutdownSignal : Bool
  events : List DaemonEvent
  signals : List (DaemonEvent ⊕ ShutdownSignal)

/-- What `recv_timeout` returns. -/
inductive Received
  | event (event : ConfigFileEvent)
  | timeout
  | disconnected

/-- What the environment answers to an action: the file event that is received, the files and
orders that the managers come upon, and the D-Bus call that is waiting. -/
structure Answers where
  received : Received
  fs : FileSystem
  fsScan : FileSystem
  order : IterOrder String
  orders : SyncOrders
  call : Option (Surroundings × Caller × Method)

/-- Nothing happens. -/
def Answers.quiet : Answers := ⟨.timeout, oneFile "" 0, oneFile "" 0, .sorted, .sorted, none⟩

/-- Where a background thread begins its loop again, or has ended. -/
inductive BackgroundPoint
  | looping | ended
  deriving DecidableEq, Repr

/-- Where the main thread begins its loop again, receives the next event, has left the loop, or
has ended. -/
inductive MainPoint
  | looping | draining | stopping | ended
  deriving DecidableEq, Repr

/-- The control points of a thread. -/
def Point : DaemonThread → Type
  | .configMonitor | .stateSync => BackgroundPoint
  | .main => MainPoint

/-- The code of a thread. -/
abbrev ThreadCode (α : Type) := LockedTask Answers Lock SharedState α

/-- What happens outside of the threads: a termination signal, and any change of the machine. -/
inductive Outside
  | signal
  | hostChange (host : Host)

namespace SharedState

/-- The same with other managers. -/
def setManagers (managers : Managers) (s : SharedState) : SharedState := { s with managers }

end SharedState

namespace Locked

/-! ### Actions -/

/-- An action on the managers. -/
def onManagers {α : Type} (body : Answers → Managers → α × Managers) : ThreadCode α :=
  .atomic fun a s =>
    let (result, managers) := body a s.managers
    (result, s.setManagers managers)

/-- `shutdown_signal.load` -/
def shutdownRequested : ThreadCode Bool := .read fun _ s => s.shutdownSignal

/-- `shutdown_signal.store(true)` -/
def requestShutdown : ThreadCode Unit := .atomic fun _ s => ((), { s with shutdownSignal := true })

/-- Send events to the main loop, one after the other. -/
def send : List DaemonEvent → ThreadCode Unit
  | [] => return ()
  | event :: events => do
    .atomic fun _ s => ((), { s with events := s.events ++ [event] })
    send events

/-- Emit a signal. A failure is logged. -/
def emit (signal : ShutdownSignal) : ThreadCode Unit :=
  .atomic fun _ s => ((), { s with signals := s.signals ++ [.inr signal] })

/-- The end of a background thread. -/
def exit (thread : DaemonThread) : ThreadCode BackgroundPoint :=
  .release (.alive thread) (.done .ended)

/-- Run what needs both managers. The configuration manager is locked first. -/
def withBoth {α : Type} (t : ThreadCode α) : ThreadCode α := .locked .config (.locked .state t)

/-! ### The configuration monitoring thread -/

/-- The events that a synchronization sends. An error is logged. -/
def syncEvents (source : String) : SegwireResult SyncResult → List DaemonEvent
  | .ok result => resultEvents source result
  | .error _ => []

/-- Force a synchronization and send what it did. -/
def synchronizeAfterChange : ThreadCode BackgroundPoint := do
  withBoth (do
    let result ← onManagers fun a m => m.synchronize a.orders
    send (syncEvents "config_change" result))
  return .looping

/-- What follows the handling of a file event. -/
def afterFileEvent (affectedNamespaces : List String) : ThreadCode BackgroundPoint :=
  if affectedNamespaces = [] then return .looping else synchronizeAfterChange

/-- Handle a file event. An error is logged, and the thread waits for the next event. -/
def handleFileEvent (platform : Platform) (event : ConfigFileEvent) :
    ThreadCode (List String) :=
  onManagers fun a m =>
    let (result, configManager) :=
      m.configManager.handleFileEvent platform a.fs a.fsScan a.order event
    (result.toOption.getD [], { m with configManager })

/-- What follows the reception of a file event. -/
def afterReceived (platform : Platform) : Received → ThreadCode BackgroundPoint
  | .timeout => return .looping
  | .disconnected => exit .configMonitor
  | .event event => do
    let affectedNamespaces ← .locked .config (handleFileEvent platform event)
    afterFileEvent affectedNamespaces

/-- Wait for the next file event, with a timeout. -/
def receiveFileEvent (platform : Platform) : ThreadCode BackgroundPoint := do
  let received ← .read fun a _ => a.received
  afterReceived platform received

/-- The loop of the configuration monitoring thread. -/
def configMonitor (platform : Platform) : ThreadCode BackgroundPoint := do
  let shutdown ← shutdownRequested
  if shutdown then exit .configMonitor else receiveFileEvent platform

/-! ### The state synchronization thread -/

/-- The events that the initial synchronization sends. -/
def initialEvents : SegwireResult SyncResult → List DaemonEvent
  | .ok result => result.created.map (.created · "initial_sync")
  | .error _ => []

/-- The initial synchronization. -/
def initialSync : ThreadCode BackgroundPoint := do
  withBoth (do
    let result ← onManagers fun a m => m.synchronize a.orders
    send (initialEvents result))
  return .looping

/-- The periodic synchronization and the maintenance that follows it. -/
def periodicSync : ThreadCode BackgroundPoint := do
  withBoth (do
    let result ← onManagers fun a m =>
      let (result, m) := m.synchronize a.orders
      (result, { m with stateManager := m.stateManager.performMaintenance })
    send (syncEvents "sync" result))
  return .looping

/-- Check if synchronization is needed. -/
def checkNeedsSync : ThreadCode Bool :=
  onManagers fun _ m =>
    let (needsSync, stateManager) := m.stateManager.needsSync
    (needsSync, { m with stateManager })

/-- Synchronize if it is needed, and sleep. -/
def syncIfNeeded : ThreadCode BackgroundPoint := do
  let needsSync ← .locked .state checkNeedsSync
  if needsSync then periodicSync else return .looping

/-- The loop of the state synchronization thread. -/
def stateSync : ThreadCode BackgroundPoint := do
  let shutdown ← shutdownRequested
  if shutdown then exit .stateSync else syncIfNeeded

/-! ### The main thread -/

/-- Process the call that is waiting, if there is one. -/
def serveCall (svc : ServiceState) : Option (Surroundings × Caller × Method) → ThreadCode MainPoint
  | none => return .draining
  | some (sur, caller, method) => do
    let _ ← (handle svc sur caller method).zoom (fun _ => ()) SharedState.managers
      SharedState.setManagers
    return .draining

/-- Process incoming D-Bus messages. -/
def process (svc : ServiceState) : ThreadCode MainPoint :=
  .act (fun _ s => s) fun a _ => serveCall svc a.call

/-- The main loop: check the flag, and process a message. -/
def mainLoop (svc : ServiceState) : ThreadCode MainPoint := do
  let shutdown ← shutdownRequested
  if shutdown then return .stopping else process svc

/-- Receive an event of the background threads and emit its signal. -/
def receiveEvent : ThreadCode Bool :=
  .atomic fun _ s =>
    match s.events with
    | [] => (false, s)
    | event :: events => (true, { s with events, signals := s.signals ++ [.inl event] })

/-- Drain the events, one after the other. -/
def drain : ThreadCode MainPoint := do
  let received ← receiveEvent
  return if received then .draining else .looping

/-- Clean up a namespace with a netlink manager, if one could be made. The configuration manager
is locked until the namespace is deleted. -/
def cleanUpWith (name : String) (netlink : SegwireResult Unit) : ThreadCode Unit :=
  match netlink with
  | .error _ => return ()
  | .ok () => .locked .config (onManagers fun _ m =>
      let (_, netlink) := cleanUp name (m.configManager.getNamespaceConfig name) ⟨.real, m.host⟩
      ((), m.setHost netlink.host))

/-- The clean-up of the managed namespaces. -/
def cleanUpAll : List String → ThreadCode Unit
  | [] => return ()
  | name :: names => do
    emit (.namespaceDeleted name "daemon_shutdown")
    let netlink ← onManagers fun _ => Managers.onMachine fun netlink => (.ok (), netlink)
    cleanUpWith name netlink
    cleanUpAll names

/-- Clean up if the configuration says so. -/
def cleanUpIf (shouldCleanup : Bool) : ThreadCode Unit :=
  if shouldCleanup then do
    let managedNamespaces ← .locked .config (onManagers fun a m =>
      ((m.configManager.namespaceConfigs.iter a.order).map Prod.fst, m))
    cleanUpAll managedNamespaces
  else return ()

/-- Perform graceful shutdown with cleanup. -/
def gracefulShutdown : ThreadCode Unit := do
  requestShutdown
  let shouldCleanup ← .locked .config (onManagers fun _ m =>
    (m.configManager.shouldCleanupOnShutdown, m))
  cleanUpIf shouldCleanup
  emit (.operationProgress "daemon_shutdown" 1 "Daemon shutdown completed")

/-- Wait for a thread to finish. -/
def join (thread : DaemonThread) : ThreadCode Unit := .locked (.alive thread) (return ())

/-- The end of the main thread. -/
def stop : ThreadCode MainPoint := do
  gracefulShutdown
  join .configMonitor
  join .stateSync
  return .ended

end Locked

open Locked

/-! ### The daemon -/

/-- What follows a control point. -/
def resume (platform : Platform) (svc : ServiceState) :
    ∀ thread, Point thread → Option (ThreadCode (Point thread))
  | .configMonitor, .looping => some (configMonitor platform)
  | .configMonitor, .ended => none
  | .stateSync, .looping => some stateSync
  | .stateSync, .ended => none
  | .main, .looping => some (mainLoop svc)
  | .main, .draining => some drain
  | .main, .stopping => some stop
  | .main, .ended => none

/-- The threads of the daemon and what happens outside of them. -/
def daemonSystem (platform : Platform) (svc : ServiceState) :
    LockSystem DaemonThread Lock SharedState Answers Outside Point where
  resume := resume platform svc
  outside
    | .signal, s => { s with shutdownSignal := true }
    | .hostChange host, s => s.setManagers (s.managers.setHost host)

/-- The code that a thread starts with. -/
def firstCode (platform : Platform) (svc : ServiceState) : ∀ thread, ThreadCode (Point thread)
  | .configMonitor => configMonitor platform
  | .stateSync => initialSync
  | .main => mainLoop svc

/-- A thread that is joined is alive. -/
def firstHolder : Lock → Option DaemonThread
  | .alive .configMonitor => some .configMonitor
  | .alive .stateSync => some .stateSync
  | _ => none

/-- The daemon when its threads start. -/
def startThreads (platform : Platform) (svc : ServiceState) (managers : Managers) :
    LockPool DaemonThread Lock SharedState Answers Point where
  code thread := some (firstCode platform svc thread)
  holder := firstHolder
  state := ⟨managers, false, [], []⟩

/-! ### The order of the locks -/

/-- The locks that a thread holds at a control point: a background thread is alive. -/
def holds : ∀ thread, Point thread → Set Lock → Prop
  | .configMonitor, .looping, held => held = {.alive .configMonitor}
  | .stateSync, .looping, held => held = {.alive .stateSync}
  | .configMonitor, .ended, held | .stateSync, .ended, held | .main, _, held => held = ∅

namespace Locked

open LockedTask (balanced_pure balanced_atomic)

variable {held : Set Lock} {thread : DaemonThread}

theorem balanced_send (events : List DaemonEvent) : (send events).Balanced held := by
  induction events with
  | nil => exact balanced_pure _
  | cons event events ih => exact (balanced_atomic _).bind fun _ => ih

/-- The configuration manager is locked before the state manager. -/
theorem balanced_withBoth {α : Type} {t : ThreadCode α}
    (h : t.Balanced {.state, .config, .alive thread}) :
    (withBoth t).Balanced {.alive thread} := by
  refine LockedTask.Balanced.locked (LockedTask.Balanced.locked h ?_) ?_
  · rintro lock (rfl | rfl)
    · decide
    · exact Nat.succ_pos 2
  · rintro lock rfl
    exact Nat.succ_pos 1

/-- One manager is locked by a thread that is alive. -/
theorem balanced_lockOne {α : Type} {t : ThreadCode α} {lock : Lock}
    (h : t.Balanced {lock, .alive thread}) (hlt : 0 < lock.rank) :
    (LockedTask.locked lock t).Balanced {.alive thread} := by
  refine h.locked ?_
  rintro _ rfl
  exact hlt

/-- A synchronization and the events that it sends. -/
theorem balanced_synchronize {α : Type} (body : Answers → Managers → α × Managers)
    (events : α → List DaemonEvent) :
    (withBoth (do
      let result ← onManagers body
      send (events result))).Balanced {.alive thread} :=
  balanced_withBoth ((balanced_atomic _).bind fun _ => balanced_send _)

/-- A thread that ends gives back the lock that it holds while it is alive. -/
theorem ordered_exit {Q : BackgroundPoint → Set Lock → Prop} (h : Q .ended ∅) :
    (exit thread).Ordered Q {.alive thread} := by
  refine ⟨rfl, ?_⟩
  rw [Set.sdiff_self]
  exact h

theorem ordered_configMonitor (platform : Platform) :
    (configMonitor platform).Ordered (holds .configMonitor) {.alive .configMonitor} := by
  refine LockedTask.Balanced.bind_ordered (balanced_atomic _) fun shutdown => ?_
  split_ifs
  · exact ordered_exit rfl
  refine LockedTask.Balanced.bind_ordered (balanced_atomic _) fun received => ?_
  cases received with
  | timeout => rfl
  | disconnected => exact ordered_exit rfl
  | event event =>
    refine (balanced_lockOne (balanced_atomic _) (by decide)).bind_ordered fun affected => ?_
    unfold afterFileEvent
    split_ifs
    · rfl
    · exact (balanced_synchronize _ _).bind_ordered fun _ => rfl

theorem ordered_initialSync : initialSync.Ordered (holds .stateSync) {.alive .stateSync} :=
  (balanced_synchronize _ _).bind_ordered fun _ => rfl

theorem ordered_stateSync : stateSync.Ordered (holds .stateSync) {.alive .stateSync} := by
  refine LockedTask.Balanced.bind_ordered (balanced_atomic _) fun shutdown => ?_
  split_ifs
  · exact ordered_exit rfl
  refine (balanced_lockOne (balanced_atomic _) (by decide)).bind_ordered fun needsSync => ?_
  split_ifs
  · exact (balanced_synchronize _ _).bind_ordered fun _ => rfl
  · rfl

theorem ordered_serveCall (svc : ServiceState) (call : Option (Surroundings × Caller × Method)) :
    (serveCall svc call).Ordered (holds .main) ∅ := by
  cases call with
  | none => rfl
  | some call => exact ((balanced_handle svc _ _ _).zoom _ _ _).bind_ordered fun _ => rfl

theorem ordered_mainLoop (svc : ServiceState) : (mainLoop svc).Ordered (holds .main) ∅ := by
  refine LockedTask.Balanced.bind_ordered (balanced_atomic _) fun shutdown => ?_
  split_ifs
  · rfl
  · exact fun a _ => ordered_serveCall svc a.call

/-- The main thread takes one lock at a time while it shuts down. -/
theorem balanced_lockAlone {α : Type} (lock : Lock)
    (body : Answers → SharedState → α × SharedState) :
    (LockedTask.locked lock (LockedTask.atomic body) : ThreadCode α).Balanced ∅ :=
  (balanced_atomic _).locked fun _ hmem => hmem.elim

theorem balanced_cleanUpAll (names : List String) : (cleanUpAll names).Balanced ∅ := by
  induction names with
  | nil => exact balanced_pure _
  | cons name names ih =>
    refine LockedTask.Balanced.bind (balanced_atomic _) fun _ => ?_
    refine LockedTask.Balanced.bind (balanced_atomic _) fun netlink => ?_
    refine LockedTask.Balanced.bind ?_ fun _ => ih
    cases netlink with
    | error e => exact balanced_pure _
    | ok made => exact balanced_lockAlone _ _

theorem balanced_gracefulShutdown : gracefulShutdown.Balanced ∅ := by
  refine LockedTask.Balanced.bind (balanced_atomic _) fun _ => ?_
  refine (balanced_lockAlone _ _).bind fun shouldCleanup => ?_
  refine LockedTask.Balanced.bind ?_ fun _ => balanced_atomic _
  unfold cleanUpIf
  split_ifs
  · exact (balanced_lockAlone _ _).bind fun names => balanced_cleanUpAll names
  · exact balanced_pure _

theorem balanced_join (thread : DaemonThread) : (join thread).Balanced ∅ :=
  (balanced_pure _).locked fun _ hmem => hmem.elim

theorem ordered_stop : stop.Ordered (holds .main) ∅ :=
  balanced_gracefulShutdown.bind_ordered fun _ =>
    (balanced_join _).bind_ordered fun _ => (balanced_join _).bind_ordered fun _ => rfl

end Locked

/-- Every thread takes its locks in their order, and ends without any. -/
theorem orderly_daemonSystem (platform : Platform) (svc : ServiceState) :
    (daemonSystem platform svc).Orderly holds where
  resumed
    | .configMonitor, .looping, _, _, rfl, rfl => ordered_configMonitor platform
    | .stateSync, .looping, _, _, rfl, rfl => ordered_stateSync
    | .main, .looping, _, _, rfl, rfl => ordered_mainLoop svc
    | .main, .draining, _, _, rfl, rfl =>
      LockedTask.Balanced.bind_ordered (LockedTask.balanced_atomic _) fun _ => rfl
    | .main, .stopping, _, _, rfl, rfl => ordered_stop
  ended
    | .configMonitor, .ended, _, rfl, _ | .stateSync, .ended, _, rfl, _ | .main, _, _, rfl, _ => rfl

end Segwire.Daemon
