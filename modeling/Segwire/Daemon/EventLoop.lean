import Segwire.Daemon.DbusService
import Segwire.Foundation.Run

/-!
# The daemon's event loop

Three threads share the managers: one handles configuration events and then forces a
synchronization, one synchronizes periodically, and the main thread serves D-Bus
calls. Each step of the machine is what one thread does under a lock; the machine
underneath may change between any two steps, and with it files, clock and faults.

## Main definitions

* `DaemonEventLoop` — the managers and where each thread stands
* `DaemonEventLoop.start` — the daemon when its threads start
* `DaemonEventLoop.step` — one step of one thread
* `DaemonEventLoop.syncOrders` — the steps that synchronize
-/

namespace Segwire.Daemon

open Foundation Segwire.Common

/-- Where the configuration monitoring thread stands: it waits for an event, or has
handled one that affected namespaces. -/
inductive ConfigThread
  | waiting | affected
  deriving DecidableEq, Repr

/-- Where the state synchronization thread stands: before its initial
synchronization, idle, or having found that a synchronization is needed. -/
inductive StateThread
  | starting | idle | syncNeeded
  deriving DecidableEq, Repr

/-- Main daemon event loop coordinator. `call` is the D-Bus call being served. -/
structure DaemonEventLoop where
  managers : Managers
  service : ServiceState
  configThread : ConfigThread
  stateThread : StateThread
  call : Option (Handler (Except MethodErr Reply))

/-- What a daemon is started with: its environment and its master configuration. -/
structure Setup where
  simulation : Bool
  useSessionBus : Bool
  authConnection : Except String Unit
  startTime : SystemTime
  daemonConfig : DaemonConfig
  configPath : PathBuf
  host : Host

/-- `NetlinkManager::new_auto` -/
def NetlinkManager.newAuto (simulation : Bool) (host : Host) : SegwireResult NetlinkManager :=
  if simulation then .ok (newSimulated host) else (new host).1

/-- The steps of the threads, and what may happen between them. -/
inductive Input
  | configEvent (event : ConfigFileEvent) (fs fsScan : FileSystem) (order : IterOrder String)
  | forceSync (orders : SyncOrders)
  | initialSync (orders : SyncOrders)
  | checkNeedsSync
  | periodicSync (orders : SyncOrders)
  | resolveConflict (conflict : StateConflict)
  | dbusCall (sur : Surroundings) (caller : Caller) (method : Method)
  | dbusSection
  | hostChange (host : Host)

namespace Managers

/-- Synchronize the tracked states with the configurations and the system. -/
def synchronize (m : Managers) (orders : SyncOrders) : SegwireResult SyncResult × Managers :=
  let (result, stateManager) := m.stateManager.synchronizeState orders m.configManager
  (result, { m with stateManager })

end Managers

namespace DaemonEventLoop

/-- Create the event loop and scan the configurations; the threads start then. -/
def start (platform : Platform) (setup : Setup) : SegwireResult DaemonEventLoop := do
  let netlinkManager ← NetlinkManager.newAuto setup.simulation setup.host
  let manager := ConfigManager.fromConfig setup.daemonConfig setup.configPath
  -- the daemon does not start when the first scan fails
  match manager.scanNamespaceConfigs platform setup.host.files with
  | (.error e, _) => .error e
  | (.ok _, configManager) => .ok {
      managers := ⟨configManager, .new netlinkManager⟩
      service := .new setup.useSessionBus setup.authConnection setup.startTime
      configThread := .waiting
      stateThread := .starting
      call := none }

/-- A handler that is not yet done. -/
def unfinished : Handler (Except MethodErr Reply) → Option (Handler (Except MethodErr Reply))
  | .done _ => none
  | task => some task

/-- One step. A thread that is not at the place of a step does not take it. -/
def step (platform : Platform) (s : DaemonEventLoop) : Input → DaemonEventLoop
  | .configEvent event fs fsScan order =>
    match s.configThread with
    | .affected => s
    | .waiting =>
      let (result, configManager) :=
        s.managers.configManager.handleFileEvent platform fs fsScan order event
      -- an error is logged, and the thread waits for the next event
      let affectedNamespaces := result.toOption.getD []
      { s with
        managers := { s.managers with configManager }
        configThread := if affectedNamespaces = [] then .waiting else .affected }
  | .forceSync orders =>
    match s.configThread with
    | .waiting => s
    | .affected =>
      { s with managers := (s.managers.synchronize orders).2, configThread := .waiting }
  | .initialSync orders =>
    match s.stateThread with
    | .starting => { s with managers := (s.managers.synchronize orders).2, stateThread := .idle }
    | _ => s
  | .checkNeedsSync =>
    match s.stateThread with
    | .idle =>
      let (needsSync, stateManager) := s.managers.stateManager.needsSync
      { s with
        managers := { s.managers with stateManager }
        stateThread := if needsSync then .syncNeeded else .idle }
    | _ => s
  | .periodicSync orders =>
    match s.stateThread with
    | .syncNeeded =>
      let managers := (s.managers.synchronize orders).2
      -- maintenance follows each periodic synchronization
      { s with
        managers := { managers with stateManager := managers.stateManager.performMaintenance }
        stateThread := .idle }
    | _ => s
  | .resolveConflict conflict =>
    let stateManager :=
      (s.managers.stateManager.resolveConflict conflict s.managers.configManager).2
    { s with managers := { s.managers with stateManager } }
  | .dbusCall sur caller method =>
    match s.call with
    -- the main thread serves one call at a time
    | none => { s with call := unfinished (s.service.handle sur caller method) }
    | some _ => s
  | .dbusSection =>
    match s.call with
    | none => s
    | some task =>
      let (task, managers) := task.advance s.managers
      { s with managers, call := unfinished task }
  -- the daemon has no part in this step
  | .hostChange host => { s with managers := s.managers.setHost host }

/-- The iteration orders of a step that synchronizes. -/
def syncOrders (s : DaemonEventLoop) : Input → Option SyncOrders
  | .forceSync orders => if s.configThread = .affected then some orders else none
  | .initialSync orders => if s.stateThread = .starting then some orders else none
  | .periodicSync orders => if s.stateThread = .syncNeeded then some orders else none
  | _ => none

end DaemonEventLoop

/-! ### A small daemon -/

/-- A namespace file of the standard directory. -/
def appToml : PathBuf := ⟨["etc", "segwire", "namespaces", "app.toml"]⟩

/-- The standard directory with one file, last modified at `modified`. -/
def oneFile (content : String) (modified : SystemTime) : FileSystem :=
  Disk.fileSystem ⟨(∅ : HashMap PathBuf DiskFile).insert appToml ⟨content, modified⟩,
    {⟨["etc", "segwire", "namespaces"]⟩}⟩ .sorted

/-- A daemon for the prefix `pfx`, started on a quiet machine. -/
def Setup.quiet (simulation : Bool) (pfx : String) (seconds : Nat) (files : FileSystem) :
    Setup where
  simulation
  useSessionBus := simulation
  authConnection := .ok ()
  startTime := 0
  daemonConfig := .standard pfx
  configPath := ⟨["etc", "segwire", "daemon.toml"]⟩
  host := .quiet seconds files

/-- A bus on which PolicyKit authorizes everything. -/
def Surroundings.authorizing (platform : Platform) : Surroundings where
  platform
  parsePath _ := ⟨[]⟩
  order := .sorted
  bus := ⟨none, none, fun _ _ => .ok (true, false)⟩

/-- A user. -/
def operator : Caller := ⟨some ":1.42", 4242, 1000⟩

/-- The orders that sort. -/
def SyncOrders.sorted : SyncOrders := ⟨.sorted, .sorted, .sorted⟩

end Segwire.Daemon
