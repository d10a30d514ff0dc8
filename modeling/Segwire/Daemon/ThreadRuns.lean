import Mathlib.Data.List.ReduceOption
import Segwire.Daemon.LockedThreads

/-!
# Runs of the daemon's threads

What the three threads do under their locks is done by steps of the event loop, so that what
holds along its runs holds of the threads, however they are scheduled. Once a shutdown is
requested, a background thread finishes what it has begun: one more file event may be handled,
and three more things be done.

## Main definitions

* `Logged` — the event loop with what it does after a shutdown was requested
* `Logged.Begun` — a thread has begun at most one thing of each kind since then

## Main results

* `exists_move_of_reachable` — the daemon never deadlocks
* `Logged.simulated_daemonSystem` — the threads follow the event loop
* `exists_run_of_reachable` — the threads do what the event loop does
-/

namespace Segwire.Daemon

open Foundation Segwire.Common Locked

variable {platform : Platform} {svc : ServiceState}

/-! ### No deadlock -/

theorem held_startThreads (managers : Managers) (thread : DaemonThread) :
    (startThreads platform svc managers).held thread =
      match thread with
      | .main => ∅
      | background => {.alive background} := by
  ext lock
  change firstHolder lock = some thread ↔ _
  cases thread with
  | main =>
    refine iff_of_false ?_ (Set.notMem_empty lock)
    unfold firstHolder
    split <;> simp
  | configMonitor =>
    change _ ↔ lock = _
    unfold firstHolder
    split <;> simp_all
  | stateSync =>
    change _ ↔ lock = _
    unfold firstHolder
    split <;> simp_all

theorem disciplined_startThreads (managers : Managers) :
    (startThreads platform svc managers).Disciplined holds := by
  constructor
  · intro thread t hcode
    obtain rfl := Option.some.inj hcode
    rw [held_startThreads]
    cases thread with
    | configMonitor => exact ordered_configMonitor platform
    | stateSync => exact ordered_initialSync
    | main => exact ordered_mainLoop svc
  · intro thread hcode
    cases hcode

/-- Whatever the threads have done, as long as one of them has not ended, one of them can move,
whatever the environment answers. No thread holds the state manager while it acquires the
configuration manager. -/
theorem exists_move_of_reachable {managers : Managers}
    {pool : LockPool DaemonThread Lock SharedState Answers Point}
    (h : (daemonSystem platform svc).Reachable (startThreads platform svc managers) pool) :
    ((∃ thread, pool.code thread ≠ none) →
      ∃ thread, ∀ a, ((daemonSystem platform svc).step pool (.thread thread a)).isSome) ∧
    ∀ thread next, pool.code thread = some (.acquire .config next) →
      pool.holder .state ≠ some thread := by
  have hdisciplined : pool.Disciplined holds :=
    LockSystem.reachable_invariant _ (fun _ _ _ hinv hstep =>
      LockSystem.disciplined_step (orderly_daemonSystem platform svc) hinv hstep) h
      (disciplined_startThreads managers)
  refine ⟨fun ⟨thread, hthread⟩ => LockSystem.exists_isSome_step hdisciplined hthread, ?_⟩
  intro thread next hcode hheld
  have hlt : Lock.state < .config := (hdisciplined.ordered thread _ hcode).1 .state hheld
  exact absurd hlt (by decide)

section Held

/-- A thread moves, and nothing happens around it. -/
def quietly (thread : DaemonThread) : LockMove DaemonThread Answers Outside := .thread thread .quiet

/-- The initial synchronization has both locks, and the configuration monitoring thread has
received a file event. -/
def bothLocked : List (LockMove DaemonThread Answers Outside) :=
  [quietly .stateSync, quietly .stateSync, quietly .configMonitor,
    .thread .configMonitor { Answers.quiet with received := .event (.modified appToml) }]

end Held

open DaemonEventLoop (oneText onMachine start step) in
/-- The configuration monitoring thread waits for the lock that the initial synchronization
holds, and the threads move on. -/
theorem exists_move_bothLocked : ∃ s₀ pool, start oneText onMachine = .ok s₀ ∧
    bothLocked.foldlM (daemonSystem oneText s₀.service).step
      (startThreads oneText s₀.service s₀.managers) = some pool ∧
    (daemonSystem oneText s₀.service).step pool (quietly .configMonitor) = none ∧
    ((∃ thread, pool.code thread ≠ none) → ∃ thread, ∀ a,
      ((daemonSystem oneText s₀.service).step pool (.thread thread a)).isSome) ∧
    ∀ thread next, pool.code thread = some (.acquire .config next) →
      pool.holder .state ≠ some thread := by
  obtain ⟨s₀, hstart, pool, hpool, hwaits⟩ : ∃ s₀, start oneText onMachine = .ok s₀ ∧ ∃ pool,
      bothLocked.foldlM (daemonSystem oneText s₀.service).step
        (startThreads oneText s₀.service s₀.managers) = some pool ∧
      (daemonSystem oneText s₀.service).step pool (quietly .configMonitor) = none :=
    ⟨_, rfl, _, rfl, rfl⟩
  exact ⟨s₀, pool, hstart, hpool, hwaits,
    exists_move_of_reachable (LockSystem.reachable_of_foldlM hpool)⟩

/-! ### Steps of the event loop -/

namespace Input

/-- A file event is handled. -/
def isConfigEvent : Input → Bool
  | configEvent .. => true
  | _ => false

/-- The configuration monitoring thread synchronizes. -/
def isForceSync : Input → Bool
  | forceSync _ => true
  | _ => false

/-- The state synchronization thread synchronizes. -/
def isStateSync : Input → Bool
  | initialSync _ | periodicSync _ => true
  | _ => false

/-- A D-Bus call is begun. -/
def isDbusCall : Input → Bool
  | dbusCall .. => true
  | _ => false

end Input

/-- The event loop, whether a shutdown was requested, and what was done since. -/
structure Logged where
  daemon : DaemonEventLoop
  shutdown : Bool
  log : List Input

namespace Logged

/-- A step of the event loop, or the request of a shutdown. -/
def step (platform : Platform) (l : Logged) : Option Input → Logged
  | none => { l with shutdown := true }
  | some input =>
    { l with
      daemon := l.daemon.step platform input
      log := if l.shutdown then l.log ++ [input] else l.log }

/-- Where each thread stands: its place in the event loop, and what it has begun since the
shutdown was requested. -/
def Place : DaemonThread → Type
  | .configMonitor => ConfigThread × ℕ × ℕ
  | .stateSync => StateThread × ℕ
  | .main => Option (Handler (Except MethodErr Reply)) × ℕ

/-- The place of a thread. -/
def place : ∀ thread, Logged → Place thread
  | .configMonitor, l =>
    (l.daemon.configThread, l.log.countP Input.isConfigEvent, l.log.countP Input.isForceSync)
  | .stateSync, l => (l.daemon.stateThread, l.log.countP Input.isStateSync)
  | .main, l => (l.daemon.call, l.log.countP Input.isDbusCall)

/-- What a thread has done at its control points. -/
def stands : ∀ thread, Point thread → Place thread → Prop
  | .configMonitor, _, c => c.1 = .waiting ∧ c.2.1 ≤ 1 ∧ c.2.2 ≤ 1
  | .stateSync, _, c => c.1 = .idle ∧ c.2 ≤ 1
  | .main, _, c => c.1 = none ∧ c.2 ≤ 1

/-- What a thread has begun since the shutdown was requested: at most one thing of each kind. -/
def Begun : ∀ thread, Place thread → Prop
  | .configMonitor, c => c.2.1 ≤ 1 ∧ c.2.2 ≤ 1
  | .stateSync, c | .main, c => c.2 ≤ 1

/-- The managers are the same, and nothing is logged before a shutdown is requested. -/
structure Agrees (svc : ServiceState) (s : SharedState) (l : Logged) : Prop where
  managers : l.daemon.managers = s.managers
  service : l.daemon.service = svc
  shutdown : l.shutdown = s.shutdownSignal
  log : s.shutdownSignal = false → l.log = []

theorem countP_log {l : Logged} {input : Input} (p : Input → Bool) :
    (l.step platform (some input)).log.countP p =
      l.log.countP p + if l.shutdown ∧ p input then 1 else 0 := by
  unfold step
  cases l.shutdown <;> simp [List.countP_append, List.countP_cons]

theorem countP_log_of_false {l : Logged} {input : Input} {p : Input → Bool} (h : p input = false) :
    (l.step platform (some input)).log.countP p = l.log.countP p := by
  simp [countP_log, h]

theorem countP_log_le (platform : Platform) (l : Logged) (input : Input) (p : Input → Bool) :
    (l.step platform (some input)).log.countP p ≤ l.log.countP p + 1 := by
  rw [countP_log]
  split_ifs <;> omega

section Place

variable {l : Logged} {input : Input}

theorem place_configMonitor_step
    (hthread : (l.daemon.step platform input).configThread = l.daemon.configThread)
    (hevent : input.isConfigEvent = false) (hsync : input.isForceSync = false) :
    place .configMonitor (l.step platform (some input)) = place .configMonitor l :=
  Prod.ext hthread (Prod.ext (countP_log_of_false hevent) (countP_log_of_false hsync))

theorem place_stateSync_step
    (hthread : (l.daemon.step platform input).stateThread = l.daemon.stateThread)
    (hsync : input.isStateSync = false) :
    place .stateSync (l.step platform (some input)) = place .stateSync l :=
  Prod.ext hthread (countP_log_of_false hsync)

theorem place_main_step (hcall : (l.daemon.step platform input).call = l.daemon.call)
    (hinput : input.isDbusCall = false) :
    place .main (l.step platform (some input)) = place .main l :=
  Prod.ext hcall (countP_log_of_false hinput)

end Place

/-- The log of a step. -/
theorem log_step {s : SharedState} {l : Logged} {input : Input} (h : Agrees svc s l)
    (hflag : s.shutdownSignal = false) : (l.step platform (some input)).log = [] := by
  have hoff : l.shutdown = false := h.shutdown.trans hflag
  simp [step, hoff, h.log hflag]

/-- A step of the event loop is an action on the managers. -/
theorem Agrees.step {s : SharedState} {l : Logged} {input : Input} {managers : Managers}
    (h : Agrees svc s l) (hmanagers : (l.daemon.step platform input).managers = managers)
    (hservice : (l.daemon.step platform input).service = l.daemon.service) :
    Agrees svc (s.setManagers managers) (l.step platform (some input)) where
  managers := hmanagers
  service := hservice.trans h.service
  shutdown := h.shutdown
  log := fun hflag => log_step h hflag

/-- The code of a thread follows the event loop. -/
abbrev Follows (platform : Platform) (svc : ServiceState) {α : Type} (thread : DaemonThread)
    (t : ThreadCode α) (Q : α → Place thread → Prop) (c : Place thread) : Prop :=
  LockedTask.Follows (Logged.step platform) (Agrees svc) (place thread)
    (LockSystem.Elsewhere place thread) Q t c

section Actions

variable {α : Type} {thread : DaemonThread} {c : Place thread} {Q : α → Place thread → Prop}
  {body : Answers → SharedState → α × SharedState}

/-- An action that leaves the managers and the flag alone. -/
theorem follows_silent
    (hsame : ∀ a s, (body a s).2.managers = s.managers ∧
      (body a s).2.shutdownSignal = s.shutdownSignal)
    (hQ : ∀ a s l, Agrees svc s l → place thread l = c → Q (body a s).1 c) :
    Follows platform svc thread (.atomic body) Q c := by
  intro a s l hagrees hplace
  obtain ⟨hmanagers, hflag⟩ := hsame a s
  refine ⟨[], ⟨hagrees.managers.trans hmanagers.symm, hagrees.service,
    hagrees.shutdown.trans hflag.symm, fun hoff => hagrees.log (hflag.symm.trans hoff)⟩,
    fun _ _ => rfl, ?_⟩
  exact hplace.symm ▸ hQ a s l hagrees hplace

/-- An action that is one step of the event loop. -/
theorem follows_step (input : Answers → Input)
    (h : ∀ a s l, Agrees svc s l → place thread l = c →
      Agrees svc (body a s).2 (l.step platform (some (input a))) ∧
        LockSystem.Elsewhere place thread l (l.step platform (some (input a))) ∧
        Q (body a s).1 (place thread (l.step platform (some (input a))))) :
    Follows platform svc thread (.atomic body) Q c := by
  intro a s l hagrees hplace
  obtain ⟨hnext, hothers, hQ⟩ := h a s l hagrees hplace
  exact ⟨[some (input a)], hnext, hothers, hQ⟩

theorem follows_send (events : List DaemonEvent) :
    Follows platform svc thread (send events) (fun _ c' => c' = c) c := by
  induction events with
  | nil => rfl
  | cons event events ih =>
    refine LockedTask.Follows.bind (Q := fun _ c' => c' = c)
      (follows_silent (fun _ _ => ⟨rfl, rfl⟩) fun _ _ _ _ _ => rfl) ?_
    rintro _ _ rfl
    exact ih

/-- A synchronization and the events that it sends. -/
theorem follows_withBoth {body : Answers → Managers → α × Managers} {P : Place thread → Prop}
    {events : α → List DaemonEvent}
    (h : Follows platform svc thread (onManagers body) (fun _ c' => P c') c) :
    Follows platform svc thread (withBoth (do
      let result ← onManagers body
      send (events result))) (fun _ c' => P c') c := by
  refine LockedTask.Follows.locked (LockedTask.Follows.locked (LockedTask.Follows.bind h ?_) _) _
  intro result c' hc'
  refine LockedTask.Follows.mono (follows_send _) ?_
  rintro _ _ rfl
  exact hc'

end Actions

/-! ### The configuration monitoring thread -/

section ConfigMonitor

variable {c : Place .configMonitor} {l : Logged} {s : SharedState}

/-- The check of the flag: if it is not set, nothing is logged. -/
theorem follows_configFlag (hc : c.1 = .waiting ∧ c.2.1 ≤ 1 ∧ c.2.2 ≤ 1) :
    Follows platform svc .configMonitor shutdownRequested
      (fun shutdown c' => c' = c ∧ (shutdown = false → c = (.waiting, 0, 0))) c := by
  refine follows_silent (fun _ _ => ⟨rfl, rfl⟩) fun a s l hagrees hplace => ⟨rfl, fun hoff => ?_⟩
  have hlog := hagrees.log hoff
  rw [← hplace] at hc ⊢
  exact Prod.ext hc.1 (by simp [place, hlog])

theorem follows_handleFileEvent (event : ConfigFileEvent) :
    Follows platform svc .configMonitor (handleFileEvent platform event)
      (fun affected c' => c'.1 = (if affected = [] then .waiting else .affected) ∧
        c'.2.1 ≤ 1 ∧ c'.2.2 = 0) (.waiting, 0, 0) := by
  refine follows_step (fun a => .configEvent event a.fs a.fsScan a.order)
    fun a s l hagrees hplace => ?_
  obtain ⟨hwaiting, hcounts⟩ := Prod.mk.inj hplace
  obtain ⟨hevents, hsyncs⟩ := Prod.mk.inj hcounts
  have hstep : l.daemon.step platform (.configEvent event a.fs a.fsScan a.order) = { l.daemon with
      managers := { s.managers with configManager := (s.managers.configManager.handleFileEvent
        platform a.fs a.fsScan a.order event).2 }
      configThread := if (s.managers.configManager.handleFileEvent platform a.fs a.fsScan a.order
        event).1.toOption.getD [] = [] then .waiting else .affected } := by
    rw [← hagrees.managers, DaemonEventLoop.step, hwaiting]
  refine ⟨hagrees.step (by rw [hstep]) (by rw [hstep]), fun thread hthread => ?_, ?_⟩
  · cases thread with
    | configMonitor => exact absurd rfl hthread
    | stateSync => exact place_stateSync_step (by rw [hstep]) rfl
    | main => exact place_main_step (by rw [hstep]) rfl
  · refine ⟨congrArg DaemonEventLoop.configThread hstep, ?_, ?_⟩
    · exact (countP_log_le platform l _ _).trans (by rw [hevents])
    · exact (countP_log_of_false rfl).trans hsyncs

theorem follows_forceSync (hc : c.1 = .affected ∧ c.2.1 ≤ 1 ∧ c.2.2 = 0) :
    Follows platform svc .configMonitor (onManagers fun a m => m.synchronize a.orders)
      (fun _ c' => c'.1 = .waiting ∧ c'.2.1 ≤ 1 ∧ c'.2.2 ≤ 1) c := by
  refine follows_step (fun a => .forceSync a.orders) fun a s l hagrees hplace => ?_
  rw [← hplace] at hc
  obtain ⟨haffected, hevents, hsyncs⟩ := hc
  have hstep : l.daemon.step platform (.forceSync a.orders) = { l.daemon with
      managers := (s.managers.synchronize a.orders).2, configThread := .waiting } := by
    have haffected : l.daemon.configThread = .affected := haffected
    rw [← hagrees.managers, DaemonEventLoop.step, haffected]
  refine ⟨hagrees.step (by rw [hstep]) (by rw [hstep]), fun thread hthread => ?_, ?_⟩
  · cases thread with
    | configMonitor => exact absurd rfl hthread
    | stateSync => exact place_stateSync_step (by rw [hstep]) rfl
    | main => exact place_main_step (by rw [hstep]) rfl
  · refine ⟨congrArg DaemonEventLoop.configThread hstep, ?_, ?_⟩
    · exact (countP_log_of_false rfl).trans_le hevents
    · exact (countP_log_le platform l _ _).trans (Nat.succ_le_succ hsyncs.le)

theorem follows_configMonitor (hc : c.1 = .waiting ∧ c.2.1 ≤ 1 ∧ c.2.2 ≤ 1) :
    Follows platform svc .configMonitor (configMonitor platform) (stands .configMonitor) c := by
  refine LockedTask.Follows.bind (follows_configFlag hc) ?_
  rintro shutdown _ ⟨rfl, hzero⟩
  cases shutdown with
  | true => exact hc
  | false =>
    obtain rfl := hzero rfl
    refine LockedTask.Follows.bind (Q := fun _ c' => c' = (.waiting, 0, 0))
      (follows_silent (fun _ _ => ⟨rfl, rfl⟩) fun _ _ _ _ _ => rfl) ?_
    rintro received _ rfl
    cases received with
    | timeout => exact hc
    | disconnected => exact hc
    | event event =>
      refine LockedTask.Follows.bind
        (LockedTask.Follows.locked (follows_handleFileEvent event) .config) ?_
      intro affected c' hc'
      unfold afterFileEvent
      split_ifs with hempty
      · rw [if_pos hempty] at hc'
        exact ⟨hc'.1, hc'.2.1, hc'.2.2.trans_le (Nat.zero_le 1)⟩
      · rw [if_neg hempty] at hc'
        exact LockedTask.Follows.bind (follows_withBoth (follows_forceSync hc'))
          fun _ _ hstands => hstands

end ConfigMonitor

/-! ### The state synchronization thread -/

section StateSync

variable {c : Place .stateSync}

theorem follows_stateFlag (hc : c.1 = .idle ∧ c.2 ≤ 1) :
    Follows platform svc .stateSync shutdownRequested
      (fun shutdown c' => c' = c ∧ (shutdown = false → c = (.idle, 0))) c := by
  refine follows_silent (fun _ _ => ⟨rfl, rfl⟩) fun a s l hagrees hplace => ⟨rfl, fun hoff => ?_⟩
  have hlog := hagrees.log hoff
  rw [← hplace] at hc ⊢
  exact Prod.ext hc.1 (by simp [place, hlog])

/-- A synchronization of this thread is one step of the event loop. -/
theorem follows_stateStep {α : Type} (input : Answers → Input)
    {body : Answers → Managers → α × Managers} (hc : c.2 = 0)
    (h : ∀ a (d : DaemonEventLoop), d.stateThread = c.1 → d.step platform (input a) = { d with
      managers := (body a d.managers).2, stateThread := .idle })
    (hinput : ∀ a, (input a).isConfigEvent = false ∧ (input a).isForceSync = false ∧
      (input a).isDbusCall = false) :
    Follows platform svc .stateSync (onManagers body) (fun _ c' => c'.1 = .idle ∧ c'.2 ≤ 1) c := by
  refine follows_step input fun a s l hagrees hplace => ?_
  rw [← hplace] at hc
  have hstep := h a l.daemon (congrArg Prod.fst hplace)
  obtain ⟨hevent, hsync, hcall⟩ := hinput a
  refine ⟨hagrees.step (by rw [hstep, hagrees.managers]) (by rw [hstep]), fun thread hthread => ?_,
    congrArg DaemonEventLoop.stateThread hstep, ?_⟩
  · cases thread with
    | configMonitor => exact place_configMonitor_step (by rw [hstep]) hevent hsync
    | stateSync => exact absurd rfl hthread
    | main => exact place_main_step (by rw [hstep]) hcall
  · exact (countP_log_le platform l _ _).trans (Nat.succ_le_succ hc.le)

theorem follows_initialSync :
    Follows platform svc .stateSync initialSync (stands .stateSync) (.starting, 0) := by
  refine LockedTask.Follows.bind (follows_withBoth
    (P := fun c : Place .stateSync => c.1 = .idle ∧ c.2 ≤ 1)
    (follows_stateStep (fun a => .initialSync a.orders) rfl (fun a d hd => ?_)
      fun _ => ⟨rfl, rfl, rfl⟩)) fun _ _ hstands => hstands
  have hstarting : d.stateThread = .starting := hd
  rw [DaemonEventLoop.step, hstarting]

theorem follows_periodicSync :
    Follows platform svc .stateSync periodicSync (stands .stateSync) (.syncNeeded, 0) := by
  refine LockedTask.Follows.bind (follows_withBoth
    (P := fun c : Place .stateSync => c.1 = .idle ∧ c.2 ≤ 1)
    (follows_stateStep (fun a => .periodicSync a.orders) rfl (fun a d hd => ?_)
      fun _ => ⟨rfl, rfl, rfl⟩)) fun _ _ hstands => hstands
  have hneeded : d.stateThread = .syncNeeded := hd
  rw [DaemonEventLoop.step, hneeded]

theorem follows_checkNeedsSync :
    Follows platform svc .stateSync checkNeedsSync
      (fun needsSync c' => c' = (if needsSync then .syncNeeded else .idle, 0)) (.idle, 0) := by
  refine follows_step (fun _ => .checkNeedsSync) fun a s l hagrees hplace => ?_
  obtain ⟨hidle, hsyncs⟩ := Prod.mk.inj hplace
  have hstep : l.daemon.step platform .checkNeedsSync = { l.daemon with
      managers := { s.managers with stateManager := s.managers.stateManager.needsSync.2 }
      stateThread := if s.managers.stateManager.needsSync.1 then .syncNeeded else .idle } := by
    rw [← hagrees.managers, DaemonEventLoop.step, hidle]
  refine ⟨hagrees.step (by rw [hstep]) (by rw [hstep]), fun thread hthread => ?_,
    Prod.ext (congrArg DaemonEventLoop.stateThread hstep)
      ((countP_log_of_false rfl).trans hsyncs)⟩
  cases thread with
  | configMonitor => exact place_configMonitor_step (by rw [hstep]) rfl rfl
  | stateSync => exact absurd rfl hthread
  | main => exact place_main_step (by rw [hstep]) rfl

theorem follows_stateSync (hc : c.1 = .idle ∧ c.2 ≤ 1) :
    Follows platform svc .stateSync stateSync (stands .stateSync) c := by
  refine LockedTask.Follows.bind (follows_stateFlag hc) ?_
  rintro shutdown _ ⟨rfl, hzero⟩
  cases shutdown with
  | true => exact hc
  | false =>
    obtain rfl := hzero rfl
    refine LockedTask.Follows.bind (LockedTask.Follows.locked follows_checkNeedsSync .state) ?_
    rintro needsSync _ rfl
    cases needsSync with
    | true => exact follows_periodicSync
    | false => exact hc

end StateSync

/-! ### The main thread -/

section Main

variable {c : Place .main}

theorem follows_mainFlag (hc : c.1 = none ∧ c.2 ≤ 1) :
    Follows platform svc .main shutdownRequested
      (fun shutdown c' => c' = c ∧ (shutdown = false → c = (none, 0))) c := by
  refine follows_silent (fun _ _ => ⟨rfl, rfl⟩) fun a s l hagrees hplace => ⟨rfl, fun hoff => ?_⟩
  have hlog := hagrees.log hoff
  rw [← hplace] at hc ⊢
  exact Prod.ext hc.1 (by simp [place, hlog])

/-- The sections of a handler are those that the event loop goes through. -/
theorem follows_handler (t : LockedHandler (Except MethodErr Reply)) {n : ℕ} (hn : n ≤ 1) :
    Follows platform svc .main (t.zoom (fun _ => ()) SharedState.managers SharedState.setManagers)
      (fun _ c' => c'.1 = none ∧ c'.2 ≤ 1)
      (DaemonEventLoop.unfinished (t.erase ()), n) := by
  induction t with
  | done reply => exact ⟨rfl, hn⟩
  | acquire lock next ih => exact ih
  | release lock next ih => exact ih
  | act effect next ih =>
    intro a s l hagrees hplace
    obtain ⟨hcall, hcount⟩ := Prod.mk.inj hplace
    have hstep : l.daemon.step platform .dbusSection = { l.daemon with
        managers := effect () s.managers
        call := DaemonEventLoop.unfinished ((next () s.managers).erase ()) } := by
      have hcall : l.daemon.call = some ((LockedTask.act effect next).erase ()) := hcall
      rw [← hagrees.managers, DaemonEventLoop.step, hcall]
      rfl
    refine ⟨[some .dbusSection], hagrees.step (by rw [hstep]) (by rw [hstep]),
      fun thread hthread => ?_, ?_⟩
    · cases thread with
      | configMonitor => exact place_configMonitor_step (by rw [hstep]) rfl rfl
      | stateSync => exact place_stateSync_step (by rw [hstep]) rfl
      | main => exact absurd rfl hthread
    · have hnext : place .main (l.step platform (some .dbusSection)) =
          (DaemonEventLoop.unfinished ((next () s.managers).erase ()), n) :=
        Prod.ext (congrArg DaemonEventLoop.call hstep) ((countP_log_of_false rfl).trans hcount)
      change LockedTask.Follows _ _ _ _ _ _
        (place .main (l.step platform (some .dbusSection)))
      rw [hnext]
      exact ih () s.managers

theorem follows_serveCall (hc : c = (none, 0)) :
    Follows platform svc .main (process svc) (stands .main) c := by
  subst hc
  intro a s l hagrees hplace
  cases hcall : a.call with
  | none =>
    refine ⟨[], hagrees, fun _ _ => rfl, ?_⟩
    change LockedTask.Follows _ _ _ _ _ (serveCall svc a.call) (place .main l)
    rw [hcall, hplace]
    exact ⟨rfl, Nat.zero_le 1⟩
  | some call =>
    obtain ⟨sur, caller, method⟩ := call
    obtain ⟨hidle, hcalls⟩ := Prod.mk.inj hplace
    have hstep : l.daemon.step platform (.dbusCall sur caller method) = { l.daemon with
        call := DaemonEventLoop.unfinished (svc.handle sur caller method) } := by
      rw [← hagrees.service, DaemonEventLoop.step, hidle]
    have hnext : Agrees svc (s.setManagers s.managers)
        (l.step platform (some (.dbusCall sur caller method))) :=
      hagrees.step (by rw [hstep, hagrees.managers]) (by rw [hstep])
    refine ⟨[some (.dbusCall sur caller method)], hnext, fun thread hthread => ?_, ?_⟩
    · cases thread with
      | configMonitor => exact place_configMonitor_step (by rw [hstep]) rfl rfl
      | stateSync => exact place_stateSync_step (by rw [hstep]) rfl
      | main => exact absurd rfl hthread
    · change LockedTask.Follows _ _ _ _ _ (serveCall svc a.call)
        (place .main (l.step platform (some (.dbusCall sur caller method))))
      have hcount := countP_log_le platform l (.dbusCall sur caller method)
        Input.isDbusCall
      rw [hcalls] at hcount
      have hhere : place .main (l.step platform (some (.dbusCall sur caller method))) =
          (DaemonEventLoop.unfinished ((handle svc sur caller method).erase ()), _) :=
        Prod.ext ((congrArg DaemonEventLoop.call hstep).trans (by rw [erase_handle])) rfl
      rw [hcall, hhere]
      exact LockedTask.Follows.bind (follows_handler _ hcount) fun _ _ hstands => hstands

theorem follows_mainLoop (hc : c.1 = none ∧ c.2 ≤ 1) :
    Follows platform svc .main (mainLoop svc) (stands .main) c := by
  refine LockedTask.Follows.bind (follows_mainFlag hc) ?_
  rintro shutdown _ ⟨rfl, hzero⟩
  cases shutdown with
  | true => exact hc
  | false => exact follows_serveCall (hzero rfl)

theorem follows_drain (hc : c.1 = none ∧ c.2 ≤ 1) :
    Follows platform svc .main drain (stands .main) c := by
  refine LockedTask.Follows.bind (Q := fun _ c' => c' = c)
    (follows_silent (fun _ s => ?_) fun _ _ _ _ _ => rfl) ?_
  · cases s.events with
    | nil => exact ⟨rfl, rfl⟩
    | cons event events => exact ⟨rfl, rfl⟩
  · rintro received _ rfl
    exact hc

/-- Code of the main thread that keeps its place. -/
abbrev Stays (platform : Platform) (svc : ServiceState) (c : Place .main) {α : Type}
    (t : ThreadCode α) : Prop := Follows platform svc .main t (fun _ c' => c' = c) c

theorem stays_bind {α β : Type} {t : ThreadCode α} {f : α → ThreadCode β}
    (h : Stays platform svc c t) (hf : ∀ result, Stays platform svc c (f result)) :
    Stays platform svc c (t >>= f) := by
  refine LockedTask.Follows.bind h ?_
  rintro result _ rfl
  exact hf result

/-- An action of the main thread on the machine. -/
theorem stays_onMachine {α : Type} {body : Answers → Managers → α × Managers}
    (h : ∀ a m, ∃ host, (body a m).2 = m.setHost host) :
    Stays platform svc c (onManagers body) := by
  intro a s l hagrees hplace
  obtain ⟨host, hhost⟩ := h a s.managers
  have hstep : l.daemon.step platform (.hostChange host) = { l.daemon with
      managers := s.managers.setHost host } := by
    rw [← hagrees.managers, DaemonEventLoop.step]
  refine ⟨[some (.hostChange host)], hagrees.step (by rw [hstep]; exact hhost.symm)
    (by rw [hstep]), fun thread hthread => ?_, ?_⟩
  · cases thread with
    | configMonitor => exact place_configMonitor_step (by rw [hstep]) rfl rfl
    | stateSync => exact place_stateSync_step (by rw [hstep]) rfl
    | main => exact absurd rfl hthread
  · exact (place_main_step (by rw [hstep]) rfl).trans hplace

/-- An action of the main thread that leaves the managers alone. -/
theorem stays_silent {α : Type} {body : Answers → SharedState → α × SharedState}
    (h : ∀ a s, (body a s).2.managers = s.managers ∧
      (body a s).2.shutdownSignal = s.shutdownSignal) :
    Stays platform svc c (.atomic body) := follows_silent h fun _ _ _ _ _ => rfl

theorem stays_requestShutdown : Stays platform svc c requestShutdown := by
  intro a s l hagrees hplace
  exact ⟨[none], ⟨hagrees.managers, hagrees.service, rfl, nofun⟩,
    fun thread _ => by cases thread <;> rfl, hplace⟩

theorem stays_cleanUpAll (names : List String) : Stays platform svc c (cleanUpAll names) := by
  induction names with
  | nil => rfl
  | cons name names ih =>
    refine stays_bind (stays_silent fun _ _ => ⟨rfl, rfl⟩) fun _ => ?_
    refine stays_bind (stays_onMachine fun a m => ?_) fun netlink => stays_bind ?_ fun _ => ih
    · unfold Managers.onMachine
      split <;> exact ⟨_, rfl⟩
    · cases netlink with
      | error e => rfl
      | ok made => exact LockedTask.Follows.locked (stays_onMachine fun a m => ⟨_, rfl⟩) .config

theorem follows_stop (hc : c.1 = none ∧ c.2 ≤ 1) :
    Follows platform svc .main stop (stands .main) c := by
  have hshutdown : Stays platform svc c Locked.gracefulShutdown := by
    refine stays_bind stays_requestShutdown fun _ => ?_
    refine stays_bind (LockedTask.Follows.locked (stays_silent fun _ _ => ⟨rfl, rfl⟩) .config)
      fun shouldCleanup => stays_bind ?_ fun _ => stays_silent fun _ _ => ⟨rfl, rfl⟩
    unfold cleanUpIf
    split_ifs
    · exact stays_bind (LockedTask.Follows.locked (stays_silent fun _ _ => ⟨rfl, rfl⟩) .config)
        stays_cleanUpAll
    · rfl
  refine LockedTask.Follows.bind hshutdown ?_
  rintro _ _ rfl
  exact hc

end Main

/-- The threads of the daemon do what the event loop does. -/
theorem simulated_daemonSystem (platform : Platform) (svc : ServiceState) :
    (daemonSystem platform svc).Simulated (step platform) (Agrees svc) place stands Begun where
  resumed
    | .configMonitor, .looping, _, _, hc, rfl => follows_configMonitor hc
    | .stateSync, .looping, _, _, hc, rfl => follows_stateSync hc
    | .main, .looping, _, _, hc, rfl => follows_mainLoop hc
    | .main, .draining, _, _, hc, rfl => follows_drain hc
    | .main, .stopping, _, _, hc, rfl => follows_stop hc
  ended
    | .configMonitor, _, _, hc, _ => hc.2
    | .stateSync, _, _, hc, _ => hc.2
    | .main, _, _, hc, _ => hc.2
  outside
    | .signal, s, l, hagrees =>
      ⟨[none], ⟨hagrees.managers, hagrees.service, rfl, nofun⟩, fun thread => by
        cases thread <;> rfl⟩
    | .hostChange host, s, l, hagrees => by
      have hstep : l.daemon.step platform (.hostChange host) = { l.daemon with
          managers := s.managers.setHost host } := by
        rw [← hagrees.managers, DaemonEventLoop.step]
      refine ⟨[some (.hostChange host)], hagrees.step (by rw [hstep]) (by rw [hstep]),
        fun thread => ?_⟩
      cases thread with
      | configMonitor => exact place_configMonitor_step (by rw [hstep]) rfl rfl
      | stateSync => exact place_stateSync_step (by rw [hstep]) rfl
      | main => exact place_main_step (by rw [hstep]) rfl

/-! ### Whole runs -/

/-- What is done is a run of the event loop, and is logged once a shutdown is requested. -/
theorem daemon_run (platform : Platform) (l : Logged) (inputs : List (Option Input)) :
    (run (step platform) l inputs).daemon =
        run (DaemonEventLoop.step platform) l.daemon inputs.reduceOption ∧
      (l.shutdown = true →
        (run (step platform) l inputs).log = l.log ++ inputs.reduceOption) := by
  induction inputs generalizing l with
  | nil => exact ⟨rfl, fun _ => (List.append_nil _).symm⟩
  | cons input inputs ih =>
    obtain ⟨hdaemon, hlog⟩ := ih (l.step platform input)
    cases input with
    | none =>
      rw [List.reduceOption_cons_of_none]
      exact ⟨hdaemon, fun _ => hlog rfl⟩
    | some input =>
      rw [List.reduceOption_cons_of_some]
      refine ⟨hdaemon, fun hshutdown => (hlog hshutdown).trans ?_⟩
      rw [List.append_cons]
      exact congrArg (· ++ inputs.reduceOption) (if_pos hshutdown)

/-- The log only grows. -/
theorem log_prefix_run (l : Logged) (inputs : List (Option Input)) :
    l.log <+: (run (step platform) l inputs).log := by
  have hstep (l' : Logged) (input : Option Input) (h : l.log <+: l'.log) :
      l.log <+: (l'.step platform input).log := by
    cases input with
    | none => exact h
    | some input =>
      change l.log <+: if l'.shutdown then l'.log ++ [input] else l'.log
      split_ifs
      · exact h.trans (List.prefix_append _ _)
      · exact h
  exact run_invariant (fun l' : Logged => l.log <+: l'.log) hstep List.prefix_rfl inputs

/-- A thread that has begun few things now had begun few things before. -/
theorem begun_of_run {thread : DaemonThread} {l : Logged} {inputs : List (Option Input)}
    (h : Begun thread (place thread (run (step platform) l inputs))) :
    Begun thread (place thread l) := by
  have hcount (p : Input → Bool) : l.log.countP p ≤ (run (step platform) l inputs).log.countP p :=
    (log_prefix_run l inputs).sublist.countP_le
  cases thread with
  | configMonitor => exact ⟨(hcount _).trans h.1, (hcount _).trans h.2⟩
  | stateSync => exact (hcount _).trans h
  | main => exact (hcount _).trans h

theorem begun_of_stands {thread : DaemonThread} {point : Point thread} {c : Place thread}
    (h : stands thread point c) : Begun thread c := by
  cases thread <;> exact h.2

instance : Nonempty Answers := ⟨.quiet⟩

/-- No thread begins two things of one kind after a shutdown was requested. -/
theorem begun_of_related {pool : LockPool DaemonThread Lock SharedState Answers Point} {l : Logged}
    (h : LockSystem.Related (step platform) (Agrees svc) place stands Begun pool l)
    (thread : DaemonThread) : Begun thread (place thread l) :=
  h.of_points (fun _ _ _ => begun_of_stands) (fun _ _ _ => begun_of_run) thread

theorem related_startThreads {setup : Setup} {s : DaemonEventLoop}
    (hstart : DaemonEventLoop.start platform setup = .ok s) :
    LockSystem.Related (step platform) (Agrees s.service) place stands Begun
      (startThreads platform s.service s.managers) ⟨s, false, []⟩ := by
  obtain ⟨netlinkManager, -, h⟩ := Except.bind_eq_ok_iff.mp hstart
  dsimp only at h
  split at h
  · cases h
  · obtain rfl := Except.ok.inj h
    refine ⟨⟨rfl, rfl, rfl, fun _ => rfl⟩, fun thread t hcode => ?_, nofun⟩
    obtain rfl := Option.some.inj hcode
    cases thread with
    | configMonitor => exact follows_configMonitor ⟨rfl, Nat.zero_le 1, Nat.zero_le 1⟩
    | stateSync => exact follows_initialSync
    | main => exact follows_mainLoop ⟨rfl, Nat.zero_le 1⟩

end Logged

section Runs

open DaemonEventLoop (oneText onMachine start step)

/-- What the threads have done is a run of the event loop. Whatever the threads do after a
shutdown was requested goes on with that run, and has at most one file event, one forced
synchronization, one other synchronization and one D-Bus call. -/
theorem exists_run_of_reachable {setup : Setup} {s : DaemonEventLoop}
    (hstart : start platform setup = .ok s)
    {pool : LockPool DaemonThread Lock SharedState Answers Point}
    (h : (daemonSystem platform s.service).Reachable
      (startThreads platform s.service s.managers) pool) :
    ∃ before, pool.state.managers = (run (step platform) s before).managers ∧
      (pool.state.shutdownSignal = true → ∀ pool',
        (daemonSystem platform s.service).Reachable pool pool' → ∃ after,
          pool'.state.managers = (run (step platform) s (before ++ after)).managers ∧
          after.countP Input.isConfigEvent ≤ 1 ∧ after.countP Input.isForceSync ≤ 1 ∧
          after.countP Input.isStateSync ≤ 1 ∧ after.countP Input.isDbusCall ≤ 1) := by
  have hsystem := Logged.simulated_daemonSystem platform s.service
  obtain ⟨inputs, hrelated⟩ := LockSystem.exists_related_of_reachable hsystem
    (Logged.related_startThreads hstart) h
  have hbefore := (Logged.daemon_run platform ⟨s, false, []⟩ inputs).1
  refine ⟨inputs.reduceOption, ?_, fun hflag pool' h' => ?_⟩
  · rw [← hrelated.state.managers, hbefore]
  obtain ⟨inputs', hrelated'⟩ := LockSystem.exists_related_of_reachable hsystem hrelated h'
  obtain ⟨hafter, hlog⟩ := Logged.daemon_run platform
    (run (Logged.step platform) ⟨s, false, []⟩ inputs) inputs'
  have hbegun := Logged.begun_of_related hrelated'
  -- what was logged before only adds to the counts
  have hcount (p : Input → Bool) : inputs'.reduceOption.countP p ≤
      (run (Logged.step platform) (run (Logged.step platform) ⟨s, false, []⟩ inputs)
        inputs').log.countP p := by
    rw [hlog (hrelated.state.shutdown.trans hflag), List.countP_append]
    exact Nat.le_add_left _ _
  refine ⟨inputs'.reduceOption, ?_, (hcount _).trans (hbegun .configMonitor).1,
    (hcount _).trans (hbegun .configMonitor).2, (hcount _).trans (hbegun .stateSync),
    (hcount _).trans (hbegun .main)⟩
  rw [← hrelated'.state.managers, hafter, hbefore, run, run, run, List.foldl_append]

section Late

/-- A shutdown is requested during the initial synchronization. -/
def untilSignal : List (LockMove DaemonThread Answers Outside) :=
  bothLocked ++ [.outside .signal, quietly .stateSync, quietly .stateSync]

/-- The initial synchronization ends, and the file event is handled. -/
def lateEvent : List (LockMove DaemonThread Answers Outside) :=
  [quietly .stateSync, quietly .stateSync, quietly .configMonitor,
    .thread .configMonitor { Answers.quiet with fs := onMachine.host.files }]

end Late

/-- The configuration monitoring thread handles a file event after the shutdown was requested. -/
theorem exists_run_lateEvent : ∃ s₀ pool pool' before after, start oneText onMachine = .ok s₀ ∧
    untilSignal.foldlM (daemonSystem oneText s₀.service).step
      (startThreads oneText s₀.service s₀.managers) = some pool ∧
    lateEvent.foldlM (daemonSystem oneText s₀.service).step pool = some pool' ∧
    pool.state.managers = (run (step oneText) s₀ before).managers ∧
    pool'.state.managers = (run (step oneText) s₀ (before ++ after)).managers ∧
    after.countP Input.isConfigEvent ≤ 1 ∧ after.countP Input.isForceSync ≤ 1 ∧
    after.countP Input.isStateSync ≤ 1 ∧ after.countP Input.isDbusCall ≤ 1 := by
  obtain ⟨s₀, hstart, pool, hpool, hflag, pool', hpool'⟩ : ∃ s₀,
      start oneText onMachine = .ok s₀ ∧ ∃ pool,
        untilSignal.foldlM (daemonSystem oneText s₀.service).step
          (startThreads oneText s₀.service s₀.managers) = some pool ∧
        pool.state.shutdownSignal = true ∧ ∃ pool',
          lateEvent.foldlM (daemonSystem oneText s₀.service).step pool = some pool' :=
    ⟨_, rfl, _, rfl, rfl, _, rfl⟩
  obtain ⟨before, hbefore, hafter⟩ :=
    exists_run_of_reachable hstart (LockSystem.reachable_of_foldlM hpool)
  obtain ⟨after, hrun, hcounts⟩ := hafter hflag pool' (LockSystem.reachable_of_foldlM hpool')
  exact ⟨s₀, pool, pool', before, after, hstart, hpool, hpool', hbefore, hrun, hcounts⟩

end Runs

end Segwire.Daemon
