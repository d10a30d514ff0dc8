import Mathlib.Data.Fintype.EquivFin
import Segwire.Daemon.ThreadRuns

/-!
# The end of the threads

The main thread leaves its loop when it finds the flag set, and then waits for the other threads.
It drains the channel to which they send, and they hold locks that it needs for the clean-up; the
daemon ends all the same, and only then.

## Main results

* `settles_daemonSystem` — once a shutdown is requested, each thread has finitely many moves left
* `ends_iff_shutdown` — the daemon ends iff a shutdown is requested
-/

namespace Segwire.Daemon

open Foundation Segwire.Common Locked

variable {platform : Platform} {svc : ServiceState}

/-- The flag is not taken back. -/
def KeepsFlag (s s' : SharedState) : Prop := s.shutdownSignal = true → s'.shutdownSignal = true

/-! ### What the actions do -/

section Actions

open LockedTask (guarantees_atomic)

theorem keepsFlag_onManagers {α : Type} (body : Answers → Managers → α × Managers) :
    (onManagers body).Guarantees KeepsFlag := guarantees_atomic fun _ _ => id

theorem keepsFlag_send (events : List DaemonEvent) : (send events).Guarantees KeepsFlag := by
  induction events with
  | nil => trivial
  | cons event events ih => exact .bind (guarantees_atomic fun _ _ => id) fun _ => ih

theorem keepsFlag_synchronize {α : Type} (body : Answers → Managers → α × Managers)
    (events : α → List DaemonEvent) :
    (withBoth (do
      let result ← onManagers body
      send (events result))).Guarantees KeepsFlag := by
  have hsync := LockedTask.Guarantees.bind (keepsFlag_onManagers body) fun result =>
    keepsFlag_send (events result)
  exact (hsync.locked _).locked _

theorem keepsFlag_configMonitor : (configMonitor platform).Guarantees KeepsFlag := by
  refine .bind (guarantees_atomic fun _ _ => id) fun shutdown => ?_
  split_ifs
  · trivial
  refine .bind (guarantees_atomic fun _ _ => id) fun received => ?_
  cases received with
  | timeout => trivial
  | disconnected => trivial
  | event event =>
    refine .bind ((keepsFlag_onManagers _).locked _) fun affected => ?_
    unfold afterFileEvent
    split_ifs
    · trivial
    · exact .bind (keepsFlag_synchronize _ _) fun _ => trivial

theorem keepsFlag_initialSync : initialSync.Guarantees KeepsFlag :=
  .bind (keepsFlag_synchronize _ _) fun _ => trivial

theorem keepsFlag_stateSync : stateSync.Guarantees KeepsFlag := by
  refine .bind (guarantees_atomic fun _ _ => id) fun shutdown => ?_
  split_ifs
  · trivial
  refine .bind ((keepsFlag_onManagers _).locked _) fun needsSync => ?_
  split_ifs
  · exact .bind (keepsFlag_synchronize _ _) fun _ => trivial
  · trivial

/-- A handler has no access to the flag. -/
theorem keepsFlag_handler {α : Type} (t : LockedHandler α) :
    (t.zoom (fun _ => ()) SharedState.managers SharedState.setManagers : ThreadCode α).Guarantees
      KeepsFlag := by
  have ht : t.Guarantees fun _ _ => True := by
    induction t with
    | done result => trivial
    | acquire lock next ih => exact ih
    | release lock next ih => exact ih
    | act effect next ih => exact fun a s => ⟨trivial, ih a s⟩
  exact ht.zoom _ fun _ _ _ => id

theorem keepsFlag_mainLoop : (mainLoop svc).Guarantees KeepsFlag := by
  refine .bind (guarantees_atomic fun _ _ => id) fun shutdown => ?_
  split_ifs
  · trivial
  refine fun a s => ⟨id, ?_⟩
  change (serveCall svc a.call).Guarantees KeepsFlag
  cases a.call with
  | none => trivial
  | some call => exact .bind (keepsFlag_handler _) fun _ => trivial

theorem keepsFlag_drain : drain.Guarantees KeepsFlag := by
  refine .bind (guarantees_atomic fun _ s => ?_) fun received => ?_
  · cases s.events <;> exact id
  · exact trivial

theorem keepsFlag_cleanUpAll (names : List String) : (cleanUpAll names).Guarantees KeepsFlag := by
  induction names with
  | nil => trivial
  | cons name names ih =>
    refine .bind (guarantees_atomic fun _ _ => id) fun _ => ?_
    refine .bind (keepsFlag_onManagers _) fun netlink => .bind ?_ fun _ => ih
    cases netlink with
    | error e => trivial
    | ok made => exact (keepsFlag_onManagers _).locked _

theorem keepsFlag_stop : stop.Guarantees KeepsFlag := by
  have hshutdown : Locked.gracefulShutdown.Guarantees KeepsFlag := by
    refine .bind (guarantees_atomic fun _ _ _ => rfl) fun _ => ?_
    refine .bind ((keepsFlag_onManagers _).locked _) fun shouldCleanup => ?_
    refine .bind ?_ fun _ => guarantees_atomic fun _ _ => id
    unfold cleanUpIf
    split_ifs
    · exact .bind ((keepsFlag_onManagers _).locked _) keepsFlag_cleanUpAll
    · trivial
  exact .bind hshutdown fun _ => .bind trivial fun _ => .bind trivial fun _ => trivial

end Actions

theorem keepsFlag_resume : ∀ thread point t, resume platform svc thread point = some t →
    t.Guarantees KeepsFlag
  | .configMonitor, .looping, _, rfl => keepsFlag_configMonitor
  | .stateSync, .looping, _, rfl => keepsFlag_stateSync
  | .main, .looping, _, rfl => keepsFlag_mainLoop
  | .main, .draining, _, rfl => keepsFlag_drain
  | .main, .stopping, _, rfl => keepsFlag_stop

theorem guaranteed_startThreads (managers : Managers) :
    LockSystem.Guaranteed (fun _ => KeepsFlag) (startThreads platform svc managers) := by
  intro thread t hcode
  obtain rfl := Option.some.inj hcode
  cases thread with
  | configMonitor => exact keepsFlag_configMonitor
  | stateSync => exact keepsFlag_initialSync
  | main => exact keepsFlag_mainLoop

theorem keepsFlag_outside (event : Outside) (s : SharedState)
    (h : s.shutdownSignal = true) :
    ((daemonSystem platform svc).outside event s).shutdownSignal = true := by
  cases event with
  | signal => rfl
  | hostChange host => exact h

/-! ### The way to the end -/

/-- The events that the main thread has not yet received. The background threads need nothing. -/
def variant : DaemonThread → SharedState → ℕ
  | .main, s => s.events.length
  | _, _ => 0

/-- The flag is set. -/
def Stopping (s : SharedState) : Prop := s.shutdownSignal = true

/-- Only the main thread has a variant, and it comes last. -/
theorem quiet_of_keepsFlag {thread : DaemonThread} {s s' : SharedState} (h : KeepsFlag s s') :
    LockSystem.Quiet Stopping variant thread s s' := by
  refine ⟨h, fun earlier hearlier => ?_⟩
  cases earlier with
  | configMonitor => rfl
  | stateSync => rfl
  | main => cases thread <;> exact absurd hearlier (by decide)

/-- Where the flag is checked, it is found set. -/
theorem leads_shutdownRequested : shutdownRequested.Leads Stopping (· = true) :=
  LockedTask.leads_atomic fun _ _ => id

/-- After the check of the flag a thread takes the way to its end. -/
theorem leads_checked {α : Type} {P : α → Prop} {t u : ThreadCode α} (h : t.Leads Stopping P) :
    (do
      let shutdown ← shutdownRequested
      if shutdown then t else u).Leads Stopping P := by
  refine LockedTask.Leads.bind leads_shutdownRequested ?_
  rintro _ rfl
  exact h

theorem leads_stop : stop.Leads Stopping (· = .ended) :=
  LockedTask.Leads.bind (LockedTask.leads_true _) fun _ _ =>
    LockedTask.Leads.bind (LockedTask.leads_true _) fun _ _ =>
      LockedTask.Leads.bind (LockedTask.leads_true _) fun _ _ => rfl

section Drops

/-- The moves of a thread after a shutdown was requested. -/
abbrev Stops (platform : Platform) (svc : ServiceState) (thread : DaemonThread) :=
  (daemonSystem platform svc).Drops Stopping variant thread

theorem acc_main_stopping (n : ℕ) : Acc (Stops platform svc .main) (n, some stop) := by
  refine LockSystem.acc_of_leads leads_stop ?_ n
  rintro _ rfl n
  exact LockSystem.acc_none _ n

theorem acc_main_looping (n : ℕ) : Acc (Stops platform svc .main) (n, some (mainLoop svc)) := by
  refine LockSystem.acc_of_leads (P := (· = .stopping)) (leads_checked ?_) ?_ n
  · exact rfl
  rintro _ rfl n
  exact acc_main_stopping n

/-- Each event that is received was one of those in the channel. -/
theorem acc_main_draining (n : ℕ) : Acc (Stops platform svc .main) (n, some drain) := by
  induction n with
  | zero =>
    refine Acc.intro _ ?_
    rintro x ⟨t, a, ⟨managers, flag, events, signals⟩, -, hx, rfl⟩
    obtain ⟨hn, ht⟩ := Prod.mk.inj hx
    obtain rfl := Option.some.inj ht
    obtain rfl := List.length_eq_zero_iff.mp hn.symm
    exact LockSystem.acc_done (acc_main_looping 0)
  | succ n ih =>
    refine Acc.intro _ ?_
    rintro x ⟨t, a, ⟨managers, flag, events, signals⟩, -, hx, rfl⟩
    obtain ⟨hn, ht⟩ := Prod.mk.inj hx
    obtain rfl := Option.some.inj ht
    obtain ⟨event, events, rfl⟩ := List.exists_of_length_succ _ hn.symm
    obtain rfl := Nat.succ.inj hn
    exact LockSystem.acc_done ih

end Drops

/-- Once a shutdown is requested, each thread has finitely many moves left. -/
theorem settles_daemonSystem (platform : Platform) (svc : ServiceState) :
    (daemonSystem platform svc).Settles Stopping variant where
  resumed thread point t ht :=
    (keepsFlag_resume thread point t ht).mono fun _ _ => quiet_of_keepsFlag
  outside := keepsFlag_outside
  variant_outside event s thread := by cases event <;> cases thread <;> rfl
  wellFounded thread := by
    refine LockSystem.wellFounded_drops fun point n => ?_
    have hended (thread : DaemonThread) (n : ℕ) : Acc (Stops platform svc thread) (n, none) :=
      LockSystem.acc_none thread n
    cases thread with
    | configMonitor =>
      cases point with
      | ended => exact hended _ n
      | looping =>
        refine LockSystem.acc_of_leads (P := (· = .ended)) (leads_checked ?_) ?_ n
        · exact rfl
        · rintro _ rfl n
          exact hended _ n
    | stateSync =>
      cases point with
      | ended => exact hended _ n
      | looping =>
        refine LockSystem.acc_of_leads (P := (· = .ended)) (leads_checked ?_) ?_ n
        · exact rfl
        · rintro _ rfl n
          exact hended _ n
    | main =>
      cases point with
      | ended => exact hended _ n
      | stopping => exact acc_main_stopping n
      | looping => exact acc_main_looping n
      | draining => exact acc_main_draining n

/-! ### Without a request -/

/-- While the flag is not set, the main thread stays in its loop. -/
def Running (s : SharedState) : Prop := s.shutdownSignal = false

/-- The control points inside the loop. -/
def InLoop (point : MainPoint) : Prop := point = .looping ∨ point = .draining

theorem leads_mainLoop : (mainLoop svc).Leads Running InLoop := by
  refine LockedTask.Leads.bind (P := (· = false)) (LockedTask.leads_atomic fun _ _ => id) ?_
  rintro _ rfl a s -
  change (serveCall svc a.call).Leads Running InLoop
  have hdraining : (pure .draining : ThreadCode MainPoint).Leads Running InLoop := .inr rfl
  cases a.call with
  | none => exact hdraining
  | some call => exact LockedTask.Leads.bind (LockedTask.leads_true _) fun _ _ => hdraining

theorem leads_drain : drain.Leads Running InLoop := by
  refine LockedTask.Leads.bind (LockedTask.leads_true _) fun received _ => ?_
  cases received with
  | true => exact Or.inr rfl
  | false => exact Or.inl rfl

/-- The main thread does not leave its loop before the flag is set. -/
theorem leads_resume (point : Point .main) (h : InLoop point) :
    ∃ t, (daemonSystem platform svc).resume .main point = some t ∧ t.Leads Running InLoop := by
  obtain rfl | rfl := h
  · exact ⟨_, rfl, leads_mainLoop⟩
  · exact ⟨_, rfl, leads_drain⟩

/-! ### Runs -/

section Runs

variable {managers : Managers}
  {pools : ℕ → LockPool DaemonThread Lock SharedState Answers Point}
  {moves : ℕ → LockMove DaemonThread Answers Outside}

theorem guaranteed_run (hstart : pools 0 = startThreads platform svc managers)
    (hrun : ∀ n, (daemonSystem platform svc).step (pools n) (moves n) = some (pools (n + 1)))
    (n : ℕ) : LockSystem.Guaranteed (fun _ => KeepsFlag) (pools n) := by
  induction n with
  | zero =>
    rw [hstart]
    exact guaranteed_startThreads managers
  | succ n ih => exact LockSystem.guaranteed_step keepsFlag_resume ih (hrun n)

/-- Until the flag is set, the main thread goes on. -/
theorem main_goes_on (hstart : pools 0 = startThreads platform svc managers)
    (hrun : ∀ n, (daemonSystem platform svc).step (pools n) (moves n) = some (pools (n + 1)))
    (n : ℕ) (hrunning : Running (pools n).state) :
    ∃ t, (pools n).code .main = some t ∧ t.Leads Running InLoop := by
  induction n with
  | zero =>
    rw [hstart]
    exact ⟨_, rfl, leads_mainLoop⟩
  | succ n ih =>
    have hbefore : Running (pools n).state := by
      refine Bool.eq_false_iff.mpr fun hset => ?_
      have hkept : Stopping (pools (n + 1)).state :=
        LockSystem.state_step (fun _ _ _ h => h) keepsFlag_outside (guaranteed_run hstart hrun n)
          hset (hrun n)
      exact Bool.false_ne_true (hrunning.symm.trans hkept)
    exact LockSystem.leads_step (i := .main) (P := InLoop) leads_resume (ih hbefore) hbefore
      (hrun n)

variable (pools moves) in
/-- All threads end iff a shutdown is requested, whatever the scheduler and the environment do, as
long as some thread moves again whenever one can. -/
theorem ends_iff_shutdown (hstart : pools 0 = startThreads platform svc managers)
    (hrun : ∀ n, (daemonSystem platform svc).step (pools n) (moves n) = some (pools (n + 1)))
    (hbusy : ∀ n,
      (∃ thread, ∀ a, ((daemonSystem platform svc).step (pools n) (.thread thread a)).isSome) →
        ∃ m ≥ n, ∃ thread a, moves m = .thread thread a) :
    (∃ N, ∀ thread, (pools N).code thread = none) ↔
      ∃ n, (pools n).state.shutdownSignal = true := by
  constructor
  · rintro ⟨N, hended⟩
    refine ⟨N, ?_⟩
    by_contra hunset
    obtain ⟨t, ht, -⟩ := main_goes_on hstart hrun N (Bool.eq_false_iff.mpr hunset)
    exact Option.some_ne_none t (ht.symm.trans (hended .main))
  · rintro ⟨n, hset⟩
    -- from here on the flag is set
    have hdisciplined (k : ℕ) : (pools k).Disciplined holds := by
      induction k with
      | zero =>
        rw [hstart]
        exact disciplined_startThreads managers
      | succ k ih => exact LockSystem.disciplined_step (orderly_daemonSystem _ _) ih (hrun k)
    obtain ⟨N, hended⟩ := LockSystem.eventually_ended (fun k => pools (n + k))
      (fun k => moves (n + k)) (orderly_daemonSystem platform svc)
      (settles_daemonSystem platform svc) (fun k => hrun (n + k)) (hdisciplined n)
      ⟨hset, fun thread t hcode =>
        (guaranteed_run hstart hrun n thread t hcode).mono fun _ _ => quiet_of_keepsFlag⟩
      fun k hmove => by
        obtain ⟨m, hm, hthread⟩ := hbusy (n + k) hmove
        refine ⟨m - n, Nat.le_sub_of_add_le' hm, ?_⟩
        rwa [Nat.add_sub_cancel' (by omega)]
    exact ⟨n + N, hended⟩

end Runs

section Signalled

open DaemonEventLoop (oneText onMachine start)

/-- The first thread that can move moves. -/
def firstMove (svc : ServiceState)
    (pool : LockPool DaemonThread Lock SharedState Answers Point) :
    LockMove DaemonThread Answers Outside :=
  match [DaemonThread.configMonitor, .stateSync, .main].find? fun thread =>
      ((daemonSystem oneText svc).step pool (quietly thread)).isSome with
  | some thread => quietly thread
  | none => .outside .signal

/-- A termination signal comes first, and then the threads move. -/
def signalled (s₀ : DaemonEventLoop) :
    ℕ → LockPool DaemonThread Lock SharedState Answers Point × LockMove DaemonThread Answers Outside
  | 0 => (startThreads oneText s₀.service s₀.managers, .outside .signal)
  | n + 1 =>
    let (pool, move) := signalled s₀ n
    let pool' := ((daemonSystem oneText s₀.service).step pool move).getD pool
    (pool', firstMove s₀.service pool')

theorem isSome_firstMove (svc : ServiceState)
    (pool : LockPool DaemonThread Lock SharedState Answers Point) :
    ((daemonSystem oneText svc).step pool (firstMove svc pool)).isSome := by
  unfold firstMove
  split
  · next thread hfind =>
      exact List.find?_some (p := fun thread =>
        ((daemonSystem oneText svc).step pool (quietly thread)).isSome) hfind
  · rfl

theorem firstMove_of_isSome {svc : ServiceState}
    {pool : LockPool DaemonThread Lock SharedState Answers Point} {thread : DaemonThread}
    (h : ((daemonSystem oneText svc).step pool (quietly thread)).isSome) :
    ∃ thread, firstMove svc pool = quietly thread := by
  unfold firstMove
  split
  · exact ⟨_, rfl⟩
  · next hfind =>
    exact absurd h (List.find?_eq_none.mp hfind thread (by cases thread <;> decide))

end Signalled

open DaemonEventLoop (oneText onMachine start) in
/-- A daemon that receives a termination signal when its threads start ends. -/
theorem ends_signalled : ∃ s₀ N, start oneText onMachine = .ok s₀ ∧
    ∀ thread, (signalled s₀ N).1.code thread = none := by
  obtain ⟨s₀, hstart⟩ : ∃ s₀, start oneText onMachine = .ok s₀ := ⟨_, rfl⟩
  have hsome (n : ℕ) : ((daemonSystem oneText s₀.service).step (signalled s₀ n).1
      (signalled s₀ n).2).isSome := by
    cases n with
    | zero => rfl
    | succ n => exact isSome_firstMove _ _
  have hend := ends_iff_shutdown (fun n => (signalled s₀ n).1) (fun n => (signalled s₀ n).2) rfl
    (fun n => (Option.some_get (hsome n)).symm.trans
      (congrArg some (Option.get_eq_getD _)))
    fun n hmove => by
      cases n with
      | zero => exact ⟨1, Nat.zero_le 1, .configMonitor, .quiet, rfl⟩
      | succ n =>
        obtain ⟨thread, hthread⟩ := hmove
        obtain ⟨thread', hfirst⟩ := firstMove_of_isSome (hthread .quiet)
        exact ⟨n + 1, le_rfl, thread', .quiet, hfirst⟩
  obtain ⟨N, hN⟩ := hend.mpr ⟨1, rfl⟩
  exact ⟨s₀, N, hstart, hN⟩

end Segwire.Daemon
