import Mathlib.Algebra.BigOperators.Group.Finset.Sigma
import Segwire.Daemon.NetnsRaw

/-!
# The threads of the daemon among each other

Every piece of work in a namespace has a thread of its own, and the threads overlap as the
scheduler likes. They share the descriptor table, whose numbers are used again, and none of the
calls is protected from the others.

## Main definitions

* `NetnsJob`, `jobs` — the work of a thread, and a pool of such threads
* `Fresh` — a state in which the threads begin

## Main results

* `ranIn_of_schedule` — how every thread ends, by the outcomes of its own calls
* `count_of_schedule` — how many descriptors are left open
* `mounts_of_schedule` — a namespace that is created is not the one that is mounted
-/

namespace Segwire.Daemon

open Foundation

/-- The work of a thread: to run a closure in a namespace, or to create one. -/
inductive NetnsJob (τ ν T : Type)
  | run (nsPath : String) (f : Task (Threads τ ν) (Option T))
  | create (nsPath : String)

/-- How the work has ended. -/
inductive NetnsResult (T : Type)
  | ran (outcome : Except NamespaceError T)
  | created (outcome : Except String Unit)

section Jobs

variable {τ ν T : Type} [DecidableEq τ] (system : ThreadSystem τ ν)

/-- The task of a thread with this work. -/
def NetnsJob.task (t : τ) : NetnsJob τ ν T → Task (Threads τ ν) (NetnsResult T)
  | .run nsPath f => do return .ran (← runInNamespace system t nsPath f)
  | .create nsPath => do return .created (← createNetns system t nsPath)

/-- The work is done within `n` sections: a closure has six calls around it. -/
def NetnsJob.Within (n : Nat) : NetnsJob τ ν T → Prop
  | .run _ f => ∃ m, f.Within m ∧ m + 6 ≤ n
  | .create _ => 2 ≤ n

/-- A pool of threads, some of which have work. -/
def jobPool (jobs : τ → Option (NetnsJob τ ν T)) (state : Threads τ ν) :
    ThreadPool τ (Threads τ ν) fun _ => Option (NetnsResult T) where
  tasks t :=
    match jobs t with
    | none => .done none
    | some job => do return some (← job.task system t)
  state

/-- The main thread is in the namespace `home`, and every descriptor is its own. -/
structure Fresh (home : ν) (s : Threads τ ν) : Prop where
  home : s.netns system.main = home
  table : ∀ fd descriptor, s.table.lookup fd = some descriptor →
    descriptor.resource.opener = system.main

/-- The work of the threads: the main thread has none, and every closure behaves. -/
structure Working (home : ν) (leak : Option T → Nat) (F : ν → Option T → Prop)
    (jobs : τ → Option (NetnsJob τ ν T)) : Prop where
  main : jobs system.main = none
  behaves : ∀ t nsPath f, jobs t = some (.run nsPath f) → Behaves system home t leak F f

/-- How a thread with this work ends, with the numbers of its calls and the namespace that it is
in at the end. -/
def EndedIn (home start : ν) (F : ν → Option T → Prop) :
    NetnsJob τ ν T → NetnsResult T → List Nat → ν → Prop
  | .run nsPath _, .ran outcome, calls, last => RanIn system home start nsPath F outcome calls last
  | .create nsPath, .created outcome, calls, last =>
    ∃ mounts, CreatedIn system home start nsPath outcome calls last mounts
  | _, _, _, _ => False

/-- What a thread with this work leaves: the number of its descriptors, and the namespaces that
it has mounted. -/
def LeavesBehind (home : ν) (leak : Option T → Nat) (F : ν → Option T → Prop)
    (start : ThreadView τ ν) :
    Option (NetnsJob τ ν T) → Option (NetnsResult T) → ThreadView τ ν → Prop
  | some (.run nsPath _), some (.ran outcome), last =>
    Descriptors.count last.descriptors = leaked leak outcome ∧ last.mounts = start.mounts ∧
      ∃ calls, last.calls = start.calls ++ calls ∧
        RanIn system home start.netns nsPath F outcome calls last.netns
  | some (.create nsPath), some (.created outcome), last =>
    last.descriptors = start.descriptors ∧ ∃ calls mounts, last.calls = start.calls ++ calls ∧
      last.mounts = start.mounts ++ mounts ∧
      CreatedIn system home start.netns nsPath outcome calls last.netns mounts
  | none, none, last => last = start
  | _, _, _ => False

end Jobs

section Results

variable {τ ν T : Type} [DecidableEq τ] {system : ThreadSystem τ ν} {home : ν}
  {leak : Option T → Nat} {F : ν → Option T → Prop} {jobs : τ → Option (NetnsJob τ ν T)}
  {s : Threads τ ν} {t : τ}

/-- In the beginning no thread but the main one has a descriptor. -/
theorem Fresh.openedBy_eq (h : Fresh system home s) (ht : t ≠ system.main) :
    openedBy t s.table = ∅ := by
  apply Finmap.ext_lookup
  intro fd
  rw [Finmap.lookup_empty, Option.eq_none_iff_forall_ne_some]
  intro descriptor hopened
  obtain ⟨hlookup, rfl⟩ := lookup_openedBy_eq_some_iff.mp hopened
  exact ht (h.table fd descriptor hlookup)

/-- Each thread keeps to itself. -/
theorem owned_jobPool (hfresh : Fresh system home s) (hjobs : Working system home leak F jobs) :
    (jobPool system jobs s).Owned Threads.view (AtHome system home)
      fun t => LeavesBehind system home leak F (s.view t) (jobs t) := by
  refine ⟨hfresh.home, fun t => ?_⟩
  rw [jobPool]
  dsimp only
  cases hjob : jobs t with
  | none => exact Task.owns_done rfl
  | some job =>
    have ht : t ≠ system.main := by
      rintro rfl
      rw [hjobs.main] at hjob
      cases hjob
    cases job with
    | run nsPath f =>
      have hnone : (Threads.view t s).descriptors = ∅ := hfresh.openedBy_eq ht
      have howns := owns_runInNamespace ht (hjobs.behaves t nsPath f hjob) hnone nsPath
      exact (howns.bind fun outcome last hlast => Task.owns_done hlast).bind
        fun result last hlast => Task.owns_done hlast
    | create nsPath =>
      exact ((owns_createNetns ht nsPath).bind fun outcome last hlast => Task.owns_done hlast).bind
        fun result last hlast => Task.owns_done hlast

section Fixture

/-- A process with the main thread 0 in the namespace 0, where every path names the namespace 5
and the call with the number 3 fails. -/
def oneFault : ThreadSystem Nat Nat where
  main := 0
  file _ _ := .ok (.netns 5)
  unshared n := n + 100
  numbering := .lowest
  faults n := if n = 3 then some "EMFILE: Too many open files" else none

/-- No thread has done anything. -/
def quietThreads : Threads Nat Nat := ⟨fun _ => 0, ∅, fun _ => [], 0, fun _ => []⟩

/-- Two threads that look at where they are, and one that creates a namespace. -/
def threeJobs : Nat → Option (NetnsJob Nat Nat Nat)
  | 1 => some (.run "/var/run/netns/a" (.read fun s => some (s.netns 1)))
  | 2 => some (.run "/var/run/netns/b" (.read fun s => some (s.netns 2)))
  | 3 => some (.create "/var/run/netns/c")
  | _ => none

/-- A closure that looks at where it is. -/
theorem behaves_read (t : Nat) :
    Behaves oneFault 0 t (fun _ => 0) (fun ns result => result = some ns)
      (.read fun s => some (s.netns t)) := by
  intro c
  refine Task.owns_atomic ?_
  rintro s hs rfl
  exact ⟨hs, fun _ _ => rfl, rfl, rfl, ⟨[], (List.append_nil _).symm⟩, fun _ _ => rfl, rfl, rfl⟩

theorem fresh_quietThreads : Fresh oneFault 0 quietThreads where
  home := rfl
  table fd descriptor h := by
    rw [quietThreads, Finmap.lookup_empty] at h
    cases h

theorem working_threeJobs :
    Working oneFault 0 (fun _ => 0) (fun ns result => result = some ns) threeJobs where
  main := rfl
  behaves t nsPath f h := by
    match t, h with
    | 1, h =>
      cases h
      exact behaves_read 1
    | 2, h =>
      cases h
      exact behaves_read 2
    | 3, h => cases h

/-- The threads 1 and 2 overlap, and 3 runs between two sections of 1. -/
def overlap : List Nat := [1, 2, 1, 2, 1, 3, 3, 1, 1, 1, 1]

/-- How they end: the second one does not come to its work. -/
def overlapResults : Nat → Option (NetnsResult Nat)
  | 1 => some (.ran (.ok 5))
  | 2 => some (.ran (.error (.openTarget
      "open ns fd /var/run/netns/b: EMFILE: Too many open files")))
  | 3 => some (.created (.ok ()))
  | _ => none

end Fixture

omit [DecidableEq τ] in
theorem endedIn_of_leavesBehind {start last : ThreadView τ ν} {job : NetnsJob τ ν T}
    {result : Option (NetnsResult T)}
    (h : LeavesBehind system home leak F start (some job) result last) :
    ∃ outcome calls, result = some outcome ∧ last.calls = start.calls ++ calls ∧
      EndedIn system home start.netns F job outcome calls last.netns := by
  match job, result, h with
  | .run _ _, some (.ran outcome), h =>
    obtain ⟨-, -, calls, hcalls, hran⟩ := h
    exact ⟨.ran outcome, calls, rfl, hcalls, hran⟩
  | .create _, some (.created outcome), h =>
    obtain ⟨-, calls, mounts, hcalls, -, hcreated⟩ := h
    exact ⟨.created outcome, calls, rfl, hcalls, mounts, hcreated⟩

theorem within_task {job : NetnsJob τ ν T} {n : Nat} (h : job.Within n) (t : τ) :
    (job.task system t).Within n := by
  cases job with
  | run nsPath f =>
    obtain ⟨m, hf, hle⟩ := h
    exact ((within_runInNamespace hf nsPath).bind fun _ => Task.within_done 0 _).mono hle
  | create nsPath =>
    exact ((within_createNetns nsPath).bind fun _ => Task.within_done 0 _).mono h

/-- However the threads overlap, the main thread stays where it is, and a thread that is
scheduled often enough ends as its own calls tell. A closure was run in the namespace that the
path named at the call that opened it; the thread is back if the call that should lead it back
succeeds, still there if that call fails, and it has not moved if an earlier call fails. A thread
that creates a namespace is in it from then on, whether or not it can mount anything. -/
theorem ranIn_of_schedule (hfresh : Fresh system home s)
    (hjobs : Working system home leak F jobs) (schedule : List τ) {job : NetnsJob τ ν T}
    (hjob : jobs t = some job) :
    (run ThreadPool.advance (jobPool system jobs s) schedule).state.netns system.main = home ∧
    (∀ n, job.Within n → n ≤ schedule.count t →
      ∃ result, (run ThreadPool.advance (jobPool system jobs s) schedule).tasks t =
        .done result) ∧
    ∀ result, (run ThreadPool.advance (jobPool system jobs s) schedule).tasks t = .done result →
      ∃ outcome calls, result = some outcome ∧
        (run ThreadPool.advance (jobPool system jobs s) schedule).state.made t =
          s.made t ++ calls ∧
        EndedIn system home (s.netns t) F job outcome calls
          ((run ThreadPool.advance (jobPool system jobs s) schedule).state.netns t) := by
  have howned := (owned_jobPool hfresh hjobs).run schedule
  refine ⟨howned.inv, fun n hn hcount => ?_, fun result hended => ?_⟩
  · have hwithin : ((jobPool system jobs s).tasks t).Within n := by
      rw [jobPool]
      dsimp only
      rw [hjob]
      exact (within_task hn t).bind fun _ => Task.within_done 0 _
    exact ThreadPool.ended_of_count hwithin hcount
  · have hleaves := howned.ended hended
    rw [hjob] at hleaves
    exact endedIn_of_leavesBehind hleaves

/-- The first of two threads that overlap. -/
theorem ranIn_of_overlap : ∃ outcome calls,
    (run ThreadPool.advance (jobPool oneFault threeJobs quietThreads) overlap).tasks 1 =
        .done (some outcome) ∧
      EndedIn oneFault 0 0 (fun ns result => result = some ns)
        (.run "/var/run/netns/a" (.read fun s => some (s.netns 1)) : NetnsJob Nat Nat Nat) outcome
        calls ((run ThreadPool.advance (jobPool oneFault threeJobs quietThreads)
          overlap).state.netns 1) := by
  obtain ⟨-, hends, hran⟩ := ranIn_of_schedule fresh_quietThreads working_threeJobs overlap
    (rfl : threeJobs 1 = some (.run "/var/run/netns/a" (.read fun s => some (s.netns 1))))
  obtain ⟨result, hended⟩ := hends 7 ⟨1, Task.within_atomic _, le_refl _⟩ (by decide)
  obtain ⟨outcome, calls, rfl, -, hwhere⟩ := hran result hended
  exact ⟨outcome, calls, hended, hwhere⟩

/-- The descriptors that a result tells of. -/
def NetnsResult.left (leak : Option T → Nat) : Option (NetnsResult T) → Nat
  | some (.ran outcome) => leaked leak outcome
  | some (.created _) | none => 0

omit [DecidableEq τ] in
theorem count_of_leavesBehind {start last : ThreadView τ ν} {job : Option (NetnsJob τ ν T)}
    {result : Option (NetnsResult T)} (hstart : start.descriptors = ∅)
    (h : LeavesBehind system home leak F start job result last) :
    Descriptors.count last.descriptors = NetnsResult.left leak result := by
  match job, result, h with
  | none, none, h =>
    rw [h, hstart]
    rfl
  | some (.run _ _), some (.ran _), h => exact h.1
  | some (.create _), some (.created _), h =>
    rw [h.1, hstart]
    rfl

/-- Every open descriptor belongs to a thread. -/
theorem count_eq_sum {table : Descriptors (Opened τ ν)} {threads : Finset τ}
    (h : ∀ t, t ∉ threads → openedBy t table = ∅) :
    Descriptors.count table = ∑ t ∈ threads, Descriptors.count (openedBy t table) := by
  have hkeys : table.keys = threads.biUnion fun t => (openedBy t table).keys := by
    ext fd
    simp only [Finset.mem_biUnion, Finmap.mem_keys, Finmap.mem_iff, lookup_openedBy_eq_some_iff]
    constructor
    · rintro ⟨descriptor, hlookup⟩
      refine ⟨descriptor.resource.opener, ?_, descriptor, hlookup, rfl⟩
      by_contra hnot
      have hopened := lookup_openedBy_eq_some_iff.mpr ⟨hlookup, rfl⟩
      rw [h _ hnot, Finmap.lookup_empty] at hopened
      cases hopened
    · rintro ⟨t, -, descriptor, hlookup, -⟩
      exact ⟨descriptor, hlookup⟩
  rw [Descriptors.count, hkeys, Finset.card_biUnion]
  · rfl
  · refine fun t _ u _ htu => Finset.disjoint_left.mpr fun fd ht hu => ?_
    obtain ⟨descriptor, hlookup⟩ := Finmap.mem_iff.mp (Finmap.mem_keys.mp ht)
    obtain ⟨descriptor', hlookup'⟩ := Finmap.mem_iff.mp (Finmap.mem_keys.mp hu)
    obtain ⟨hfd, rfl⟩ := lookup_openedBy_eq_some_iff.mp hlookup
    obtain ⟨hfd', rfl⟩ := lookup_openedBy_eq_some_iff.mp hlookup'
    obtain rfl := Option.some.inj (hfd.symm.trans hfd')
    exact htu rfl

/-- Once the threads that were scheduled have ended, the descriptors that are open are those of
the beginning and the ones that the results tell of: one for a namespace that could not be
opened, two for one that could not be entered, and what the closures leave. -/
theorem count_of_schedule (hfresh : Fresh system home s)
    (hjobs : Working system home leak F jobs) {schedule : List τ}
    {results : τ → Option (NetnsResult T)}
    (hended : ∀ t ∈ schedule, (run ThreadPool.advance (jobPool system jobs s) schedule).tasks t =
      .done (results t)) :
    Descriptors.count
        (run ThreadPool.advance (jobPool system jobs s) schedule).state.table =
      Descriptors.count s.table +
        ∑ t ∈ schedule.toFinset, NetnsResult.left leak (results t) := by
  have howned := (owned_jobPool hfresh hjobs).run schedule
  set last := run ThreadPool.advance (jobPool system jobs s) schedule
  -- the main thread has no work, so its descriptors are those of the beginning
  have hidle : last.tasks system.main = .done none := by
    refine ThreadPool.done_run ?_ schedule
    rw [jobPool]
    dsimp only
    rw [hjobs.main]
  have hmain : openedBy system.main last.state.table = s.table := by
    have hleaves := howned.ended hidle
    rw [hjobs.main] at hleaves
    refine (congrArg ThreadView.descriptors hleaves).trans (Finmap.ext_lookup fun fd => ?_)
    apply Option.ext
    intro descriptor
    exact lookup_openedBy_eq_some_iff.trans ⟨And.left, fun h => ⟨h, hfresh.table fd descriptor h⟩⟩
  -- the other threads that were scheduled leave what their results tell of
  have hothers : ∀ t ∈ schedule, t ≠ system.main →
      Descriptors.count (openedBy t last.state.table) = NetnsResult.left leak (results t) :=
    fun t ht hne => count_of_leavesBehind (hfresh.openedBy_eq hne) (howned.ended (hended t ht))
  -- and the threads that were not scheduled have done nothing
  have hunscheduled : ∀ t, t ∉ insert system.main (schedule.toFinset.erase system.main) →
      openedBy t last.state.table = ∅ := by
    intro t ht
    rw [Finset.mem_insert, Finset.mem_erase, List.mem_toFinset, not_or, not_and] at ht
    have hview := (owned_jobPool hfresh hjobs).view_run (ht.2 ht.1)
    exact (congrArg ThreadView.descriptors hview).trans (hfresh.openedBy_eq ht.1)
  have hzero : system.main ∈ schedule.toFinset →
      NetnsResult.left leak (results system.main) = 0 := by
    intro hscheduled
    have hresult := hidle.symm.trans (hended system.main (List.mem_toFinset.mp hscheduled))
    rw [← (Task.done.inj hresult)]
    rfl
  calc Descriptors.count last.state.table
      = ∑ t ∈ insert system.main (schedule.toFinset.erase system.main),
          Descriptors.count (openedBy t last.state.table) := count_eq_sum hunscheduled
    _ = Descriptors.count s.table + ∑ t ∈ schedule.toFinset.erase system.main,
          Descriptors.count (openedBy t last.state.table) := by
        rw [Finset.sum_insert (Finset.notMem_erase _ _), hmain]
    _ = Descriptors.count s.table + ∑ t ∈ schedule.toFinset.erase system.main,
          NetnsResult.left leak (results t) := by
        congr 1
        refine Finset.sum_congr rfl fun t ht => ?_
        rw [Finset.mem_erase, List.mem_toFinset] at ht
        exact hothers t ht.2 ht.1
    _ = Descriptors.count s.table +
          ∑ t ∈ schedule.toFinset, NetnsResult.left leak (results t) := by
        by_cases hscheduled : system.main ∈ schedule.toFinset
        · rw [Finset.sum_erase schedule.toFinset (hzero hscheduled)]
        · rw [Finset.erase_eq_of_notMem hscheduled]

/-- The second thread leaves the descriptor of its own namespace open. -/
theorem count_of_overlap :
    Descriptors.count
        (run ThreadPool.advance (jobPool oneFault threeJobs quietThreads) overlap).state.table =
      Descriptors.count quietThreads.table + 1 := by
  refine (count_of_schedule fresh_quietThreads working_threeJobs ?_).trans
    (rfl : _ + ∑ t ∈ overlap.toFinset, NetnsResult.left (fun _ => 0) (overlapResults t) = _)
  intro t ht
  have ht : t = 1 ∨ t = 2 ∨ t = 3 := by
    revert t
    decide
  obtain rfl | rfl | rfl := ht
  · rfl
  · rfl
  · rfl

/-- Where namespaces that are created are new, a thread that has created one is in it, but what
it has mounted is the namespace of the main thread. No thread mounts a namespace that was
created. -/
theorem mounts_of_schedule (hfresh : Fresh system home s)
    (hjobs : Working system home leak F jobs) (hnew : ∀ n, system.unshared n ≠ home)
    (schedule : List τ) {result : Option (NetnsResult T)}
    (hended : (run ThreadPool.advance (jobPool system jobs s) schedule).tasks t = .done result) :
    (∀ nsPath, jobs t = some (.create nsPath) → result = some (.created (.ok ())) →
      (run ThreadPool.advance (jobPool system jobs s) schedule).state.mounts t =
        s.mounts t ++ [(nsPath, home)] ∧
      ∃ n, (run ThreadPool.advance (jobPool system jobs s) schedule).state.netns t =
        system.unshared n ∧ system.unshared n ≠ home) ∧
    ∀ mount ∈ (run ThreadPool.advance (jobPool system jobs s) schedule).state.mounts t,
      mount ∈ s.mounts t ∨ mount.2 = home := by
  have hleaves := ((owned_jobPool hfresh hjobs).run schedule).ended hended
  set last := run ThreadPool.advance (jobPool system jobs s) schedule
  generalize jobs t = job at hleaves
  constructor
  · rintro nsPath rfl rfl
    obtain ⟨-, calls, mounts, -, hmounts, hcreated⟩ := hleaves
    generalize hnetns : (last.state.view t).netns = there at hcreated
    cases hcreated with
    | created hunshared hmounted => exact ⟨hmounts, _, hnetns, hnew _⟩
  · intro mount hmount
    have hadded : ∃ mounts, last.state.mounts t = s.mounts t ++ mounts ∧
        ∀ mount ∈ mounts, mount.2 = home := by
      match job, result, hleaves with
      | none, none, h =>
        exact ⟨[], (congrArg ThreadView.mounts h).trans (List.append_nil _).symm, by simp⟩
      | some (.run _ _), some (.ran _), h =>
        exact ⟨[], h.2.1.trans (List.append_nil _).symm, by simp⟩
      | some (.create nsPath), some (.created _), h =>
        obtain ⟨-, calls, mounts, -, hmounts, hcreated⟩ := h
        exact ⟨mounts, hmounts, hcreated.mounts_home⟩
    obtain ⟨mounts, hmounts, hhome⟩ := hadded
    rw [hmounts, List.mem_append] at hmount
    exact hmount.imp_right (hhome mount)

/-- A namespace is created while two threads work. -/
theorem mounts_of_overlap :
    (run ThreadPool.advance (jobPool oneFault threeJobs quietThreads) overlap).state.mounts 3 =
        [("/var/run/netns/c", 0)] ∧
      ∃ n, (run ThreadPool.advance (jobPool oneFault threeJobs quietThreads) overlap).state.netns
        3 = n + 100 ∧ n + 100 ≠ 0 := by
  have hnew : ∀ n, oneFault.unshared n ≠ 0 := fun n => Nat.succ_ne_zero _
  have hended : (run ThreadPool.advance (jobPool oneFault threeJobs quietThreads) overlap).tasks
      3 = .done (overlapResults 3) := rfl
  exact (mounts_of_schedule fresh_quietThreads working_threeJobs hnew overlap hended).1
    "/var/run/netns/c" rfl rfl

end Results

end Segwire.Daemon
