import Segwire.Foundation.Process
import Segwire.Foundation.ThreadPool

/-!
# Threads that switch namespaces

The daemon enters a namespace on a thread of its own: the thread opens its own namespace and
the other one, switches, does its work, and switches back. All threads share the descriptors of
the process, and each system call may fail.

`/proc/self` is the directory of the process, and what it shows of a thread is what its main
thread has.

The calls of all threads are numbered in the order in which they are made, and each thread has
the list of its own. So it can be told which call has opened a namespace and which one should
have led back.

## Main definitions

* `Threads` — what the threads share, and `ThreadSystem`, what their calls meet
* `openNsFd`, `closeFd`, `setns` — system calls of a thread
* `runInNamespace`, `createNetns` — the threads of the daemon
* `ThreadView` — the part of the state that belongs to a thread
* `RanIn`, `CreatedIn` — how a thread ends, by the outcomes of its calls

## Main results

* `owns_runInNamespace`, `owns_createNetns` — the threads touch nothing but their own
-/

namespace Segwire.Daemon

open Foundation

/-- What an open descriptor refers to, and the thread that opened it. -/
structure Opened (τ ν : Type) where
  object : FileObject ν
  opener : τ
  deriving DecidableEq

/-- What the threads of the process share: the namespace of each of them, the descriptors, the
namespaces that each of them has mounted on a path, the number of system calls so far, and the
numbers of those that each of them has made. -/
structure Threads (τ ν : Type) where
  netns : τ → ν
  table : Descriptors (Opened τ ν)
  mounts : τ → List (String × ν)
  calls : Nat
  made : τ → List Nat

/-- What the calls meet: what a path names and which call fails may change with every call.
`unshared` is the namespace that a call makes. -/
structure ThreadSystem (τ ν : Type) where
  main : τ
  file : Nat → String → Except String (FileObject ν)
  unshared : Nat → ν
  numbering : Numbering
  faults : Nat → Option String

/-- Why the work in a namespace was not done. -/
inductive NamespaceError
  | openCurrent (e : String)
  | openTarget (e : String)
  | setns (e : String)
  | panicked
  deriving DecidableEq, Repr

/-- The text of the error. -/
def NamespaceError.display : NamespaceError → String
  | .openCurrent e => "open current ns: " ++ e
  | .openTarget e => "open target ns: " ++ e
  | .setns e => "setns to target: " ++ e
  | .panicked => "namespace thread panicked"

/-- The namespace of the process, as a file. -/
def PROC_SELF_NS : String := "/proc/self/ns/net"

section Calls

variable {τ ν : Type} [DecidableEq τ] (system : ThreadSystem τ ν) (t : τ)

/-- What a path names. -/
def ThreadSystem.resolve (s : Threads τ ν) (path : String) : Except String (FileObject ν) :=
  -- the directory of the process shows its main thread
  if path = PROC_SELF_NS then .ok (.netns (s.netns system.main)) else system.file s.calls path

/-- The thread has made a system call. -/
def Threads.tick (s : Threads τ ν) : Threads τ ν :=
  { s with calls := s.calls + 1, made := Function.update s.made t (s.made t ++ [s.calls]) }

/-- The error of an open that fails. -/
def openError (path e : String) : String := "open ns fd " ++ path ++ ": " ++ e

/-- Open a namespace file descriptor (read-only, close-on-exec). -/
def openNsFd (path : String) : Task (Threads τ ν) (Except String Nat) :=
  .atomic fun s =>
    match system.faults s.calls, system.resolve s path with
    | some e, _ | none, .error e => (.error (openError path e), s.tick t)
    | none, .ok object =>
      let (fd, table) := s.table.openWith system.numbering ⟨⟨object, t⟩, true⟩
      (.ok fd, { s.tick t with table })

/-- Close a raw file descriptor. It is closed even where the call reports an error. -/
def closeFd (fd : Nat) : Task (Threads τ ν) Unit :=
  .atomic fun s => ((), { s.tick t with table := s.table.close fd })

/-- Switch the network namespace of the thread. -/
def setns (fd : Nat) : Task (Threads τ ν) (Except String Unit) :=
  .atomic fun s =>
    match system.faults s.calls, s.table.lookup fd with
    | some e, _ => (.error e, s.tick t)
    | none, none => (.error "EBADF: Bad file number", s.tick t)
    | none, some ⟨⟨.other, _⟩, _⟩ => (.error "EINVAL: Invalid argument", s.tick t)
    | none, some ⟨⟨.netns ns, _⟩, _⟩ =>
      (.ok (), { s.tick t with netns := Function.update s.netns t ns })

/-- Create a network namespace for the thread only. -/
def unshare : Task (Threads τ ν) (Except String Unit) :=
  .atomic fun s =>
    match system.faults s.calls with
    | some e => (.error e, s.tick t)
    | none =>
      (.ok (), { s.tick t with netns := Function.update s.netns t (system.unshared s.calls) })

/-- Bind-mount the namespace that a path names onto another path. -/
def mountNs (src path : String) : Task (Threads τ ν) (Except String Unit) :=
  .atomic fun s =>
    match system.faults s.calls, system.resolve s src with
    | some e, _ | none, .error e => (.error e, s.tick t)
    -- binding something else onto the path makes no namespace of it
    | none, .ok .other => (.ok (), s.tick t)
    | none, .ok (.netns ns) =>
      (.ok (), { s.tick t with mounts := Function.update s.mounts t (s.mounts t ++ [(path, ns)]) })

/-- Run a closure inside the given namespace's network context, on the thread `t`. A closure
that ends in `none` has panicked. -/
def runInNamespace {T : Type} (nsPath : String) (f : Task (Threads τ ν) (Option T)) :
    Task (Threads τ ν) (Except NamespaceError T) := do
  match ← openNsFd system t PROC_SELF_NS with
  | .error e => return .error (.openCurrent e)
  | .ok origNs =>
    match ← openNsFd system t nsPath with
    -- from here on, returning early leaves `origNs` open
    | .error e => return .error (.openTarget e)
    | .ok targetNs =>
      match ← setns system t targetNs with
      | .error e => return .error (.setns e)
      | .ok () =>
        closeFd t targetNs
        match ← f with
        -- the thread unwinds, and what follows is not reached
        | none => return .error .panicked
        | some result =>
          -- restoring the original namespace may fail, which is only logged
          let _ ← setns system t origNs
          closeFd t origNs
          return .ok result

/-- Create a new named network namespace, on the thread `t`. -/
def createNetns (nsPath : String) : Task (Threads τ ν) (Except String Unit) := do
  match ← unshare system t with
  | .error e => return .error ("unshare(CLONE_NEWNET) failed: " ++ e)
  | .ok () =>
    -- what is mounted is looked up under the process, not under the thread
    match ← mountNs system t PROC_SELF_NS nsPath with
    | .error e => return .error ("bind mount failed: " ++ e)
    | .ok () => return .ok ()

end Calls

/-! ### What belongs to a thread -/

/-- What belongs to a thread: the namespace it is in, the descriptors that it has opened and
not closed, the namespaces that it has mounted, and the numbers of its calls. -/
@[ext] structure ThreadView (τ ν : Type) where
  netns : ν
  descriptors : Descriptors (Opened τ ν)
  mounts : List (String × ν)
  calls : List Nat

/-- The thread after one more call. -/
def ThreadView.after {τ ν : Type} (c : ThreadView τ ν) (n : Nat) : ThreadView τ ν :=
  { c with calls := c.calls ++ [n] }

section Views

variable {τ ν : Type} [DecidableEq τ]

/-- The descriptors that a thread has opened. -/
def openedBy (t : τ) (table : Descriptors (Opened τ ν)) : Descriptors (Opened τ ν) :=
  table.retain fun _ descriptor => descriptor.resource.opener = t

/-- The part of the state that belongs to a thread. -/
def Threads.view (t : τ) (s : Threads τ ν) : ThreadView τ ν :=
  ⟨s.netns t, openedBy t s.table, s.mounts t, s.made t⟩

variable {t u : τ} {s : Threads τ ν} {table : Descriptors (Opened τ ν)}
  {descriptor : Descriptor (Opened τ ν)} {fd : Nat}

theorem lookup_openedBy_eq_some_iff :
    (openedBy t table).lookup fd = some descriptor ↔
      table.lookup fd = some descriptor ∧ descriptor.resource.opener = t := by
  rw [openedBy, HashMap.lookup_retain, Option.filter_eq_some_iff, decide_eq_true_eq]

/-- A thread gets a descriptor of its own. -/
theorem openedBy_openWith_self (numbering : Numbering) (h : descriptor.resource.opener = t) :
    openedBy t (table.openWith numbering descriptor).2 =
      (openedBy t table).insert (table.openWith numbering descriptor).1 descriptor := by
  apply Finmap.ext_lookup
  intro fd
  rw [openedBy, HashMap.lookup_retain, HashMap.lookup_insert_eq_ite]
  split_ifs with hfd
  · rw [hfd, Descriptors.lookup_openWith_self]
    simp [h]
  · rw [Descriptors.lookup_openWith_of_ne _ _ _ hfd, openedBy, HashMap.lookup_retain]

/-- Its number is not among those that the thread has. -/
theorem fst_openWith_notMem_openedBy (numbering : Numbering) :
    (table.openWith numbering descriptor).1 ∉ openedBy t table := by
  rw [← Finmap.lookup_eq_none, openedBy, HashMap.lookup_retain,
    Finmap.lookup_eq_none.mpr (Descriptors.fst_openWith_notMem numbering table descriptor)]
  rfl

/-- The other threads do not notice. -/
theorem openedBy_openWith_of_ne (numbering : Numbering) (h : descriptor.resource.opener ≠ u) :
    openedBy u (table.openWith numbering descriptor).2 = openedBy u table := by
  apply Finmap.ext_lookup
  intro fd
  rw [openedBy, openedBy, HashMap.lookup_retain, HashMap.lookup_retain]
  by_cases hfd : fd = (table.openWith numbering descriptor).1
  · rw [hfd, Descriptors.lookup_openWith_self, Finmap.lookup_eq_none.mpr
      (Descriptors.fst_openWith_notMem numbering table descriptor)]
    simp [h]
  · rw [Descriptors.lookup_openWith_of_ne _ _ _ hfd]

theorem openedBy_close : openedBy t (table.close fd) = (openedBy t table).close fd := by
  apply Finmap.ext_lookup
  intro fd'
  rw [openedBy, HashMap.lookup_retain, Descriptors.close, Descriptors.close,
    HashMap.lookup_erase_eq_ite, HashMap.lookup_erase_eq_ite, openedBy, HashMap.lookup_retain]
  split_ifs with hfd
  · rfl
  · rfl

/-- What a thread closes of its own, no other thread has. -/
theorem openedBy_close_of_ne (hfd : fd ∈ openedBy t table) (hu : u ≠ t) :
    openedBy u (table.close fd) = openedBy u table := by
  obtain ⟨descriptor, hlookup⟩ := Finmap.mem_iff.mp hfd
  obtain ⟨hlookup, hopener⟩ := lookup_openedBy_eq_some_iff.mp hlookup
  rw [openedBy_close]
  apply Finmap.ext_lookup
  intro fd'
  rw [Descriptors.close, HashMap.lookup_erase_eq_ite]
  split_ifs with heq
  · rw [heq, openedBy, HashMap.lookup_retain, hlookup]
    symm
    simp [hopener, hu.symm]
  · rfl

/-! ### The calls keep to their thread -/

variable {system : ThreadSystem τ ν} {home : ν} {c : ThreadView τ ν} {object : FileObject ν}
  {ns : ν} {closeOnExec : Bool}

/-- The namespace of the main thread. -/
def AtHome (system : ThreadSystem τ ν) (home : ν) (s : Threads τ ν) : Prop :=
  s.netns system.main = home

/-- What the call with the number `n` opens under a path: the namespace of the process, or what
the path names then. -/
def ThreadSystem.opens (system : ThreadSystem τ ν) (home : ν) (n : Nat) (path : String) :
    Except String (FileObject ν) :=
  match system.faults n with
  | some e => .error e
  | none => if path = PROC_SELF_NS then .ok (.netns home) else system.file n path

/-- Where the call with the number `n` switches to, given what the descriptor refers to. -/
def ThreadSystem.switches (system : ThreadSystem τ ν) (n : Nat) :
    FileObject ν → Except String ν
  | .netns ns => (system.faults n).elim (.ok ns) .error
  | .other => .error ((system.faults n).getD "EINVAL: Invalid argument")

omit [DecidableEq τ] in
theorem switches_of_fault {n : Nat} {e : String} (h : system.faults n = some e) :
    system.switches n object = .error e := by
  cases object with
  | netns ns => rw [ThreadSystem.switches, h, Option.elim_some]
  | other => rw [ThreadSystem.switches, h, Option.getD_some]

omit [DecidableEq τ] in
/-- A call that does not fail switches to a namespace. -/
theorem switches_eq_ok_iff {n : Nat} :
    system.switches n object = .ok ns ↔ system.faults n = none ∧ object = .netns ns := by
  cases hfault : system.faults n with
  | some e => simp [switches_of_fault hfault]
  | none => cases object <;> simp [ThreadSystem.switches, hfault]

theorem view_tick_self : (s.tick t).view t = (s.view t).after s.calls :=
  ThreadView.ext rfl rfl rfl (Function.update_self _ _ _)

theorem view_tick_of_ne (hu : u ≠ t) : (s.tick t).view u = s.view u :=
  ThreadView.ext rfl rfl rfl (Function.update_of_ne hu _ _)

omit [DecidableEq τ] in
theorem resolve_eq (hs : AtHome system home s) (path : String) :
    system.resolve s path =
      if path = PROC_SELF_NS then .ok (.netns home) else system.file s.calls path := by
  rw [ThreadSystem.resolve, hs]

/-- What an open leaves to the thread: nothing new, or a descriptor of what it has opened. -/
theorem owns_openNsFd (path : String) :
    (openNsFd system t path).Owns Threads.view (AtHome system home) t c fun result c' =>
      ∃ n, match system.opens home n path with
        | .error e => result = .error (openError path e) ∧ c' = c.after n
        | .ok object => ∃ fd, result = .ok fd ∧ fd ∉ c.descriptors ∧
            c' = { c.after n with
              descriptors := c.descriptors.insert fd ⟨⟨object, t⟩, true⟩ } := by
  apply Task.owns_atomic
  rintro s hs rfl
  have hopens : system.opens home s.calls path = match system.faults s.calls with
      | some e => .error e
      | none => system.resolve s path := by
    rw [resolve_eq hs, ThreadSystem.opens]
  dsimp only
  split
  · rename_i e hfault
    refine ⟨hs, fun u hu => view_tick_of_ne hu, s.calls, ?_⟩
    rw [hopens, hfault]
    exact ⟨rfl, view_tick_self⟩
  · rename_i e hfault hresolve
    refine ⟨hs, fun u hu => view_tick_of_ne hu, s.calls, ?_⟩
    rw [hopens, hfault]
    dsimp only
    rw [hresolve]
    exact ⟨rfl, view_tick_self⟩
  · rename_i object hfault hresolve
    refine ⟨hs, fun u hu => ?_, s.calls, ?_⟩
    · exact ThreadView.ext rfl (openedBy_openWith_of_ne system.numbering (Ne.symm hu)) rfl
        (Function.update_of_ne hu _ _)
    · rw [hopens, hfault]
      dsimp only
      rw [hresolve]
      exact ⟨_, rfl, fst_openWith_notMem_openedBy system.numbering,
        ThreadView.ext rfl (openedBy_openWith_self system.numbering rfl) rfl
          (Function.update_self _ _ _)⟩

/-- A descriptor of its own that the thread closes is gone. -/
theorem owns_closeFd (hfd : fd ∈ c.descriptors) :
    (closeFd t fd : Task (Threads τ ν) Unit).Owns Threads.view (AtHome system home) t c
      fun _ c' => ∃ n, c' = { c.after n with descriptors := c.descriptors.erase fd } := by
  apply Task.owns_atomic
  rintro s hs rfl
  refine ⟨hs, fun u hu => ?_, s.calls, ?_⟩
  · exact ThreadView.ext rfl (openedBy_close_of_ne hfd hu) rfl (Function.update_of_ne hu _ _)
  · exact ThreadView.ext rfl openedBy_close rfl (Function.update_self _ _ _)

/-- Switching to a descriptor of its own leaves the thread where it is, or in the namespace of
the descriptor. -/
theorem owns_setns (ht : t ≠ system.main)
    (hfd : c.descriptors.lookup fd = some ⟨⟨object, t⟩, closeOnExec⟩) :
    (setns system t fd).Owns Threads.view (AtHome system home) t c fun result c' =>
      ∃ n, match system.switches n object with
        | .error e => result = .error e ∧ c' = c.after n
        | .ok ns => result = .ok () ∧ c' = { c.after n with netns := ns } := by
  apply Task.owns_atomic
  rintro s hs rfl
  obtain ⟨hlookup, -⟩ := lookup_openedBy_eq_some_iff.mp hfd
  dsimp only
  rw [hlookup]
  cases hfault : system.faults s.calls with
  | some e =>
    refine ⟨hs, fun u hu => view_tick_of_ne hu, s.calls, ?_⟩
    rw [switches_of_fault hfault]
    exact ⟨rfl, view_tick_self⟩
  | none =>
    cases object with
    | other =>
      refine ⟨hs, fun u hu => view_tick_of_ne hu, s.calls, ?_⟩
      rw [ThreadSystem.switches, hfault]
      exact ⟨rfl, view_tick_self⟩
    | netns ns =>
      refine ⟨(Function.update_of_ne ht.symm _ _).trans hs, fun u hu => ?_, s.calls, ?_⟩
      · exact ThreadView.ext (Function.update_of_ne hu _ _) rfl rfl (Function.update_of_ne hu _ _)
      · rw [switches_eq_ok_iff.mpr ⟨hfault, rfl⟩]
        exact ⟨rfl, ThreadView.ext (Function.update_self _ _ _) rfl rfl
          (Function.update_self _ _ _)⟩

/-! ### The threads -/

section RunInNamespace

variable {T : Type} {f : Task (Threads τ ν) (Option T)} {leak : Option T → Nat}
  {F : ν → Option T → Prop}

/-- A closure stays in the namespace that it is run in and keeps the descriptors that are open,
but may leave descriptors of its own. With the namespace, its result satisfies `F`. -/
def Behaves (system : ThreadSystem τ ν) (home : ν) (t : τ) (leak : Option T → Nat)
    (F : ν → Option T → Prop) (f : Task (Threads τ ν) (Option T)) : Prop :=
  ∀ c, f.Owns Threads.view (AtHome system home) t c fun result c' =>
    c'.netns = c.netns ∧ c'.mounts = c.mounts ∧ (∃ inner, c'.calls = c.calls ++ inner) ∧
      (∀ fd ∈ c.descriptors, c'.descriptors.lookup fd = c.descriptors.lookup fd) ∧
      Descriptors.count c'.descriptors = Descriptors.count c.descriptors + leak result ∧
      F c.netns result

/-- The descriptors that are left open, where the closure leaves `leak`. -/
def leaked (leak : Option T → Nat) : Except NamespaceError T → Nat
  | .ok result => leak (some result)
  | .error (.openCurrent _) => 0
  | .error (.openTarget _) => 1
  | .error (.setns _) => 2
  | .error .panicked => leak none + 1

/-- Three calls that lead into a namespace: the first one opens the namespace of the process,
the second one the path, which names `ns` then, and the third one switches. -/
structure Entered (system : ThreadSystem τ ν) (home : ν) (path : String) (ns : ν)
    (n₁ n₂ n₃ : Nat) : Prop where
  current : system.faults n₁ = none
  target : system.opens home n₂ path = .ok (.netns ns)
  switched : system.faults n₃ = none

/-- How a thread that runs a closure ends, with the numbers of its calls and the namespace that
it is in at the end. The way back is the last call but one, before the close: the thread is
back if that call succeeds, and else still where the closure was run. -/
inductive RanIn (system : ThreadSystem τ ν) (home start : ν) (path : String)
    (F : ν → Option T → Prop) : Except NamespaceError T → List Nat → ν → Prop
  | openCurrent {n₁ : Nat} {e : String} (hfault : system.faults n₁ = some e) :
    RanIn system home start path F (.error (.openCurrent (openError PROC_SELF_NS e))) [n₁] start
  | openTarget {n₁ n₂ : Nat} {e : String} (hcurrent : system.faults n₁ = none)
    (hfault : system.opens home n₂ path = .error e) :
    RanIn system home start path F (.error (.openTarget (openError path e))) [n₁, n₂] start
  | setns {n₁ n₂ n₃ : Nat} {object : FileObject ν} {e : String}
    (hcurrent : system.faults n₁ = none) (htarget : system.opens home n₂ path = .ok object)
    (hfault : system.switches n₃ object = .error e) :
    RanIn system home start path F (.error (.setns e)) [n₁, n₂, n₃] start
  | panicked {n₁ n₂ n₃ n₄ : Nat} {inner : List Nat} {ns : ν}
    (hentered : Entered system home path ns n₁ n₂ n₃) (hran : F ns none) :
    RanIn system home start path F (.error .panicked) ([n₁, n₂, n₃, n₄] ++ inner) ns
  | back {n₁ n₂ n₃ n₄ n₅ n₆ : Nat} {inner : List Nat} {ns : ν} {result : T}
    (hentered : Entered system home path ns n₁ n₂ n₃) (hran : F ns (some result))
    (hrestored : system.faults n₅ = none) :
    RanIn system home start path F (.ok result) ([n₁, n₂, n₃, n₄] ++ inner ++ [n₅, n₆]) home
  | stuck {n₁ n₂ n₃ n₄ n₅ n₆ : Nat} {inner : List Nat} {ns : ν} {result : T} {e : String}
    (hentered : Entered system home path ns n₁ n₂ n₃) (hran : F ns (some result))
    (hfault : system.faults n₅ = some e) :
    RanIn system home start path F (.ok result) ([n₁, n₂, n₃, n₄] ++ inner ++ [n₅, n₆]) ns

omit [DecidableEq τ] in
theorem opens_proc_self {n : Nat} : system.opens home n PROC_SELF_NS =
    (system.faults n).elim (.ok (.netns home)) .error := by
  unfold ThreadSystem.opens
  cases system.faults n with
  | some e => rfl
  | none => exact if_pos rfl

/-- The way back: the last but one call decides whether the thread is back. -/
theorem owns_wayBack {origNs : Nat} {result : T} (ht : t ≠ system.main)
    (horig : c.descriptors.lookup origNs = some ⟨⟨.netns home, t⟩, true⟩) :
    (do
      let _ ← setns system t origNs
      closeFd t origNs
      return .ok result : Task (Threads τ ν) (Except NamespaceError T)).Owns Threads.view
        (AtHome system home) t c fun outcome c' => outcome = .ok result ∧
          c'.descriptors = c.descriptors.erase origNs ∧ c'.mounts = c.mounts ∧
          ∃ n₅ n₆, c'.calls = c.calls ++ [n₅, n₆] ∧
            (system.faults n₅ = none ∧ c'.netns = home ∨
              (∃ e, system.faults n₅ = some e) ∧ c'.netns = c.netns) := by
  refine (owns_setns ht horig).bind ?_
  rintro restored c₁ ⟨n₅, h₁⟩
  have hlast : c₁.descriptors = c.descriptors ∧ c₁.mounts = c.mounts ∧
      c₁.calls = c.calls ++ [n₅] ∧ (system.faults n₅ = none ∧ c₁.netns = home ∨
        (∃ e, system.faults n₅ = some e) ∧ c₁.netns = c.netns) := by
    cases hfault : system.faults n₅ with
    | some e =>
      rw [switches_of_fault hfault] at h₁
      obtain ⟨-, rfl⟩ := h₁
      exact ⟨rfl, rfl, rfl, .inr ⟨⟨e, rfl⟩, rfl⟩⟩
    | none =>
      rw [switches_eq_ok_iff.mpr ⟨hfault, rfl⟩] at h₁
      obtain ⟨-, rfl⟩ := h₁
      exact ⟨rfl, rfl, rfl, .inl ⟨rfl, rfl⟩⟩
  obtain ⟨hdescriptors, hmounts, hcalls, hnetns⟩ := hlast
  have hopen : origNs ∈ c₁.descriptors := by
    rw [hdescriptors]
    exact Finmap.mem_of_lookup_eq_some horig
  refine (owns_closeFd hopen).bind ?_
  rintro ⟨⟩ c₂ ⟨n₆, rfl⟩
  refine Task.owns_done ⟨rfl, congrArg (Finmap.erase origNs) hdescriptors, hmounts, n₅, n₆, ?_,
    hnetns⟩
  change c₁.calls ++ [n₆] = _
  rw [hcalls, List.append_assoc]
  rfl

/-- In the namespace: the closure is run there, and then the thread goes back with the one
descriptor that it has left. -/
theorem owns_inside (start : ν) {origNs targetNs n₁ n₂ n₃ : Nat} {nsPath : String}
    {target : Descriptor (Opened τ ν)} (ht : t ≠ system.main)
    (hf : Behaves system home t leak F f) (hentered : Entered system home nsPath ns n₁ n₂ n₃)
    (hnetns : c.netns = ns)
    (hdescriptors : c.descriptors = ((∅ : Descriptors (Opened τ ν)).insert origNs
      ⟨⟨.netns home, t⟩, true⟩).insert targetNs target)
    (htargetNs : targetNs ∉
      (∅ : Descriptors (Opened τ ν)).insert origNs ⟨⟨.netns home, t⟩, true⟩) :
    (do
      closeFd t targetNs
      match ← f with
      | none => return .error .panicked
      | some result =>
        let _ ← setns system t origNs
        closeFd t origNs
        return .ok result : Task (Threads τ ν) (Except NamespaceError T)).Owns Threads.view
        (AtHome system home) t c fun outcome c' =>
          Descriptors.count c'.descriptors = leaked leak outcome ∧ c'.mounts = c.mounts ∧
          ∃ calls, c'.calls = c.calls ++ calls ∧
            RanIn system home start nsPath F outcome ([n₁, n₂, n₃] ++ calls) c'.netns := by
  have htarget : targetNs ∈ c.descriptors := by
    rw [hdescriptors]
    exact Finmap.mem_insert.mpr (.inl rfl)
  refine (owns_closeFd htarget).bind ?_
  rintro ⟨⟩ c₄ ⟨n₄, rfl⟩
  rw [hdescriptors, Descriptors.erase_insert htargetNs]
  have hone : Descriptors.count
      ((∅ : Descriptors (Opened τ ν)).insert origNs ⟨⟨.netns home, t⟩, true⟩) = 1 :=
    Descriptors.count_insert Finmap.notMem_empty
  refine (hf _).bind ?_
  rintro (- | result) c₅ ⟨hnetns', hmounts, ⟨inner, hinner⟩, hkept, hcount, hF⟩
  · refine Task.owns_done ⟨?_, hmounts, n₄ :: inner, hinner.trans (List.append_assoc _ _ _), ?_⟩
    · rw [hcount, hone, Nat.add_comm]
      rfl
    · subst hnetns
      rw [hnetns']
      exact .panicked hentered hF
  -- the closure has kept the descriptor of the original namespace
  have horigLookup := (hkept origNs (Finmap.mem_insert.mpr (.inl rfl))).trans
    (Finmap.lookup_insert _)
  refine (owns_wayBack ht horigLookup).mono ?_
  rintro outcome c₆ ⟨rfl, hdescriptors', hmounts', n₅, n₆, hcalls, hwhere⟩
  refine ⟨?_, hmounts'.trans hmounts, n₄ :: inner ++ [n₅, n₆], ?_, ?_⟩
  · have hclosed := Descriptors.count_erase (Finmap.mem_of_lookup_eq_some horigLookup)
    rw [hcount, hone] at hclosed
    rw [hdescriptors']
    dsimp only [leaked]
    omega
  · rw [hcalls, hinner]
    simp [ThreadView.after]
  · subst hnetns
    rcases hwhere with ⟨hrestored, hback⟩ | ⟨⟨e, hfault⟩, hstuck⟩
    · rw [hback]
      exact .back hentered hF hrestored
    · rw [hstuck, hnetns']
      exact .stuck hentered hF hfault

/-- The thread leaves the other threads alone. The closure is run in the namespace that the
path names when it is opened, or not at all, and the outcome tells how many descriptors are
left. -/
theorem owns_runInNamespace (ht : t ≠ system.main) (hf : Behaves system home t leak F f)
    (hc : c.descriptors = ∅) (nsPath : String) :
    (runInNamespace system t nsPath f).Owns Threads.view (AtHome system home) t c
      fun outcome c' => Descriptors.count c'.descriptors = leaked leak outcome ∧
        c'.mounts = c.mounts ∧ ∃ calls, c'.calls = c.calls ++ calls ∧
          RanIn system home c.netns nsPath F outcome calls c'.netns := by
  obtain ⟨start, descriptors, mounts, before⟩ := c
  obtain rfl : descriptors = ∅ := hc
  refine (owns_openNsFd PROC_SELF_NS).bind ?_
  rintro opened c₁ ⟨n₁, h₁⟩
  rw [opens_proc_self] at h₁
  cases hcurrent : system.faults n₁ with
  | some e =>
    rw [hcurrent] at h₁
    obtain ⟨rfl, rfl⟩ := h₁
    exact Task.owns_done ⟨rfl, rfl, [n₁], rfl, .openCurrent hcurrent⟩
  | none =>
  rw [hcurrent] at h₁
  obtain ⟨origNs, rfl, horigNs, rfl⟩ := h₁
  refine (owns_openNsFd nsPath).bind ?_
  rintro opened c₂ ⟨n₂, h₂⟩
  cases htarget : system.opens home n₂ nsPath with
  | error e =>
    rw [htarget] at h₂
    obtain ⟨rfl, rfl⟩ := h₂
    exact Task.owns_done ⟨Descriptors.count_insert horigNs, rfl, [n₁, n₂],
      List.append_assoc _ _ _, .openTarget hcurrent htarget⟩
  | ok object =>
  rw [htarget] at h₂
  obtain ⟨targetNs, rfl, htargetNs, rfl⟩ := h₂
  refine (owns_setns ht (Finmap.lookup_insert _)).bind ?_
  rintro switched c₃ ⟨n₃, h₃⟩
  cases hswitches : system.switches n₃ object with
  | error e =>
    rw [hswitches] at h₃
    obtain ⟨rfl, rfl⟩ := h₃
    refine Task.owns_done ⟨?_, rfl, [n₁, n₂, n₃], by simp [ThreadView.after],
      .setns hcurrent htarget hswitches⟩
    change Descriptors.count (Finmap.insert targetNs _ (Finmap.insert origNs _ ∅)) = 2
    rw [Descriptors.count_insert htargetNs, Descriptors.count_insert horigNs]
    rfl
  | ok ns =>
  rw [hswitches] at h₃
  obtain ⟨rfl, rfl⟩ := h₃
  obtain ⟨hswitched, rfl⟩ := switches_eq_ok_iff.mp hswitches
  have hentered : Entered system home nsPath ns n₁ n₂ n₃ := ⟨hcurrent, htarget, hswitched⟩
  refine (owns_inside start ht hf hentered rfl rfl htargetNs).mono ?_
  rintro outcome c₄ ⟨hcount, hmounts, calls, hcalls, hran⟩
  refine ⟨hcount, hmounts, [n₁, n₂, n₃] ++ calls, ?_, hran⟩
  rw [hcalls]
  simp [ThreadView.after]

end RunInNamespace

/-- A thread may leave its namespace for a new one. -/
theorem owns_unshare (ht : t ≠ system.main) :
    (unshare system t).Owns Threads.view (AtHome system home) t c fun result c' =>
      ∃ n, match system.faults n with
        | some e => result = .error e ∧ c' = c.after n
        | none => result = .ok () ∧ c' = { c.after n with netns := system.unshared n } := by
  apply Task.owns_atomic
  rintro s hs rfl
  dsimp only
  cases hfault : system.faults s.calls with
  | some e =>
    refine ⟨hs, fun u hu => view_tick_of_ne hu, s.calls, ?_⟩
    rw [hfault]
    exact ⟨rfl, view_tick_self⟩
  | none =>
    refine ⟨(Function.update_of_ne ht.symm _ _).trans hs, fun u hu => ?_, s.calls, ?_⟩
    · exact ThreadView.ext (Function.update_of_ne hu _ _) rfl rfl (Function.update_of_ne hu _ _)
    · rw [hfault]
      exact ⟨rfl, ThreadView.ext (Function.update_self _ _ _) rfl rfl
        (Function.update_self _ _ _)⟩

/-- What is mounted from `/proc/self` is the namespace of the main thread. -/
theorem owns_mountNs (path : String) :
    (mountNs system t PROC_SELF_NS path).Owns Threads.view (AtHome system home) t c
      fun result c' => ∃ n, match system.faults n with
        | some e => result = .error e ∧ c' = c.after n
        | none =>
          result = .ok () ∧ c' = { c.after n with mounts := c.mounts ++ [(path, home)] } := by
  apply Task.owns_atomic
  rintro s hs rfl
  have hresolve : system.resolve s PROC_SELF_NS = .ok (.netns home) := by
    rw [resolve_eq hs, if_pos rfl]
  dsimp only
  rw [hresolve]
  cases hfault : system.faults s.calls with
  | some e =>
    refine ⟨hs, fun u hu => view_tick_of_ne hu, s.calls, ?_⟩
    rw [hfault]
    exact ⟨rfl, view_tick_self⟩
  | none =>
    refine ⟨hs, fun u hu => ?_, s.calls, ?_⟩
    · exact ThreadView.ext rfl rfl (Function.update_of_ne hu _ _) (Function.update_of_ne hu _ _)
    · rw [hfault]
      exact ⟨rfl, ThreadView.ext rfl rfl (Function.update_self _ _ _)
        (Function.update_self _ _ _)⟩

/-- How a thread that creates a namespace ends, with the numbers of its calls, the namespace that
it is in at the end, and what it has mounted: not what it has created. -/
inductive CreatedIn (system : ThreadSystem τ ν) (home start : ν) (path : String) :
    Except String Unit → List Nat → ν → List (String × ν) → Prop
  | unshare {n₁ : Nat} {e : String} (hfault : system.faults n₁ = some e) :
    CreatedIn system home start path (.error ("unshare(CLONE_NEWNET) failed: " ++ e)) [n₁] start []
  | mount {n₁ n₂ : Nat} {e : String} (hunshared : system.faults n₁ = none)
    (hfault : system.faults n₂ = some e) :
    CreatedIn system home start path (.error ("bind mount failed: " ++ e)) [n₁, n₂]
      (system.unshared n₁) []
  | created {n₁ n₂ : Nat} (hunshared : system.faults n₁ = none)
    (hmounted : system.faults n₂ = none) :
    CreatedIn system home start path (.ok ()) [n₁, n₂] (system.unshared n₁) [(path, home)]

omit [DecidableEq τ] in
theorem CreatedIn.mounts_home {start last : ν} {path : String} {outcome : Except String Unit}
    {calls : List Nat} {mounts : List (String × ν)}
    (h : CreatedIn system home start path outcome calls last mounts) :
    ∀ mount ∈ mounts, mount.2 = home := by
  cases h with
  | unshare _ => simp
  | mount _ _ => simp
  | created _ _ => simp

/-- The thread that creates a namespace leaves the other threads alone. -/
theorem owns_createNetns (ht : t ≠ system.main) (nsPath : String) :
    (createNetns system t nsPath).Owns Threads.view (AtHome system home) t c fun outcome c' =>
      c'.descriptors = c.descriptors ∧ ∃ calls mounts, c'.calls = c.calls ++ calls ∧
        c'.mounts = c.mounts ++ mounts ∧
        CreatedIn system home c.netns nsPath outcome calls c'.netns mounts := by
  refine (owns_unshare ht).bind ?_
  rintro unshared c₁ ⟨n₁, h₁⟩
  cases hunshared : system.faults n₁ with
  | some e =>
    rw [hunshared] at h₁
    obtain ⟨rfl, rfl⟩ := h₁
    exact Task.owns_done ⟨rfl, [n₁], [], rfl, (List.append_nil _).symm, .unshare hunshared⟩
  | none =>
  rw [hunshared] at h₁
  obtain ⟨rfl, rfl⟩ := h₁
  refine (owns_mountNs nsPath).bind ?_
  rintro mounted c₂ ⟨n₂, h₂⟩
  cases hmounted : system.faults n₂ with
  | some e =>
    rw [hmounted] at h₂
    obtain ⟨rfl, rfl⟩ := h₂
    exact Task.owns_done ⟨rfl, [n₁, n₂], [], List.append_assoc _ _ _, (List.append_nil _).symm,
      .mount hunshared hmounted⟩
  | none =>
    rw [hmounted] at h₂
    obtain ⟨rfl, rfl⟩ := h₂
    exact Task.owns_done ⟨rfl, [n₁, n₂], [(nsPath, home)], List.append_assoc _ _ _, rfl,
      .created hunshared hmounted⟩

end Views

/-! ### The threads end -/

section Within

variable {τ ν T : Type} [DecidableEq τ] {system : ThreadSystem τ ν} {t : τ}

theorem within_runInNamespace {f : Task (Threads τ ν) (Option T)} {n : Nat} (hf : f.Within n)
    (nsPath : String) : (runInNamespace system t nsPath f).Within (n + 6) := by
  have hrest : ∀ origNs targetNs, Task.Within (n + 3) (do
      closeFd t targetNs
      match ← f with
      | none => return .error .panicked
      | some result =>
        let _ ← setns system t origNs
        closeFd t origNs
        return .ok result : Task (Threads τ ν) (Except NamespaceError T)) := by
    intro origNs targetNs
    rw [show n + 3 = 1 + (n + (1 + (1 + 0))) by omega]
    refine (Task.within_atomic _).bind fun _ => hf.bind fun result => ?_
    cases result with
    | none => exact Task.within_done _ _
    | some result =>
      exact (Task.within_atomic _).bind fun _ => (Task.within_atomic _).bind fun _ =>
        Task.within_done _ _
  rw [show n + 6 = 1 + (1 + (1 + (n + 3))) by omega]
  refine (Task.within_atomic _).bind fun orig => ?_
  cases orig with
  | error e => exact Task.within_done _ _
  | ok origNs =>
    refine (Task.within_atomic _).bind fun target => ?_
    cases target with
    | error e => exact Task.within_done _ _
    | ok targetNs =>
      refine (Task.within_atomic _).bind fun switched => ?_
      cases switched with
      | error e => exact Task.within_done _ _
      | ok _ => exact hrest origNs targetNs

theorem within_createNetns (nsPath : String) : (createNetns system t nsPath).Within 2 := by
  refine (Task.within_atomic _).bind (n := 1) fun unshared => ?_
  cases unshared with
  | error e => exact Task.within_done _ _
  | ok _ =>
    refine (Task.within_atomic _).bind (n := 0) fun mounted => ?_
    cases mounted with
    | error e => exact Task.within_done _ _
    | ok _ => exact Task.within_done _ _

end Within

end Segwire.Daemon
