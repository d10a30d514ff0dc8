import Mathlib.Order.Basic
import Segwire.Foundation.Descriptors
import Segwire.Foundation.Run

/-!
# Processes and their privileges

What Linux knows of a process with one thread: its identities, the network namespace it is
in, its descriptors, and whether it may still gain privileges by running a program. The calls
that change these follow the documented rules; the effective user 0 stands for the
capabilities that go with it. A call that fails changes nothing.

A process with a user namespace of its own has all capabilities there, whoever it is. What
comes of a call that asks for one is left to the kernel, which may be set up to refuse it.

## Main definitions

* `Ids` — the real, effective and saved identity
* `Process`, `SystemCall`, `Process.perform` — processes and the calls they make
* `ProcessKernel.NoUserNamespaces` — a kernel that refuses user namespaces to ordinary users
* `Process.Dropped` — nothing but the identities of one user and group is left

## Main results

* `Process.Dropped.run` — in no run does a process regain what it has dropped
-/

namespace Foundation

/-- The real, the effective and the saved identity of a process, as a user or as a group. -/
structure Ids where
  real : Nat
  effective : Nat
  saved : Nat
  deriving DecidableEq, Repr

namespace Ids

/-- All three are the same. -/
def all (id : Nat) : Ids := ⟨id, id, id⟩

/-- `id` is one of the three. -/
def Has (ids : Ids) (id : Nat) : Prop := id = ids.real ∨ id = ids.effective ∨ id = ids.saved

instance (ids : Ids) : DecidablePred ids.Has := fun _ => inferInstanceAs (Decidable (_ ∨ _ ∨ _))

/-- Each of the three new identities is one of the old. -/
def Reuses (ids ids' : Ids) : Prop :=
  ids.Has ids'.real ∧ ids.Has ids'.effective ∧ ids.Has ids'.saved

instance (ids : Ids) : DecidablePred ids.Reuses := fun _ => inferInstanceAs (Decidable (_ ∧ _ ∧ _))

theorem has_all_iff {id id' : Nat} : (all id).Has id' ↔ id' = id := by
  simp only [Has, all, or_self]

/-- From one identity there is no way to another. -/
theorem reuses_all_iff {id : Nat} {ids' : Ids} : (all id).Reuses ids' ↔ ids' = all id := by
  obtain ⟨real, effective, saved⟩ := ids'
  rw [Reuses, has_all_iff, has_all_iff, has_all_iff, all, mk.injEq]

/-- The identity that running a program gives: that of its owner if it is set, and the saved
identity is a copy of the effective one. -/
def execute (ids : Ids) (set : Option Nat) : Ids :=
  ⟨ids.real, set.getD ids.effective, set.getD ids.effective⟩

@[simp] theorem execute_all (id : Nat) : (all id).execute none = all id := rfl

end Ids

/-- What a descriptor refers to: a network namespace or anything else. -/
inductive FileObject (ν : Type)
  | netns (ns : ν)
  | other
  deriving DecidableEq, Repr

/-- A program file, with its owner and group where these are set on execution. -/
structure Executable where
  setUserId : Option Nat
  setGroupId : Option Nat
  deriving DecidableEq, Repr

/-- A process. -/
structure Process (ν : Type) where
  uid : Ids
  gid : Ids
  noNewPrivs : Bool
  netns : ν
  descriptors : Descriptors (FileObject ν)

/-- The calls that change a process. `setuid`, `seteuid` and `setreuid` are `setresuid` with
some of its arguments. `clone` is `unshare` with the same flags, seen from the child: `unshare`
has `CLONE_NEWNET` and gives the new namespace, `unshareUser` has `CLONE_NEWUSER`, alone or with
others. -/
inductive SystemCall (ν : Type)
  | setresuid (ids : Ids)
  | setresgid (ids : Ids)
  | setNoNewPrivs
  | openFile (object : FileObject ν) (closeOnExec : Bool)
  | close (fd : Nat)
  | setns (fd : Nat)
  | unshare (ns : ν)
  | unshareUser
  | execve (file : Executable)

namespace Process

variable {ν : Type} (process : Process ν)

/-- A process with the privileges of the superuser. -/
def Privileged : Prop := process.uid.effective = 0

instance : Decidable process.Privileged := inferInstanceAs (Decidable (_ = _))

/-- `setresuid` -/
def setresuid (ids : Ids) : Except String (Process ν) :=
  if process.Privileged ∨ process.uid.Reuses ids then .ok { process with uid := ids }
  else .error "EPERM: Operation not permitted"

/-- `setresgid` -/
def setresgid (ids : Ids) : Except String (Process ν) :=
  if process.Privileged ∨ process.gid.Reuses ids then .ok { process with gid := ids }
  else .error "EPERM: Operation not permitted"

/-- `prctl(PR_SET_NO_NEW_PRIVS, 1, 0, 0, 0)` -/
def setNoNewPrivs : Process ν := { process with noNewPrivs := true }

/-- `open`, for a file that is there. -/
def openFile (numbering : Numbering) (object : FileObject ν) (closeOnExec : Bool) :
    Nat × Process ν :=
  let (fd, descriptors) := process.descriptors.openWith numbering ⟨object, closeOnExec⟩
  (fd, { process with descriptors })

/-- `close` -/
def close (fd : Nat) : Process ν :=
  { process with descriptors := process.descriptors.close fd }

/-- `setns(fd, CLONE_NEWNET)` -/
def setns (fd : Nat) : Except String (Process ν) :=
  match process.descriptors.lookup fd with
  | none => .error "EBADF: Bad file number"
  | some ⟨.other, _⟩ => .error "EINVAL: Invalid argument"
  | some ⟨.netns ns, _⟩ =>
    if process.Privileged then .ok { process with netns := ns }
    else .error "EPERM: Operation not permitted"

/-- `unshare(CLONE_NEWNET)` -/
def unshare (ns : ν) : Except String (Process ν) :=
  if process.Privileged then .ok { process with netns := ns }
  else .error "EPERM: Operation not permitted"

/-- `execve`, for a program that can be run. -/
def execve (file : Executable) : Process ν where
  uid := process.uid.execute (if process.noNewPrivs then none else file.setUserId)
  gid := process.gid.execute (if process.noNewPrivs then none else file.setGroupId)
  noNewPrivs := process.noNewPrivs
  netns := process.netns
  descriptors := process.descriptors.inherited

end Process

/-- What the calls are up to: the number of a descriptor, and what becomes of a process that
asks for a user namespace of its own. -/
structure ProcessKernel (ν : Type) where
  numbering : Numbering
  unshareUser : Process ν → Except String (Process ν)

/-- Without privileges there are no user namespaces, as `user.max_user_namespaces` or
`kernel.unprivileged_userns_clone` may have it. -/
def ProcessKernel.NoUserNamespaces {ν : Type} (kernel : ProcessKernel ν) : Prop :=
  ∀ process, ¬ process.Privileged → ∃ e, kernel.unshareUser process = .error e

namespace Process

variable {ν : Type} (process : Process ν)

/-- A process after a call, whether it succeeds or not. -/
def perform (kernel : ProcessKernel ν) : SystemCall ν → Process ν
  | .setresuid ids => (process.setresuid ids).toOption.getD process
  | .setresgid ids => (process.setresgid ids).toOption.getD process
  | .setNoNewPrivs => process.setNoNewPrivs
  | .openFile object closeOnExec => (process.openFile kernel.numbering object closeOnExec).2
  | .close fd => process.close fd
  | .setns fd => (process.setns fd).toOption.getD process
  | .unshare ns => (process.unshare ns).toOption.getD process
  | .unshareUser => (kernel.unshareUser process).toOption.getD process
  | .execve file => process.execve file

variable {process}

theorem setresuid_eq_ok_iff {ids : Ids} {process' : Process ν} :
    process.setresuid ids = .ok process' ↔
      (process.Privileged ∨ process.uid.Reuses ids) ∧ { process with uid := ids } = process' := by
  unfold setresuid
  split_ifs with h
  · simp [h]
  · simp [h]

theorem setresgid_eq_ok_iff {ids : Ids} {process' : Process ν} :
    process.setresgid ids = .ok process' ↔
      (process.Privileged ∨ process.gid.Reuses ids) ∧ { process with gid := ids } = process' := by
  unfold setresgid
  split_ifs with h
  · simp [h]
  · simp [h]

/-- A process enters a namespace with privileges only. -/
theorem setns_eq_ok_iff {fd : Nat} {process' : Process ν} :
    process.setns fd = .ok process' ↔
      ∃ ns closeOnExec, process.descriptors.lookup fd = some ⟨.netns ns, closeOnExec⟩ ∧
        process.Privileged ∧ { process with netns := ns } = process' := by
  unfold setns
  split
  · rename_i hlookup
    simp [hlookup]
  · rename_i hlookup
    simp [hlookup]
  · rename_i ns closeOnExec hlookup
    split_ifs with h
    · simp [hlookup, h]
    · simp [h]

theorem uid_execve (h : process.noNewPrivs = true) (file : Executable) :
    (process.execve file).uid = process.uid.execute none := by
  rw [execve, h]
  rfl

theorem gid_execve (h : process.noNewPrivs = true) (file : Executable) :
    (process.execve file).gid = process.gid.execute none := by
  rw [execve, h]
  rfl

/-! ### Dropping privileges for good -/

/-- The process is in the namespace `ns`, and nothing is left to it but the identities of one
user and one group: neither a saved identity nor a program could give it another one. -/
structure Dropped (user group : Nat) (ns : ν) (process : Process ν) : Prop where
  uid : process.uid = Ids.all user
  gid : process.gid = Ids.all group
  noNewPrivs : process.noNewPrivs = true
  netns : process.netns = ns

namespace Dropped

variable {user group : Nat} {ns : ν} {kernel : ProcessKernel ν}

theorem not_privileged (h : process.Dropped user group ns) (huser : user ≠ 0) :
    ¬ process.Privileged := by
  rw [Privileged, h.uid]
  exact huser

theorem execve (h : process.Dropped user group ns) (file : Executable) :
    (process.execve file).Dropped user group ns where
  uid := by rw [uid_execve h.noNewPrivs, h.uid, Ids.execute_all]
  gid := by rw [gid_execve h.noNewPrivs, h.gid, Ids.execute_all]
  noNewPrivs := h.noNewPrivs
  netns := h.netns

/-- No call gives anything back to the process of an ordinary user. -/
theorem perform (h : process.Dropped user group ns) (huser : user ≠ 0)
    (hkernel : kernel.NoUserNamespaces) (call : SystemCall ν) :
    (process.perform kernel call).Dropped user group ns := by
  have hprivileged := h.not_privileged huser
  cases call with
  | setresuid ids =>
    rw [Process.perform]
    cases hresult : process.setresuid ids with
    | error e => exact h
    | ok process' =>
      -- without privileges only an identity that the process has, and there is just one
      obtain ⟨hallowed, rfl⟩ := setresuid_eq_ok_iff.mp hresult
      have hreuses := hallowed.resolve_left hprivileged
      rw [h.uid, Ids.reuses_all_iff] at hreuses
      exact ⟨hreuses, h.gid, h.noNewPrivs, h.netns⟩
  | setresgid ids =>
    rw [Process.perform]
    cases hresult : process.setresgid ids with
    | error e => exact h
    | ok process' =>
      obtain ⟨hallowed, rfl⟩ := setresgid_eq_ok_iff.mp hresult
      have hreuses := hallowed.resolve_left hprivileged
      rw [h.gid, Ids.reuses_all_iff] at hreuses
      exact ⟨h.uid, hreuses, h.noNewPrivs, h.netns⟩
  | setNoNewPrivs => exact ⟨h.uid, h.gid, rfl, h.netns⟩
  | openFile object closeOnExec => exact ⟨h.uid, h.gid, h.noNewPrivs, h.netns⟩
  | close fd => exact ⟨h.uid, h.gid, h.noNewPrivs, h.netns⟩
  | setns fd =>
    rw [Process.perform]
    cases hresult : process.setns fd with
    | error e => exact h
    | ok process' =>
      obtain ⟨-, -, -, hsuperuser, -⟩ := setns_eq_ok_iff.mp hresult
      exact absurd hsuperuser hprivileged
  | unshare ns' =>
    rw [Process.perform, Process.unshare, if_neg hprivileged]
    exact h
  | unshareUser =>
    obtain ⟨e, hrefused⟩ := hkernel process hprivileged
    rw [Process.perform, hrefused]
    exact h
  | execve file => exact h.execve file

/-- In no run of calls does the process of an ordinary user regain what it has dropped. -/
theorem run (h : process.Dropped user group ns) (huser : user ≠ 0)
    (hkernel : kernel.NoUserNamespaces) (calls : List (SystemCall ν)) :
    (run (fun process call => process.perform kernel call) process calls).Dropped
      user group ns :=
  run_invariant (Dropped user group ns) (fun _ call h => h.perform huser hkernel call) h calls

end Dropped

end Process

end Foundation
