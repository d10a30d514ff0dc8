import Segwire.Daemon.NamespaceHandlers
import Segwire.Foundation.Run

/-!
# Retrying a failed deletion

A path in the namespace directory is absent, a placeholder file, or a mounted namespace.
Creations and deletions are two steps each, so a fault between them leaves a placeholder,
which neither of them takes away again: a creation finds the name taken, a deletion has
nothing to unmount.

## Main definitions

* `PathState`, `PathState.create`, `PathState.delete` — the life cycle of one path
* `NetlinkManager.call` — a creation or deletion under the faults of the moment
* `NetlinkManager.Retriable` — a deletion and then a creation without faults succeed

## Main results

* `NetlinkManager.createNamespace_refines`, `NetlinkManager.deleteNamespace_refines` — the
  machine takes the steps of the life cycle
* `NetlinkManager.retriesFailed_along_run_iff`
* `NetlinkManager.deletion_not_retriable` — a namespace that is unmounted for good
-/

namespace Segwire.Daemon

open Foundation Segwire.Common

/-! ### The life cycle of a path -/

/-- A path in the namespace directory. -/
inductive PathState
  | absent | placeholder | mounted
  deriving DecidableEq, Repr

namespace PathState

/-- What the file of a path stands for. -/
def ofFile : Option NetnsFile → PathState
  | none => .absent
  | some ⟨false⟩ => .placeholder
  | some ⟨true⟩ => .mounted

/-- A creation, given which of its steps fail: whether it succeeds, and what it leaves. -/
def create (createFile mount removeFile : Bool) : PathState → Bool × PathState
  | .absent =>
    if createFile then (false, .absent)
    else if !mount then (true, .mounted)
    -- the clean-up may fail as well
    else if removeFile then (false, .placeholder)
    else (false, .absent)
  | path => (false, path)

/-- A deletion, given which of its steps fail. -/
def delete (umount removeFile : Bool) : PathState → Bool × PathState
  | .mounted =>
    if umount then (false, .mounted)
    else if removeFile then (false, .placeholder)
    else (true, .absent)
  | path => (false, path)

/-- A deletion and then a creation succeed without faults exactly where a namespace is mounted. -/
theorem delete_create_iff {path : PathState} :
    (path.delete false false).1 = true ∧
        ((path.delete false false).2.create false false false).1 = true ↔ path = .mounted := by
  cases path <;> decide

end PathState

/-! ### The machine -/

/-- What is called for: a creation or a deletion. -/
inductive NetnsAction
  | create | delete
  deriving DecidableEq, Repr

/-- A call about a name, with the faults of the machine at the time. -/
structure NetnsCall where
  action : NetnsAction
  name : String
  faults : Syscall → Option String

/-- The call could remove its file. -/
def NetnsCall.RemovesFile (c : NetnsCall) : Prop := c.faults (.removeFile c.name) = none

namespace Host

variable {host : Host} {name : String}

theorem netnsFile_setNetnsFile (hdir : host.netns.isSome = true) (file : NetnsFile) :
    (host.setNetnsFile name file).netnsFile name = some file := by
  obtain ⟨files, hfiles⟩ := Option.isSome_iff_exists.mp hdir
  simp [netnsFile, setNetnsFile, hfiles]

theorem netnsFile_eraseNetnsFile : (host.eraseNetnsFile name).netnsFile name = none := by
  unfold netnsFile eraseNetnsFile
  cases host.netns <;> simp

/-- What is at a path in the namespace directory. -/
def pathState (host : Host) (name : String) : PathState := .ofFile (host.netnsFile name)

theorem pathState_of_netnsFile {file : Option NetnsFile} (h : host.netnsFile name = file) :
    host.pathState name = .ofFile file :=
  congrArg PathState.ofFile h

theorem netnsPathExists_iff : host.netnsPathExists name = true ↔ host.pathState name ≠ .absent := by
  rw [netnsPathExists_eq, pathState]
  rcases host.netnsFile name with _ | ⟨_ | _⟩ <;> decide

theorem netnsPathExists_eq_false_iff :
    host.netnsPathExists name = false ↔ host.pathState name = .absent := by
  rw [← Bool.not_eq_true, netnsPathExists_iff, not_not]

theorem pathState_eq_mounted_iff :
    host.pathState name = .mounted ↔ host.netnsFile name = some ⟨true⟩ := by
  rw [pathState]
  rcases host.netnsFile name with _ | ⟨_ | _⟩ <;> decide

end Host

namespace NetlinkManager

variable {netlink : NetlinkManager} {name : String}

/-- The backend is the machine, and its namespace directory is there. -/
structure OnMachine (netlink : NetlinkManager) : Prop where
  real : netlink.backend = .real
  directory : netlink.host.netns.isSome = true

/-- A creation takes a step of the life cycle. -/
theorem createNamespace_refines (h : netlink.OnMachine)
    (hvalid : validateNamespaceName name = .ok ()) :
    ((netlink.createNamespace name).1.toBool,
        (netlink.createNamespace name).2.host.pathState name) =
      (netlink.host.pathState name).create (netlink.host.faults (.createFile name)).isSome
        (netlink.host.faults (.mountNetns name)).isSome
        (netlink.host.faults (.removeFile name)).isSome := by
  have hcreate : netlink.createNamespace name = netlink.createReal name := by
    rw [createNamespace, hvalid, h.real]
  rw [hcreate]
  by_cases hpath : netlink.host.pathState name = .absent
  · have habsent := Host.netnsPathExists_eq_false_iff.mpr hpath
    cases hfile : netlink.host.faults (.createFile name) with
    | some reason =>
      obtain ⟨e, he⟩ := createReal_error (.inr (.inl (hfile ▸ Option.some_ne_none _)))
      rw [he, hpath]
      rfl
    | none =>
      cases hmount : netlink.host.faults (.mountNetns name) with
      | none =>
        rw [hpath, createReal_ok habsent hfile h.directory hmount]
        have hdir : (netlink.host.setNetnsFile name ⟨false⟩).netns.isSome = true :=
          isSome_netns_setNetnsFile.trans h.directory
        dsimp only
        rw [Host.pathState_of_netnsFile (Host.netnsFile_setNetnsFile hdir _)]
        rfl
      | some reason =>
        -- the file that was created for the mount is removed, unless that fails as well
        rw [hpath, createReal_mount_error habsent hfile h.directory hmount]
        dsimp only [Host.removeFile]
        rw [faults_setNetnsFile]
        cases netlink.host.faults (.removeFile name) with
        | none =>
          dsimp only
          rw [Host.pathState_of_netnsFile Host.netnsFile_eraseNetnsFile]
          rfl
        | some reason =>
          dsimp only
          rw [Host.pathState_of_netnsFile (Host.netnsFile_setNetnsFile h.directory _)]
          rfl
  · -- whatever is at the path, the creation is refused and leaves it there
    obtain ⟨e, he⟩ := createReal_error (.inl (Host.netnsPathExists_iff.mpr hpath))
    rw [he]
    cases hstate : netlink.host.pathState name with
    | absent => exact absurd hstate hpath
    | placeholder => rfl
    | mounted => rfl

/-- A deletion takes a step of the life cycle. -/
theorem deleteNamespace_refines (h : netlink.OnMachine)
    (hvalid : validateNamespaceName name = .ok ()) :
    ((netlink.deleteNamespace name).1.toBool,
        (netlink.deleteNamespace name).2.host.pathState name) =
      (netlink.host.pathState name).delete (netlink.host.faults (.umount name)).isSome
        (netlink.host.faults (.removeFile name)).isSome := by
  cases hpath : netlink.host.pathState name with
  | absent =>
    have habsent := Host.netnsPathExists_eq_false_iff.mpr hpath
    have hdelete : netlink.deleteNamespace name =
        (.error (NetlinkError.namespaceNotFound name).toSegwireError, netlink) := by
      simp [deleteNamespace, hvalid, h.real, habsent]
    rw [hdelete, hpath]
    rfl
  | placeholder =>
    have hpresent : netlink.host.netnsPathExists name = true :=
      Host.netnsPathExists_iff.mpr (by rw [hpath]; decide)
    -- there is nothing to unmount
    have hfails : ∃ e, netlink.host.deleteNetns name = (.error e, netlink.host) := by
      have hunmounted : ¬ netlink.host.netnsFile name = some ⟨true⟩ := by
        rw [← Host.pathState_eq_mounted_iff, hpath]
        decide
      unfold Host.deleteNetns Host.umount
      cases netlink.host.faults (.umount name) with
      | some reason => exact ⟨_, rfl⟩
      | none =>
        rw [Host.netnsFile] at hunmounted
        dsimp only
        rw [if_neg hunmounted]
        exact ⟨_, rfl⟩
    obtain ⟨e, he⟩ := hfails
    rw [deleteReal_error h.real hvalid hpresent he, hpath]
    rfl
  | mounted =>
    have hpresent : netlink.host.netnsPathExists name = true :=
      Host.netnsPathExists_iff.mpr (by rw [hpath]; decide)
    have hmounted : netlink.host.netns.bind (·.lookup name) = some ⟨true⟩ :=
      Host.pathState_eq_mounted_iff.mp hpath
    cases humount : netlink.host.faults (.umount name) with
    | some reason =>
      have hfails : netlink.host.deleteNetns name =
          (.error ("umount2 failed: " ++ reason), netlink.host) := by
        simp [Host.deleteNetns, Host.umount, humount]
      rw [deleteReal_error h.real hvalid hpresent hfails, hpath]
      rfl
    | none =>
      cases hremove : netlink.host.faults (.removeFile name) with
      | some reason =>
        have hfails : netlink.host.deleteNetns name =
            (.error ("remove file: " ++ reason), netlink.host.setNetnsFile name ⟨false⟩) := by
          simp [Host.deleteNetns, Host.umount, Host.removeFile, humount, hmounted, hremove]
        rw [deleteReal_error h.real hvalid hpresent hfails]
        dsimp only
        rw [Host.pathState_of_netnsFile (Host.netnsFile_setNetnsFile h.directory _)]
        rfl
      | none =>
        have hdeletes : netlink.host.deleteNetns name =
            (.ok (), (netlink.host.setNetnsFile name ⟨false⟩).eraseNetnsFile name) := by
          simp [Host.deleteNetns, Host.umount, Host.removeFile, humount, hmounted, hremove]
        rw [deleteReal_ok h.real hvalid hpresent hdeletes]
        dsimp only
        rw [Host.pathState_of_netnsFile Host.netnsFile_eraseNetnsFile]
        rfl

/-! ### Calls -/

/-- The machine with other faults. -/
def withFaults (netlink : NetlinkManager) (faults : Syscall → Option String) : NetlinkManager :=
  { netlink with host := { netlink.host with faults } }

/-- Answer a call, under the faults that the machine has at the time. -/
def call (netlink : NetlinkManager) (c : NetnsCall) : SegwireResult Unit × NetlinkManager :=
  match c.action with
  | .create =>
    let (result, netlink) := (netlink.withFaults c.faults).createNamespace c.name
    (result.map fun _ => (), netlink)
  | .delete => (netlink.withFaults c.faults).deleteNamespace c.name

/-- The machine after some calls. -/
def afterCalls (netlink : NetlinkManager) (calls : List NetnsCall) : NetlinkManager :=
  run (fun netlink c => (netlink.call c).2) netlink calls

/-- A deletion of the namespace without faults succeeds, and so does a creation after it. -/
def Retriable (netlink : NetlinkManager) (name : String) : Prop :=
  let deleted := netlink.call ⟨.delete, name, fun _ => none⟩
  deleted.1 = .ok () ∧ (deleted.2.call ⟨.create, name, fun _ => none⟩).1 = .ok ()

/-- If the call is a deletion that fails, its name can be deleted later, whatever is done to
other names in the meantime. -/
def RetriesFailed (netlink : NetlinkManager) (c : NetnsCall) : Prop :=
  c.action = .delete → (∃ e, (netlink.call c).1 = .error e) →
    ∀ between : List NetnsCall, (∀ later ∈ between, later.name ≠ c.name) →
      ((netlink.call c).2.afterCalls between).Retriable c.name

/-- If the call is a deletion, then of a mounted namespace, and its file can be removed once it
is unmounted. -/
def DeletesMounted (netlink : NetlinkManager) (c : NetnsCall) : Prop :=
  c.action = .delete → validateNamespaceName c.name = .ok () ∧
    netlink.host.pathState c.name = .mounted ∧
    (c.faults (.umount c.name) = none → c.faults (.removeFile c.name) = none)

theorem OnMachine.withFaults (h : netlink.OnMachine) (faults : Syscall → Option String) :
    (netlink.withFaults faults).OnMachine :=
  ⟨h.real, h.directory⟩

theorem OnMachine.of_environment {netlink' : NetlinkManager} (h : netlink.OnMachine)
    (henvironment : netlink'.environment = netlink.environment) : netlink'.OnMachine where
  real := by
    rw [← isSimulated_eq_false_iff]
    exact (congrArg Environment.simulated henvironment).trans
      (isSimulated_eq_false_iff.mpr h.real)
  directory := (congrArg Environment.netnsDir henvironment).trans h.directory

theorem OnMachine.call (h : netlink.OnMachine) (c : NetnsCall) :
    (netlink.call c).2.OnMachine := by
  obtain ⟨_ | _, name, faults⟩ := c
  · exact (h.withFaults faults).of_environment (createNamespace_spec _ name).environment
  · exact (h.withFaults faults).of_environment (deleteNamespace_spec _ name).environment

/-- A call about another name leaves the path as it is. -/
theorem pathState_call_of_ne {c : NetnsCall} (hname : c.name ≠ name) :
    (netlink.call c).2.host.pathState name = netlink.host.pathState name := by
  obtain ⟨_ | _, other, faults⟩ := c
  · exact congrArg PathState.ofFile
      (((netlink.withFaults faults).touched_createNamespace other).others name hname.symm)
  · exact congrArg PathState.ofFile
      (((netlink.withFaults faults).touched_deleteNamespace other).others name hname.symm)

theorem afterCalls_of_ne (h : netlink.OnMachine) {calls : List NetnsCall}
    (hnames : ∀ c ∈ calls, c.name ≠ name) :
    (netlink.afterCalls calls).OnMachine ∧
      (netlink.afterCalls calls).host.pathState name = netlink.host.pathState name := by
  induction calls generalizing netlink with
  | nil => exact ⟨h, rfl⟩
  | cons c calls ih =>
    obtain ⟨hhead, htail⟩ := List.forall_mem_cons.mp hnames
    obtain ⟨hmachine, hpath⟩ := ih (h.call c) htail
    exact ⟨hmachine, hpath.trans (pathState_call_of_ne hhead)⟩

/-- What a deletion answers and leaves. -/
theorem call_delete (h : netlink.OnMachine) (hvalid : validateNamespaceName name = .ok ())
    (faults : Syscall → Option String) :
    let deleted := (netlink.host.pathState name).delete (faults (.umount name)).isSome
      (faults (.removeFile name)).isSome
    (netlink.call ⟨.delete, name, faults⟩).1.toBool = deleted.1 ∧
      (netlink.call ⟨.delete, name, faults⟩).2.host.pathState name = deleted.2 :=
  Prod.ext_iff.mp (deleteNamespace_refines (h.withFaults faults) hvalid)

/-- What a creation answers and leaves. -/
theorem call_create (h : netlink.OnMachine) (hvalid : validateNamespaceName name = .ok ())
    (faults : Syscall → Option String) :
    let created := (netlink.host.pathState name).create (faults (.createFile name)).isSome
      (faults (.mountNetns name)).isSome (faults (.removeFile name)).isSome
    (netlink.call ⟨.create, name, faults⟩).1.toBool = created.1 ∧
      (netlink.call ⟨.create, name, faults⟩).2.host.pathState name = created.2 := by
  obtain ⟨hanswer, hpath⟩ :=
    Prod.ext_iff.mp (createNamespace_refines (h.withFaults faults) hvalid)
  refine ⟨Eq.trans ?_ hanswer, hpath⟩
  change (Except.map _ ((netlink.withFaults faults).createNamespace name).1).toBool = _
  cases ((netlink.withFaults faults).createNamespace name).1 <;> rfl

theorem call_delete_of_invalid {e : SegwireError} (hvalid : validateNamespaceName name = .error e)
    (faults : Syscall → Option String) :
    (netlink.call ⟨.delete, name, faults⟩).1 = .error e := by
  change (deleteNamespace _ name).1 = _
  rw [deleteNamespace, hvalid]

/-- A deletion can be retried exactly where a namespace is mounted under a valid name. -/
theorem retriable_iff (h : netlink.OnMachine) :
    netlink.Retriable name ↔
      validateNamespaceName name = .ok () ∧ netlink.host.pathState name = .mounted := by
  unfold Retriable
  dsimp only
  cases hvalid : validateNamespaceName name with
  | error e =>
    rw [call_delete_of_invalid hvalid]
    simp
  | ok accepted =>
    obtain ⟨hdelete, hdeleted⟩ := call_delete h hvalid fun _ => none
    obtain ⟨hcreate, -⟩ := call_create (h.call ⟨.delete, name, fun _ => none⟩) hvalid fun _ => none
    rw [← Except.toBool_eq_true_iff, ← Except.toBool_eq_true_iff, hcreate, hdelete, hdeleted,
      eq_self, true_and]
    exact PathState.delete_create_iff

/-- A failed deletion can be retried iff it was one of a mounted namespace whose file can be
removed after it is unmounted. -/
theorem retriesFailed_iff (h : netlink.OnMachine) (c : NetnsCall) :
    netlink.RetriesFailed c ↔ netlink.DeletesMounted c := by
  obtain ⟨action, name, faults⟩ := c
  unfold RetriesFailed DeletesMounted
  refine imp_congr_right fun haction => ?_
  dsimp only at haction ⊢
  subst haction
  have hlater : (∀ between : List NetnsCall, (∀ later ∈ between, later.name ≠ name) →
        ((netlink.call ⟨.delete, name, faults⟩).2.afterCalls between).Retriable name) ↔
      validateNamespaceName name = .ok () ∧
        (netlink.call ⟨.delete, name, faults⟩).2.host.pathState name = .mounted := by
    constructor
    · intro hretriable
      exact (retriable_iff (h.call _)).mp (hretriable [] (by simp))
    · intro hmounted between hnames
      obtain ⟨hmachine, hpath⟩ := afterCalls_of_ne (h.call _) hnames
      rw [retriable_iff hmachine, hpath]
      exact hmounted
  rw [hlater, ← Except.toBool_eq_false_iff]
  cases hvalid : validateNamespaceName name with
  | error e =>
    rw [call_delete_of_invalid hvalid]
    simp [Except.toBool]
  | ok accepted =>
    obtain ⟨hanswer, hpath⟩ := call_delete h hvalid faults
    rw [hanswer, hpath]
    cases netlink.host.pathState name <;> cases faults (.umount name) <;>
      cases faults (.removeFile name) <;> simp [PathState.delete]

/-! ### Runs -/

/-- No path in the namespace directory is a mere placeholder. -/
def NoPlaceholder (netlink : NetlinkManager) : Prop :=
  ∀ name, netlink.host.pathState name ≠ .placeholder

/-- A call that can remove its file leaves no placeholder. -/
theorem NoPlaceholder.call (hnone : netlink.NoPlaceholder) (h : netlink.OnMachine)
    {c : NetnsCall} (hc : c.RemovesFile) : (netlink.call c).2.NoPlaceholder := by
  intro k
  by_cases hk : c.name = k
  · subst hk
    have hpath := hnone c.name
    obtain ⟨action, name, faults⟩ := c
    cases hvalid : validateNamespaceName name with
    | error e =>
      -- the call is refused and does nothing
      have hsame : (netlink.call ⟨action, name, faults⟩).2 = netlink.withFaults faults := by
        cases action
        · change (createNamespace _ name).2 = _
          rw [createNamespace, hvalid]
        · change (deleteNamespace _ name).2 = _
          rw [deleteNamespace, hvalid]
      rw [hsame]
      exact hpath
    | ok accepted =>
      have hremove : faults (.removeFile name) = none := hc
      cases action
      · rw [(call_create h hvalid faults).2, hremove]
        revert hpath
        cases netlink.host.pathState name <;> cases faults (.createFile name) <;>
          cases faults (.mountNetns name) <;> simp [PathState.create]
      · rw [(call_delete h hvalid faults).2, hremove]
        revert hpath
        cases netlink.host.pathState name <;> cases faults (.umount name) <;>
          simp [PathState.delete]
  · rw [pathState_call_of_ne hk]
    exact hnone k

/-- In a run of creations and deletions with any faults, the failed deletions can be retried iff
each is of a mounted namespace, and none unmounts it without removing its file. So can all of
those for a valid name that is there, when files can always be removed. -/
theorem retriesFailed_along_run_iff (h : netlink.OnMachine) (calls : List NetnsCall) :
    (AlongRun (fun netlink c => (netlink.call c).2) RetriesFailed netlink calls ↔
      AlongRun (fun netlink c => (netlink.call c).2) DeletesMounted netlink calls) ∧
    (netlink.NoPlaceholder → (∀ c ∈ calls, c.RemovesFile) →
      AlongRun (fun netlink c => (netlink.call c).2)
        (fun netlink c => validateNamespaceName c.name = .ok () →
          netlink.namespaceExists c.name = true → netlink.RetriesFailed c) netlink calls) := by
  constructor
  · exact alongRun_congr OnMachine (fun _ c h => h.call c) (fun _ c h => retriesFailed_iff h c)
      h calls
  · intro hnone hremoves
    induction calls generalizing netlink with
    | nil => trivial
    | cons c calls ih =>
      obtain ⟨hhead, htail⟩ := List.forall_mem_cons.mp hremoves
      refine ⟨fun hvalid hexists => ?_, ih (h.call c) (hnone.call h hhead) htail⟩
      rw [retriesFailed_iff h]
      refine fun _ => ⟨hvalid, ?_, fun _ => hhead⟩
      rw [namespaceExists, h.real] at hexists
      have hpresent := Host.netnsPathExists_iff.mp hexists
      have hmounted := hnone c.name
      revert hpresent hmounted
      cases netlink.host.pathState c.name <;> decide

section Fixture

/-- A machine without namespaces. -/
def emptyMachine : NetlinkManager := ⟨.real, .quiet 0 (Disk.fileSystem ⟨∅, ∅⟩ .sorted)⟩

/-- The machine after the creation of a namespace. -/
def oneCreated : NetlinkManager := (emptyMachine.call ⟨.create, "one", fun _ => none⟩).2

/-- A deletion whose unmount fails. -/
def busyDeletion : NetnsCall :=
  ⟨.delete, "one", fun c => if c = .umount "one" then some "Device or resource busy" else none⟩

/-- A deletion that cannot remove the file. -/
def interruptedDeletion : NetnsCall :=
  ⟨.delete, "one", fun c => if c = .removeFile "one" then some "Read-only file system" else none⟩

end Fixture

theorem busy_deletion_retriable : AlongRun (fun netlink c => (netlink.call c).2) RetriesFailed
    oneCreated [busyDeletion] :=
  (retriesFailed_along_run_iff ⟨rfl, rfl⟩ _).1.mpr
    ⟨fun _ => ⟨by decide, by decide, by decide⟩, trivial⟩

/-- A namespace that was unmounted without its file being removed can be neither deleted nor
created any more, and it is listed as an active one. -/
theorem deletion_not_retriable :
    (∃ e, (oneCreated.call interruptedDeletion).1 = .error e) ∧
      ¬ (oneCreated.call interruptedDeletion).2.Retriable "one" ∧
      (∃ e, ((oneCreated.call interruptedDeletion).2.call
        ⟨.create, "one", fun _ => none⟩).1 = .error e) ∧
      ((oneCreated.call interruptedDeletion).2.listNamespaces.toOption.bind
        (·.lookup "one")).map NamespaceInfo.active = some true ∧
      ¬ AlongRun (fun netlink c => (netlink.call c).2) RetriesFailed oneCreated
        [interruptedDeletion] := by
  have hfails : ∃ e, (oneCreated.call interruptedDeletion).1 = .error e := ⟨_, rfl⟩
  have hstuck : ¬ (oneCreated.call interruptedDeletion).2.Retriable "one" := by
    rw [retriable_iff ⟨rfl, rfl⟩]
    decide
  refine ⟨hfails, hstuck, ⟨_, rfl⟩, by decide, ?_⟩
  rintro ⟨hretries, -⟩
  exact hstuck (hretries rfl hfails [] (by simp))

end NetlinkManager

end Segwire.Daemon
