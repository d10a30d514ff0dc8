import Segwire.Daemon.DbusService
import Segwire.Daemon.SystemNamespaces

/-!
# What the D-Bus handlers do to namespaces

`DeleteNamespace` and `RestartNamespace` act on the machine through a netlink manager
of their own, which is never a simulated one, and then record the outcome among the
tracked states. An operation on the machine fails at once if the daemon is not root or
cannot make the namespace directory.

## Main definitions

* `Host.Touched` — at most the file of one name differs
* `Host.Works` — nothing fails in the namespace directory
* `Managers.machine` — the netlink manager of a handler
* `Managers.machineDeletes`, `Managers.machineCreates` — when its operations succeed
* `Served` — the call passes the checks that precede its handler

## Main results

* `Managers.onMachine_delete`, `Managers.onMachine_create` — what the operations do
* `run_deleteNamespaceByName_cases`, `run_createNamespaceFromConfig_cases` — what the
  uninterrupted helpers do
* `run_deleteNamespaceByName_ok_iff`, `run_createNamespaceFromConfig_ok_iff` — when they
  succeed
-/

namespace Segwire.Daemon

open Foundation Segwire.Common

/-! ### The machine -/

namespace Host

/-- The file of a name in the namespace directory. -/
def netnsFile (host : Host) (name : String) : Option NetnsFile := host.netns.bind (·.lookup name)

theorem netnsPathExists_eq (host : Host) (name : String) :
    host.netnsPathExists name = (host.netnsFile name).isSome := rfl

/-- The machine once the namespace directory has been made. -/
def opened (host : Host) : Host := { host with netns := some (host.netns.getD ∅) }

theorem opened_of_netns {host : Host} {files : HashMap String NetnsFile}
    (h : host.netns = some files) : host.opened = host := by
  rw [opened, h, Option.getD_some, ← h]

@[simp] theorem netnsFile_opened (host : Host) (name : String) :
    host.opened.netnsFile name = host.netnsFile name := by
  unfold netnsFile opened
  cases host.netns <;> rfl

/-- Nothing that the daemon asks of the namespace directory fails. -/
structure Works (host : Host) : Prop where
  isRoot : host.isRoot = true
  noFaults : ∀ call, host.faults call = none
  mounted : ∀ name file, host.netnsFile name = some file → file = ⟨true⟩

/-- The same machine, where at most the file of one name differs. -/
structure Touched (host : Host) (name : String) (host' : Host) : Prop where
  machine : ∃ netns, host' = { host with netns }
  others : ∀ k, k ≠ name → host'.netnsFile k = host.netnsFile k

namespace Touched

variable {host host' host'' : Host} {name k : String}

theorem refl (host : Host) (name : String) : host.Touched name host :=
  ⟨⟨host.netns, rfl⟩, fun _ _ => rfl⟩

theorem trans (h : host.Touched name host') (h' : host'.Touched name host'') :
    host.Touched name host'' := by
  obtain ⟨netns, rfl⟩ := h.machine
  obtain ⟨netns', rfl⟩ := h'.machine
  exact ⟨⟨netns', rfl⟩, fun k hk => (h'.others k hk).trans (h.others k hk)⟩

theorem setNetnsFile (host : Host) (name : String) (file : NetnsFile) :
    host.Touched name (host.setNetnsFile name file) := by
  refine ⟨⟨_, rfl⟩, fun k hk => ?_⟩
  unfold netnsFile Host.setNetnsFile
  cases host.netns with
  | none => rfl
  | some files => simp [hk]

theorem eraseNetnsFile (host : Host) (name : String) :
    host.Touched name (host.eraseNetnsFile name) := by
  refine ⟨⟨_, rfl⟩, fun k hk => ?_⟩
  unfold netnsFile Host.eraseNetnsFile
  cases host.netns with
  | none => rfl
  | some files => simp [hk]

theorem createFile (host : Host) (name : String) : host.Touched name (host.createFile name).2 := by
  unfold Host.createFile
  split
  · exact refl host name
  · exact refl host name
  · exact setNetnsFile host name _

theorem createNetns (host : Host) (name : String) :
    host.Touched name (host.createNetns name).2 := by
  unfold Host.createNetns
  split
  · exact refl host name
  · exact setNetnsFile host name _

theorem removeFile (host : Host) (name : String) : host.Touched name (host.removeFile name).2 := by
  unfold Host.removeFile
  split
  · exact refl host name
  · exact eraseNetnsFile host name

theorem umount (host : Host) (name : String) : host.Touched name (host.umount name).2 := by
  unfold Host.umount
  split
  · exact refl host name
  · split_ifs
    · exact setNetnsFile host name _
    · exact refl host name

theorem deleteNetns (host : Host) (name : String) :
    host.Touched name (host.deleteNetns name).2 := by
  have humount := umount host name
  unfold Host.deleteNetns
  rcases hresult : host.umount name with ⟨e | ⟨⟩, unmounted⟩ <;> rw [hresult] at humount
  · exact humount
  · have hremove := removeFile unmounted name
    dsimp only
    rcases hremoved : unmounted.removeFile name with ⟨e | ⟨⟩, removed⟩ <;>
      rw [hremoved] at hremove <;>
      exact humount.trans hremove

end Touched

end Host

namespace NetlinkManager

variable {netlink : NetlinkManager} {host : Host} {name k : String}

/-- `NetlinkManager::new()` succeeds. -/
def opens (host : Host) : Bool :=
  host.isRoot && (host.netns.isSome || (host.faults .createNetnsDir).isNone)

theorem opens_of_works (h : host.Works) : opens host = true := by
  rw [opens, h.isRoot, h.noFaults]
  simp

theorem new_of_opens (h : opens host = true) :
    new host = (.ok ⟨.real, host.opened⟩, host.opened) := by
  rw [opens, Bool.and_eq_true] at h
  obtain ⟨hroot, hdir⟩ := h
  cases hnetns : host.netns with
  | some files => simp [new, hroot, hnetns, Host.opened_of_netns hnetns]
  | none =>
    rw [hnetns, Option.isSome_none, Bool.false_or, Option.isNone_iff_eq_none] at hdir
    simp [new, hroot, hnetns, hdir, Host.opened]

theorem new_of_not_opens (h : opens host = false) : ∃ e, new host = (.error e, host) := by
  unfold new
  cases hroot : host.isRoot with
  | false => exact ⟨_, rfl⟩
  | true =>
    rw [opens, hroot, Bool.true_and, Bool.or_eq_false_iff] at h
    cases hnetns : host.netns with
    | some files =>
      rw [hnetns] at h
      cases h.1
    | none =>
      cases hfault : host.faults .createNetnsDir with
      | none =>
        rw [hfault] at h
        cases h.2
      | some e => exact ⟨_, rfl⟩

theorem SameSystem.netnsFile {netlink netlink' : NetlinkManager}
    (h : netlink.SameSystem netlink') (k : String) :
    netlink'.host.netnsFile k = netlink.host.netnsFile k := by
  obtain ⟨ticks, issued, rfl⟩ := h
  rfl

/-! ### Operations on the machine -/

/-- A deletion touches the file of its name only. -/
theorem touched_deleteNamespace (netlink : NetlinkManager) (name : String) :
    netlink.host.Touched name (netlink.deleteNamespace name).2.host := by
  have hdelete := Host.Touched.deleteNetns netlink.host name
  unfold deleteNamespace
  cases validateNamespaceName name with
  | error e => exact .refl _ _
  | ok accepted =>
    cases netlink.backend with
    | simulated state =>
      dsimp only
      split_ifs <;> exact .refl _ _
    | real =>
      dsimp only
      split_ifs
      · exact .refl _ _
      · split <;> next hresult =>
          rw [hresult] at hdelete
          exact hdelete

/-- A deletion that meets no fault removes the file of a valid name. -/
theorem deleteNamespace_of_works (hbackend : netlink.backend = .real)
    (hworks : netlink.host.Works) (name : String) :
    (netlink.deleteNamespace name).2.host.Works ∧
      ∀ k, (netlink.deleteNamespace name).2.host.netnsFile k =
        if k = name ∧ validateNamespaceName k = .ok () then none else netlink.host.netnsFile k := by
  cases hvalid : validateNamespaceName name with
  | error e =>
    have hdelete : netlink.deleteNamespace name = (.error e, netlink) := by
      rw [deleteNamespace, hvalid]
    rw [hdelete]
    refine ⟨hworks, fun k => (if_neg ?_).symm⟩
    rintro ⟨rfl, hk⟩
    rw [hvalid] at hk
    cases hk
  | ok accepted =>
    cases hpresent : netlink.host.netnsPathExists name with
    | false =>
      have hdelete : netlink.deleteNamespace name =
          (.error (NetlinkError.namespaceNotFound name).toSegwireError, netlink) := by
        simp [deleteNamespace, hvalid, hbackend, hpresent]
      rw [hdelete]
      refine ⟨hworks, fun k => ?_⟩
      split_ifs with hk
      · obtain ⟨rfl, -⟩ := hk
        rw [Host.netnsPathExists_eq] at hpresent
        exact Option.isSome_eq_false_iff.mp hpresent |> Option.isNone_iff_eq_none.mp
      · rfl
    | true =>
      obtain ⟨file, hfile⟩ := Option.isSome_iff_exists.mp hpresent
      have hmounted : netlink.isMounted name = true := by
        obtain rfl := hworks.mounted name file hfile
        exact decide_eq_true hfile
      have hdeletes : netlink.deletesNetns name = true := by
        simp [deletesNetns, hmounted, hworks.noFaults]
      have hresult := (netlink.deleteNetns_cases name).resolve_right fun hcase => by
        rw [hdeletes] at hcase
        cases hcase.1
      have htouched := (Host.Touched.setNetnsFile netlink.host name ⟨false⟩).trans
        (Host.Touched.eraseNetnsFile _ name)
      rw [deleteReal_ok hbackend hvalid hpresent hresult.2]
      have hgone : ((netlink.host.setNetnsFile name ⟨false⟩).eraseNetnsFile name).netnsFile name =
          none := by
        unfold Host.netnsFile Host.eraseNetnsFile
        cases (netlink.host.setNetnsFile name ⟨false⟩).netns <;> simp
      have hfiles : ∀ k,
          ((netlink.host.setNetnsFile name ⟨false⟩).eraseNetnsFile name).netnsFile k =
            if k = name ∧ validateNamespaceName k = .ok () then none
            else netlink.host.netnsFile k := by
        intro k
        split_ifs with hk
        · exact hk.1 ▸ hgone
        · exact htouched.others k fun heq => hk ⟨heq, heq ▸ hvalid⟩
      refine ⟨⟨hworks.isRoot, hworks.noFaults, fun k file hk => ?_⟩, hfiles⟩
      dsimp only at hk
      rw [hfiles k] at hk
      split_ifs at hk
      exact hworks.mounted k file hk

/-- A creation touches the file of its name only. -/
theorem touched_createNamespace (netlink : NetlinkManager) (name : String) :
    netlink.host.Touched name (netlink.createNamespace name).2.host := by
  have hcreate := Host.Touched.createFile netlink.host name
  unfold createNamespace
  cases validateNamespaceName name with
  | error e => exact .refl _ _
  | ok accepted =>
    cases netlink.backend with
    | simulated state =>
      dsimp only [createSimulated]
      split_ifs <;> exact .refl _ _
    | real =>
      dsimp only [createReal]
      split_ifs
      · exact .refl _ _
      · rcases hfile : netlink.host.createFile name with ⟨e | ⟨⟩, made⟩ <;> rw [hfile] at hcreate
        · exact hcreate
        · have hmount := Host.Touched.createNetns made name
          dsimp only
          rcases hresult : made.createNetns name with ⟨e | ⟨⟩, mounted⟩ <;> rw [hresult] at hmount
          -- a placeholder without its mount is removed again
          · exact hcreate.trans (hmount.trans (Host.Touched.removeFile mounted name))
          · exact hcreate.trans hmount

/-- A creation that succeeds on the machine mounts the namespace on its file. -/
theorem netnsFile_createNamespace {info : NamespaceInfo} (hbackend : netlink.backend = .real)
    (h : (netlink.createNamespace name).1 = .ok info) :
    (netlink.createNamespace name).2.host.netnsFile name = some ⟨true⟩ := by
  unfold createNamespace at h ⊢
  cases hvalid : validateNamespaceName name with
  | error e =>
    rw [hvalid] at h
    cases h
  | ok accepted =>
    simp only [hvalid, hbackend] at h ⊢
    by_cases hearly : netlink.host.netnsPathExists name = true ∨
        netlink.host.faults (.createFile name) ≠ none ∨ netlink.host.netns = none
    · obtain ⟨e, he⟩ := createReal_error hearly
      rw [he] at h
      cases h
    · simp only [not_or, Bool.not_eq_true, not_not] at hearly
      obtain ⟨hpresent, hcreate, hnetns⟩ := hearly
      have hdir : netlink.host.netns.isSome = true := Option.isSome_iff_ne_none.mpr hnetns
      cases hmount : netlink.host.faults (.mountNetns name) with
      | some reason =>
        rw [createReal_mount_error hpresent hcreate hdir hmount] at h
        cases h
      | none =>
        obtain ⟨files, hfiles⟩ := Option.isSome_iff_exists.mp hdir
        rw [createReal_ok hpresent hcreate hdir hmount]
        simp [Host.netnsFile, Host.setNetnsFile, hfiles]

end NetlinkManager

namespace Managers

variable {m : Managers} {k : String}

/-- The netlink manager that a handler makes for itself. -/
def machine (m : Managers) : NetlinkManager := ⟨.real, m.host.opened⟩

/-- A handler succeeds in deleting a namespace from the machine. -/
def machineDeletes (m : Managers) (k : String) : Bool :=
  NetlinkManager.opens m.host && m.machine.deletes k

/-- A handler succeeds in creating a namespace on the machine. -/
def machineCreates (m : Managers) (k : String) : Bool :=
  NetlinkManager.opens m.host && m.machine.environment.creates (m.host.netnsPathExists k) k

theorem namespaceExists_of_real {netlink : NetlinkManager} (h : netlink.isSimulated = false)
    (k : String) : netlink.namespaceExists k = netlink.host.netnsPathExists k := by
  rw [NetlinkManager.namespaceExists, NetlinkManager.isSimulated_eq_false_iff.mp h]

theorem namespaceExists_machine (m : Managers) (k : String) :
    m.machine.namespaceExists k = m.host.netnsPathExists k := by
  change m.host.opened.netnsPathExists k = _
  rw [Host.netnsPathExists_eq, Host.netnsFile_opened, Host.netnsPathExists_eq]

theorem touched_opened (host : Host) (k : String) : host.Touched k host.opened :=
  ⟨⟨_, rfl⟩, fun k' _ => host.netnsFile_opened k'⟩

section OnMachine

variable {α : Type} (operation : NetlinkManager → SegwireResult α × NetlinkManager)

theorem onMachine_of_opens (h : NetlinkManager.opens m.host = true) :
    onMachine operation m =
      ((operation m.machine).1, m.setHost (operation m.machine).2.host) := by
  unfold onMachine
  rw [NetlinkManager.new_of_opens h]
  rfl

theorem onMachine_of_not_opens (h : NetlinkManager.opens m.host = false) :
    ∃ e, onMachine operation m = (.error e, m) := by
  obtain ⟨e, he⟩ := NetlinkManager.new_of_not_opens h
  refine ⟨e, ?_⟩
  unfold onMachine
  rw [he]
  rfl

end OnMachine

/-- What a deletion from the machine does: it takes the file of its name away, or it
fails and the file stays. -/
structure MachineDeletion (m : Managers) (k : String) (result : SegwireResult Unit)
    (m' : Managers) : Prop where
  ok_iff : result = .ok () ↔ m.machineDeletes k = true
  touched : ∃ host, m.host.Touched k host ∧ m' = m.setHost host
  present : m'.host.netnsPathExists k = (m.host.netnsPathExists k && !m.machineDeletes k)
  opens : NetlinkManager.opens m'.host = NetlinkManager.opens m.host

theorem opens_of_touched {host host' : Host} (htouched : host.Touched k host')
    (hopens : NetlinkManager.opens host = true) (hdir : host'.netns.isSome = true) :
    NetlinkManager.opens host' = true := by
  obtain ⟨netns, rfl⟩ := htouched.machine
  rw [NetlinkManager.opens, Bool.and_eq_true] at hopens ⊢
  exact ⟨hopens.1, by rw [hdir, Bool.true_or]⟩

theorem onMachine_delete (m : Managers) (k : String) :
    MachineDeletion m k (onMachine (·.deleteNamespace k) m).1
      (onMachine (·.deleteNamespace k) m).2 := by
  cases hopens : NetlinkManager.opens m.host with
  | false =>
    obtain ⟨e, he⟩ := onMachine_of_not_opens (·.deleteNamespace k) hopens
    have hdeletes : m.machineDeletes k = false := by simp [machineDeletes, hopens]
    rw [he]
    exact ⟨by simp [hdeletes], ⟨m.host, .refl _ _, rfl⟩, by simp [hdeletes], rfl⟩
  | true =>
    have hspec := m.machine.deleteNamespace_spec k
    have hdeletes : m.machineDeletes k = m.machine.deletes k := by simp [machineDeletes, hopens]
    have hpresent := hspec.present
    rw [namespaceExists_machine, namespaceExists_of_real
      (congrArg Environment.simulated hspec.environment)] at hpresent
    have htouched := (touched_opened m.host k).trans
      (NetlinkManager.touched_deleteNamespace m.machine k)
    rw [onMachine_of_opens (·.deleteNamespace k) hopens]
    refine ⟨by rw [hspec.ok_iff, hdeletes], ⟨_, htouched, rfl⟩,
      by rw [hdeletes, ← hpresent]; rfl, ?_⟩
    exact (opens_of_touched htouched hopens
      (congrArg Environment.netnsDir hspec.environment)).trans hopens.symm

/-- The deletion of a namespace that the machine deletes takes its file away. -/
theorem MachineDeletion.netnsFile {m' : Managers}
    (h : MachineDeletion m k (.ok ()) m') (k' : String) :
    m'.host.netnsFile k' = if k' = k then none else m.host.netnsFile k' := by
  have hdeletes := h.ok_iff.mp rfl
  obtain ⟨host, htouched, rfl⟩ := h.touched
  split_ifs with hk
  · subst hk
    have hgone := h.present
    rw [hdeletes, Bool.not_true, Bool.and_false, Host.netnsPathExists_eq] at hgone
    exact Option.isNone_iff_eq_none.mp (by simpa using hgone)
  · exact htouched.others k' hk

/-- What the machine deletes is there. -/
theorem netnsPathExists_of_machineDeletes (h : m.machineDeletes k = true) :
    m.host.netnsPathExists k = true := by
  rw [machineDeletes, NetlinkManager.deletes, namespaceExists_machine] at h
  simp only [Bool.and_eq_true] at h
  exact h.2.1.2

/-- What a creation on the machine does: it mounts the namespace on the file of its
name, or it fails and leaves at most a placeholder. -/
structure MachineCreation (m : Managers) (k : String) (result : SegwireResult NamespaceInfo)
    (m' : Managers) : Prop where
  ok_iff : (∃ info, result = .ok info) ↔ m.machineCreates k = true
  touched : ∃ host, m.host.Touched k host ∧ m' = m.setHost host
  mounted : (∃ info, result = .ok info) → m'.host.netnsFile k = some ⟨true⟩
  present : m'.host.netnsPathExists k = (m.host.netnsPathExists k || m.machineCreates k ||
    (NetlinkManager.opens m.host &&
      m.machine.environment.leavesPlaceholder (m.host.netnsPathExists k) k))
  opens : NetlinkManager.opens m'.host = NetlinkManager.opens m.host

theorem onMachine_create (m : Managers) (k : String) :
    MachineCreation m k (onMachine (·.createNamespace k) m).1
      (onMachine (·.createNamespace k) m).2 := by
  cases hopens : NetlinkManager.opens m.host with
  | false =>
    obtain ⟨e, he⟩ := onMachine_of_not_opens (·.createNamespace k) hopens
    have hcreates : m.machineCreates k = false := by simp [machineCreates, hopens]
    rw [he]
    exact ⟨by simp [hcreates], ⟨m.host, .refl _ _, rfl⟩, by simp, by simp [hcreates, hopens], rfl⟩
  | true =>
    have hspec := m.machine.createNamespace_spec k
    have hcreates : m.machineCreates k =
        m.machine.environment.creates (m.host.netnsPathExists k) k := by
      simp [machineCreates, hopens]
    have hok := hspec.ok_iff
    have hpresent := hspec.present
    rw [namespaceExists_machine, namespaceExists_of_real
      (congrArg Environment.simulated hspec.environment)] at hpresent
    rw [namespaceExists_machine] at hok
    have htouched := (touched_opened m.host k).trans
      (NetlinkManager.touched_createNamespace m.machine k)
    rw [onMachine_of_opens (·.createNamespace k) hopens]
    refine ⟨by rw [hok, hcreates], ⟨_, htouched, rfl⟩, ?_, ?_, ?_⟩
    · rintro ⟨info, hinfo⟩
      exact NetlinkManager.netnsFile_createNamespace rfl hinfo
    · rw [hcreates, hopens, Bool.true_and, ← hpresent]
      rfl
    · exact (opens_of_touched htouched hopens
      (congrArg Environment.netnsDir hspec.environment)).trans hopens.symm

end Managers

/-! ### Served calls -/

section Served

variable {svc : ServiceState} {sur : Surroundings} {caller : Caller} {method : Method}

/-- The call passes the check of its argument and the authorization. -/
structure Served (svc : ServiceState) (sur : Surroundings) (caller : Caller) (method : Method) :
    Prop where
  argument : method.checkArgument sur.platform = .ok ()
  authorized : checkAuthorization svc sur.bus method.action caller = .ok ()

theorem Served.handle (h : Served svc sur caller method) :
    svc.handle sur caller method = svc.serve sur method := by
  rw [ServiceState.handle, h.argument]
  dsimp only
  rw [h.authorized]

/-- A call that is not served is answered with an error before anything is done. -/
theorem exists_handle_of_not_served (h : ¬ Served svc sur caller method) :
    ∃ e, svc.handle sur caller method = .done (.error e) := by
  unfold ServiceState.handle
  cases hargument : method.checkArgument sur.platform with
  | error e => exact ⟨_, rfl⟩
  | ok accepted =>
    cases hauthorized : checkAuthorization svc sur.bus method.action caller with
    | error e => exact ⟨e, rfl⟩
    | ok authorized => exact absurd ⟨hargument, hauthorized⟩ h

end Served

/-! ### The helpers -/

/-- A state is tracked under the requested name or under its full name. -/
def Managers.tracksEither (m : Managers) (name : String) : Bool :=
  m.stateManager.namespaceStates.contains name ||
    m.stateManager.namespaceStates.contains (m.configManager.generateFullNamespaceName name)

/-- The managers after both names have been forgotten. -/
def Managers.forgetBoth (m : Managers) (name fullName : String) : Managers :=
  { m with
    stateManager := (m.stateManager.removeNamespaceState name).removeNamespaceState fullName }

theorem Managers.lookup_forgetBoth (m : Managers) (name fullName k : String) :
    (m.forgetBoth name fullName).stateManager.namespaceStates.lookup k =
      if k = fullName then none else if k = name then none
        else m.stateManager.namespaceStates.lookup k := by
  rw [← KeyedMap.lookup_erase, ← KeyedMap.lookup_erase]
  rfl

/-- The managers after a state has been recorded as being created. -/
def Managers.recordCreation (m : Managers) (name fullName configPath : String) : Managers :=
  let (now, m) := m.now
  { m with stateManager := m.stateManager.updateNamespaceState (.new name fullName configPath now) }

variable {m : Managers}

/-- A deletion by name fails for an untracked name, or with the deletion from the
machine; else it forgets both names. -/
theorem run_deleteNamespaceByName_cases (m : Managers) (name : String) :
    (m.tracksEither name = false ∧ ∃ e, (deleteNamespaceByName name).run m = (.error e, m)) ∨
    m.tracksEither name = true ∧
      ((∃ e m₁, Managers.onMachine
          (·.deleteNamespace (m.configManager.generateFullNamespaceName name)) m = (.error e, m₁) ∧
        (deleteNamespaceByName name).run m = (.error e, m₁)) ∨
      ∃ m₁, Managers.onMachine
          (·.deleteNamespace (m.configManager.generateFullNamespaceName name)) m = (.ok (), m₁) ∧
        (deleteNamespaceByName name).run m =
          (.ok (), m₁.forgetBoth name (m.configManager.generateFullNamespaceName name))) := by
  let operation (netlink : NetlinkManager) :=
    netlink.deleteNamespace (m.configManager.generateFullNamespaceName name)
  -- the sections that only read are done, and the check of the tracked states decides
  have hrun : (deleteNamespaceByName name).run m =
      Task.run (if !m.tracksEither name then pure (Except.error _)
        else Task.atomic (Managers.onMachine operation) >>= _) m := rfl
  cases htracked : m.tracksEither name with
  | false =>
    rw [hrun, htracked]
    exact .inl ⟨rfl, _, rfl⟩
  | true =>
    refine .inr ⟨rfl, ?_⟩
    rw [hrun, htracked, if_neg (by simp), Task.run_bind, Task.run_atomic]
    rcases Managers.onMachine operation m with ⟨e | ⟨⟩, m₁⟩
    · exact .inl ⟨e, m₁, rfl, rfl⟩
    · exact .inr ⟨m₁, rfl, rfl⟩

/-- A creation from a configuration fails with the creation on the machine, or records
the namespace as being created. -/
theorem run_createNamespaceFromConfig_cases (m : Managers) (config : NamespaceConfig) :
    (∃ e m₁, Managers.onMachine (·.createNamespace
        (m.configManager.generateFullNamespaceName config.namespace_.name)) m = (.error e, m₁) ∧
      (createNamespaceFromConfig config).run m = (.error e, m₁)) ∨
    ∃ info m₁ configPath, Managers.onMachine (·.createNamespace
        (m.configManager.generateFullNamespaceName config.namespace_.name)) m = (.ok info, m₁) ∧
      (createNamespaceFromConfig config).run m =
        (.ok (m.configManager.generateFullNamespaceName config.namespace_.name),
          m₁.recordCreation config.namespace_.name
            (m.configManager.generateFullNamespaceName config.namespace_.name) configPath) := by
  let operation (netlink : NetlinkManager) :=
    netlink.createNamespace (m.configManager.generateFullNamespaceName config.namespace_.name)
  have hrun : (createNamespaceFromConfig config).run m =
      Task.run (Task.atomic (Managers.onMachine operation) >>= _) m := rfl
  rw [hrun, Task.run_bind, Task.run_atomic]
  rcases Managers.onMachine operation m with ⟨e | info, m₁⟩
  · exact .inl ⟨e, m₁, rfl, rfl⟩
  · exact .inr ⟨info, m₁, _, rfl, rfl⟩

/-- A deletion that finds a state and that the machine does not refuse succeeds. -/
theorem exists_run_deleteNamespaceByName {name : String} (htracked : m.tracksEither name = true)
    (hdeletes : m.machineDeletes (m.configManager.generateFullNamespaceName name) = true) :
    ∃ m₁, Managers.MachineDeletion m (m.configManager.generateFullNamespaceName name) (.ok ()) m₁ ∧
      (deleteNamespaceByName name).run m =
        (.ok (), m₁.forgetBoth name (m.configManager.generateFullNamespaceName name)) := by
  have hspec := Managers.onMachine_delete m (m.configManager.generateFullNamespaceName name)
  have hok := hspec.ok_iff.mpr hdeletes
  obtain ⟨huntracked, -⟩ | ⟨-, ⟨e, m₁, hmachine, -⟩ | ⟨m₁, hmachine, hrun⟩⟩ :=
    run_deleteNamespaceByName_cases m name
  · rw [htracked] at huntracked
    cases huntracked
  · rw [hmachine] at hok
    cases hok
  · rw [hmachine] at hspec
    exact ⟨m₁, hspec, hrun⟩

theorem run_deleteNamespaceByName_ok_iff (m : Managers) (name : String) :
    ((deleteNamespaceByName name).run m).1 = .ok () ↔ m.tracksEither name = true ∧
      m.machineDeletes (m.configManager.generateFullNamespaceName name) = true := by
  constructor
  · intro hok
    have hspec := Managers.onMachine_delete m (m.configManager.generateFullNamespaceName name)
    obtain ⟨-, e, hrun⟩ | ⟨htracked, ⟨e, m₁, -, hrun⟩ | ⟨m₁, hmachine, -⟩⟩ :=
      run_deleteNamespaceByName_cases m name
    · rw [hrun] at hok
      cases hok
    · rw [hrun] at hok
      cases hok
    · rw [hmachine] at hspec
      exact ⟨htracked, hspec.ok_iff.mp rfl⟩
  · rintro ⟨htracked, hdeletes⟩
    obtain ⟨m₁, -, hrun⟩ := exists_run_deleteNamespaceByName htracked hdeletes
    rw [hrun]

/-- A creation that the machine does not refuse succeeds. -/
theorem exists_run_createNamespaceFromConfig {config : NamespaceConfig}
    (hcreates : m.machineCreates
      (m.configManager.generateFullNamespaceName config.namespace_.name) = true) :
    ∃ info m₁ configPath, Managers.MachineCreation m
        (m.configManager.generateFullNamespaceName config.namespace_.name) (.ok info) m₁ ∧
      (createNamespaceFromConfig config).run m =
        (.ok (m.configManager.generateFullNamespaceName config.namespace_.name),
          m₁.recordCreation config.namespace_.name
            (m.configManager.generateFullNamespaceName config.namespace_.name) configPath) := by
  have hspec := Managers.onMachine_create m
    (m.configManager.generateFullNamespaceName config.namespace_.name)
  obtain ⟨info, hok⟩ := hspec.ok_iff.mpr hcreates
  obtain ⟨e, m₁, hmachine, -⟩ | ⟨info, m₁, configPath, hmachine, hrun⟩ :=
    run_createNamespaceFromConfig_cases m config
  · rw [hmachine] at hok
    cases hok
  · rw [hmachine] at hspec
    exact ⟨info, m₁, configPath, hspec, hrun⟩

theorem run_createNamespaceFromConfig_ok_iff (m : Managers) (config : NamespaceConfig) :
    (∃ fullName, ((createNamespaceFromConfig config).run m).1 = .ok fullName) ↔
      m.machineCreates (m.configManager.generateFullNamespaceName config.namespace_.name) =
        true := by
  constructor
  · rintro ⟨fullName, hok⟩
    have hspec := Managers.onMachine_create m
      (m.configManager.generateFullNamespaceName config.namespace_.name)
    obtain ⟨e, m₁, -, hrun⟩ | ⟨info, m₁, configPath, hmachine, -⟩ :=
      run_createNamespaceFromConfig_cases m config
    · rw [hrun] at hok
      cases hok
    · rw [hmachine] at hspec
      exact hspec.ok_iff.mp ⟨info, rfl⟩
  · intro hcreates
    obtain ⟨info, m₁, configPath, -, hrun⟩ := exists_run_createNamespaceFromConfig hcreates
    exact ⟨_, by rw [hrun]⟩

end Segwire.Daemon
