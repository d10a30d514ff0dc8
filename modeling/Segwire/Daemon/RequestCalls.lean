import Segwire.Daemon.RequestSections
import Segwire.Daemon.RestartRecovery

/-!
# The calls of a request

A call of a request creates or deletes a namespace on the machine. It does not touch the
managers, and of the machine it touches the file of its name only. A simulated
synchronization takes no notice of it.

## Main definitions

* `Managers.Calls` — a call changes the file of one name at most
* `Managers.machineLeavesFile` — a creation fails and leaves its file
* `Managers.Deleted` — the outcome of a synchronization and a deletion

## Main results

* `Managers.Calls.viewOf_eq`, `Managers.Calls.observed_eq` — what a call leaves alone
* `Managers.deleted_of_interrupted` — the deletion may fall into the synchronization
-/

namespace Segwire.Daemon

open Foundation Segwire.Common

namespace Managers

variable {m m' : Managers} {k F : String}

/-! ### Calls -/

theorem namespaceExists_setHost (h : m.isSimulated = true) (host : Host) (k : String) :
    (m.setHost host).stateManager.netlinkManager.namespaceExists k =
      m.stateManager.netlinkManager.namespaceExists k := by
  unfold isSimulated NetlinkManager.isSimulated at h
  unfold NetlinkManager.namespaceExists setHost
  dsimp only
  cases hbackend : m.stateManager.netlinkManager.backend with
  | simulated state => rfl
  | real =>
    rw [hbackend] at h
    cases h

/-- A call on the machine: it changes the file of one name at most, and takes no directory
away. -/
structure Calls (F : String) (m m' : Managers) : Prop where
  touched : ∃ host, m.host.Touched F host ∧ m' = m.setHost host
  netnsDir : m.host.netns.isSome = true → m'.host.netns.isSome = true
  opens : NetlinkManager.opens m'.host = NetlinkManager.opens m.host

/-- The directory is there after a call for which it has been opened. -/
theorem isSome_netns_onMachine {α : Type}
    {operation : NetlinkManager → SegwireResult α × NetlinkManager}
    (h : ∀ netlink, (operation netlink).2.environment = netlink.environment) (m : Managers)
    (hdir : m.host.netns.isSome = true ∨ NetlinkManager.opens m.host = true) :
    (onMachine operation m).2.host.netns.isSome = true := by
  cases hopens : NetlinkManager.opens m.host with
  | true =>
    rw [onMachine_of_opens operation hopens]
    exact congrArg Environment.netnsDir (h m.machine)
  | false =>
    obtain ⟨e, he⟩ := onMachine_of_not_opens operation hopens
    rw [he]
    exact hdir.resolve_right (by simp [hopens])

theorem calls_delete (m : Managers) (F : String) :
    Calls F m (onMachine (·.deleteNamespace F) m).2 where
  touched := (onMachine_delete m F).touched
  netnsDir hdir := isSome_netns_onMachine
    (fun netlink => (netlink.deleteNamespace_spec F).environment) m (.inl hdir)
  opens := (onMachine_delete m F).opens

theorem calls_create (m : Managers) (F : String) :
    Calls F m (onMachine (·.createNamespace F) m).2 where
  touched := (onMachine_create m F).touched
  netnsDir hdir := isSome_netns_onMachine
    (fun netlink => (netlink.createNamespace_spec F).environment) m (.inl hdir)
  opens := (onMachine_create m F).opens

namespace Calls

variable (h : Calls F m m')
include h

theorem configManager : m'.configManager = m.configManager := by
  obtain ⟨host, -, rfl⟩ := h.touched
  rfl

theorem namespaceStates :
    m'.stateManager.namespaceStates = m.stateManager.namespaceStates := by
  obtain ⟨host, -, rfl⟩ := h.touched
  rfl

theorem isSimulated : m'.isSimulated = m.isSimulated := by
  obtain ⟨host, -, rfl⟩ := h.touched
  rfl

theorem fixed : m'.host.fixed = m.host.fixed := by
  obtain ⟨host, htouched, rfl⟩ := h.touched
  exact htouched.fixed

theorem netnsFile (hk : k ≠ F) : m'.host.netnsFile k = m.host.netnsFile k := by
  obtain ⟨host, htouched, rfl⟩ := h.touched
  exact htouched.others k hk

theorem netnsPathExists (hk : k ≠ F) : m'.host.netnsPathExists k = m.host.netnsPathExists k :=
  congrArg Option.isSome (h.netnsFile hk)

/-- A simulation takes no notice of a call, and neither do other names, nor the name itself
if its file is there as before. -/
theorem namespaceExists (hk : k ≠ F ∨ m.isSimulated = true ∨
    m'.host.netnsPathExists F = m.host.netnsPathExists F) :
    m'.stateManager.netlinkManager.namespaceExists k =
      m.stateManager.netlinkManager.namespaceExists k := by
  cases hsimulated : m.isSimulated with
  | true =>
    obtain ⟨host, -, rfl⟩ := h.touched
    exact namespaceExists_setHost hsimulated host k
  | false =>
    rw [namespaceExists_of_real hsimulated,
      namespaceExists_of_real (h.isSimulated.trans hsimulated)]
    by_cases hself : k = F
    · subst hself
      rw [hsimulated] at hk
      exact (hk.resolve_left (not_not_intro rfl)).resolve_left Bool.false_ne_true
    · exact h.netnsPathExists hself

/-- What is observed of other names stays the same, and so does what is observed of the name
if its file is there as before. -/
theorem observed_eq (hk : k ≠ F ∨ m'.host.netnsPathExists F = m.host.netnsPathExists F) :
    observed k m' = observed k m := by
  have hpath : m'.host.netnsPathExists k = m.host.netnsPathExists k := by
    by_cases hself : k = F
    · subst hself
      exact hk.resolve_left (not_not_intro rfl)
    · exact h.netnsPathExists hself
  unfold observed NameView.observed viewOf
  rw [h.namespaceStates, h.namespaceExists (hk.imp_right .inr), hpath]

section Directory

variable (hdir : m.isSimulated = true ∨ m.host.netns.isSome = true)
include hdir

/-- If the directory has been there, a synchronization finds the same environment. -/
theorem environment_eq (k : String) : (viewOf k m').environment = (viewOf k m).environment := by
  have hkind := h.isSimulated
  have hnetns : (m.isSimulated || m'.host.netns.isSome) =
      (m.isSimulated || m.host.netns.isSome) := by
    rcases hdir with hsimulated | hdir
    · rw [hsimulated, Bool.true_or, Bool.true_or]
    · rw [hdir, h.netnsDir hdir]
  have hfaults : m'.host.faults = m.host.faults := Host.faults_of_fixed h.fixed
  change Environment.mk m'.isSimulated m'.host.faults (m'.isSimulated || m'.host.netns.isSome) =
    Environment.mk m.isSimulated m.host.faults (m.isSimulated || m.host.netns.isSome)
  rw [hkind, hnetns, hfaults]

/-- Then what belongs to the name stays the same altogether. -/
theorem viewOf_eq (hk : k ≠ F ∨ m.isSimulated = true ∨
    m'.host.netnsPathExists F = m.host.netnsPathExists F) : viewOf k m' = viewOf k m := by
  have henvironment : m'.stateManager.netlinkManager.environment.effective =
      m.stateManager.netlinkManager.environment.effective := h.environment_eq hdir k
  unfold viewOf
  rw [h.namespaceStates, h.namespaceExists hk, henvironment]

end Directory

omit h in
/-- A call during a synchronization makes no difference to other names, and none to the name if
its file is there as before. -/
theorem afterSync_of_interrupted {mid mid' : Managers} {orders : SyncOrders}
    (h : Calls F mid mid') (hinterrupted : Interrupted mid mid' (listedSections orders
      m.configManager m.stateManager.netlinkManager.listNamespaces) m m')
    (hdir : mid.isSimulated = true ∨ mid.host.netns.isSome = true)
    (hk : k ≠ F ∨ mid'.host.netnsPathExists F = mid.host.netnsPathExists F) :
    observed k m' = afterSync k m := by
  obtain ⟨hbefore, -⟩ := guaranteed_of_interrupted hinterrupted
    (settled_true m.configManager m) h.namespaceStates
  have hpath : mid'.host.netnsPathExists k = mid.host.netnsPathExists k := by
    by_cases hself : k = F
    · subst hself
      exact hk.resolve_left (not_not_intro rfl)
    · exact h.netnsPathExists hself
  refine (observed_of_interrupted hinterrupted h.namespaceStates h.isSimulated
    (h.viewOf_eq hdir (hk.imp_right .inr))).trans (Prod.ext rfl ?_)
  dsimp only [afterSync]
  split_ifs with hsimulated
  · rw [hpath]
    exact congrArg Option.isSome (hbefore.kept k (.inr hsimulated))
  · rfl

end Calls

/-! ### What decides the outcome of a call -/

/-- Whether a deletion on the machine succeeds depends on the file and on the machine apart
from its files. -/
theorem machineDeletes_congr (hfixed : m'.host.fixed = m.host.fixed)
    (hfile : m'.host.netnsFile k = m.host.netnsFile k) :
    m'.machineDeletes k = m.machineDeletes k := by
  have hpath : m'.host.netnsPathExists k = m.host.netnsPathExists k := congrArg Option.isSome hfile
  have hmounted : m'.machine.isMounted k = m.machine.isMounted k := by
    have hopened : m'.host.opened.netnsFile k = m.host.opened.netnsFile k := by
      rw [Host.netnsFile_opened, Host.netnsFile_opened, hfile]
    exact decide_eq_decide.mpr (Eq.congr_left hopened)
  have hfaults : m'.machine.host.faults = m.machine.host.faults := Host.faults_of_fixed hfixed
  have hroot : m'.host.isRoot = m.host.isRoot := Host.isRoot_of_fixed hfixed
  rw [machineDeletes, machineDeletes, NetlinkManager.deletes, NetlinkManager.deletes,
    NetlinkManager.deletesNetns, NetlinkManager.deletesNetns, namespaceExists_machine,
    namespaceExists_machine, hmounted, hfaults, hpath]
  cases hthere : m.host.netnsPathExists k with
  | false => simp
  | true =>
    -- a file is in the directory, so that exists
    have hdir {m : Managers} (h : m.host.netnsPathExists k = true) :
        NetlinkManager.opens m.host = m.host.isRoot := by
      have hnetns : m.host.netns.isSome = true := by
        cases hnetns : m.host.netns with
        | none => simp [Host.netnsPathExists, hnetns] at h
        | some files => rfl
      rw [NetlinkManager.opens, hnetns, Bool.true_or, Bool.and_true]
    rw [hdir hthere, hdir (hpath.trans hthere), hroot]
    rfl

/-- A creation on the machine fails and leaves its file. -/
def machineLeavesFile (m : Managers) (k : String) : Bool :=
  NetlinkManager.opens m.host &&
    m.machine.environment.leavesPlaceholder (m.host.netnsPathExists k) k

section Congr

variable (hfixed : m'.host.fixed = m.host.fixed)
  (hopens : NetlinkManager.opens m'.host = NetlinkManager.opens m.host)
  (hpath : m'.host.netnsPathExists k = m.host.netnsPathExists k)
include hfixed hopens hpath

theorem machineCreates_congr : m'.machineCreates k = m.machineCreates k := by
  have hfaults : m'.host.faults = m.host.faults := Host.faults_of_fixed hfixed
  have henvironment : m'.machine.environment = m.machine.environment :=
    congrArg (Environment.mk false · true) hfaults
  rw [machineCreates, machineCreates, hopens, henvironment, hpath]

theorem machineLeavesFile_congr : m'.machineLeavesFile k = m.machineLeavesFile k := by
  have hfaults : m'.host.faults = m.host.faults := Host.faults_of_fixed hfixed
  have henvironment : m'.machine.environment = m.machine.environment :=
    congrArg (Environment.mk false · true) hfaults
  rw [machineLeavesFile, machineLeavesFile, hopens, henvironment, hpath]

end Congr

/-! ### Deletions -/

theorem machineDeletes_of_ok (h : (onMachine (·.deleteNamespace F) m).1 = .ok ()) :
    m.machineDeletes F = true := (onMachine_delete m F).ok_iff.mp h

theorem machineDeletes_of_error {e : SegwireError}
    (h : (onMachine (·.deleteNamespace F) m).1 = .error e) : m.machineDeletes F = false := by
  rw [← Bool.not_eq_true, ← (onMachine_delete m F).ok_iff, h]
  nofun

/-- A deletion that fails leaves the files where they are. -/
theorem netnsPathExists_of_not_deletes (h : m.machineDeletes F = false) :
    (onMachine (·.deleteNamespace F) m).2.host.netnsPathExists F = m.host.netnsPathExists F := by
  rw [(onMachine_delete m F).present, h, Bool.not_false, Bool.and_true]

section Deletes

variable (hdeletes : m.machineDeletes F = true)
include hdeletes

theorem isSome_netns_of_machineDeletes : m.host.netns.isSome = true := by
  have hpath := netnsPathExists_of_machineDeletes hdeletes
  cases hnetns : m.host.netns with
  | none => simp [Host.netnsPathExists, hnetns] at hpath
  | some files => rfl

theorem valid_of_machineDeletes : (validateNamespaceName F).toBool = true := by
  rw [machineDeletes, NetlinkManager.deletes, Bool.and_eq_true, Bool.and_eq_true,
    Bool.and_eq_true] at hdeletes
  exact hdeletes.2.1.1

theorem netnsFile_of_machineDeletes :
    (onMachine (·.deleteNamespace F) m).2.host.netnsFile F = none := by
  have hspec := onMachine_delete m F
  rw [hspec.ok_iff.mpr hdeletes] at hspec
  rw [hspec.netnsFile, if_pos rfl]

end Deletes

/-- The outcome of a synchronization of `m` and the deletion of a tracked name, before its
state is forgotten: other names are as after the synchronization, and the file is gone. -/
structure Deleted (F : String) (m x : Managers) : Prop where
  configManager : x.configManager = m.configManager
  simulated : x.isSimulated = m.isSimulated
  fixed : x.host.fixed = m.host.fixed
  netnsDir : x.host.netns.isSome = true
  others : ∀ k, k ≠ F → observed k x = afterSync k m
  gone : x.host.netnsFile F = none
  present : m.isSimulated = true → (viewOf F x).isPresent = (viewOf F m).isPresent

/-- A synchronization does not create a tracked name. -/
theorem settled_of_tracked {configManager : ConfigManager}
    (h : m.stateManager.namespaceStates.contains F = true) :
    m.Settled configManager (· ≠ F) := by
  intro k _ hk
  obtain rfl := not_not.mp hk
  exact h

section Tracked

variable {x mid : Managers} {orders : SyncOrders}

/-- Whether a deletion succeeds is not changed by a synchronization that does not create the
name. -/
theorem machineDeletes_of_guaranteed (h : Guaranteed (· ≠ F) m x) :
    x.machineDeletes F = m.machineDeletes F :=
  machineDeletes_congr h.fixed (h.kept F (.inl (not_not_intro rfl)))

variable (htracked : m.stateManager.namespaceStates.contains F = true)
include htracked

theorem machineDeletes_synchronize (orders : SyncOrders) :
    (m.synchronize orders).2.machineDeletes F = m.machineDeletes F :=
  machineDeletes_of_guaranteed (guaranteed_synchronize (settled_of_tracked htracked) orders)

/-- In a simulation it leaves the namespace where it is. -/
theorem synchronized_present_of_tracked :
    ((viewOf F m).synchronized m.configManager F).2 = (viewOf F m).isPresent :=
  NameView.synchronized_present fun _ => htracked

theorem deleted_after_sync (hdeletes : m.machineDeletes F = true) (orders : SyncOrders) :
    Deleted F m (onMachine (·.deleteNamespace F) (m.synchronize orders).2).2 := by
  have hsync := guaranteed_synchronize (settled_of_tracked htracked) orders
  have hcalls := calls_delete (m.synchronize orders).2 F
  rw [← machineDeletes_synchronize htracked orders] at hdeletes
  constructor
  · exact hcalls.configManager.trans hsync.configManager
  · exact hcalls.isSimulated.trans hsync.simulated
  · exact hcalls.fixed.trans hsync.fixed
  · exact hcalls.netnsDir (isSome_netns_of_machineDeletes hdeletes)
  · intro k hk
    rw [hcalls.observed_eq (.inl hk), observed_synchronize]
  · exact netnsFile_of_machineDeletes hdeletes
  · intro hsimulated
    have hpresent : (viewOf F (m.synchronize orders).2).isPresent = (viewOf F m).isPresent := by
      have hobserved := congrArg (·.1.2) (observed_synchronize orders F m)
      exact hobserved.trans (synchronized_present_of_tracked htracked)
    exact (hcalls.namespaceExists (.inr (.inl (hsync.simulated.trans hsimulated)))).trans hpresent

theorem deleted_of_interrupted (hdeletes : m.machineDeletes F = true)
    (hinterrupted : Interrupted mid (onMachine (·.deleteNamespace F) mid).2
      (listedSections orders m.configManager m.stateManager.netlinkManager.listNamespaces) m x) :
    Deleted F m x := by
  have hcalls := calls_delete mid F
  obtain ⟨hbefore, hafter⟩ := guaranteed_of_interrupted hinterrupted
    (settled_of_tracked htracked) hcalls.namespaceStates
  rw [← machineDeletes_of_guaranteed hbefore] at hdeletes
  have hdir := isSome_netns_of_machineDeletes hdeletes
  constructor
  · exact hafter.configManager.trans (hcalls.configManager.trans hbefore.configManager)
  · exact hafter.simulated.trans (hcalls.isSimulated.trans hbefore.simulated)
  · exact hafter.fixed.trans (hcalls.fixed.trans hbefore.fixed)
  · exact hafter.netnsDir.trans (hcalls.netnsDir hdir)
  · exact fun k hk => hcalls.afterSync_of_interrupted hinterrupted (.inr hdir) (.inl hk)
  · exact (hafter.kept F (.inl (not_not_intro rfl))).trans (netnsFile_of_machineDeletes hdeletes)
  · intro hsimulated
    have hview := hcalls.viewOf_eq (k := F) (.inr hdir)
      (.inr (.inl (hbefore.simulated.trans hsimulated)))
    have hobserved := observed_of_interrupted hinterrupted hcalls.namespaceStates
      hcalls.isSimulated hview
    exact (congrArg (·.1.2) hobserved).trans (synchronized_present_of_tracked htracked)

/-- A deletion that fails during a synchronization makes no difference to it. -/
theorem observed_of_interrupted_not_deletes (hdeletes : m.machineDeletes F = false)
    (hinterrupted : Interrupted mid (onMachine (·.deleteNamespace F) mid).2
      (listedSections orders m.configManager m.stateManager.netlinkManager.listNamespaces) m x)
    (hdir : mid.isSimulated = true ∨ mid.host.netns.isSome = true) (k : String) :
    observed k x = afterSync k m := by
  have hcalls := calls_delete mid F
  obtain ⟨hbefore, -⟩ := guaranteed_of_interrupted hinterrupted
    (settled_of_tracked htracked) hcalls.namespaceStates
  rw [← machineDeletes_of_guaranteed hbefore] at hdeletes
  exact hcalls.afterSync_of_interrupted hinterrupted hdir
    (.inr (netnsPathExists_of_not_deletes hdeletes))

theorem deleted_before_sync (hdeletes : m.machineDeletes F = true) (orders : SyncOrders) :
    Deleted F m ((onMachine (·.deleteNamespace F) m).2.synchronize orders).2 := by
  have hcalls := calls_delete m F
  have hdir := isSome_netns_of_machineDeletes hdeletes
  have htracked' : (onMachine (·.deleteNamespace F) m).2.stateManager.namespaceStates.contains F =
      true := by
    rw [hcalls.namespaceStates]
    exact htracked
  have hsync := guaranteed_synchronize (settled_of_tracked htracked') orders
  constructor
  · exact hsync.configManager.trans hcalls.configManager
  · exact hsync.simulated.trans hcalls.isSimulated
  · exact hsync.fixed.trans hcalls.fixed
  · exact hsync.netnsDir.trans (hcalls.netnsDir hdir)
  · intro k hk
    rw [observed_synchronize]
    exact afterSync_congr hcalls.configManager (hcalls.viewOf_eq (.inr hdir) (.inl hk))
      (hcalls.netnsPathExists hk)
  · exact (hsync.kept F (.inl (not_not_intro rfl))).trans (netnsFile_of_machineDeletes hdeletes)
  · intro hsimulated
    have hobserved := congrArg (·.1.2)
      (observed_synchronize orders F (onMachine (·.deleteNamespace F) m).2)
    refine hobserved.trans ((synchronized_present_of_tracked htracked').trans ?_)
    exact hcalls.namespaceExists (.inr (.inl hsimulated))

end Tracked

end Managers

end Segwire.Daemon
