import Segwire.Daemon.NamespaceHandlers
import Segwire.Foundation.Run

/-!
# The simulation of the namespace life cycle

Tests that are not run as root rest on the simulated backend, which keeps a map where the
real one keeps a directory of mounted files. On a machine without faults, both do what a
set of names does: they cannot be told apart by the calls that create, delete, find and
list namespaces, except by the ids and paths that they give out.

## Main definitions

* `LifecycleCall`, `NetlinkManager.perform` — the calls, and what a backend answers
* `LifecycleCall.onNames` — what they do to a set of names
* `NetlinkManager.Mirrors`, `NetlinkManager.Mounts` — the backends as sets of names

## Main results

* `NetlinkManager.mirrors_perform`, `NetlinkManager.mounts_perform` — one call
* `NetlinkManager.answers_simulated_eq_real` — every sequence of calls
-/

namespace Segwire.Daemon

open Foundation Segwire.Common

/-- A name that namespaces may have. -/
def NamespaceName := { name : String // validateNamespaceName name = .ok () }

/-- The calls of the life cycle. -/
inductive LifecycleCall
  | createNamespace (name : NamespaceName)
  | deleteNamespace (name : NamespaceName)
  | namespaceExists (name : NamespaceName)
  | listNamespaces
  | getNamespaceInfo (name : NamespaceName)

/-- What a call answers, but for ids and paths. -/
inductive LifecycleAnswer
  | named (result : SegwireResult String)
  | deleted (result : SegwireResult Unit)
  | present (result : Bool)
  | listed (result : SegwireResult (Finset String))

/-- A call to a netlink manager. -/
def NetlinkManager.perform (manager : NetlinkManager) :
    LifecycleCall → LifecycleAnswer × NetlinkManager
  | .createNamespace name =>
    let (result, manager) := manager.createNamespace name.val
    (.named (result.map NamespaceInfo.name), manager)
  | .deleteNamespace name =>
    let (result, manager) := manager.deleteNamespace name.val
    (.deleted result, manager)
  | .namespaceExists name => (.present (manager.namespaceExists name.val), manager)
  | .listNamespaces => (.listed (manager.listNamespaces.map (·.toMap.keys)), manager)
  | .getNamespaceInfo name =>
    (.named ((manager.getNamespaceInfo name.val).map NamespaceInfo.name), manager)

/-- The calls as operations on the set of the names that exist. -/
def LifecycleCall.onNames (names : Finset String) : LifecycleCall → LifecycleAnswer × Finset String
  | .createNamespace name =>
    if name.val ∈ names then
      (.named (.error (NetlinkError.namespaceExists name.val).toSegwireError), names)
    else (.named (.ok name.val), insert name.val names)
  | .deleteNamespace name =>
    if name.val ∈ names then (.deleted (.ok ()), names.erase name.val)
    else (.deleted (.error (NetlinkError.namespaceNotFound name.val).toSegwireError), names)
  | .namespaceExists name => (.present (decide (name.val ∈ names)), names)
  | .listNamespaces => (.listed (.ok names), names)
  | .getNamespaceInfo name =>
    if name.val ∈ names then (.named (.ok name.val), names)
    else (.named (.error (NetlinkError.namespaceNotFound name.val).toSegwireError), names)

namespace NetlinkManager

variable {netlink : NetlinkManager} {names : Finset String}

/-! ### The simulated backend -/

/-- The simulated backend holds the names. -/
def Mirrors (netlink : NetlinkManager) (names : Finset String) : Prop :=
  ∃ state, netlink.backend = .simulated state ∧ state.namespaces.toMap.keys = names

theorem keys_insert {info : NamespaceInfo} (namespaces : KeyedMap NamespaceInfo.name) :
    (namespaces.insert info).toMap.keys = insert info.name namespaces.toMap.keys := by
  ext k
  rw [Finset.mem_insert, Finmap.mem_keys, Finmap.mem_keys]
  exact Finmap.mem_insert

theorem keys_erase (namespaces : KeyedMap NamespaceInfo.name) (name : String) :
    (namespaces.erase name).toMap.keys = namespaces.toMap.keys.erase name := by
  ext k
  rw [Finset.mem_erase, Finmap.mem_keys, Finmap.mem_keys]
  exact Finmap.mem_erase

/-- On the simulated backend, every call does what it does to a set of names. -/
theorem mirrors_perform (h : netlink.Mirrors names) (call : LifecycleCall) :
    (netlink.perform call).1 = (call.onNames names).1 ∧
      (netlink.perform call).2.Mirrors (call.onNames names).2 := by
  obtain ⟨state, hbackend, rfl⟩ := h
  have hmirrors : netlink.Mirrors state.namespaces.toMap.keys := ⟨state, hbackend, rfl⟩
  have hcontains (k : String) :
      state.namespaces.contains k = true ↔ k ∈ state.namespaces.toMap.keys := by
    rw [Finmap.mem_keys]
    exact Finmap.lookup_isSome
  cases call with
  | createNamespace name =>
    obtain ⟨name, hvalid⟩ := name
    have hcreate : netlink.createNamespace name = netlink.createSimulated state name := by
      simp [createNamespace, hvalid, hbackend]
    simp only [perform, LifecycleCall.onNames, hcreate, createSimulated]
    split_ifs with hsimulated hmem hmem
    · exact ⟨rfl, hmirrors⟩
    · exact absurd ((hcontains name).mp hsimulated) hmem
    · exact absurd ((hcontains name).mpr hmem) hsimulated
    · exact ⟨rfl, _, rfl, keys_insert _⟩
  | deleteNamespace name =>
    obtain ⟨name, hvalid⟩ := name
    simp only [perform, LifecycleCall.onNames, deleteNamespace, hvalid, hbackend]
    split_ifs with hsimulated hmem hmem
    · exact ⟨rfl, _, rfl, keys_erase _ _⟩
    · exact absurd ((hcontains name).mp hsimulated) hmem
    · exact absurd ((hcontains name).mpr hmem) hsimulated
    · exact ⟨rfl, hmirrors⟩
  | namespaceExists name =>
    refine ⟨congrArg LifecycleAnswer.present ?_, hmirrors⟩
    unfold namespaceExists
    rw [hbackend, Bool.eq_iff_iff, decide_eq_true_iff]
    exact hcontains name.val
  | listNamespaces =>
    refine ⟨congrArg LifecycleAnswer.listed ?_, hmirrors⟩
    unfold listNamespaces
    rw [hbackend]
    rfl
  | getNamespaceInfo name =>
    obtain ⟨name, hvalid⟩ := name
    simp only [perform, LifecycleCall.onNames, getNamespaceInfo, hvalid, hbackend]
    cases hinfo : state.namespaces.lookup name with
    | none =>
      rw [if_neg]
      · exact ⟨rfl, hmirrors⟩
      · intro hmem
        have hpresent := (hcontains name).mpr hmem
        rw [KeyedMap.contains, hinfo] at hpresent
        cases hpresent
    | some info =>
      rw [if_pos ((hcontains name).mp (KeyedMap.contains_iff.mpr ⟨info, hinfo⟩))]
      -- what is stored under a name carries it
      obtain rfl : info.name = name := KeyedMap.key_eq_of_lookup hinfo
      exact ⟨rfl, hmirrors⟩

/-! ### The real backend -/

/-- The names have files in the directory of a machine that works, and nothing else has. -/
structure Mounts (netlink : NetlinkManager) (names : Finset String) : Prop where
  backend : netlink.backend = .real
  works : netlink.host.Works
  directory : netlink.host.netns.isSome = true
  netnsFile : ∀ k, netlink.host.netnsFile k = if k ∈ names then some ⟨true⟩ else none

theorem Mounts.netnsPathExists (h : netlink.Mounts names) (k : String) :
    netlink.host.netnsPathExists k = decide (k ∈ names) := by
  rw [Host.netnsPathExists_eq, h.netnsFile k]
  split_ifs with hk <;> simp [hk]

/-- A creation on a machine that works mounts the namespace, unless it is there. -/
theorem Mounts.createNamespace (h : netlink.Mounts names) {name : String}
    (hvalid : validateNamespaceName name = .ok ()) (hmem : name ∉ names) :
    (netlink.createNamespace name).1.map NamespaceInfo.name = .ok name ∧
      (netlink.createNamespace name).2.Mounts (insert name names) := by
  have hcreate : netlink.createNamespace name = netlink.createReal name := by
    simp [NetlinkManager.createNamespace, hvalid, h.backend]
  have hpath : netlink.host.netnsPathExists name = false := by
    rw [h.netnsPathExists, decide_eq_false hmem]
  have hresult := createReal_ok hpath (h.works.noFaults _) h.directory (h.works.noFaults _)
  have htouched := (Host.Touched.setNetnsFile netlink.host name ⟨false⟩).trans
    (Host.Touched.setNetnsFile _ name ⟨true⟩)
  have hfiles (k : String) :
      ((netlink.host.setNetnsFile name ⟨false⟩).setNetnsFile name ⟨true⟩).netnsFile k =
        if k ∈ insert name names then some ⟨true⟩ else none := by
    by_cases hk : k = name
    · obtain ⟨files, hnetns⟩ := Option.isSome_iff_exists.mp h.directory
      subst hk
      simp [Host.netnsFile, Host.setNetnsFile, hnetns]
    · rw [htouched.others k hk, h.netnsFile k]
      simp [hk]
  rw [hcreate, hresult]
  refine ⟨rfl, h.backend, ⟨h.works.isRoot, h.works.noFaults, fun k file hfile => ?_⟩, ?_, hfiles⟩
  · have hmounted := (hfiles k).symm.trans hfile
    split_ifs at hmounted
    exact (Option.some.inj hmounted).symm
  · rw [isSome_netns_setNetnsFile, isSome_netns_setNetnsFile]
    exact h.directory

/-- A deletion on a machine that works removes the namespace if it is there. -/
theorem Mounts.deleteNamespace (h : netlink.Mounts names) {name : String}
    (hvalid : validateNamespaceName name = .ok ()) (hmem : name ∈ names) :
    (netlink.deleteNamespace name).1 = .ok () ∧
      (netlink.deleteNamespace name).2.Mounts (names.erase name) := by
  have hspec := netlink.deleteNamespace_spec name
  obtain ⟨hworks, hfiles⟩ := deleteNamespace_of_works h.backend h.works name
  have hsimulated := congrArg Environment.simulated hspec.environment
  have hfile : netlink.host.netnsFile name = some ⟨true⟩ := by
    rw [h.netnsFile, if_pos hmem]
  refine ⟨hspec.ok_iff.mpr ?_, ?_, hworks, ?_, fun k => ?_⟩
  · have hthere : netlink.namespaceExists name = true := by
      rw [NetlinkManager.namespaceExists, h.backend]
      exact (h.netnsPathExists name).trans (decide_eq_true hmem)
    have hmounted : netlink.isMounted name = true := decide_eq_true hfile
    simp [deletes, deletesNetns, hvalid, Except.toBool, hthere, hmounted, h.works.noFaults]
  · exact isSimulated_eq_false_iff.mp
      (hsimulated.trans (isSimulated_eq_false_iff.mpr h.backend))
  · exact (congrArg Environment.netnsDir hspec.environment).trans h.directory
  · rw [hfiles k, h.netnsFile k]
    by_cases hk : k = name
    · simp [hk, hvalid]
    · simp [hk]

/-- On the real backend of a machine that works, every call does what it does to a set of
names. -/
theorem mounts_perform (h : netlink.Mounts names) (call : LifecycleCall) :
    (netlink.perform call).1 = (call.onNames names).1 ∧
      (netlink.perform call).2.Mounts (call.onNames names).2 := by
  cases call with
  | createNamespace name =>
    obtain ⟨name, hvalid⟩ := name
    simp only [perform, LifecycleCall.onNames]
    split_ifs with hmem
    · have hpath := (h.netnsPathExists name).trans (decide_eq_true hmem)
      simp only [NetlinkManager.createNamespace, hvalid, h.backend, createReal, hpath, if_true]
      exact ⟨rfl, h⟩
    · obtain ⟨hresult, hmounts⟩ := h.createNamespace hvalid hmem
      exact ⟨congrArg LifecycleAnswer.named hresult, hmounts⟩
  | deleteNamespace name =>
    obtain ⟨name, hvalid⟩ := name
    simp only [perform, LifecycleCall.onNames]
    split_ifs with hmem
    · obtain ⟨hresult, hmounts⟩ := h.deleteNamespace hvalid hmem
      exact ⟨congrArg LifecycleAnswer.deleted hresult, hmounts⟩
    · have hpath := (h.netnsPathExists name).trans (decide_eq_false hmem)
      simp only [NetlinkManager.deleteNamespace, hvalid, h.backend, hpath]
      exact ⟨rfl, h⟩
  | namespaceExists name =>
    refine ⟨congrArg LifecycleAnswer.present ?_, h⟩
    rw [NetlinkManager.namespaceExists, h.backend]
    exact h.netnsPathExists name.val
  | listNamespaces =>
    refine ⟨congrArg LifecycleAnswer.listed ?_, h⟩
    obtain ⟨files, hnetns⟩ := Option.isSome_iff_exists.mp h.directory
    have hlist : netlink.listNamespaces = .ok (listReal netlink.host files) := by
      simp [NetlinkManager.listNamespaces, h.backend, hnetns, h.works.noFaults]
    rw [hlist]
    -- the listed names are those of the files, all of which can be read
    refine congrArg Except.ok (Finset.ext fun k => ?_)
    rw [Finmap.mem_keys, ← Finmap.lookup_isSome]
    change (listReal netlink.host files).contains k = true ↔ _
    rw [contains_listed hlist, NetlinkManager.namespaceExists, h.backend, h.works.noFaults]
    simp [h.netnsPathExists k]
  | getNamespaceInfo name =>
    obtain ⟨name, hvalid⟩ := name
    simp only [perform, LifecycleCall.onNames, getNamespaceInfo, hvalid, h.backend,
      h.netnsPathExists name]
    by_cases hmem : name ∈ names
    · simp only [hmem, decide_true, if_true]
      exact ⟨rfl, h⟩
    · simp only [hmem, decide_false, if_false]
      exact ⟨rfl, h⟩

/-! ### Every sequence of calls -/

/-- On a machine that works and has no namespaces yet, the simulated backend answers every
sequence of calls like the real one. -/
theorem answers_simulated_eq_real {host host' : Host} (hworks : host.Works)
    (hempty : host.netns = some ∅) (calls : List LifecycleCall) :
    answers perform (newSimulated host') calls = answers perform ⟨.real, host⟩ calls := by
  have hmirrors : (newSimulated host').Mirrors ∅ := ⟨.new, rfl, rfl⟩
  have hmounts : Mounts ⟨.real, host⟩ ∅ := by
    refine ⟨rfl, hworks, by rw [hempty]; rfl, fun k => ?_⟩
    rw [Host.netnsFile, hempty]
    rfl
  calc answers perform (newSimulated host') calls
      = answers (fun names call => LifecycleCall.onNames names call) ∅ calls :=
        answers_eq_of_simulation Mirrors (fun _ _ call h => mirrors_perform h call) hmirrors calls
    _ = answers perform ⟨.real, host⟩ calls :=
        (answers_eq_of_simulation Mounts (fun _ _ call h => mounts_perform h call) hmounts
          calls).symm

theorem answers_simulated_eq_real_app :
    let host := Host.quiet 0 (Disk.fileSystem ⟨∅, ∅⟩ .sorted)
    let app : NamespaceName := ⟨"app", by decide⟩
    let calls := [.createNamespace app, .createNamespace app, .listNamespaces,
      .getNamespaceInfo app, .deleteNamespace app, .namespaceExists app, .deleteNamespace app]
    answers perform (newSimulated host) calls = answers perform ⟨.real, host⟩ calls := by
  intro host app calls
  refine answers_simulated_eq_real ⟨rfl, fun _ => rfl, fun name file hfile => ?_⟩ rfl calls
  cases hfile

end NetlinkManager

end Segwire.Daemon
