import Segwire.Daemon.EventLoop
import Segwire.Daemon.NamespaceHandlers
import Segwire.Daemon.NetworkRequests

/-!
# Restarting a namespace

`RestartNamespace` deletes a namespace and creates it again, by a path of its own: it
makes the namespace and records it as being created. The synchronizer's path, for the
same configuration, also applies its settings and records the outcome.

## Main definitions

* `Managers.RestartSucceeds` — the call is answered with success
* `Managers.RecordsAgree`, `Managers.RequestsAgree` — the two paths do the same

## Main results

* `Managers.restart_never_agrees` — the records never agree, and the requests only if
  there are none to make
* `Managers.not_agree_bridge` — the restart of a namespace with a bridge
-/

namespace Segwire.Daemon

open Foundation Segwire.Common

namespace Managers

variable (m : Managers) (svc : ServiceState) (sur : Surroundings) (caller : Caller) (name : String)

/-- The configuration entry that `RestartNamespace` finds for a name. -/
def restartEntry : Option NamespaceConfigEntry :=
  (m.configManager.getNamespaceConfig (m.configManager.generateFullNamespaceName name)).or
    (m.configManager.getNamespaceConfig name)

/-- The call to `RestartNamespace` is answered with success. -/
def RestartSucceeds : Prop :=
  ∃ result, ((svc.handle sur caller (.restartNamespace name)).run m).1 = .ok (.operation result) ∧
    result.success = true

/-- The managers after the call. -/
def restarted : Managers := ((svc.handle sur caller (.restartNamespace name)).run m).2

/-- The managers after the deletion that a restart begins with. -/
def deleted : Managers := ((deleteNamespaceByName name).run m).2

/-- What `create_new_namespace` does after the deletion. -/
def recreated (entry : NamespaceConfigEntry) : SegwireResult SyncAction × NamespaceStateManager :=
  (m.deleted name).stateManager.createNewNamespace entry

/-- A restart records the state that `create_new_namespace` records, up to time stamps. -/
def RecordsAgree : Prop :=
  ∀ entry, m.restartEntry name = some entry →
    ((m.restarted svc sur caller name).stateManager.getNamespaceState entry.fullName).map untimed =
      ((m.recreated name entry).2.getNamespaceState entry.fullName).map untimed

/-- A restart makes the requests that `create_new_namespace` makes. -/
def RequestsAgree : Prop :=
  ∀ entry, m.restartEntry name = some entry →
    (m.restarted svc sur caller name).stateManager.requests = (m.recreated name entry).2.requests

variable {m svc sur caller name}

/-! ### The sections of a restart -/

theorem requests_onMachine {α : Type}
    (operation : NetlinkManager → SegwireResult α × NetlinkManager)
    (hsame : ∀ netlink, (operation netlink).2.host.requests = netlink.host.requests)
    (m : Managers) : (onMachine operation m).2.stateManager.requests = m.stateManager.requests := by
  have hnew := NetlinkManager.requests_new m.host
  unfold onMachine
  rcases hresult : NetlinkManager.new m.host with ⟨e | netlink, host⟩ <;> rw [hresult] at hnew
  · exact hnew
  · exact (hsame netlink).trans hnew

/-- What a deletion that succeeds does. -/
theorem run_deleteNamespaceByName {m' : Managers}
    (h : (deleteNamespaceByName name).run m = (.ok (), m')) :
    m'.configManager = m.configManager ∧
      m'.stateManager.namespaceStates = (m.stateManager.namespaceStates.erase name).erase
        (m.configManager.generateFullNamespaceName name) ∧
      m'.stateManager.requests = m.stateManager.requests := by
  let operation (netlink : NetlinkManager) :=
    netlink.deleteNamespace (m.configManager.generateFullNamespaceName name)
  have hrequests :=
    requests_onMachine operation (fun netlink => netlink.requests_deleteNamespace _) m
  have hconfig := configManager_onMachine operation m
  have hstates := namespaceStates_onMachine operation m
  obtain ⟨-, e, hrun⟩ | ⟨-, ⟨e, m₁, -, hrun⟩ | ⟨m₁, hmachine, hrun⟩⟩ :=
    run_deleteNamespaceByName_cases m name
  · cases hrun.symm.trans h
  · cases hrun.symm.trans h
  · obtain rfl := congrArg Prod.snd (hrun.symm.trans h)
    rw [hmachine] at hrequests hconfig hstates
    refine ⟨hconfig, ?_, hrequests⟩
    rw [← hstates]
    rfl

/-- What a creation that succeeds does. -/
theorem run_createNamespaceFromConfig {config : NamespaceConfig} {fullName : String} {m' : Managers}
    (h : (createNamespaceFromConfig config).run m = (.ok fullName, m')) :
    (∃ configPath now, m'.stateManager.namespaceStates = m.stateManager.namespaceStates.insert
        (NamespaceState.new config.namespace_.name fullName configPath now)) ∧
      m'.stateManager.requests = m.stateManager.requests := by
  let operation (netlink : NetlinkManager) :=
    netlink.createNamespace (m.configManager.generateFullNamespaceName config.namespace_.name)
  have hrequests :=
    requests_onMachine operation (fun netlink => netlink.requests_createNamespace _) m
  have hstates := namespaceStates_onMachine operation m
  obtain ⟨e, m₁, -, hrun⟩ | ⟨info, m₁, configPath, hmachine, hrun⟩ :=
    run_createNamespaceFromConfig_cases m config
  · cases hrun.symm.trans h
  · obtain rfl := congrArg Prod.snd (hrun.symm.trans h)
    obtain rfl := Except.ok.inj (congrArg Prod.fst (hrun.symm.trans h))
    rw [hmachine] at hrequests hstates
    refine ⟨⟨configPath, m₁.now.1, ?_⟩, hrequests⟩
    rw [← hstates]
    rfl

/-- A restart that is answered with success found an entry, deleted the namespace and
created it from the entry's configuration. -/
theorem exists_of_run_restartNamespace {result : OperationResult} {m' : Managers}
    (h : (restartNamespace name).run m = (.ok (.operation result), m'))
    (hsuccess : result.success = true) :
    ∃ entry fullName, m.restartEntry name = some entry ∧
      (deleteNamespaceByName name).run m = (.ok (), m.deleted name) ∧
      (createNamespaceFromConfig entry.config).run (m.deleted name) = (.ok fullName, m') := by
  have hfailure {message : String}
      (hreply : (Except.ok (.operation (.failure message)) : Except MethodErr Reply) =
        .ok (.operation result)) : False := by
    obtain rfl := Reply.operation.inj (Except.ok.inj hreply)
    cases hsuccess
  simp only [restartNamespace, Task.run_bind, Task.run_read] at h
  rw [← restartEntry] at h
  cases hentry : m.restartEntry name with
  | none =>
    rw [hentry] at h
    exact (hfailure (congrArg Prod.fst h)).elim
  | some entry =>
    rw [hentry] at h
    change Task.run (deleteNamespaceByName name >>= _) m = _ at h
    rw [Task.run_bind] at h
    unfold deleted
    rcases hdelete : (deleteNamespaceByName name).run m with ⟨e | ⟨⟩, m₁⟩ <;> rw [hdelete] at h
    · -- each failing branch answers with a failure
      exact (hfailure (congrArg Prod.fst h)).elim
    · change Task.run (createNamespaceFromConfig entry.config >>= _) m₁ = _ at h
      rw [Task.run_bind] at h
      rcases hcreate : (createNamespaceFromConfig entry.config).run m₁ with ⟨e | fullName, m₂⟩ <;>
        rw [hcreate] at h
      · exact (hfailure (congrArg Prod.fst h)).elim
      · obtain rfl := congrArg Prod.snd h
        exact ⟨entry, fullName, rfl, rfl, hcreate⟩

/-- A call that is answered with success is served. -/
theorem RestartSucceeds.exists_sections (h : m.RestartSucceeds svc sur caller name) :
    ∃ entry fullName, m.restartEntry name = some entry ∧
      (deleteNamespaceByName name).run m = (.ok (), m.deleted name) ∧
      (createNamespaceFromConfig entry.config).run (m.deleted name) =
        (.ok fullName, m.restarted svc sur caller name) := by
  obtain ⟨result, hreply, hsuccess⟩ := h
  unfold restarted
  unfold ServiceState.handle at hreply ⊢
  cases hargument : (Method.restartNamespace name).checkArgument sur.platform with
  | error e => simp [hargument] at hreply
  | ok accepted =>
    simp only [hargument] at hreply ⊢
    cases hauthorized :
        checkAuthorization svc sur.bus (Method.restartNamespace name).action caller with
    | error e => simp [hauthorized] at hreply
    | ok authorized =>
      simp only [hauthorized] at hreply ⊢
      exact exists_of_run_restartNamespace (Prod.ext hreply rfl) hsuccess

/-! ### Comparing the two paths -/

/-- A deletion forgets the state of the entry that the restart found. -/
theorem untracked_deleted {entry : NamespaceConfigEntry} (hentry : m.restartEntry name = some entry)
    (hdelete : (deleteNamespaceByName name).run m = (.ok (), m.deleted name)) :
    (m.deleted name).stateManager.namespaceStates.lookup entry.fullName = none := by
  obtain ⟨-, hstates, -⟩ := run_deleteNamespaceByName hdelete
  have hname : entry.fullName = m.configManager.generateFullNamespaceName name ∨
      entry.fullName = name := by
    rcases Option.or_eq_some_iff.mp hentry with hfound | ⟨-, hfound⟩
    · exact Or.inl (KeyedMap.key_eq_of_lookup hfound)
    · exact Or.inr (KeyedMap.key_eq_of_lookup hfound)
  rw [hstates, KeyedMap.lookup_erase, KeyedMap.lookup_erase]
  rcases hname with hname | hname <;> simp [hname]

/-- `create_new_namespace` never leaves a state that is being created. -/
theorem exists_state_recreated (m : Managers) (name : String) (entry : NamespaceConfigEntry) :
    ∃ state, (m.recreated name entry).2.namespaceStates.lookup entry.fullName = some state ∧
      state.status ≠ .creating := by
  have hspec := NamespaceStateManager.createNewNamespace_spec (m.deleted name).stateManager entry
  dsimp only at hspec
  split_ifs at hspec
  · obtain ⟨-, createdAt, lastUpdated, hcomponent⟩ := hspec
    exact ⟨_, congrArg Prod.fst hcomponent, by simp [activeState]⟩
  · obtain ⟨-, createdAt, lastUpdated, hcomponent⟩ := hspec
    exact ⟨_, congrArg Prod.fst hcomponent, by simp [failedState]⟩

/-- A restart that is answered with success never records what `create_new_namespace`
records; and it makes the same requests only if that makes none. -/
theorem restart_never_agrees (h : m.RestartSucceeds svc sur caller name) :
    ¬ m.RecordsAgree svc sur caller name ∧
      (m.RequestsAgree svc sur caller name ↔ ∀ entry, m.restartEntry name = some entry →
        (m.recreated name entry).1 ≠ .ok .created ∨ ¬ HasSettings entry.config) := by
  obtain ⟨entry, fullName, hentry, hdelete, hcreate⟩ := h.exists_sections
  obtain ⟨⟨configPath, now, hstates⟩, hrequests⟩ := run_createNamespaceFromConfig hcreate
  constructor
  · intro hagree
    obtain ⟨state, hstate, hstatus⟩ := exists_state_recreated m name entry
    have hrecords := hagree entry hentry
    rw [NamespaceStateManager.getNamespaceState, NamespaceStateManager.getNamespaceState, hstate,
      hstates, KeyedMap.lookup_insert, untracked_deleted hentry hdelete] at hrecords
    split_ifs at hrecords
    · -- the restart leaves its record as being created
      have hcreating := congrArg NamespaceState.status (Option.some.inj hrecords)
      exact hstatus hcreating.symm
    · cases hrecords
  · refine forall₂_congr fun entry' hentry' => ?_
    obtain rfl := Option.some.inj (hentry.symm.trans hentry')
    rw [hrequests, eq_comm]
    exact NamespaceStateManager.requests_createNewNamespace_iff _ entry

section Bridge

/-- A configuration with a bridge. -/
def withBridge : NamespaceConfig :=
  { NamespaceConfig.bare "one" with
    interfaces := ⟨[], [⟨"br0", "bridge", none, ["10.0.0.1/24"]⟩]⟩ }

/-- The text of the configuration. -/
def bridgeToml : String :=
  bareText "one" ++ "[[interfaces.virtual_interfaces]]\nname = 'br0'\n" ++
    "interface_type = 'bridge'\naddresses = ['10.0.0.1/24']\n"

/-- A platform that knows it. -/
def bridgeText : Platform := .ofTables [(bridgeToml, withBridge)] []

/-- A daemon on the machine itself, after the initial synchronization that creates its
namespace. -/
def bridged : SegwireResult DaemonEventLoop := do
  let s ← DaemonEventLoop.start bridgeText (.quiet false "new" 5 (oneFile bridgeToml 0))
  return s.step bridgeText (.initialSync .sorted)

end Bridge

theorem restart_never_agrees_bridge : ∃ s, bridged = .ok s ∧
    ¬ s.managers.RecordsAgree s.service (.authorizing bridgeText) operator "one" ∧
    (s.managers.RequestsAgree s.service (.authorizing bridgeText) operator "one" ↔
      ∀ entry, s.managers.restartEntry "one" = some entry →
        (s.managers.recreated "one" entry).1 ≠ .ok .created ∨ ¬ HasSettings entry.config) :=
  ⟨_, rfl, restart_never_agrees ⟨_, rfl, rfl⟩⟩

/-- A restart does not ask for the bridge, and leaves the namespace tracked as being created. -/
theorem not_agree_bridge : ∃ s, bridged = .ok s ∧
    s.managers.RestartSucceeds s.service (.authorizing bridgeText) operator "one" ∧
    ¬ (s.managers.RecordsAgree s.service (.authorizing bridgeText) operator "one" ∧
      s.managers.RequestsAgree s.service (.authorizing bridgeText) operator "one") := by
  refine ⟨_, rfl, ⟨_, rfl, rfl⟩, fun hagree => ?_⟩
  have hstates := hagree.1 _ rfl
  revert hstates
  decide

end Managers

end Segwire.Daemon
