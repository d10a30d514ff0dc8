import Segwire.Daemon.ConfigStore
import Segwire.Daemon.RestartAgreement
import Segwire.Daemon.StepInvariants

/-!
# Recovering a namespace by a restart

`RestartNamespace` deletes a namespace before it creates it again, and a deletion that
fails ends it. So it recovers only what is tracked and there, although the machine
would create an absent namespace without fault.

## Main definitions

* `Managers.WithoutFault` — the machine deletes a namespace that is there and creates
  one that is not
* `Managers.RestartRecovers` — the call succeeds, and the namespace is there afterwards
* `DaemonEventLoop.ReadsDirectory` — the steps whose directory reads do not fail

## Main results

* `Managers.restartRecovers_iff` — when a restart recovers a namespace
* `DaemonEventLoop.linkedConfigs_along_run` — the entries are linked as long as directories can
  be read
* `DaemonEventLoop.restartRecovers_along_run`, `DaemonEventLoop.not_recovers_absent_or_untracked`
-/

namespace Segwire.Daemon

open Foundation Segwire.Common

namespace Managers

variable {m m' : Managers} {k k' : String}

/-- The machine deletes the namespace if it is there and creates it if it is not: the
name is valid, the daemon may act, no system call has a fault for it, and its file is a
namespace. -/
structure WithoutFault (m : Managers) (k : String) : Prop where
  valid : validateNamespaceName k = .ok ()
  opens : NetlinkManager.opens m.host = true
  faults : ∀ call ∈ [Syscall.createFile k, .mountNetns k, .umount k, .removeFile k],
    m.host.faults call = none
  mounted : ∀ file, m.host.netnsFile k = some file → file = ⟨true⟩

namespace WithoutFault

theorem machineDeletes_eq (h : m.WithoutFault k) :
    m.machineDeletes k = m.host.netnsPathExists k := by
  have humount : m.machine.host.faults (.umount k) = none := h.faults _ (by simp)
  have hremove : m.machine.host.faults (.removeFile k) = none := h.faults _ (by simp)
  have hmounted : m.machine.isMounted k = m.host.netnsPathExists k := by
    rw [NetlinkManager.isMounted, Host.netnsPathExists_eq]
    change decide (m.host.opened.netnsFile k = some ⟨true⟩) = _
    rw [Host.netnsFile_opened]
    cases hfile : m.host.netnsFile k with
    | none => rfl
    | some file => simp [h.mounted file hfile]
  rw [machineDeletes, h.opens, NetlinkManager.deletes, namespaceExists_machine,
    NetlinkManager.deletesNetns, humount, hremove, hmounted, h.valid]
  cases m.host.netnsPathExists k <;> rfl

theorem machineCreates_eq (h : m.WithoutFault k) :
    m.machineCreates k = !m.host.netnsPathExists k := by
  have hcreate : m.machine.environment.faults (.createFile k) = none := h.faults _ (by simp)
  have hmount : m.machine.environment.faults (.mountNetns k) = none := h.faults _ (by simp)
  rw [machineCreates, h.opens, Environment.creates, h.valid, hcreate, hmount]
  cases m.host.netnsPathExists k <;> rfl

/-- The absence of faults outlasts what is done to a name, if its file is then absent. -/
theorem of_touched (h : m.WithoutFault k) (htouched : m.host.Touched k' m'.host)
    (hopens : NetlinkManager.opens m'.host = NetlinkManager.opens m.host)
    (hgone : m'.host.netnsFile k' = none) : m'.WithoutFault k where
  valid := h.valid
  opens := hopens.trans h.opens
  faults call hcall := by
    obtain ⟨netns, hhost⟩ := htouched.machine
    rw [hhost]
    exact h.faults call hcall
  mounted file hfile := by
    by_cases hk : k = k'
    · subst hk
      rw [hgone] at hfile
      cases hfile
    · exact h.mounted file ((htouched.others k hk).symm.trans hfile)

end WithoutFault

/-! ### Restarts -/

section Restart

variable {svc : ServiceState} {sur : Surroundings} {caller : Caller} {name : String}
  {entry : NamespaceConfigEntry}

/-- The call succeeds, and the namespace of the configuration is there afterwards. -/
def RestartRecovers (m : Managers) (svc : ServiceState) (sur : Surroundings) (caller : Caller)
    (name : String) (entry : NamespaceConfigEntry) : Prop :=
  m.RestartSucceeds svc sur caller name ∧
    (m.restarted svc sur caller name).host.netnsPathExists entry.fullName = true

/-- A served call with a configuration deletes and then creates. -/
theorem restartSucceeds_of_run {m₁ m₂ : Managers} {fullName : String}
    (hserved : Served svc sur caller (.restartNamespace name))
    (hentry : m.restartEntry name = some entry)
    (hdelete : (deleteNamespaceByName name).run m = (.ok (), m₁))
    (hcreate : (createNamespaceFromConfig entry.config).run m₁ = (.ok fullName, m₂)) :
    m.RestartSucceeds svc sur caller name ∧ m.restarted svc sur caller name = m₂ := by
  have hrun : (restartNamespace name).run m = (.ok (.operation (.successful
      ("Namespace '" ++ fullName ++ "' restarted successfully"))), m₂) := by
    simp only [restartNamespace, Task.run_bind, Task.run_read]
    rw [← restartEntry, hentry]
    change Task.run (deleteNamespaceByName name >>= _) m = _
    rw [Task.run_bind, hdelete]
    change Task.run (createNamespaceFromConfig entry.config >>= _) m₁ = _
    rw [Task.run_bind, hcreate]
    rfl
  unfold RestartSucceeds restarted
  rw [hserved.handle]
  simp only [ServiceState.serve]
  rw [hrun]
  exact ⟨⟨_, rfl, rfl⟩, rfl⟩

/-- What the deletion of a tracked namespace that is there leaves. -/
theorem exists_deletion (hfault : m.WithoutFault (m.configManager.generateFullNamespaceName name))
    (htracked : m.tracksEither name = true)
    (hpresent :
      m.host.netnsPathExists (m.configManager.generateFullNamespaceName name) = true) :
    ∃ after, (deleteNamespaceByName name).run m = (.ok (), after) ∧
      after.configManager = m.configManager ∧
      (∀ k, after.host.netnsPathExists k =
        (!decide (k = m.configManager.generateFullNamespaceName name) &&
          m.host.netnsPathExists k)) ∧
      ∀ k, m.WithoutFault k → after.WithoutFault k := by
  obtain ⟨m₁, hspec, hrun⟩ := exists_run_deleteNamespaceByName htracked
    (hfault.machineDeletes_eq.trans hpresent)
  refine ⟨_, hrun, ?_, fun k => ?_, fun k hk => ?_⟩
  · obtain ⟨host, -, rfl⟩ := hspec.touched
    rfl
  · change m₁.host.netnsPathExists k = _
    rw [Host.netnsPathExists_eq, hspec.netnsFile, Host.netnsPathExists_eq]
    split_ifs with hself <;> simp [hself]
  · have hopens := hspec.opens
    have hgone : m₁.host.netnsFile (m.configManager.generateFullNamespaceName name) = none := by
      rw [hspec.netnsFile, if_pos rfl]
    obtain ⟨host, htouched, rfl⟩ := hspec.touched
    have hafter : (m.setHost host).WithoutFault k := hk.of_touched htouched hopens hgone
    exact ⟨hafter.valid, hafter.opens, hafter.faults, hafter.mounted⟩

/-- What the creation of an absent namespace adds. -/
theorem exists_creation {config : NamespaceConfig}
    (hk : m.configManager.generateFullNamespaceName config.namespace_.name = k)
    (hfault : m.WithoutFault k) (habsent : m.host.netnsPathExists k = false) :
    ∃ after, (createNamespaceFromConfig config).run m = (.ok k, after) ∧
      ∀ k', after.host.netnsPathExists k' = (decide (k' = k) || m.host.netnsPathExists k') := by
  subst hk
  have hcreates := hfault.machineCreates_eq
  rw [habsent, Bool.not_false] at hcreates
  obtain ⟨info, m₁, configPath, hspec, hrun⟩ := exists_run_createNamespaceFromConfig hcreates
  refine ⟨_, hrun, fun k' => ?_⟩
  change m₁.host.netnsPathExists k' = _
  by_cases hself : k' = m.configManager.generateFullNamespaceName config.namespace_.name
  · rw [hself, Host.netnsPathExists_eq, hspec.mounted ⟨info, rfl⟩]
    simp
  · obtain ⟨host, htouched, rfl⟩ := hspec.touched
    rw [Host.netnsPathExists_eq]
    change (host.netnsFile k').isSome = _
    rw [htouched.others k' hself, ← Host.netnsPathExists_eq, decide_eq_false hself, Bool.false_or]

/-- Without faults, a restart recovers a namespace iff it is tracked and there, and the
name that its configuration gives is free after the deletion and its own. -/
theorem restartRecovers_iff (hserved : Served svc sur caller (.restartNamespace name))
    (hentry : m.restartEntry name = some entry)
    (hfault : m.WithoutFault (m.configManager.generateFullNamespaceName name))
    (hfault' : m.WithoutFault
      (m.configManager.generateFullNamespaceName entry.config.namespace_.name)) :
    let fullName := m.configManager.generateFullNamespaceName name
    let configuredName := m.configManager.generateFullNamespaceName entry.config.namespace_.name
    m.RestartRecovers svc sur caller name entry ↔
      m.tracksEither name = true ∧ m.host.netnsPathExists fullName = true ∧
        (configuredName = fullName ∨ m.host.netnsPathExists configuredName = false) ∧
        (entry.fullName = configuredName ∨
          entry.fullName ≠ fullName ∧ m.host.netnsPathExists entry.fullName = true) := by
  intro fullName configuredName
  constructor
  · rintro ⟨hsucceeds, hthere⟩
    obtain ⟨entry', created, hentry', hdelete, hcreate⟩ := hsucceeds.exists_sections
    obtain rfl := Option.some.inj (hentry.symm.trans hentry')
    obtain ⟨htracked, hdeletes⟩ :=
      (run_deleteNamespaceByName_ok_iff m name).mp (congrArg Prod.fst hdelete)
    have hpresent := hfault.machineDeletes_eq.symm.trans hdeletes
    obtain ⟨after, hrun, hconfig, hpath, hfaults⟩ := exists_deletion hfault htracked hpresent
    obtain rfl : after = m.deleted name := congrArg Prod.snd (hrun.symm.trans hdelete)
    have hcreates := (run_createNamespaceFromConfig_ok_iff _ _).mp ⟨_, congrArg Prod.fst hcreate⟩
    rw [hconfig, (hfaults _ hfault').machineCreates_eq, Bool.not_eq_true'] at hcreates
    obtain ⟨created', hrun', hpath'⟩ :=
      exists_creation (by rw [hconfig]) (hfaults _ hfault') hcreates
    obtain rfl := congrArg Prod.snd (hrun'.symm.trans hcreate)
    rw [hpath] at hcreates
    rw [hpath', hpath] at hthere
    refine ⟨htracked, hpresent, ?_, ?_⟩
    · by_cases hsame : configuredName = fullName
      · exact .inl hsame
      · refine .inr ?_
        simpa [hsame, fullName, configuredName] using hcreates
    · simpa using hthere
  · rintro ⟨htracked, hpresent, hfree, hown⟩
    obtain ⟨after, hrun, hconfig, hpath, hfaults⟩ := exists_deletion hfault htracked hpresent
    have habsent : after.host.netnsPathExists configuredName = false := by
      rw [hpath]
      rcases hfree with hsame | habsent
      · simp [hsame, fullName]
      · rw [show m.host.netnsPathExists configuredName = false from habsent, Bool.and_false]
    obtain ⟨created, hrun', hpath'⟩ :=
      exists_creation (by rw [hconfig]) (hfaults _ hfault') habsent
    obtain ⟨hsucceeds, hafter⟩ := restartSucceeds_of_run hserved hentry hrun hrun'
    refine ⟨hsucceeds, ?_⟩
    rw [hafter, hpath', hpath]
    simpa using hown

/-- Where entries are linked, the entry that a restart finds has its full name. -/
theorem fullName_restartEntry (hlinked : m.configManager.Linked)
    (hentry : m.restartEntry name = some entry) :
    m.configManager.generateFullNamespaceName entry.config.namespace_.name =
        m.configManager.generateFullNamespaceName name ∧
      entry.fullName = m.configManager.generateFullNamespaceName name := by
  rcases Option.or_eq_some_iff.mp hentry with hfound | ⟨hnone, hfound⟩
  · obtain ⟨hkey, -, hgenerated⟩ := hlinked _ _ hfound
    exact ⟨hgenerated.symm, hkey.symm⟩
  · -- a linked entry under the requested name has it as its full name, where it was not found
    obtain ⟨-, hmatches, -⟩ := hlinked _ _ hfound
    rw [ConfigManager.generateFullNamespaceName_of_matches hmatches] at hnone
    cases hnone.symm.trans hfound

end Restart

/-! ### Runs of the daemon -/

theorem stepClosed_linked :
    StepClosed (fun m => m.configManager.Linked) fun _ => True where
  setHost _ _ h := h
  generated _ _ _ := trivial
  record _ _ h _ := h
  forget _ _ h := h
  synchronize _ _ h := h
  maintain _ h := h
  resolve _ _ h := h

end Managers

namespace DaemonEventLoop

variable {platform : Platform} {s : DaemonEventLoop}

/-- The directory that a step scans, if it scans one, can be read. -/
def ReadsDirectory (platform : Platform) (s : DaemonEventLoop) : Input → Prop
  | .configEvent event fs fsScan order => s.configThread = .waiting →
      s.managers.configManager.ReadsDirectory platform (.fileEvent event fs fsScan order)
  | _ => True

theorem keeping_linked_start {setup : Setup} (hstart : start platform setup = .ok s) :
    s.Keeping fun m => m.configManager.Linked := by
  obtain ⟨netlinkManager, -, h⟩ := Except.bind_eq_ok_iff.mp hstart
  dsimp only at h
  obtain ⟨e, hscan⟩ | ⟨names, scanned, hscan, hscanned⟩ :=
    ConfigManager.scanNamespaceConfigs_cases platform setup.host.files
      (.fromConfig setup.daemonConfig setup.configPath)
  · rw [hscan] at h
    cases h
  · rw [hscan] at h
    obtain rfl := Except.ok.inj h
    refine ⟨ConfigManager.linked_iff.mpr (hscanned _ (ConfigManager.loads_generated _ _ _)), ?_⟩
    intro handler hhandler
    cases hhandler

/-- As long as directories can be read, the entries of the daemon are linked. -/
theorem linkedConfigs_along_run {setup : Setup} (hstart : start platform setup = .ok s)
    {inputs : List Input} (hreads : AlongRun (step platform) (ReadsDirectory platform) s inputs) :
    (run (step platform) s inputs).managers.configManager.Linked := by
  have hkeeping := AlongRun.invariant (Keeping fun m => m.configManager.Linked)
    ?_ (keeping_linked_start hstart) hreads
  · exact hkeeping.managers
  · intro s input hs hread
    refine Managers.stepClosed_linked.keeping_step hs ?_
    rintro event fs fsScan order rfl hthread
    exact ConfigManager.linked_apply hs.managers (hread hthread)

/-- In every state that a run of the daemon reaches, and without faults, a restart recovers
a configured namespace iff it is tracked and there, and the name that its configuration
gives is free after the deletion and its own; if every directory of the run could be read,
iff it is tracked and there. -/
theorem restartRecovers_along_run {setup : Setup} {s₀ : DaemonEventLoop}
    (hstart : start platform setup = .ok s₀) (inputs : List Input) (sur : Surroundings)
    (caller : Caller) (name : String) (entry : NamespaceConfigEntry) :
    let s := run (step platform) s₀ inputs
    let fullName := s.managers.configManager.generateFullNamespaceName name
    let configuredName :=
      s.managers.configManager.generateFullNamespaceName entry.config.namespace_.name
    Served s.service sur caller (.restartNamespace name) →
    s.managers.restartEntry name = some entry →
    s.managers.WithoutFault fullName →
    s.managers.WithoutFault configuredName →
      (s.managers.RestartRecovers s.service sur caller name entry ↔
        s.managers.tracksEither name = true ∧ s.managers.host.netnsPathExists fullName = true ∧
          (configuredName = fullName ∨
            s.managers.host.netnsPathExists configuredName = false) ∧
          (entry.fullName = configuredName ∨ entry.fullName ≠ fullName ∧
            s.managers.host.netnsPathExists entry.fullName = true)) ∧
      (AlongRun (step platform) (ReadsDirectory platform) s₀ inputs →
        (s.managers.RestartRecovers s.service sur caller name entry ↔
          s.managers.tracksEither name = true ∧
            s.managers.host.netnsPathExists fullName = true)) := by
  intro s fullName configuredName hserved hentry hfault hfault'
  have hrecovers := Managers.restartRecovers_iff hserved hentry hfault hfault'
  refine ⟨hrecovers, fun hreads => hrecovers.trans ?_⟩
  obtain ⟨hconfigured, hfull⟩ :=
    Managers.fullName_restartEntry (linkedConfigs_along_run hstart hreads) hentry
  constructor
  · rintro ⟨htracked, hpresent, -, -⟩
    exact ⟨htracked, hpresent⟩
  · rintro ⟨htracked, hpresent⟩
    exact ⟨htracked, hpresent, .inl hconfigured, .inl (hfull.trans hconfigured.symm)⟩

section Absent

/-- A daemon on the machine itself with one namespace. -/
def bridgeSetup : Setup := .quiet false "new" 5 (oneFile Managers.bridgeToml 0)

/-- The namespace is created, and somebody else deletes it. -/
def deletedOutside : List Input :=
  [.initialSync .sorted, .hostChange (.quiet 6 (oneFile Managers.bridgeToml 0))]

/-- Somebody else creates the namespace before the daemon does. -/
def createdOutside : List Input :=
  [.hostChange { Host.quiet 6 (oneFile Managers.bridgeToml 0) with
    netns := some ((∅ : HashMap String NetnsFile).insert "new-one" ⟨true⟩) }]

/-- After these inputs nothing is at fault, and still a restart does not recover the
configured namespace. -/
def Unrecovered (inputs : List Input) : Prop :=
  ∃ s₀ entry, start Managers.bridgeText bridgeSetup = .ok s₀ ∧
    let s := run (step Managers.bridgeText) s₀ inputs
    s.managers.restartEntry "one" = some entry ∧
      s.managers.WithoutFault "new-one" ∧
      Served s.service (.authorizing Managers.bridgeText) operator (.restartNamespace "one") ∧
      ¬ s.managers.RestartRecovers s.service (.authorizing Managers.bridgeText) operator "one"
        entry

end Absent

theorem restartRecovers_along_initialSync :
    ∃ s₀ entry, start Managers.bridgeText bridgeSetup = .ok s₀ ∧
      (run (step Managers.bridgeText) s₀ [.initialSync .sorted]).managers.restartEntry "one" =
        some entry ∧
      (run (step Managers.bridgeText) s₀ [.initialSync .sorted]).managers.RestartRecovers
        (run (step Managers.bridgeText) s₀ [.initialSync .sorted]).service
        (.authorizing Managers.bridgeText) operator "one" entry := by
  have hstart : start Managers.bridgeText bridgeSetup = .ok _ := rfl
  refine ⟨_, _, hstart, rfl, ?_⟩
  have hrecovers := restartRecovers_along_run hstart [.initialSync .sorted]
    (.authorizing Managers.bridgeText) operator "one" _ ⟨rfl, rfl⟩ rfl
  refine ((hrecovers ?_ ?_).2 ⟨trivial, trivial⟩).mpr ?_
  · refine ⟨by decide, by decide, fun _ _ => rfl, fun file hfile => ?_⟩
    exact (Option.some.inj hfile).symm
  · refine ⟨by decide, by decide, fun _ _ => rfl, fun file hfile => ?_⟩
    exact (Option.some.inj hfile).symm
  · exact ⟨by decide, by decide⟩

/-- The restart fails for a namespace that is tracked and absent, and for one that is
there and untracked. -/
theorem not_recovers_absent_or_untracked :
    Unrecovered deletedOutside ∧ Unrecovered createdOutside := by
  constructor
  · refine ⟨_, _, rfl, rfl, ⟨by decide, by decide, fun _ _ => rfl, nofun⟩, ⟨rfl, rfl⟩, ?_⟩
    rintro ⟨-, hthere⟩
    revert hthere
    decide
  · refine ⟨_, _, rfl, rfl, ⟨by decide, by decide, fun _ _ => rfl, ?_⟩, ⟨rfl, rfl⟩, ?_⟩
    · exact fun file hfile => (Option.some.inj hfile).symm
    · rintro ⟨⟨result, hreply, hsuccess⟩, -⟩
      obtain rfl := Reply.operation.inj (Except.ok.inj hreply)
      cases hsuccess

end DaemonEventLoop

end Segwire.Daemon
