import Segwire.Cli.Exec
import Segwire.NsEnter.PrivilegeDrop

/-!
# From the exec command to the user's command

`segwire exec` asks the daemon for a path and becomes the setuid helper, the helper enters the
namespace at this path and becomes the user's command. Three programs and the kernel take part,
and each takes over what the one before it leaves.

## Main definitions

* `helperFile` — the helper, installed setuid-root

## Main results

* `execute_enters` — what a user of `segwire exec` ends up with, and when
-/

namespace Segwire.Cli.Exec

open Foundation Segwire.Daemon Segwire.NsEnter

/-- The helper is owned by the superuser, with the set-user-ID bit. -/
def helperFile : Executable := ⟨some 0, none⟩

/-- The process of a user with this identity and group, before it becomes the helper. -/
structure OfUser {ν : Type} (user group : Nat) (process : Process ν) : Prop where
  uid : process.uid = .all user
  gid : process.gid = .all group

variable {ν : Type} {process : Process ν} {user group : Nat}

namespace OfUser

/-- Becoming the helper does not change the real identities. -/
theorem leave_execve (h : OfUser user group process) (file : Executable) (ns : ν) :
    (leave (process.execve file) ns).Dropped user group ns where
  uid := by
    rw [leave, Process.execve, h.uid]
    rfl
  gid := by
    rw [leave, Process.execve, h.gid]
    rfl
  noNewPrivs := rfl
  netns := rfl

/-- The helper gets the privileges of its owner unless its user has given them up or has them
already. -/
theorem privileged_execve_iff (h : OfUser user group process) :
    (process.execve helperFile).Privileged ↔ user = 0 ∨ process.noNewPrivs = false := by
  rw [Process.Privileged, Process.execve, h.uid]
  cases process.noNewPrivs with
  | true => simp [Ids.execute, Ids.all]
  | false => simp [Ids.execute, helperFile]

end OfUser

/-- What the last step to the user's command depends on: the helper's look at the file, the
namespace there, the privileges of the helper, the program, and the calls. -/
structure Reachable (system : HelperSystem ν) (process : Process ν) (user : Nat)
    (path : String) (command : List String) : Prop where
  accepted : validateNsPath system.symlinkMetadata path = .ok ()
  file : ∃ ns, system.file path = .ok (.netns ns)
  privileged : user = 0 ∨ process.noNewPrivs = false
  program : ∃ cmd ∈ command.head?, ∃ executable, system.program cmd = .ok executable
  faultless : ∀ call, call ≠ .close → system.faults call = none

variable {cli : ExecSystem} {args : ExecArgs} {path helper cmd : String} {argv rest : List String}
  {system : HelperSystem ν} {ns : ν}

theorem enters_iff_reachable (h : OfUser user group process)
    (hparsed : parseArgs argv = .ok (path, cmd, rest))
    (htext : ∀ text ∈ cmd :: rest, '\x00' ∉ text.toList) :
    (∃ ns, Enters system argv (process.execve helperFile) path cmd rest ns) ↔
      Reachable system process user path (cmd :: rest) := by
  constructor
  · rintro ⟨ns, henters⟩
    exact ⟨henters.accepted, ⟨ns, henters.file⟩, h.privileged_execve_iff.mp henters.privileged,
      ⟨cmd, rfl, henters.program⟩, henters.faultless⟩
  · rintro ⟨haccepted, ⟨ns, hfile⟩, hprivileged, ⟨cmd', hcmd, hprogram⟩, hfaultless⟩
    obtain rfl := Option.some.inj hcmd
    exact ⟨ns, hparsed, haccepted, hfile, h.privileged_execve_iff.mpr hprivileged, htext, hprogram,
      hfaultless⟩

/-- The state that a name leads to is that of the full name, or there is none and it is that of
the name itself. -/
theorem fullName_of_findNamespaceState {m : Managers} {fullName name : String}
    {state : Common.NamespaceState} (h : findNamespaceState fullName name m = some state) :
    state.fullName = fullName ∨
      m.stateManager.getNamespaceState fullName = none ∧ state.fullName = name := by
  rcases Option.or_eq_some_iff.mp h with hfull | ⟨hnone, hname⟩
  · exact .inl (KeyedMap.key_eq_of_lookup hfull)
  · exact .inr ⟨hnone, KeyedMap.key_eq_of_lookup hname⟩

/-- Once the daemon has answered and the command has become the helper, the daemon has
authorized the caller, and the path is the one for the full name. What it tracks as active is the
namespace of the full name or, where it tracks none of that, one of the very name that was asked
for. The helper becomes the user's command exactly if nothing that it depends on fails, and then
the command is the user's own, in the namespace at this path, with the identities of the user and
the descriptors that the user's process hands on. Where ordinary users have no user namespaces,
the command of one keeps it so, whatever calls it makes. -/
theorem execute_enters {s : DaemonEventLoop} {sur : Surroundings} {caller : Caller}
    (hserved : ((s.service.handle sur caller (.execAuthorize args.namespace_)).run s.managers).1 =
      .ok (.nsPath path))
    (hreply : cli.execAuthorize args.namespace_ = .ok path)
    (hrun : execute cli args = .replaced helper argv) (hhelper : helper ≠ "--")
    (huser : OfUser user group process) (system : HelperSystem ν) :
    checkAuthorization s.service sur.bus "exec" caller = .ok () ∧
    netnsPath (s.managers.configManager.generateFullNamespaceName args.namespace_) = path ∧
    (∃ state, findNamespaceState
        (s.managers.configManager.generateFullNamespaceName args.namespace_) args.namespace_
        s.managers = some state ∧ state.status = .active ∧
      (state.fullName = s.managers.configManager.generateFullNamespaceName args.namespace_ ∨
        s.managers.stateManager.getNamespaceState
            (s.managers.configManager.generateFullNamespaceName args.namespace_) = none ∧
          state.fullName = args.namespace_)) ∧
    ((∃ replaced, main system argv (process.execve helperFile) = .ok replaced) ↔
      Reachable system process user path args.command) ∧
    ∀ replaced, main system argv (process.execve helperFile) = .ok replaced →
      replaced.argv = args.command ∧
      replaced.process.descriptors = process.descriptors.inherited ∧
      ∃ ns, system.file path = .ok (.netns ns) ∧ replaced.process.Dropped user group ns ∧
        (user ≠ 0 → ∀ kernel : ProcessKernel ν, kernel.NoUserNamespaces →
          ∀ calls : List (SystemCall ν),
            (run (fun process call => process.perform kernel call) replaced.process
              calls).Dropped user group ns) := by
  obtain ⟨-, hauthorized, hanswer⟩ := DaemonEventLoop.run_handle_execAuthorize_iff.mp hserved
  obtain ⟨state, hstate, hactive, -, hpath⟩ := run_execAuthorize_iff.mp hanswer
  obtain ⟨hcommand, -, -, -, nsPath, hasked, hvector⟩ := execute_eq_replaced_iff.mp hrun
  obtain rfl := Except.ok.inj (hreply.symm.trans hasked)
  have hseparator : path ≠ "--" := hpath ▸ netnsPath_ne_separator _
  obtain ⟨cmd, rest, hcons, hparsed⟩ := parseArgs_of_execvp hseparator hhelper hcommand hvector
  have htext : ∀ text ∈ cmd :: rest, '\x00' ∉ text.toList := fun text htext =>
    (execvp_eq_ok_iff.mp hvector).1 text
      (List.mem_cons_of_mem _ (List.mem_cons_of_mem _ (List.mem_cons_of_mem _ (hcons ▸ htext))))
  -- the helper reads back the path and the command that it was given
  have hread : ∀ {path' cmd' rest' ns},
      Enters system argv (process.execve helperFile) path' cmd' rest' ns →
        path' = path ∧ cmd' = cmd ∧ rest' = rest := by
    intro path' cmd' rest' ns henters
    cases Except.ok.inj (henters.parsed.symm.trans hparsed)
    exact ⟨rfl, rfl, rfl⟩
  refine ⟨hauthorized, hpath, ⟨state, hstate, hactive, fullName_of_findNamespaceState hstate⟩,
    ?_, ?_⟩
  · rw [hcons, ← enters_iff_reachable huser hparsed htext]
    constructor
    · rintro ⟨replaced, hmain⟩
      obtain ⟨path', cmd', rest', ns, henters, -⟩ := exists_enters_of_main hmain
      obtain ⟨rfl, rfl, rfl⟩ := hread henters
      exact ⟨ns, henters⟩
    · rintro ⟨ns, henters⟩
      exact exists_main_of_enters henters
  · intro replaced hmain
    obtain ⟨path', cmd', rest', ns, henters, rfl⟩ := exists_enters_of_main hmain
    obtain ⟨rfl, rfl, rfl⟩ := hread henters
    have hdropped := huser.leave_execve helperFile ns
    exact ⟨hcons.symm, Descriptors.inherited_inherited _, ns, henters.file, hdropped,
      fun hordinary _ hkernel calls => hdropped.run hordinary hkernel calls⟩

section Fixture

/-- The command finds the daemon and the helper. -/
def answered : ExecSystem where
  isServiceAvailable := true
  execAuthorize _ := .ok "/run/netns/old-app"
  nsEnterPath := none
  currentExe := none
  pathExists path := path = "/usr/libexec/segwire-ns-enter"
  which := none
  execError _ _ := none

/-- The helper finds the namespace 7 at the path. -/
def mountedNamespace : HelperSystem Nat where
  symlinkMetadata _ := .ok ⟨false⟩
  file path := if path = "/run/netns/old-app" then .ok (.netns 7) else .ok .other
  program _ := .ok ⟨none, none⟩
  numbering := .lowest
  faults _ := none

/-- The process of an ordinary user in the namespace 0. -/
def userProcess : Process Nat where
  uid := .all 1000
  gid := .all 1000
  noNewPrivs := false
  netns := 0
  descriptors := ∅

end Fixture

/-- A shell in a namespace that the daemon has created. -/
theorem execute_enters_oldApp :
    ∃ replaced, main mountedNamespace
      ["/usr/libexec/segwire-ns-enter", "/run/netns/old-app", "--", "sh"]
        (userProcess.execve helperFile) = .ok replaced ∧ replaced.argv = ["sh"] := by
  obtain ⟨s₀, hstart⟩ : ∃ s₀, DaemonEventLoop.start DaemonEventLoop.twoPrefixes
      DaemonEventLoop.oldPrefix = .ok s₀ := ⟨_, rfl⟩
  have hserved : (((oldAppCreated s₀).service.handle (.authorizing DaemonEventLoop.twoPrefixes)
      operator (.execAuthorize "old-app")).run (oldAppCreated s₀).managers).1 =
        .ok (.nsPath "/run/netns/old-app") := by
    obtain rfl := Except.ok.inj hstart
    rfl
  have hrun : execute answered ⟨"old-app", ["sh"]⟩ = .replaced "/usr/libexec/segwire-ns-enter"
      ["/usr/libexec/segwire-ns-enter", "/run/netns/old-app", "--", "sh"] := rfl
  have huser : OfUser 1000 1000 userProcess := ⟨rfl, rfl⟩
  obtain ⟨-, -, -, hreachable, henters⟩ :=
    execute_enters hserved rfl hrun (by decide) huser mountedNamespace
  have hready : Reachable mountedNamespace userProcess 1000 "/run/netns/old-app" ["sh"] :=
    ⟨by decide, ⟨7, rfl⟩, .inr rfl, ⟨"sh", rfl, _, rfl⟩, fun _ _ => rfl⟩
  obtain ⟨replaced, hmain⟩ := hreachable.mpr hready
  exact ⟨replaced, hmain, (henters replaced hmain).1⟩

end Segwire.Cli.Exec
