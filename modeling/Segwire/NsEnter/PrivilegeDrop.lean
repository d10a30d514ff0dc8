import Segwire.Foundation.Except
import Segwire.Foundation.Process
import Segwire.NsEnter.Arguments
import Segwire.NsEnter.PathValidation

/-!
# Entering a namespace and dropping privileges

The helper runs with the identity of the superuser as its effective one. It opens the file of
a namespace, enters the namespace, gives up every identity but those of its caller and becomes
the caller's command. Each of its system calls may fail, and then it has to stop.

## Main definitions

* `HelperSystem` — what the helper meets
* `main` — the helper
* `Enters` — nothing keeps a run from becoming the command

## Main results

* `main_eq_ok_iff` — when the helper becomes the command, and what it leaves to it
* `dropped_run_of_main` — no run of the command regains what the helper dropped
-/

namespace Segwire.NsEnter

open Foundation Foundation.Text

/-- The system calls of the helper. -/
inductive HelperCall
  | openNs
  | setns
  | close
  | setresgid
  | setresuid
  | noNewPrivs
  | execvp
  deriving DecidableEq, Repr

/-- What the helper meets: what the file system knows of a path, what opening it gives, which
program a command names, and the calls that fail though the rules would allow them. -/
structure HelperSystem (ν : Type) where
  symlinkMetadata : String → Except IoError SymlinkMetadata
  file : String → Except String (FileObject ν)
  program : String → Except String Executable
  numbering : Numbering
  faults : HelperCall → Option String

/-- The end of a helper that does not become the command. -/
structure Exit where
  code : Nat
  stderr : List String
  deriving DecidableEq, Repr

/-- The helper has become a program, with these arguments. -/
structure Replaced (ν : Type) where
  program : String
  argv : List String
  process : Process ν

namespace HelperSystem

variable {ν α : Type} (system : HelperSystem ν)

/-- A call with an outcome, unless it fails. -/
def attempt (call : HelperCall) (outcome : Except String α) : Except String α :=
  match system.faults call with
  | some e => .error e
  | none => outcome

/-- `open(path, O_RDONLY | O_CLOEXEC)` -/
def openNs (process : Process ν) (path : String) : Except String (Nat × Process ν) :=
  system.attempt .openNs
    ((system.file path).map fun object => process.openFile system.numbering object true)

/-- `setns(fd, CLONE_NEWNET)` -/
def setns (process : Process ν) (fd : Nat) : Except String (Process ν) :=
  system.attempt .setns (process.setns fd)

/-- `close(fd)`, whose result is ignored. -/
def close (process : Process ν) (fd : Nat) : Process ν :=
  match system.faults .close with
  | some _ => process
  | none => process.close fd

/-- `setresgid` -/
def setresgid (process : Process ν) (ids : Ids) : Except String (Process ν) :=
  system.attempt .setresgid (process.setresgid ids)

/-- `setresuid` -/
def setresuid (process : Process ν) (ids : Ids) : Except String (Process ν) :=
  system.attempt .setresuid (process.setresuid ids)

/-- `prctl(PR_SET_NO_NEW_PRIVS, 1, 0, 0, 0)` -/
def setNoNewPrivs (process : Process ν) : Except String (Process ν) :=
  system.attempt .noNewPrivs (.ok process.setNoNewPrivs)

/-- `execvp`, which searches the program. -/
def execvp (process : Process ν) (command : String) : Except String (Process ν) :=
  system.attempt .execvp ((system.program command).map process.execve)

end HelperSystem

/-- `CString::new` -/
def cString (text : String) : Except Unit String :=
  if containsChar text '\x00' then .error () else .ok text

/-- Report an error and exit. -/
def exitWith (msg : String) : Exit := ⟨1, ["segwire-ns-enter: " ++ msg]⟩

variable {ν : Type}

/-- The setuid helper: enter a network namespace and become a command as the calling user. -/
def main (system : HelperSystem ν) (args : List String) (process : Process ν) :
    Except Exit (Replaced ν) := do
  let (nsPath, cmd, cmdArgs) ← (parseArgs args).mapError fun msg =>
    ⟨1, ["segwire-ns-enter: " ++ msg,
      "Usage: segwire-ns-enter <ns-path> -- <command> [args...]"]⟩
  (validateNsPath system.symlinkMetadata nsPath).mapError exitWith
  let (nsFd, process) ← (system.openNs process nsPath).mapError fun e =>
    exitWith ("failed to open '" ++ nsPath ++ "': " ++ e)
  let process ← (system.setns process nsFd).mapError fun e => exitWith ("setns failed: " ++ e)
  let process := system.close process nsFd
  -- permanently drop all privileges back to the real identities
  let realGid := process.gid.real
  let realUid := process.uid.real
  let process ← (system.setresgid process (.all realGid)).mapError fun e =>
    exitWith ("setresgid failed: " ++ e)
  let process ← (system.setresuid process (.all realUid)).mapError fun e =>
    exitWith ("setresuid failed: " ++ e)
  let process ← (system.setNoNewPrivs process).mapError fun _ =>
    exitWith "PR_SET_NO_NEW_PRIVS failed"
  let cCmd ← (cString cmd).mapError fun _ => exitWith "invalid command name"
  let cArgs ← cmdArgs.mapM fun a => (cString a).mapError fun _ => exitWith "invalid argument"
  let process ← (system.execvp process cCmd).mapError fun e =>
    ⟨127, ["segwire-ns-enter: execvp '" ++ cmd ++ "' failed: " ++ e]⟩
  return ⟨cCmd, cCmd :: cArgs, process⟩

/-- Nothing keeps a run of the helper from becoming the command `cmd` with the arguments
`rest` in the namespace `ns`: its arguments name a file of that namespace and the command,
it has privileges, the program is there, and no call fails. -/
structure Enters (system : HelperSystem ν) (args : List String) (process : Process ν)
    (path cmd : String) (rest : List String) (ns : ν) : Prop where
  parsed : parseArgs args = .ok (path, cmd, rest)
  accepted : validateNsPath system.symlinkMetadata path = .ok ()
  file : system.file path = .ok (.netns ns)
  privileged : process.Privileged
  text : ∀ text ∈ cmd :: rest, '\x00' ∉ text.toList
  program : ∃ executable, system.program cmd = .ok executable
  faultless : ∀ call, call ≠ .close → system.faults call = none

/-- What the helper leaves of a process to the command. -/
def leave (process : Process ν) (ns : ν) : Process ν where
  uid := .all process.uid.real
  gid := .all process.gid.real
  noNewPrivs := true
  netns := ns
  descriptors := process.descriptors.inherited

/-! ### The calls -/

section Calls

variable {α : Type} {system : HelperSystem ν} {process process' : Process ν} {call : HelperCall}

theorem attempt_eq_ok_iff {outcome : Except String α} {a : α} :
    system.attempt call outcome = .ok a ↔ system.faults call = none ∧ outcome = .ok a := by
  unfold HelperSystem.attempt
  cases system.faults call with
  | some e => simp
  | none => simp

theorem cString_eq_ok_iff {text text' : String} :
    cString text = .ok text' ↔ '\x00' ∉ text.toList ∧ text = text' := by
  unfold cString
  split_ifs with h
  · simp [containsChar_iff.mp h]
  · rw [containsChar_iff] at h
    simp [h]

/-- Arguments become what they are, unless one of them holds a null character. -/
theorem mapM_cString_eq_ok_iff {e : Exit} {args args' : List String} :
    args.mapM (fun a => (cString a).mapError fun _ => e) = .ok args' ↔
      (∀ a ∈ args, '\x00' ∉ a.toList) ∧ args' = args := by
  simp only [Except.mapM_eq_ok_iff, Except.mapError_eq_ok_iff, cString_eq_ok_iff]
  induction args generalizing args' with
  | nil => simp
  | cons a args ih =>
    rw [List.forall_mem_cons]
    constructor
    · rintro (_ | ⟨⟨hfree, rfl⟩, hrest⟩)
      obtain ⟨hall, rfl⟩ := ih.mp hrest
      exact ⟨⟨hfree, hall⟩, rfl⟩
    · rintro ⟨⟨hfree, hall⟩, rfl⟩
      exact .cons ⟨hfree, rfl⟩ (ih.mpr ⟨hall, rfl⟩)

theorem openNs_eq_ok_iff {path : String} {fd : Nat} :
    system.openNs process path = .ok (fd, process') ↔
      system.faults .openNs = none ∧ ∃ object, system.file path = .ok object ∧
        process.openFile system.numbering object true = (fd, process') := by
  rw [HelperSystem.openNs, attempt_eq_ok_iff, Except.map_eq_ok_iff]

/-- Entering the namespace that was opened needs a namespace and privileges. -/
theorem setns_openFile_eq_ok_iff {object : FileObject ν} {fd : Nat} {opened : Process ν}
    (h : process.openFile system.numbering object true = (fd, opened)) :
    system.setns opened fd = .ok process' ↔ system.faults .setns = none ∧
      ∃ ns, object = .netns ns ∧ process.Privileged ∧ { opened with netns := ns } = process' := by
  obtain ⟨rfl, rfl⟩ := Prod.mk.inj h
  have hlookup := Descriptors.lookup_openWith_self system.numbering process.descriptors
    ⟨object, true⟩
  rw [HelperSystem.setns, attempt_eq_ok_iff, Process.setns_eq_ok_iff]
  refine and_congr_right fun _ => ?_
  constructor
  · rintro ⟨ns, closeOnExec, hns, hprivileged, rfl⟩
    cases hlookup.symm.trans hns
    exact ⟨ns, rfl, hprivileged, rfl⟩
  · rintro ⟨ns, rfl, hprivileged, rfl⟩
    exact ⟨ns, true, hlookup, hprivileged, rfl⟩

/-- Closing a descriptor changes nothing else. -/
theorem close_eq (process : Process ν) (fd : Nat) :
    system.close process fd =
      { process with descriptors := (system.close process fd).descriptors } := by
  unfold HelperSystem.close
  cases system.faults .close with
  | some e => rfl
  | none => rfl

/-- Whether or not the descriptor of the namespace can be closed, the command does not inherit
it. -/
theorem inherited_close {object : FileObject ν} {fd : Nat} {opened : Process ν}
    (h : process.openFile system.numbering object true = (fd, opened)) (ns : ν) :
    (system.close { opened with netns := ns } fd).descriptors.inherited =
      process.descriptors.inherited := by
  obtain ⟨rfl, rfl⟩ := Prod.mk.inj h
  unfold HelperSystem.close
  cases system.faults .close with
  | some e => exact Descriptors.inherited_openWith _ _ rfl
  | none => exact congrArg _ (Descriptors.close_openWith _ _ _)

end Calls

/-! ### The helper -/

variable {system : HelperSystem ν} {args rest : List String} {process : Process ν}
  {path cmd : String} {ns : ν} {replaced : Replaced ν}

/-- What a run does that becomes a command. -/
theorem exists_enters_of_main (h : main system args process = .ok replaced) :
    ∃ path cmd rest ns, Enters system args process path cmd rest ns ∧
      replaced = ⟨cmd, cmd :: rest, leave process ns⟩ := by
  unfold main at h
  obtain ⟨⟨path, cmd, rest⟩, hparsed, h⟩ := Except.bind_eq_ok_iff.mp h
  obtain ⟨haccepted, h⟩ := Except.check_bind_eq_ok_iff.mp h
  obtain ⟨⟨fd, opened⟩, hopen, h⟩ := Except.bind_eq_ok_iff.mp h
  obtain ⟨entered, hsetns, h⟩ := Except.bind_eq_ok_iff.mp h
  obtain ⟨inGroup, hsetresgid, h⟩ := Except.bind_eq_ok_iff.mp h
  obtain ⟨dropped, hsetresuid, h⟩ := Except.bind_eq_ok_iff.mp h
  obtain ⟨last, hprctl, h⟩ := Except.bind_eq_ok_iff.mp h
  obtain ⟨cCmd, hcmd, h⟩ := Except.bind_eq_ok_iff.mp h
  obtain ⟨cArgs, hargs, h⟩ := Except.bind_eq_ok_iff.mp h
  obtain ⟨become, hexec, h⟩ := Except.bind_eq_ok_iff.mp h
  obtain rfl := Except.pure_eq_ok_iff.mp h
  rw [Except.mapError_eq_ok_iff] at hparsed haccepted hopen hsetns hsetresgid hsetresuid
  rw [Except.mapError_eq_ok_iff] at hprctl hcmd hexec
  obtain ⟨hopenOk, object, hfile, hopened⟩ := openNs_eq_ok_iff.mp hopen
  obtain ⟨hsetnsOk, ns, rfl, hprivileged, rfl⟩ := (setns_openFile_eq_ok_iff hopened).mp hsetns
  obtain ⟨hgidOk, hsetresgid⟩ := attempt_eq_ok_iff.mp hsetresgid
  obtain ⟨-, rfl⟩ := Process.setresgid_eq_ok_iff.mp hsetresgid
  obtain ⟨huidOk, hsetresuid⟩ := attempt_eq_ok_iff.mp hsetresuid
  obtain ⟨-, rfl⟩ := Process.setresuid_eq_ok_iff.mp hsetresuid
  obtain ⟨hprctlOk, hprctl⟩ := attempt_eq_ok_iff.mp hprctl
  obtain rfl := Except.ok.inj hprctl
  obtain ⟨hfreeCmd, rfl⟩ := cString_eq_ok_iff.mp hcmd
  obtain ⟨hfreeArgs, rfl⟩ := mapM_cString_eq_ok_iff.mp hargs
  obtain ⟨hexecOk, hexec⟩ := attempt_eq_ok_iff.mp hexec
  obtain ⟨executable, hprogram, rfl⟩ := Except.map_eq_ok_iff.mp hexec
  refine ⟨path, cmd, cArgs, ns, ?_, ?_⟩
  · refine ⟨hparsed, haccepted, hfile, hprivileged, List.forall_mem_cons.mpr ⟨hfreeCmd, hfreeArgs⟩,
      ⟨executable, hprogram⟩, ?_⟩
    intro call hcall
    cases call with
    | openNs => exact hopenOk
    | setns => exact hsetnsOk
    | close => exact absurd rfl hcall
    | setresgid => exact hgidOk
    | setresuid => exact huidOk
    | noNewPrivs => exact hprctlOk
    | execvp => exact hexecOk
  · have hinherited := inherited_close hopened ns
    obtain rfl := congrArg Prod.snd hopened
    rw [close_eq] at hinherited ⊢
    rw [leave, ← hinherited]
    rfl

theorem exists_main_of_enters (h : Enters system args process path cmd rest ns) :
    ∃ replaced, main system args process = .ok replaced := by
  obtain ⟨executable, hprogram⟩ := h.program
  obtain ⟨hfreeCmd, hfreeArgs⟩ := List.forall_mem_cons.mp h.text
  obtain ⟨fd, opened, hopened⟩ : ∃ fd opened,
      process.openFile system.numbering (.netns ns) true = (fd, opened) := ⟨_, _, rfl⟩
  have hopen : system.openNs process path = .ok (fd, opened) :=
    openNs_eq_ok_iff.mpr ⟨h.faultless _ nofun, _, h.file, hopened⟩
  have hsetns : system.setns opened fd = .ok { opened with netns := ns } :=
    (setns_openFile_eq_ok_iff hopened).mpr ⟨h.faultless _ nofun, ns, rfl, h.privileged, rfl⟩
  -- the helper still has its privileges when it drops them
  have hprivileged : (system.close { opened with netns := ns } fd).Privileged := by
    rw [close_eq]
    obtain rfl := congrArg Prod.snd hopened
    exact h.privileged
  refine Except.exists_bind_eq_ok (Except.mapError_eq_ok_iff.mpr h.parsed) ?_
  refine Except.exists_bind_eq_ok (Except.mapError_eq_ok_iff.mpr h.accepted) ?_
  refine Except.exists_bind_eq_ok (Except.mapError_eq_ok_iff.mpr hopen) ?_
  refine Except.exists_bind_eq_ok (Except.mapError_eq_ok_iff.mpr hsetns) ?_
  refine Except.exists_bind_eq_ok (Except.mapError_eq_ok_iff.mpr (attempt_eq_ok_iff.mpr
    ⟨h.faultless _ nofun, Process.setresgid_eq_ok_iff.mpr ⟨.inl hprivileged, rfl⟩⟩)) ?_
  refine Except.exists_bind_eq_ok (Except.mapError_eq_ok_iff.mpr (attempt_eq_ok_iff.mpr
    ⟨h.faultless _ nofun, Process.setresuid_eq_ok_iff.mpr ⟨.inl hprivileged, rfl⟩⟩)) ?_
  refine Except.exists_bind_eq_ok (Except.mapError_eq_ok_iff.mpr (attempt_eq_ok_iff.mpr
    ⟨h.faultless _ nofun, rfl⟩)) ?_
  refine Except.exists_bind_eq_ok (Except.mapError_eq_ok_iff.mpr
    (cString_eq_ok_iff.mpr ⟨hfreeCmd, rfl⟩)) ?_
  refine Except.exists_bind_eq_ok (mapM_cString_eq_ok_iff.mpr ⟨hfreeArgs, rfl⟩) ?_
  refine Except.exists_bind_eq_ok (Except.mapError_eq_ok_iff.mpr (attempt_eq_ok_iff.mpr
    ⟨h.faultless _ nofun, Except.map_eq_ok_iff.mpr ⟨executable, hprogram, rfl⟩⟩)) ⟨_, rfl⟩

/-- The arguments and the file system decide what a run enters. -/
theorem Enters.unique {path' cmd' : String} {rest' : List String} {ns' : ν}
    (h : Enters system args process path cmd rest ns)
    (h' : Enters system args process path' cmd' rest' ns') :
    path = path' ∧ cmd = cmd' ∧ rest = rest' ∧ ns = ns' := by
  have hparsed := Except.ok.inj (h.parsed.symm.trans h'.parsed)
  cases hparsed
  have hfile := Except.ok.inj (h.file.symm.trans h'.file)
  cases hfile
  exact ⟨rfl, rfl, rfl, rfl⟩

/-- A run of the helper becomes a command exactly if nothing keeps it from that. The command
is the caller's, in the namespace that was named, and what it gets is the identities of the
caller, no way to gain privileges, and no descriptor that its caller did not have. -/
theorem main_eq_ok_iff (system : HelperSystem ν) (args : List String) (process : Process ν)
    (replaced : Replaced ν) :
    main system args process = .ok replaced ↔
      ∃ path cmd rest ns, Enters system args process path cmd rest ns ∧
        replaced = ⟨cmd, cmd :: rest, leave process ns⟩ := by
  refine ⟨exists_enters_of_main, ?_⟩
  rintro ⟨path, cmd, rest, ns, henters, rfl⟩
  obtain ⟨replaced, hmain⟩ := exists_main_of_enters henters
  obtain ⟨path', cmd', rest', ns', henters', rfl⟩ := exists_enters_of_main hmain
  obtain ⟨rfl, rfl, rfl, rfl⟩ := henters.unique henters'
  exact hmain

section Fixture

/-- A system with the namespace 7 at one path. -/
def oneNamespace : HelperSystem Nat where
  symlinkMetadata _ := .ok ⟨false⟩
  file path := if path = "/run/netns/app" then .ok (.netns 7) else .ok .other
  program _ := .ok ⟨none, none⟩
  numbering := .lowest
  faults _ := none

end Fixture

end Segwire.NsEnter
