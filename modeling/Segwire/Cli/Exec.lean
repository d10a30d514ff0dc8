import Segwire.Daemon.ExecPath
import Segwire.Foundation.Lines
import Segwire.NsEnter.Arguments

/-!
# The exec command

The command asks the daemon for the path of a namespace and becomes the setuid helper, which
gets the path, the separator and the user's command. The helper takes its command line apart
again, so both sides have to agree on where the command begins.

## Main definitions

* `ExecSystem` — what the command meets
* `findHelperBinary`, `execvp`, `execute` — the command

## Main results

* `execute_eq_replaced_iff` — when the helper is run, and with which command line
* `parseArgs_execute` — the helper reads what the command was given
-/

namespace Segwire.Cli.Exec

open Foundation Foundation.Text Segwire.Daemon Segwire.NsEnter

/-- Arguments for the exec command. -/
structure ExecArgs where
  namespace_ : String
  command : List String
  deriving DecidableEq, Repr

/-- What the command meets: the daemon's answers, what the search for the helper looks at, and
the error with which the system call that runs a program comes back, if it does. -/
structure ExecSystem where
  isServiceAvailable : Bool
  execAuthorize : String → Except String String
  nsEnterPath : Option String
  currentExe : Option PathBuf
  pathExists : String → Bool
  which : Option String
  execError : String → List String → Option String

/-- How a run ends. -/
inductive ExecOutcome
  | failed (message : String)
  | exited (code : Nat) (printed : List String)
  | panicked (message : String)
  /-- The process has become the program, with this command line. -/
  | replaced (program : String) (argv : List String)
  deriving DecidableEq, Repr

/-- Default locations to search for the ns-enter helper binary. -/
def HELPER_SEARCH_PATHS : List String :=
  ["/usr/libexec/segwire-ns-enter", "/usr/lib/segwire/segwire-ns-enter",
    "/usr/local/libexec/segwire-ns-enter"]

namespace ExecSystem

variable (system : ExecSystem)

/-- The environment variable override. -/
def overridden : Option String := system.nsEnterPath.filter system.pathExists

/-- The helper next to the current binary. -/
def sibling : Option String :=
  (system.currentExe.filter fun exe => !exe.components.isEmpty).bind fun exe =>
    let sibling := (exe.parent.join "segwire-ns-enter").display
    if system.pathExists sibling then some sibling else none

/-- What `which` finds, without the white space around it. -/
def onPath : Option String :=
  system.which.bind fun output =>
    let path := String.ofList (trim output.toList)
    if path = "" then none else some path

end ExecSystem

/-- Find the segwire-ns-enter helper binary. -/
def findHelperBinary (system : ExecSystem) : Except String String :=
  match ((system.overridden.or system.sibling).or
      (HELPER_SEARCH_PATHS.find? system.pathExists)).or system.onPath with
  | some path => .ok path
  | none =>
    .error ("segwire-ns-enter helper not found.\nSearched: [" ++
      String.intercalate ", " (HELPER_SEARCH_PATHS.map String.quote) ++
      "]\nSet SEGWIRE_NS_ENTER_PATH or install segwire-ns-enter to a standard location.")

/-- The command line for a program. A text with a null character is no C string. -/
def execvp (program : String) (args : List String) : Except String (List String) :=
  if containsChar program '\x00' then .error "invalid program name"
  else if args.any (containsChar · '\x00') then .error "invalid argument"
  else .ok (program :: args)

/-- Execute the exec command. -/
def execute (system : ExecSystem) (args : ExecArgs) : ExecOutcome :=
  if args.command.isEmpty then .failed "No command specified"
  else if !system.isServiceAvailable then
    .exited 1 ["Error: segwire daemon is not running or not accessible",
      "Please ensure segwire-daemon is started and running"]
  else
    match system.execAuthorize args.namespace_, findHelperBinary system with
    | .error e, _ => .failed e
    | .ok _, .error e => .failed e
    | .ok nsPath, .ok helperPath =>
      -- segwire-ns-enter <ns_path> -- <command> [args...]
      match execvp helperPath (nsPath :: "--" :: args.command) with
      | .error message => .panicked message
      | .ok argv =>
        match system.execError helperPath argv with
        | some e => .failed ("Failed to exec '" ++ helperPath ++ "': " ++ e)
        | none => .replaced helperPath argv

variable {system : ExecSystem} {args : ExecArgs} {program : String} {argv : List String}

theorem execvp_eq_ok_iff {arguments : List String} :
    execvp program arguments = .ok argv ↔
      (∀ text ∈ program :: arguments, '\x00' ∉ text.toList) ∧ argv = program :: arguments := by
  have hany : arguments.any (containsChar · '\x00') = true ↔
      ∃ text ∈ arguments, '\x00' ∈ text.toList := by
    simp only [List.any_eq_true, containsChar_iff]
  unfold execvp
  rw [List.forall_mem_cons]
  split_ifs with hprogram harguments
  · rw [containsChar_iff] at hprogram
    simp [hprogram]
  · obtain ⟨text, htext, hnull⟩ := hany.mp harguments
    simp only [false_iff, not_and]
    exact fun hfree => absurd hnull (hfree.2 text htext)
  · rw [containsChar_iff] at hprogram
    rw [hany] at harguments
    push Not at harguments
    simp only [Except.ok.injEq, hprogram, not_false_eq_true, true_and]
    exact ⟨fun h => ⟨harguments, h.symm⟩, fun h => h.2.symm⟩

/-- The process becomes the helper if there is a command line and the system call succeeds. -/
theorem exec_eq_replaced_iff {helperPath : String} {arguments : List String} :
    (match execvp helperPath arguments with
      | .error message => ExecOutcome.panicked message
      | .ok argv =>
        match system.execError helperPath argv with
        | some e => .failed ("Failed to exec '" ++ helperPath ++ "': " ++ e)
        | none => .replaced helperPath argv) = .replaced program argv ↔
      helperPath = program ∧ system.execError program argv = none ∧
        execvp program arguments = .ok argv := by
  constructor
  · intro h
    split at h
    · cases h
    · rename_i built hvector
      split at h
      · cases h
      · rename_i hnone
        obtain ⟨rfl, rfl⟩ := ExecOutcome.replaced.inj h
        exact ⟨rfl, hnone, hvector⟩
  · rintro ⟨rfl, hnone, hvector⟩
    rw [hvector]
    dsimp only
    rw [hnone]

/-- When the helper is run, and with which command line. -/
theorem execute_eq_replaced_iff :
    execute system args = .replaced program argv ↔
      args.command ≠ [] ∧ system.isServiceAvailable = true ∧
        findHelperBinary system = .ok program ∧ system.execError program argv = none ∧
        ∃ nsPath, system.execAuthorize args.namespace_ = .ok nsPath ∧
          execvp program (nsPath :: "--" :: args.command) = .ok argv := by
  unfold execute
  split_ifs with hcommand hservice
  · simp [List.isEmpty_iff.mp hcommand]
  · rw [Bool.not_eq_true'] at hservice
    simp [hservice]
  · rw [List.isEmpty_iff] at hcommand
    rw [Bool.not_eq_true', Bool.not_eq_false] at hservice
    cases system.execAuthorize args.namespace_ with
    | error e => simp
    | ok nsPath =>
      cases findHelperBinary system with
      | error e => simp
      | ok helperPath =>
        refine exec_eq_replaced_iff.trans ?_
        simp only [hservice, ne_eq, hcommand, not_false_eq_true, true_and, Except.ok.injEq,
          exists_eq_left']

/-- The path of a namespace is not the separator. -/
theorem netnsPath_ne_separator (k : String) : netnsPath k ≠ "--" := by
  intro h
  have hhead := congrArg (fun path : String => path.toList.head?) h
  rw [netnsPath, String.toList_append] at hhead
  exact absurd hhead (by simp)

/-- The command line for a path, a command and a helper that is not called `--`. -/
theorem parseArgs_of_execvp {helper path : String} {command argv : List String}
    (hpath : path ≠ "--") (hhelper : helper ≠ "--") (hcommand : command ≠ [])
    (hvector : execvp helper (path :: "--" :: command) = .ok argv) :
    ∃ cmd rest, command = cmd :: rest ∧ parseArgs argv = .ok (path, cmd, rest) := by
  obtain ⟨cmd, rest, rfl⟩ := List.exists_cons_of_ne_nil hcommand
  obtain ⟨-, rfl⟩ := execvp_eq_ok_iff.mp hvector
  exact ⟨cmd, rest, rfl, parseArgs_eq_ok_iff.mpr ⟨helper, rfl, hhelper, hpath⟩⟩

section Fixture

/-- The state after the daemon created its namespace `old-app`. -/
def oldAppCreated (s₀ : DaemonEventLoop) : DaemonEventLoop :=
  run (DaemonEventLoop.step DaemonEventLoop.twoPrefixes) s₀ DaemonEventLoop.bothCreated

end Fixture

end Segwire.Cli.Exec
