import Segwire.Common.Utils

/-!
# Environment variable substitution

`substitute_env_vars` replaces the references `${…}` of a text until none is left.
Each pass finds the leftmost non-overlapping matches of `\$\{([^}]+)\}` and
replaces them from the last to the first, so that the offsets of the earlier ones
stay valid and the error of a pass is the one of its last unresolvable reference.

## Main definitions

* `substituteEnvVars` — the substitution
* `findIter` — the matches of a pass

## Main results

* `substituteEnvVars_of_referenceFree` — a text without `$` is left alone
-/

namespace Segwire.Common

open Foundation Foundation.Text

/-- A match of `\$\{([^}]+)\}`: where it starts and ends, and the text between
its braces. -/
structure Reference where
  start : Nat
  stop : Nat
  spec : List Char
  deriving DecidableEq, Repr

/-- The text between the braces when a reference starts here. -/
def referenceAt : List Char → Option (List Char)
  | '$' :: '{' :: rest =>
    let spec := rest.takeWhile (· ≠ '}')
    if spec = [] ∨ '}' ∉ rest then none else some spec
  | _ => none

/-- The matches in the rest of a text that starts at `offset`, after `skip`
characters of it. -/
def findFrom : Nat → Nat → List Char → List Reference
  | _, _, [] => []
  | offset, skip + 1, _ :: rest => findFrom (offset + 1) skip rest
  | offset, 0, c :: rest =>
    match referenceAt (c :: rest) with
    | some spec =>
      ⟨offset, offset + spec.length + 3, spec⟩ :: findFrom (offset + 1) (spec.length + 2) rest
    | none => findFrom (offset + 1) 0 rest

/-- `var_pattern.find_iter(text)` -/
def findIter (text : List Char) : List Reference := findFrom 0 0 text

/-- `text.replace_range(start..stop, substitution)` -/
def replaceRange (text : List Char) (start stop : Nat) (substitution : List Char) : List Char :=
  text.take start ++ substitution ++ text.drop stop

/-- Get variable value from config environment or system environment. -/
def getVariableValue (systemEnv : String → Option String) (varName : String)
    (configEnv : HashMap String String) : Option String :=
  match configEnv.lookup varName with
  -- the configuration's own environment comes first
  | some value => some value
  | none => systemEnv varName

/-- Resolve a variable specification (the part inside `${…}`). -/
def resolveVariableSpec (systemEnv : String → Option String) (spec : List Char)
    (configEnv : HashMap String String) : SegwireResult (List Char) :=
  let variableValue (name : List Char) : Option (List Char) :=
    (getVariableValue systemEnv (String.ofList name) configEnv).map String.toList
  match splitOnce [':', '-'] spec with
  | some (varName, defaultValue) =>
    match variableValue varName with
    -- `${VAR:-default}`: an empty value counts as missing
    | some value => if value = [] then .ok defaultValue else .ok value
    | none => .ok defaultValue
  | none =>
    match splitOnce [':', '+'] spec with
    | some (varName, alternateValue) =>
      match variableValue varName with
      -- `${VAR:+alternate}`
      | some value => if value ≠ [] then .ok alternateValue else .ok []
      | none => .ok []
    | none =>
      match variableValue spec with
      | some value => .ok value
      | none => .error (.config (.envSubstitution
          ("Environment variable '" ++ String.ofList spec ++ "' not found")))

/-- One pass: the matches of `text`, replaced from the last to the first. -/
def replaceMatches (systemEnv : String → Option String) (configEnv : HashMap String String)
    (matched : List Reference) (text : List Char) : SegwireResult (List Char) :=
  matched.reverse.foldlM (fun text reference => do
    let substitution ← resolveVariableSpec systemEnv reference.spec configEnv
    return replaceRange text reference.start reference.stop substitution) text

/-- `MAX_ITERATIONS` -/
def maxIterations : Nat := 10

/-- The loop of `substitute_env_vars` with `remaining` iterations to go. A text
without matches ends it; the loop has failed when no iteration is left then. -/
def substituteLoop (systemEnv : String → Option String) (configEnv : HashMap String String) :
    Nat → List Char → SegwireResult (List Char)
  | 0, _ => .error (.config (.envSubstitution
      "Maximum substitution iterations exceeded - possible circular reference"))
  | remaining + 1, text =>
    match findIter text with
    | [] =>
      -- the tenth pass fails even if it leaves nothing to substitute
      if remaining = 0 then
        .error (.config (.envSubstitution
          "Maximum substitution iterations exceeded - possible circular reference"))
      else .ok text
    | matched => do
      let text ← replaceMatches systemEnv configEnv matched text
      substituteLoop systemEnv configEnv remaining text

/-- Substitute environment variables in a string value. -/
def substituteEnvVars (systemEnv : String → Option String) (configEnv : HashMap String String)
    (input : String) : SegwireResult String :=
  (substituteLoop systemEnv configEnv maxIterations input.toList).map String.ofList

variable {systemEnv : String → Option String} {configEnv : HashMap String String}

theorem findFrom_eq_nil {text : List Char} (h : '$' ∉ text) (offset skip : Nat) :
    findFrom offset skip text = [] := by
  induction text generalizing offset skip with
  | nil => rfl
  | cons c rest ih =>
    rw [List.mem_cons, not_or] at h
    cases skip with
    | succ skip => exact ih h.2 _ _
    | zero =>
      have hnone : referenceAt (c :: rest) = none := by
        unfold referenceAt
        split
        · rename_i heq
          exact absurd (List.cons.inj heq).1.symm h.1
        · rfl
      rw [findFrom, hnone]
      exact ih h.2 _ _

/-- A text in which no reference can start is left alone. -/
theorem substituteEnvVars_of_referenceFree {input : String} (h : ReferenceFree input) :
    substituteEnvVars systemEnv configEnv input = .ok input := by
  have hnone : findIter input.toList = [] := findFrom_eq_nil h 0 0
  have hloop : substituteLoop systemEnv configEnv maxIterations input.toList =
      .ok input.toList := by
    rw [maxIterations, substituteLoop, hnone]
    rfl
  rw [substituteEnvVars, hloop]
  simp [Except.map]

example : substituteEnvVars (fun _ => none) ∅ "a-${X:-${Y:-b}}" = .ok "a-b" := by decide

end Segwire.Common
