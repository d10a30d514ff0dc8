import Segwire.Common.SubstitutionPasses

/-!
# Shielding from the system environment

The variables of a configuration's `[environment]` section come before those of the system.
If the substitution of a text only looks up variables of this section, then its result does
not depend on the system environment.

## Main definitions

* `lookupName` — the variable that a reference looks up
* `lookedUp` — the variables that the substitution of a text looks up, in all its passes

## Main results

* `substituteEnvVars_shielded` — the result is the same under all system environments
-/

namespace Segwire.Common

open Foundation Foundation.Text Foundation.Except

variable {systemEnv systemEnv' : String → Option String} {configEnv : HashMap String String}
  {text spec : List Char}

/-- The variable that a reference looks up. -/
def lookupName (spec : List Char) : List Char :=
  match splitOnce [':', '-'] spec with
  | some (varName, _) => varName
  | none =>
    match splitOnce [':', '+'] spec with
    | some (varName, _) => varName
    | none => spec

/-- The variables that the matches of a text look up, in the order of their replacement. A
variable that is not found ends the pass. -/
def lookedUpByMatches (systemEnv : String → Option String) (configEnv : HashMap String String) :
    List Reference → List (List Char)
  | [] => []
  | reference :: earlier =>
    lookupName reference.spec ::
      match resolveVariableSpec systemEnv reference.spec configEnv with
      | .ok _ => lookedUpByMatches systemEnv configEnv earlier
      | .error _ => []

/-- The variables that the loop looks up with `remaining` iterations to go. -/
def lookedUpByLoop (systemEnv : String → Option String) (configEnv : HashMap String String) :
    Nat → List Char → List (List Char)
  | 0, _ => []
  | remaining + 1, text =>
    lookedUpByMatches systemEnv configEnv (findIter text).reverse ++
      match pass systemEnv configEnv text with
      | .ok text => lookedUpByLoop systemEnv configEnv remaining text
      | .error _ => []

/-- The variables that the substitution of a text looks up. -/
def lookedUp (systemEnv : String → Option String) (configEnv : HashMap String String)
    (input : String) : List (List Char) :=
  lookedUpByLoop systemEnv configEnv maxIterations input.toList

/-- The configuration has all these variables. -/
abbrev CoveredBy (configEnv : HashMap String String) (names : List (List Char)) : Prop :=
  ∀ name ∈ names, String.ofList name ∈ configEnv

/-- The value of a variable of the configuration. -/
theorem getVariableValue_of_mem {name : String} (h : name ∈ configEnv) :
    getVariableValue systemEnv name configEnv = getVariableValue systemEnv' name configEnv := by
  obtain ⟨value, hvalue⟩ := Option.isSome_iff_exists.mp (Finmap.lookup_isSome.mpr h)
  rw [getVariableValue, getVariableValue, hvalue]

/-- A reference only depends on the variable that it looks up. -/
theorem resolve_congr
    (h : getVariableValue systemEnv (String.ofList (lookupName spec)) configEnv =
      getVariableValue systemEnv' (String.ofList (lookupName spec)) configEnv) :
    resolveVariableSpec systemEnv spec configEnv =
      resolveVariableSpec systemEnv' spec configEnv := by
  unfold lookupName at h
  unfold resolveVariableSpec
  cases hdefault : splitOnce [':', '-'] spec with
  | some parts =>
    rw [hdefault] at h
    dsimp only at h ⊢
    rw [h]
  | none =>
    cases halternate : splitOnce [':', '+'] spec with
    | some parts =>
      rw [hdefault, halternate] at h
      dsimp only at h ⊢
      rw [h]
    | none =>
      rw [hdefault, halternate] at h
      dsimp only at h ⊢
      rw [h]

/-- A reference whose variable is in the configuration resolves in the same way. -/
theorem resolve_shielded (h : String.ofList (lookupName spec) ∈ configEnv) :
    resolveVariableSpec systemEnv spec configEnv =
      resolveVariableSpec systemEnv' spec configEnv :=
  resolve_congr (getVariableValue_of_mem h)

/-- The matches of a text are replaced in the same way, one by one. -/
theorem foldlM_shielded {matched : List Reference}
    (h : CoveredBy configEnv (lookedUpByMatches systemEnv configEnv matched)) (text : List Char) :
    matched.foldlM (fun text reference => do
        let substitution ← resolveVariableSpec systemEnv reference.spec configEnv
        return replaceRange text reference.start reference.stop substitution) text =
      matched.foldlM (fun text reference => do
        let substitution ← resolveVariableSpec systemEnv' reference.spec configEnv
        return replaceRange text reference.start reference.stop substitution) text := by
  induction matched generalizing text with
  | nil => rfl
  | cons reference earlier ih =>
    have hhere : resolveVariableSpec systemEnv reference.spec configEnv =
        resolveVariableSpec systemEnv' reference.spec configEnv :=
      resolve_shielded (h _ List.mem_cons_self)
    rw [List.foldlM_cons, List.foldlM_cons, ← hhere]
    cases hresolve : resolveVariableSpec systemEnv reference.spec configEnv with
    | error e => rfl
    | ok substitution =>
      refine ih (fun name hname => h name ?_) _
      rw [lookedUpByMatches, hresolve]
      exact List.mem_cons_of_mem _ hname

/-- A pass that only looks up variables of the configuration has the same outcome. -/
theorem pass_shielded
    (h : CoveredBy configEnv (lookedUpByMatches systemEnv configEnv (findIter text).reverse)) :
    pass systemEnv configEnv text = pass systemEnv' configEnv text :=
  foldlM_shielded h text

theorem substituteLoop_shielded {n : Nat}
    (h : CoveredBy configEnv (lookedUpByLoop systemEnv configEnv n text)) :
    substituteLoop systemEnv configEnv n text = substituteLoop systemEnv' configEnv n text := by
  induction n generalizing text with
  | zero => rfl
  | succ n ih =>
    rw [lookedUpByLoop] at h
    have hpass : pass systemEnv configEnv text = pass systemEnv' configEnv text :=
      pass_shielded fun name hname => h name (List.mem_append_left _ hname)
    rw [substituteLoop, substituteLoop]
    split
    · rfl
    · change (pass systemEnv configEnv text >>= _) = (pass systemEnv' configEnv text >>= _)
      rw [← hpass]
      cases hok : pass systemEnv configEnv text with
      | error e => rfl
      | ok out =>
        -- what this pass substituted makes the references of the next one
        refine ih fun name hname => h name (List.mem_append_right _ ?_)
        rw [hok]
        exact hname

/-- A substitution that only looks up variables of the configuration gives the same value or
error under all system environments. -/
theorem substituteEnvVars_shielded (systemEnv systemEnv' : String → Option String)
    (configEnv : HashMap String String) (input : String)
    (h : CoveredBy configEnv (lookedUp systemEnv configEnv input)) :
    substituteEnvVars systemEnv configEnv input = substituteEnvVars systemEnv' configEnv input :=
  congrArg (Except.map String.ofList) (substituteLoop_shielded h)

section Fixture

/-- `V` is set to `${W}`, so the second pass looks up `W`. -/
theorem substituteEnvVars_shielded_chain :
    substituteEnvVars (fun _ => some "system") (List.toFinmap [⟨"V", "${W}"⟩, ⟨"W", "w"⟩]) "a${V}" =
      substituteEnvVars (fun _ => none) (List.toFinmap [⟨"V", "${W}"⟩, ⟨"W", "w"⟩]) "a${V}" :=
  substituteEnvVars_shielded _ _ _ _ (by decide)

end Fixture

end Segwire.Common
