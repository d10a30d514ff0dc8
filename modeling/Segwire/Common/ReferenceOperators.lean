import Segwire.Common.SubstitutionPasses

/-!
# The operator of a reference

In `${VAR:+alternate}` and `${VAR:-default}` the operator is the first one. The program looks
for `:-` anywhere between the braces before it looks for `:+`, so an alternate that contains
`:-` is read as the default of a variable whose name contains `:+`.

## Main definitions

* `OperatorRules` — what the two operators mean
* `MisreadHarmless` — the other reading has the same outcome

## Main results

* `operatorRules_iff` — the operators mean this iff the other reading is harmless
-/

namespace Segwire.Common

open Foundation Foundation.Text Foundation.Except

variable {systemEnv : String → Option String} {configEnv : HashMap String String}
  {name body before after : List Char}

/-- The text of a reference to a variable with an operator. -/
def operatorReference (name : List Char) (operator : Char) (body : List Char) : List Char :=
  '$' :: '{' :: ((name ++ ':' :: operator :: body) ++ ['}'])

/-- What the operators mean: the alternate stands for a variable that is set and not empty, the
default for one that is not. -/
structure OperatorRules (systemEnv : String → Option String) (configEnv : HashMap String String)
    (name body : List Char) : Prop where
  alternate : pass systemEnv configEnv (operatorReference name '+' body) =
    .ok (if (nonemptyValue systemEnv configEnv name).isSome then body else [])
  default : pass systemEnv configEnv (operatorReference name '-' body) =
    .ok ((nonemptyValue systemEnv configEnv name).getD body)

/-- A pass over a single reference is its resolution. -/
theorem pass_operatorReference {operator : Char} (hname : '}' ∉ name) (hoperator : operator ≠ '}')
    (hbody : '}' ∉ body) :
    pass systemEnv configEnv (operatorReference name operator body) =
      resolveVariableSpec systemEnv (name ++ ':' :: operator :: body) configEnv := by
  have hfresh : '}' ∉ name ++ ':' :: operator :: body := by
    simp [hname, hbody, hoperator.symm]
  rw [pass, replaceMatches_findIter, operatorReference, rewrite_reference (by simp) hfresh]
  have hnil : rewrite systemEnv configEnv [] = .ok [] := rfl
  rw [hnil, ok_bind]
  cases resolveVariableSpec systemEnv (name ++ ':' :: operator :: body) configEnv with
  | error e => rfl
  | ok value => simp

/-- Behind the operator `:+`, the operator `:-` is found as in the alternate itself. -/
theorem splitOnce_default_of_alternate (hname : ':' ∉ name) (body : List Char) :
    splitOnce [':', '-'] (name ++ ':' :: '+' :: body) =
      (splitOnce [':', '-'] body).map fun (before, after) =>
        (name ++ ':' :: '+' :: before, after) := by
  induction name with
  | nil =>
    rw [List.nil_append, splitOnce, if_neg (by simp), splitOnce, if_neg (by simp), Option.map_map]
    rfl
  | cons c name ih =>
    rw [List.mem_cons, not_or] at hname
    rw [List.cons_append, splitOnce, if_neg (by simp [hname.1]), ih hname.2, Option.map_map]
    rfl

/-- Without the operator `:-`, the alternate is read as it stands. -/
theorem resolve_alternate_of_none (hname : ':' ∉ name)
    (hnone : splitOnce [':', '-'] body = none) :
    resolveVariableSpec systemEnv (name ++ ':' :: '+' :: body) configEnv =
      .ok (if (nonemptyValue systemEnv configEnv name).isSome then body else []) := by
  apply resolve_alternate
  · rw [splitOnce_default_of_alternate hname, hnone]
    rfl
  · exact splitOnce_colon hname '+'

/-- With the operator `:-` in it, the alternate is read as a default. -/
theorem resolve_alternate_of_some (hname : ':' ∉ name)
    (hsome : splitOnce [':', '-'] body = some (before, after)) :
    resolveVariableSpec systemEnv (name ++ ':' :: '+' :: body) configEnv =
      .ok ((nonemptyValue systemEnv configEnv (name ++ ':' :: '+' :: before)).getD after) := by
  apply resolve_default
  rw [splitOnce_default_of_alternate hname, hsome]
  rfl

/-- Where the alternate contains `:-`, reading it as a default has the outcome that the
alternate should have: the variable whose name contains `:+` has just this alternate as its
value, or the outcome is empty as it should be. -/
def MisreadHarmless (systemEnv : String → Option String) (configEnv : HashMap String String)
    (name body : List Char) : Prop :=
  ∀ before after, splitOnce [':', '-'] body = some (before, after) →
    ((nonemptyValue systemEnv configEnv name).isSome ∧
      valueOf systemEnv configEnv (name ++ ':' :: '+' :: before) = some body) ∨
    (nonemptyValue systemEnv configEnv name = none ∧
      nonemptyValue systemEnv configEnv (name ++ ':' :: '+' :: before) = none ∧ after = [])

theorem nonemptyValue_ne_nil {value : List Char}
    (h : nonemptyValue systemEnv configEnv name = some value) : value ≠ [] := by
  simpa using (Option.filter_eq_some_iff.mp h).2

theorem nonemptyValue_eq_some {value : List Char} (hne : value ≠ []) :
    nonemptyValue systemEnv configEnv name = some value ↔
      valueOf systemEnv configEnv name = some value := by
  rw [nonemptyValue, Option.filter_eq_some_iff]
  simp [hne]

/-- The text behind the first `:-` is shorter than the whole. -/
theorem length_lt_of_splitOnce (h : splitOnce [':', '-'] body = some (before, after)) :
    after.length < body.length := by
  rw [splitOnce_eq_some h]
  simp
  omega

/-- The two readings have the same outcome iff the misreading is harmless. -/
theorem misread_eq_iff (hsplit : splitOnce [':', '-'] body = some (before, after)) :
    (nonemptyValue systemEnv configEnv (name ++ ':' :: '+' :: before)).getD after =
        (if (nonemptyValue systemEnv configEnv name).isSome then body else []) ↔
      MisreadHarmless systemEnv configEnv name body := by
  have hlength := length_lt_of_splitOnce hsplit
  have hbody : body ≠ [] := by
    rintro rfl
    exact absurd hlength (Nat.not_lt_zero _)
  have hiff : MisreadHarmless systemEnv configEnv name body ↔
      ((nonemptyValue systemEnv configEnv name).isSome ∧
        valueOf systemEnv configEnv (name ++ ':' :: '+' :: before) = some body) ∨
      (nonemptyValue systemEnv configEnv name = none ∧
        nonemptyValue systemEnv configEnv (name ++ ':' :: '+' :: before) = none ∧ after = []) := by
    constructor
    · exact fun h => h before after hsplit
    · intro h before' after' hsplit'
      obtain ⟨rfl, rfl⟩ := Prod.mk.inj (Option.some.inj (hsplit.symm.trans hsplit'))
      exact h
  rw [hiff]
  cases hmisread : nonemptyValue systemEnv configEnv (name ++ ':' :: '+' :: before) with
  | some value =>
    have hvalue := (nonemptyValue_eq_some (nonemptyValue_ne_nil hmisread)).mp hmisread
    have hne := nonemptyValue_ne_nil hmisread
    cases hset : nonemptyValue systemEnv configEnv name <;> simp [hvalue, hne]
  | none =>
    have hvalue : valueOf systemEnv configEnv (name ++ ':' :: '+' :: before) ≠ some body := by
      intro hsome
      rw [(nonemptyValue_eq_some hbody).mpr hsome] at hmisread
      cases hmisread
    have hafter : after ≠ body := by
      rintro rfl
      exact absurd hlength (lt_irrefl _)
    cases hset : nonemptyValue systemEnv configEnv name <;> simp [hvalue, hafter]

/-- The first operator of a reference counts iff the alternate does not contain `:-`, or
misreading it is harmless. A default may contain any operators. -/
theorem operatorRules_iff (systemEnv : String → Option String) (configEnv : HashMap String String)
    {name body : List Char} (hcolon : ':' ∉ name) (hname : '}' ∉ name) (hbody : '}' ∉ body) :
    OperatorRules systemEnv configEnv name body ↔
      MisreadHarmless systemEnv configEnv name body := by
  have hdefault : pass systemEnv configEnv (operatorReference name '-' body) =
      .ok ((nonemptyValue systemEnv configEnv name).getD body) := by
    rw [pass_operatorReference hname (by decide) hbody]
    exact resolve_default (splitOnce_colon hcolon '-')
  have hrules : OperatorRules systemEnv configEnv name body ↔
      resolveVariableSpec systemEnv (name ++ ':' :: '+' :: body) configEnv =
        .ok (if (nonemptyValue systemEnv configEnv name).isSome then body else []) := by
    rw [← pass_operatorReference hname (by decide) hbody]
    exact ⟨fun h => h.alternate, fun h => ⟨h, hdefault⟩⟩
  rw [hrules]
  cases hsplit : splitOnce [':', '-'] body with
  | none =>
    rw [resolve_alternate_of_none hcolon hsplit]
    refine iff_of_true rfl fun before after hsome => ?_
    rw [hsplit] at hsome
    cases hsome
  | some parts =>
    obtain ⟨before, after⟩ := parts
    rw [resolve_alternate_of_some hcolon hsplit, ← misread_eq_iff hsplit]
    exact ⟨fun h => Except.ok.inj h, fun h => congrArg _ h⟩

section Fixture

/-- In `${V:+a}` there is no other operator. -/
theorem operatorRules_plain :
    OperatorRules (fun _ => none) (Finmap.singleton "V" "x") ['V'] ['a'] :=
  (operatorRules_iff _ _ (by decide) (by decide) (by decide)).mpr (by intro _ _ h; cases h)

/-- With `V` set, `${V:+a:-b}` should be `a:-b`, and the program puts `b` in its place. -/
theorem not_operatorRules_of_misread :
    ¬ ∀ systemEnv configEnv name body, ':' ∉ name → '}' ∉ name → '}' ∉ body →
      ¬ ['$', '{'] <:+: body → OperatorRules systemEnv configEnv name body := by
  intro hall
  have hrules := hall (fun _ => none) (Finmap.singleton "V" "x") ['V'] ['a', ':', '-', 'b']
    (by decide) (by decide) (by decide) (by decide)
  have hcode : pass (fun _ => none) (Finmap.singleton "V" "x")
      (operatorReference ['V'] '+' ['a', ':', '-', 'b']) = .ok ['b'] := by decide
  exact absurd (hcode.symm.trans hrules.alternate) (by decide)

end Fixture

end Segwire.Common
