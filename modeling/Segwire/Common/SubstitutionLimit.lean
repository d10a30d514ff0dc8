import Segwire.Common.SubstitutionPasses

/-!
# The limit of the substitution

The loop counts its iterations, and afterwards takes a count of ten for a circular
reference. The count is ten as well when the tenth iteration finds nothing left to
substitute, or replaces the last references.

## Main definitions

* `LimitRejectsUnfinished` — the limit only rejects unfinished work

## Main results

* `limitRejectsUnfinished_iff` — it does unless the references are gone after nine or ten passes
-/

namespace Segwire.Common

open Foundation Foundation.Text Foundation.Except

variable {systemEnv : String → Option String} {configEnv : HashMap String String}
  {text spec : List Char} {input : String}

/-- The error of a reference that cannot be resolved names its variable. -/
theorem resolve_eq_error {e : SegwireError}
    (h : resolveVariableSpec systemEnv spec configEnv = .error e) :
    e = .config (.envSubstitution
      ("Environment variable '" ++ String.ofList spec ++ "' not found")) := by
  cases hdefault : splitOnce [':', '-'] spec with
  | some parts =>
    rw [resolve_default hdefault] at h
    cases h
  | none =>
    cases halternate : splitOnce [':', '+'] spec with
    | some parts =>
      rw [resolve_alternate hdefault halternate] at h
      cases h
    | none =>
      unfold resolveVariableSpec at h
      rw [hdefault, halternate] at h
      dsimp only at h
      split at h
      · cases h
      · exact (Except.error.inj h).symm

/-- The limit is not what a pass fails with. -/
theorem pass_ne_limitError (text : List Char) :
    pass systemEnv configEnv text ≠ .error limitError := by
  rw [pass, replaceMatches_findIter]
  induction text using text_induction with
  | nil =>
    intro h
    cases h
  | plain c rest href ih =>
    rw [rewrite_plain href]
    cases hrest : rewrite systemEnv configEnv rest with
    | error e => exact fun h => ih (hrest.trans h)
    | ok after =>
      intro h
      cases h
  | reference spec rest hne hfresh ih =>
    rw [rewrite_reference hne hfresh]
    cases hrest : rewrite systemEnv configEnv rest with
    | error e => exact fun h => ih (hrest.trans h)
    | ok after =>
      cases hresolve : resolveVariableSpec systemEnv spec configEnv with
      | ok substitution =>
        intro h
        cases h
      | error e =>
        -- the two messages differ in their first letters
        intro h
        rw [resolve_eq_error hresolve] at h
        have hmessage := congrArg String.toList
          (ConfigError.envSubstitution.inj (SegwireError.config.inj (Except.error.inj h)))
        simp at hmessage

/-- The limit only rejects unfinished work: a text that has no reference left in one of the ten
iterations is returned, and the limit is only reported when the last pass leaves references. -/
structure LimitRejectsUnfinished (systemEnv : String → Option String)
    (configEnv : HashMap String String) (input : String) : Prop where
  accepts : ∀ n < maxIterations, ∀ text, passes systemEnv configEnv n input.toList = .ok text →
    ¬ HasReference text → substituteEnvVars systemEnv configEnv input = .ok (String.ofList text)
  rejects : substituteEnvVars systemEnv configEnv input = .error limitError →
    ∃ text, passes systemEnv configEnv maxIterations input.toList = .ok text ∧ HasReference text

/-- A text that takes nine passes or more is not returned. -/
theorem unresolved_of_resolvedAfter {n : Nat} {out : List Char} (hn : 9 ≤ n)
    (h : ResolvedAfter systemEnv configEnv n input.toList out) :
    Unresolved systemEnv configEnv 9 input.toList :=
  fun m hm => h.running m (by omega)

/-- A text whose passes all succeed, and that takes nine or more, meets the limit. -/
theorem substituteEnvVars_eq_limitError {n : Nat} {out : List Char} (hn : 9 ≤ n) (hle : n ≤ 10)
    (h : ResolvedAfter systemEnv configEnv n input.toList out) :
    substituteEnvVars systemEnv configEnv input = .error limitError := by
  have hlast : passes systemEnv configEnv 10 input.toList = .ok out :=
    h.iterate_of_le (fun _ => pass_of_not_hasReference) hle
  rw [substituteEnvVars_of_unresolved (unresolved_of_resolvedAfter hn h), hlast]
  rfl

/-- The limit only rejects unfinished work iff the references are not gone for the first time
after the ninth or the tenth pass. -/
theorem limitRejectsUnfinished_iff (systemEnv : String → Option String)
    (configEnv : HashMap String String) (input : String) :
    LimitRejectsUnfinished systemEnv configEnv input ↔
      ∀ out, ¬ ResolvedAfter systemEnv configEnv 9 input.toList out ∧
        ¬ ResolvedAfter systemEnv configEnv 10 input.toList out := by
  constructor
  · intro h out
    constructor
    · intro hnine
      have hok := h.accepts 9 (by decide) out hnine.reached hnine.done
      rw [substituteEnvVars_eq_limitError le_rfl (by decide) hnine] at hok
      cases hok
    · intro hten
      obtain ⟨text, hlast, hreference⟩ :=
        h.rejects (substituteEnvVars_eq_limitError (by decide) le_rfl hten)
      obtain rfl := Except.ok.inj (hten.reached.symm.trans hlast)
      exact hten.done hreference
  · intro h
    constructor
    · intro n hn text hreached hdone
      obtain ⟨k, hk, hresolved⟩ :=
        finishesAfter_of_reached (fun _ => pass_of_not_hasReference) hreached hdone
      have hne : k ≠ 9 := by
        rintro rfl
        exact (h text).1 hresolved
      have hten : maxIterations = 10 := rfl
      exact substituteEnvVars_of_resolvedAfter hresolved (by omega)
    · intro hlimit
      rcases stillRunning_or_finishesAfter (pass systemEnv configEnv)
        (fun text => ¬ HasReference text) 11 input.toList with hrunning | ⟨k, hk, out, hresolved⟩
      · rw [substituteEnvVars_of_unresolved fun m hm => hrunning m (by omega)] at hlimit
        cases hlast : passes systemEnv configEnv 10 input.toList with
        | ok text => exact ⟨text, hlast, not_not.mp (hrunning 10 (by decide) text hlast)⟩
        | error e =>
          -- the error is the one of the first pass that fails
          rw [hlast] at hlimit
          obtain rfl := Except.error.inj hlimit
          obtain ⟨m, -, y, -, hfails⟩ := exists_of_iterate_eq_error hlast
          exact absurd hfails (pass_ne_limitError y)
      · have hlate : 9 ≤ k := by
          by_contra hlt
          rw [substituteEnvVars_of_resolvedAfter hresolved (by omega)] at hlimit
          cases hlimit
        obtain rfl | rfl : k = 9 ∨ k = 10 := by omega
        · exact absurd hresolved (h out).1
        · exact absurd hresolved (h out).2

section Fixture

/-- A chain of nine variables: `${A}` refers to `${B}`, and so on. -/
def variableChain : HashMap String String :=
  List.toFinmap [⟨"A", "${B}"⟩, ⟨"B", "${C}"⟩, ⟨"C", "${D}"⟩, ⟨"D", "${E}"⟩, ⟨"E", "${F}"⟩,
    ⟨"F", "${G}"⟩, ⟨"G", "${H}"⟩, ⟨"H", "${I}"⟩, ⟨"I", "x"⟩]

/-- `${A}` is `x` after nine passes, and reported as a circular reference. -/
theorem not_limitRejectsUnfinished_chain :
    ¬ ∀ systemEnv configEnv input, LimitRejectsUnfinished systemEnv configEnv input := by
  intro hall
  have hpasses : passes (fun _ => none) variableChain 9 "${A}".toList = .ok ['x'] := by decide
  have hcode : substituteEnvVars (fun _ => none) variableChain "${A}" = .error limitError := by
    decide
  have hok := (hall (fun _ => none) variableChain "${A}").accepts 9 (by decide) _ hpasses
    (findIter_eq_nil_iff.mp rfl)
  rw [hcode] at hok
  cases hok

end Fixture

end Segwire.Common
