import Mathlib.Data.List.Basic

/-!
# The command line of the setuid helper

`segwire-ns-enter <ns-path> -- <command> [args...]`. The separator is searched from the
front and has to be the third argument, so the command may contain it again.

## Main definitions

* `NsEnter.parseArgs`

## Main results

* `NsEnter.parseArgs_eq_ok_iff` — the command lines that are accepted, and what is read
-/

namespace Segwire.NsEnter

/-- Parse command-line arguments. -/
def parseArgs (args : List String) : Except String (String × String × List String) :=
  if hlength : args.length < 4 then .error "not enough arguments"
  else
    let nsPath := args.get ⟨1, Nat.lt_of_lt_of_le (by decide) (Nat.not_lt.mp hlength)⟩
    match args.findIdx? (· == "--") with
    | none => .error "missing '--' separator between namespace path and command"
    | some separatorPos =>
      if separatorPos ≠ 2 then .error "expected: <ns-path> -- <command> [args...]"
      else if hend : args.length ≤ separatorPos + 1 then
        .error "no command specified after '--'"
      else
        let command := args.get ⟨separatorPos + 1, Nat.not_le.mp hend⟩
        .ok (nsPath, command, args.drop (separatorPos + 2))

/-- The first separator of a command line is the third argument. -/
theorem findIdx?_eq_two_iff {a₀ a₁ a₂ : String} {rest : List String} :
    (a₀ :: a₁ :: a₂ :: rest).findIdx? (· == "--") = some 2 ↔
      a₀ ≠ "--" ∧ a₁ ≠ "--" ∧ a₂ = "--" := by
  by_cases h₀ : a₀ = "--"
  · simp [List.findIdx?_cons, h₀]
  · by_cases h₁ : a₁ = "--"
    · simp [List.findIdx?_cons, h₀, h₁]
    · by_cases h₂ : a₂ = "--"
      · simp [List.findIdx?_cons, h₀, h₁, h₂]
      · simp [List.findIdx?_cons, h₀, h₁, h₂]

/-- A command line is read as a path, a command and its arguments if and only if it consists of
a program, the path, the separator, the command and the arguments, with no separator earlier. -/
theorem parseArgs_eq_ok_iff {args : List String} {ns cmd : String} {rest : List String} :
    parseArgs args = .ok (ns, cmd, rest) ↔
      ∃ a₀, args = a₀ :: ns :: "--" :: cmd :: rest ∧ a₀ ≠ "--" ∧ ns ≠ "--" := by
  constructor
  · intro h
    unfold parseArgs at h
    split_ifs at h with hlength
    -- four arguments are there
    obtain _ | ⟨a₀, _ | ⟨a₁, _ | ⟨a₂, _ | ⟨a₃, tail⟩⟩⟩⟩ := args
    · simp at hlength
    · simp at hlength
    · simp at hlength
    · simp at hlength
    · dsimp only at h
      split at h
      · cases h
      · rename_i separatorPos hpos
        split_ifs at h with htwo hend
        rw [not_not] at htwo
        subst htwo
        obtain ⟨h₀, h₁, rfl⟩ := findIdx?_eq_two_iff.mp hpos
        obtain ⟨rfl, hrest⟩ := Prod.mk.inj (Except.ok.inj h)
        obtain ⟨rfl, rfl⟩ := Prod.mk.inj hrest
        exact ⟨a₀, rfl, h₀, h₁⟩
  · rintro ⟨a₀, rfl, h₀, h₁⟩
    have hpos : (a₀ :: ns :: "--" :: cmd :: rest).findIdx? (· == "--") = some 2 :=
      findIdx?_eq_two_iff.mpr ⟨h₀, h₁, rfl⟩
    have hlength : ¬ (a₀ :: ns :: "--" :: cmd :: rest).length < 4 := by
      simp only [List.length_cons]
      omega
    have hend : ¬ (a₀ :: ns :: "--" :: cmd :: rest).length ≤ 2 + 1 := by
      simp only [List.length_cons]
      omega
    rw [parseArgs, dif_neg hlength, hpos]
    dsimp only
    rw [if_neg (not_not.mpr rfl), dif_neg hend]
    rfl

end Segwire.NsEnter
