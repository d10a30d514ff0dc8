import Mathlib.Data.List.Basic
import Mathlib.Logic.Function.Basic

/-!
# Tables with exclusive adds

A table has at most one value under each key, and an add is refused where the key is taken.
So of the elements that are added one after the other, the first one of each key stays, and a
table that was filled before keeps what it had.

## Main definitions

* `addExclusive` — add the value of an element unless its key is taken
* `firstUnder` — the value of the first element of a key in a list

## Main results

* `foldl_addExclusive` — the table after a list of adds
* `foldl_addExclusive_eq_iff` — when the same adds lead to one table
-/

namespace Foundation

variable {α β κ : Type*} [DecidableEq κ] (key : α → κ) (value : α → β)

/-- Add the value of an element to a table unless its key is taken. -/
def addExclusive (table : κ → Option β) (a : α) : κ → Option β :=
  if (table (key a)).isSome then table else Function.update table (key a) (some (value a))

/-- The value of the first element of a key in a list. -/
def firstUnder (as : List α) (k : κ) : Option β := (as.find? fun a => key a = k).map value

variable {key value} {table table' : κ → Option β} {as bs : List α} {k : κ}

theorem addExclusive_apply (a : α) :
    addExclusive key value table a k =
      (table k).or (if key a = k then some (value a) else none) := by
  unfold addExclusive
  by_cases hk : key a = k
  · subst hk
    cases htable : table (key a) <;> simp [htable]
  · cases (table (key a)).isSome <;> simp [hk, Function.update_of_ne (Ne.symm hk)]

/-- After a list of adds, a key that was free has the value of the first element of that key. -/
theorem foldl_addExclusive (as : List α) (table : κ → Option β) (k : κ) :
    as.foldl (addExclusive key value) table k = (table k).or (firstUnder key value as k) := by
  induction as generalizing table with
  | nil => simp [firstUnder]
  | cons a as ih =>
    rw [List.foldl_cons, ih, addExclusive_apply, Option.or_assoc, firstUnder, firstUnder,
      List.find?_cons]
    by_cases hk : key a = k <;> simp [hk]

/-- Two tables agree after the same adds iff what the first one had stays with the second one,
and what the second one had is with the first one or is added. -/
theorem foldl_addExclusive_eq_iff :
    bs.foldl (addExclusive key value) table = bs.foldl (addExclusive key value) table' ↔
      (∀ k b, table k = some b → bs.foldl (addExclusive key value) table' k = some b) ∧
      ∀ k b, table' k = some b → table k = some b ∨ firstUnder key value bs k = some b := by
  constructor
  · intro hsame
    constructor
    · intro k b hb
      rw [← hsame, foldl_addExclusive, hb, Option.some_or]
    · intro k b hb
      have hk := congrFun hsame k
      rw [foldl_addExclusive, foldl_addExclusive, hb, Option.some_or] at hk
      rcases Option.or_eq_some_iff.mp hk with h | ⟨-, h⟩
      · exact .inl h
      · exact .inr h
  · rintro ⟨hstays, hadded⟩
    funext k
    cases hk : table k with
    | some b => rw [hstays k b hk, foldl_addExclusive, hk, Option.some_or]
    | none =>
      rw [foldl_addExclusive, foldl_addExclusive, hk, Option.none_or]
      cases hk' : table' k with
      | none => rw [Option.none_or]
      | some b =>
        -- the first table has nothing here, so the value is added
        rcases hadded k b hk' with h | h
        · rw [hk] at h
          cases h
        · rw [h, Option.some_or]

end Foundation
