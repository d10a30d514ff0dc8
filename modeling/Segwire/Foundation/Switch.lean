import Mathlib.Data.List.Chain

/-!
# Logs of a switch

A switch is off or on, and a log of its changes is the list of its new positions. Such a
log alternates, and its last entry is the position of the switch.

## Main definitions

* `Logs` — a list logs the changes from one position to another

## Main results

* `logs_append_iff` — one log continues another one
* `logs_iff` — a log from its first entry, its neighbours and its last entry
* `Logs.not_erased` — a log that has lost an entry is no log
-/

namespace Foundation

variable {b b' b'' : Bool} {l l' : List Bool}

/-- The list logs the changes of a switch from position `b` to position `b'`. -/
def Logs : Bool → List Bool → Bool → Prop
  | b, [], b' => b = b'
  | b, c :: l, b' => c = !b ∧ Logs c l b'

@[simp] theorem logs_nil : Logs b [] b' ↔ b = b' := Iff.rfl

@[simp] theorem logs_cons {c : Bool} : Logs b (c :: l) b' ↔ c = !b ∧ Logs c l b' := Iff.rfl

/-- What follows the log of some changes logs the changes from there. -/
theorem logs_append_iff (h : Logs b l b') : Logs b (l ++ l') b'' ↔ Logs b' l' b'' := by
  induction l generalizing b with
  | nil =>
    obtain rfl := logs_nil.mp h
    rfl
  | cons c l ih =>
    obtain ⟨hc, hl⟩ := logs_cons.mp h
    rw [List.cons_append, logs_cons, ih hl]
    exact and_iff_right hc

/-- A list is a log iff it begins with a change, alternates, and ends at the last
position. -/
theorem logs_iff :
    Logs b l b' ↔ (∀ c ∈ l.head?, c = !b) ∧ l.IsChain (· ≠ ·) ∧ l.getLast?.getD b = b' := by
  induction l generalizing b with
  | nil => simp
  | cons c l ih =>
    have hneighbour : (∀ d ∈ l.head?, d = !c) ↔ ∀ d ∈ l.head?, c ≠ d :=
      forall₂_congr fun d _ => by cases c <;> cases d <;> simp
    rw [logs_cons, ih, hneighbour, List.isChain_cons, List.getLast?_cons]
    simp [and_assoc]

/-- What a log ends at tells where it began. -/
theorem Logs.left_unique {c : Bool} (h : Logs b l b') (h' : Logs c l b') : b = c := by
  cases l with
  | nil => exact h.trans h'.symm
  | cons d l => exact Bool.not_inj (h.1.symm.trans h'.1)

/-- A log that has lost an entry does not log the changes any more. -/
theorem Logs.not_erased {c : Bool} (h : Logs b (l ++ c :: l') b') : ¬ Logs b (l ++ l') b' := by
  induction l generalizing b with
  | nil =>
    intro herased
    have hb : b = c := herased.left_unique h.2
    rw [← hb] at h
    cases b <;> cases h.1
  | cons d l ih => exact fun herased => ih h.2 herased.2

end Foundation
