import Mathlib.Order.Nat
import Mathlib.Tactic.Push
import Segwire.Foundation.Except

/-!
# Iterated steps that can fail

A step is a function `α → Except ε α`. Some states are finished, and a step leaves these
as they are. A bounded loop takes steps until the state is finished and does something else
in the state that the last of the allowed steps leads to.

## Main definitions

* `iterate` — a number of steps
* `StillRunning`, `FinishesAfter` — when the first finished state is reached
* `boundedLoop` — steps until the state is finished

## Main results

* `stillRunning_or_finishesAfter` — the two cases of a bounded loop
* `boundedLoop_of_stillRunning`, `boundedLoop_of_finishesAfter` — its outcomes
-/

namespace Foundation

open Foundation.Except

variable {ε α : Type} {step : α → Except ε α} {Done : α → Prop}

/-- A number of steps, one after the other. -/
def iterate (step : α → Except ε α) : Nat → α → Except ε α
  | 0, x => .ok x
  | n + 1, x => step x >>= iterate step n

theorem iterate_add (m n : Nat) (x : α) :
    iterate step (m + n) x = (iterate step m x >>= iterate step n) := by
  induction m generalizing x with
  | zero =>
    rw [Nat.zero_add]
    rfl
  | succ m ih =>
    rw [Nat.succ_add, iterate, iterate, bind_assoc]
    exact congrArg _ (funext ih)

/-- The last step comes after the others. -/
theorem iterate_succ (n : Nat) (x : α) : iterate step (n + 1) x = (iterate step n x >>= step) := by
  have hone : iterate step 1 = step := by
    funext y
    exact bind_pure (step y)
  rw [iterate_add, hone]

/-- Steps that fail have a first one that does. -/
theorem exists_of_iterate_eq_error {n : Nat} {x : α} {e : ε} (h : iterate step n x = .error e) :
    ∃ m < n, ∃ y, iterate step m x = .ok y ∧ step y = .error e := by
  induction n with
  | zero => cases h
  | succ n ih =>
    rw [iterate_succ] at h
    cases hbefore : iterate step n x with
    | error e' =>
      rw [hbefore] at h
      obtain rfl := Except.error.inj h
      obtain ⟨m, hm, y, hy⟩ := ih hbefore
      exact ⟨m, by omega, y, hy⟩
    | ok y =>
      rw [hbefore] at h
      exact ⟨n, Nat.lt_succ_self n, y, hbefore, h⟩

/-- None of the first `n` states is finished, the one after no step being the first. -/
def StillRunning (step : α → Except ε α) (Done : α → Prop) (n : Nat) (x : α) : Prop :=
  ∀ m < n, ∀ y, iterate step m x = .ok y → ¬ Done y

/-- After `n` steps a state is finished for the first time. -/
structure FinishesAfter (step : α → Except ε α) (Done : α → Prop) (n : Nat) (x y : α) : Prop where
  reached : iterate step n x = .ok y
  done : Done y
  running : StillRunning step Done n x

theorem stillRunning_succ_iff {n : Nat} {x : α} :
    StillRunning step Done (n + 1) x ↔
      StillRunning step Done n x ∧ ∀ y, iterate step n x = .ok y → ¬ Done y := by
  constructor
  · intro h
    exact ⟨fun m hm => h m (by omega), h n (by omega)⟩
  · rintro ⟨hbefore, hlast⟩ m hm
    rcases Nat.lt_succ_iff_lt_or_eq.mp hm with hm | rfl
    · exact hbefore m hm
    · exact hlast

/-- Either none of the first states is finished, or one of them is the first that is. -/
theorem stillRunning_or_finishesAfter (step : α → Except ε α) (Done : α → Prop) (n : Nat) (x : α) :
    StillRunning step Done n x ∨ ∃ k < n, ∃ y, FinishesAfter step Done k x y := by
  induction n with
  | zero => exact .inl fun m hm => absurd hm (Nat.not_lt_zero m)
  | succ n ih =>
    rcases ih with hrunning | ⟨k, hk, y, hfinish⟩
    · by_cases hlast : ∀ y, iterate step n x = .ok y → ¬ Done y
      · exact .inl (stillRunning_succ_iff.mpr ⟨hrunning, hlast⟩)
      · push Not at hlast
        obtain ⟨y, hy, hdone⟩ := hlast
        exact .inr ⟨n, Nat.lt_succ_self n, y, hy, hdone, hrunning⟩
    · exact .inr ⟨k, by omega, y, hfinish⟩

/-- Further steps leave the first finished state as it is. -/
theorem FinishesAfter.iterate_of_le (hfixed : ∀ x, Done x → step x = .ok x) {k n : Nat} {x y : α}
    (h : FinishesAfter step Done k x y) (hle : k ≤ n) : iterate step n x = .ok y := by
  induction hle with
  | refl => exact h.reached
  | step _ ih =>
    rw [Nat.succ_eq_add_one, iterate_succ, ih]
    exact hfixed y h.done

/-- A finished state that is reached is the first one. -/
theorem finishesAfter_of_reached (hfixed : ∀ x, Done x → step x = .ok x) {n : Nat} {x y : α}
    (hreached : iterate step n x = .ok y) (hdone : Done y) :
    ∃ k ≤ n, FinishesAfter step Done k x y := by
  rcases stillRunning_or_finishesAfter step Done n x with hrunning | ⟨k, hk, z, hfinish⟩
  · exact ⟨n, le_rfl, hreached, hdone, hrunning⟩
  · have hsame := hfinish.iterate_of_le hfixed hk.le
    rw [hreached] at hsame
    obtain rfl := Except.ok.inj hsame
    exact ⟨k, hk.le, hfinish⟩

/-- The first finished state is reached after one number of steps. -/
theorem FinishesAfter.unique {k n : Nat} {x y z : α} (h : FinishesAfter step Done k x y)
    (h' : FinishesAfter step Done n x z) : k = n := by
  apply le_antisymm
  · exact not_lt.mp fun hlt => h.running n hlt z h'.reached h'.done
  · exact not_lt.mp fun hlt => h'.running k hlt y h.reached h.done

/-- What is not finished takes a step, and the rest runs from there. -/
theorem StillRunning.of_step {n : Nat} {x y : α} (h : StillRunning step Done (n + 1) x)
    (hstep : step x = .ok y) : StillRunning step Done n y := by
  intro m hm z hz
  apply h (m + 1) (by omega)
  rw [iterate, hstep]
  exact hz

/-- Steps until the state is finished, at most `n` of them. -/
def boundedLoop (step : α → Except ε α) (Done : α → Prop) [DecidablePred Done]
    (last : α → Except ε α) : Nat → α → Except ε α
  | 0, x => last x
  | n + 1, x => if Done x then .ok x else step x >>= boundedLoop step Done last n

variable [DecidablePred Done] {last : α → Except ε α}

theorem boundedLoop_of_stillRunning {n : Nat} {x : α} (h : StillRunning step Done n x) :
    boundedLoop step Done last n x = (iterate step n x >>= last) := by
  induction n generalizing x with
  | zero => rfl
  | succ n ih =>
    have hrunning : ¬ Done x := h 0 (by omega) x rfl
    rw [boundedLoop, if_neg hrunning, iterate, bind_assoc]
    cases hstep : step x with
    | error e => rfl
    | ok y => exact ih (h.of_step hstep)

theorem boundedLoop_of_finishesAfter {k n : Nat} {x y : α} (h : FinishesAfter step Done k x y)
    (hlt : k < n) : boundedLoop step Done last n x = .ok y := by
  induction n generalizing k x with
  | zero => exact absurd hlt (Nat.not_lt_zero k)
  | succ n ih =>
    cases k with
    | zero =>
      obtain rfl := Except.ok.inj h.reached
      rw [boundedLoop, if_pos h.done]
    | succ k =>
      have hrunning : ¬ Done x := h.running 0 (by omega) x rfl
      obtain ⟨z, hstep, hrest⟩ := bind_eq_ok_iff.mp h.reached
      rw [boundedLoop, if_neg hrunning, hstep]
      exact ih ⟨hrest, h.done, h.running.of_step hstep⟩ (by omega)

end Foundation
