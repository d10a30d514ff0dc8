import Mathlib.Data.List.Basic

/-!
# Runs of a labelled machine

A machine is a step function `σ → ι → σ` on states and inputs; everything that is
not determined by the state (an interleaving, a clock, a fault) is part of the
input. A run is a list of inputs, so a statement about every run is a statement
about every list.

## Main definitions

* `run` — the state after a list of inputs
* `AlongRun` — every step of a run satisfies a property of its state and input
* `answers`, `exchanges` — what a machine that answers its inputs answers along a run

## Main results

* `run_invariant` — what a step preserves holds after every run
* `alongRun_iff_forall_split` — a property along a run is a property of each split
* `alongRun_congr` — properties that agree under an invariant agree along runs
* `forall_reached_iff_alongRun` — an invariant that exactly the steps with a property keep
* `answers_eq_of_simulation` — related machines give the same answers
-/

namespace Foundation

variable {σ ι : Type*}

/-- The state reached from `s` by a list of inputs. -/
def run (step : σ → ι → σ) (s : σ) (inputs : List ι) : σ := inputs.foldl step s

variable {step : σ → ι → σ} {P Q : σ → ι → Prop}

/-- What every step preserves holds after every run. -/
theorem run_invariant (Inv : σ → Prop) (hstep : ∀ s i, Inv s → Inv (step s i)) {s : σ} (hs : Inv s)
    (inputs : List ι) : Inv (run step s inputs) := by
  induction inputs generalizing s with
  | nil => exact hs
  | cons i inputs ih => exact ih (hstep s i hs)

/-- Every step of the run from `s` satisfies `P` in the state it is taken in. -/
def AlongRun (step : σ → ι → σ) (P : σ → ι → Prop) : σ → List ι → Prop
  | _, [] => True
  | s, i :: inputs => P s i ∧ AlongRun step P (step s i) inputs

theorem alongRun_iff_forall_split {s : σ} {inputs : List ι} :
    AlongRun step P s inputs ↔
      ∀ earlier i later, inputs = earlier ++ i :: later → P (run step s earlier) i := by
  induction inputs generalizing s with
  | nil => simp [AlongRun]
  | cons j inputs ih =>
    rw [AlongRun, ih]
    constructor
    · rintro ⟨hhead, htail⟩ earlier i later hsplit
      cases earlier with
      | nil =>
        obtain ⟨rfl, rfl⟩ := List.cons.inj hsplit
        exact hhead
      | cons k earlier =>
        obtain ⟨rfl, rfl⟩ := List.cons.inj hsplit
        exact htail earlier i later rfl
    · intro h
      refine ⟨h [] j inputs rfl, fun earlier i later hsplit => ?_⟩
      exact h (j :: earlier) i later (by rw [hsplit]; rfl)

/-- What holds along a run holds along its beginning. -/
theorem AlongRun.left {s : σ} {earlier later : List ι}
    (h : AlongRun step P s (earlier ++ later)) : AlongRun step P s earlier := by
  induction earlier generalizing s with
  | nil => trivial
  | cons i earlier ih => exact ⟨h.1, ih h.2⟩

/-- Two properties that agree wherever an invariant holds agree along every run
that starts inside the invariant. -/
theorem alongRun_congr (Inv : σ → Prop) (hstep : ∀ s i, Inv s → Inv (step s i))
    (hiff : ∀ s i, Inv s → (P s i ↔ Q s i)) {s : σ} (hs : Inv s) (inputs : List ι) :
    AlongRun step P s inputs ↔ AlongRun step Q s inputs := by
  induction inputs generalizing s with
  | nil => exact Iff.rfl
  | cons i inputs ih => exact and_congr (hiff s i hs) (ih (hstep s i hs))

/-- An invariant that a step keeps whenever `P` holds of it is kept by a run along
which `P` holds. -/
theorem AlongRun.invariant (Inv : σ → Prop) (hstep : ∀ s i, Inv s → P s i → Inv (step s i))
    {s : σ} (hs : Inv s)
    {inputs : List ι} (h : AlongRun step P s inputs) : Inv (run step s inputs) := by
  induction inputs generalizing s with
  | nil => exact hs
  | cons i inputs ih => exact ih (hstep s i hs h.1) h.2

/-- If exactly the steps with `P` keep an invariant, a run never leaves it iff all of its
steps satisfy `P`. -/
theorem forall_reached_iff_alongRun (Inv : σ → Prop)
    (hstep : ∀ s i, Inv s → (Inv (step s i) ↔ P s i)) {s : σ} (hs : Inv s) {inputs : List ι} :
    (∀ earlier later, inputs = earlier ++ later → Inv (run step s earlier)) ↔
      AlongRun step P s inputs := by
  constructor
  · intro h
    rw [alongRun_iff_forall_split]
    intro earlier i later hsplit
    have hbefore := h earlier (i :: later) hsplit
    have hafter := h (earlier ++ [i]) later (by rw [hsplit, List.append_assoc]; rfl)
    rw [run, List.foldl_append] at hafter
    exact (hstep _ i hbefore).mp hafter
  · rintro h earlier later rfl
    exact h.left.invariant Inv (fun s i hs hi => (hstep s i hs).mpr hi) hs

/-! ### Machines that answer -/

section Answers

variable {τ ο : Type*}

/-- The answers to a list of inputs. -/
def answers (step : σ → ι → ο × σ) : σ → List ι → List ο
  | _, [] => []
  | s, i :: inputs => (step s i).1 :: answers step (step s i).2 inputs

/-- The inputs of a run with their answers. -/
def exchanges (step : σ → ι → ο × σ) : σ → List ι → List (ι × ο)
  | _, [] => []
  | s, i :: inputs => (i, (step s i).1) :: exchanges step (step s i).2 inputs

theorem map_fst_exchanges (step : σ → ι → ο × σ) (s : σ) (inputs : List ι) :
    (exchanges step s inputs).map Prod.fst = inputs := by
  induction inputs generalizing s with
  | nil => rfl
  | cons i inputs ih => rw [exchanges, List.map_cons, ih]

/-- An answer is given to its input in the state that the earlier inputs lead to. -/
theorem exists_of_mem_exchanges {step : σ → ι → ο × σ} {s : σ} {inputs : List ι}
    {exchange : ι × ο} (h : exchange ∈ exchanges step s inputs) :
    ∃ earlier later, inputs = earlier ++ exchange.1 :: later ∧
      exchange.2 = (step (run (fun s i => (step s i).2) s earlier) exchange.1).1 := by
  induction inputs generalizing s with
  | nil => cases h
  | cons i inputs ih =>
    rw [exchanges, List.mem_cons] at h
    rcases h with rfl | h
    · exact ⟨[], inputs, rfl, rfl⟩
    · obtain ⟨earlier, later, hsplit, hanswer⟩ := ih h
      exact ⟨i :: earlier, later, by rw [hsplit]; rfl, hanswer⟩

/-- A machine whose answers are decided by the inputs. -/
theorem exchanges_eq_map {step : σ → ι → ο × σ} {s : σ} {inputs : List ι} {f : ι → ο}
    (h : ∀ exchange ∈ exchanges step s inputs, exchange.2 = f exchange.1) :
    exchanges step s inputs = inputs.map fun i => (i, f i) := by
  calc exchanges step s inputs
      = (exchanges step s inputs).map fun exchange => (exchange.1, f exchange.1) := by
        refine (List.map_id _).symm.trans (List.map_congr_left fun exchange hmem => ?_)
        exact Prod.ext rfl (h exchange hmem)
    _ = ((exchanges step s inputs).map Prod.fst).map fun i => (i, f i) := by
        rw [List.map_map]
        rfl
    _ = inputs.map fun i => (i, f i) := by rw [map_fst_exchanges]

/-- Machines that give the same answer wherever a relation holds, and keep the relation,
give the same answers to every list of inputs. -/
theorem answers_eq_of_simulation {step : σ → ι → ο × σ} {step' : τ → ι → ο × τ}
    (R : σ → τ → Prop)
    (hstep : ∀ s t i, R s t → (step s i).1 = (step' t i).1 ∧ R (step s i).2 (step' t i).2)
    {s : σ} {t : τ} (h : R s t) (inputs : List ι) :
    answers step s inputs = answers step' t inputs := by
  induction inputs generalizing s t with
  | nil => rfl
  | cons i inputs ih =>
    obtain ⟨hanswer, hnext⟩ := hstep s t i h
    rw [answers, answers, hanswer, ih hnext]

end Answers

end Foundation
