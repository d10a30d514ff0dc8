import Mathlib.Data.List.Count
import Mathlib.Logic.Function.Basic
import Segwire.Foundation.Run
import Segwire.Foundation.Task

/-!
# Threads that keep to themselves

A pool of tasks shares one state and is scheduled in any order, one section at a time. Each
thread has a view, the part of the state that belongs to it. If the sections of every thread
leave the views of the others alone, then no schedule makes a difference to what a thread may
rely on: it ends as it would alone.

## Main definitions

* `Task.Owns` — a task that touches no other view, and how it ends
* `Task.Within` — a task of a bounded number of sections
* `ThreadPool`, `ThreadPool.advance` — threads over a state, and one step of the scheduler

## Main results

* `ThreadPool.Owned.run` — in every schedule each thread keeps to itself
* `ThreadPool.ended_of_count` — a thread that is scheduled often enough has ended
-/

namespace Foundation

namespace Task

variable {σ ι γ ρ ρ' : Type} {view : ι → σ → γ} {Inv : σ → Prop} {i : ι}

/-- From a state with the invariant in which the view of `i` is `c`, every section keeps the
invariant and the other views, and the task ends with a result and a view that satisfy `Q`. The
invariant may say of other parts of the state what nobody changes. -/
def Owns (view : ι → σ → γ) (Inv : σ → Prop) (i : ι) : Task σ ρ → γ → (ρ → γ → Prop) → Prop
  | .done result, c, Q => Q result c
  | .act effect next, c, Q => ∀ s, Inv s → view i s = c →
      Inv (effect s) ∧ (∀ j, j ≠ i → view j (effect s) = view j s) ∧
        (next s).Owns view Inv i (view i (effect s)) Q

section Owns

variable {t : Task σ ρ} {f : ρ → Task σ ρ'} {c : γ} {Q : ρ → γ → Prop} {Q' : ρ' → γ → Prop}

theorem owns_done {result : ρ} (h : Q result c) : (done result : Task σ ρ).Owns view Inv i c Q := h

theorem owns_atomic {body : σ → ρ × σ}
    (h : ∀ s, Inv s → view i s = c → Inv (body s).2 ∧
      (∀ j, j ≠ i → view j (body s).2 = view j s) ∧ Q (body s).1 (view i (body s).2)) :
    (atomic body).Owns view Inv i c Q := h

theorem Owns.mono {Q' : ρ → γ → Prop} (h : t.Owns view Inv i c Q)
    (himp : ∀ result c', Q result c' → Q' result c') : t.Owns view Inv i c Q' := by
  induction t generalizing c with
  | done result => exact himp _ _ h
  | act effect next ih =>
    intro s hs hview
    obtain ⟨hinv, hothers, hnext⟩ := h s hs hview
    exact ⟨hinv, hothers, ih s hnext⟩

theorem Owns.bind (h : t.Owns view Inv i c Q)
    (hf : ∀ result c', Q result c' → (f result).Owns view Inv i c' Q') :
    (t >>= f).Owns view Inv i c Q' := by
  change (t.bind f).Owns view Inv i c Q'
  induction t generalizing c with
  | done result => exact hf _ _ h
  | act effect next ih =>
    intro s hs hview
    obtain ⟨hinv, hothers, hnext⟩ := h s hs hview
    exact ⟨hinv, hothers, ih s hnext⟩

/-- The next section keeps the invariant and the other views, and the rest of the task does so
too. -/
theorem Owns.advance {s : σ} (hs : Inv s) (h : t.Owns view Inv i (view i s) Q) :
    Inv (t.advance s).2 ∧ (∀ j, j ≠ i → view j (t.advance s).2 = view j s) ∧
      (t.advance s).1.Owns view Inv i (view i (t.advance s).2) Q := by
  cases t with
  | done result => exact ⟨hs, fun _ _ => rfl, h⟩
  | act effect next => exact h s hs rfl

end Owns

/-- The task ends after at most `n` sections. -/
def Within : Nat → Task σ ρ → Prop
  | _, .done _ => True
  | 0, .act _ _ => False
  | n + 1, .act _ next => ∀ s, (next s).Within n

section Within

variable {t : Task σ ρ} {f : ρ → Task σ ρ'} {m n : Nat}

@[simp] theorem within_done (n : Nat) (result : ρ) : (done result : Task σ ρ).Within n := by
  cases n <;> trivial

theorem within_atomic (body : σ → ρ × σ) : (atomic body).Within 1 := fun _ => trivial

theorem Within.advance (h : t.Within (n + 1)) (s : σ) : (t.advance s).1.Within n := by
  cases t with
  | done result => exact within_done n result
  | act effect next => exact h s

theorem within_zero_iff : t.Within 0 ↔ ∃ result, t = .done result := by
  cases t with
  | done result => simp
  | act effect next => simp [Within]

theorem Within.mono (h : t.Within m) (hle : m ≤ n) : t.Within n := by
  induction t generalizing m n with
  | done result => exact within_done n result
  | act effect next ih =>
    cases m with
    | zero => exact h.elim
    | succ m =>
      obtain ⟨n, rfl⟩ := Nat.exists_eq_add_of_le' (Nat.lt_of_lt_of_le (Nat.succ_pos m) hle)
      exact fun s => ih s (h s) (Nat.le_of_succ_le_succ hle)

theorem Within.bind (h : t.Within m) (hf : ∀ result, (f result).Within n) :
    (t >>= f).Within (m + n) := by
  change (t.bind f).Within (m + n)
  induction t generalizing m with
  | done result => exact (hf result).mono (Nat.le_add_left n m)
  | act effect next ih =>
    cases m with
    | zero => exact h.elim
    | succ m =>
      rw [Nat.succ_add]
      exact fun s => ih s (h s)

end Within

end Task

/-! ### Pools -/

/-- Threads over a shared state, each with a task of its own result type. -/
structure ThreadPool (ι σ : Type) (ρ : ι → Type) where
  tasks : ∀ i, Task σ (ρ i)
  state : σ

namespace ThreadPool

variable {ι σ γ : Type} {ρ : ι → Type} [DecidableEq ι]

/-- Schedule the thread `i` for one section. -/
def advance (pool : ThreadPool ι σ ρ) (i : ι) : ThreadPool ι σ ρ where
  tasks := Function.update pool.tasks i ((pool.tasks i).advance pool.state).1
  state := ((pool.tasks i).advance pool.state).2

@[simp] theorem tasks_advance_self (pool : ThreadPool ι σ ρ) (i : ι) :
    (pool.advance i).tasks i = ((pool.tasks i).advance pool.state).1 := Function.update_self ..

theorem tasks_advance_of_ne (pool : ThreadPool ι σ ρ) {i j : ι} (h : j ≠ i) :
    (pool.advance i).tasks j = pool.tasks j := Function.update_of_ne h ..

/-- The state has the invariant, and each thread keeps to its view. -/
structure Owned (view : ι → σ → γ) (Inv : σ → Prop) (Q : ∀ i, ρ i → γ → Prop)
    (pool : ThreadPool ι σ ρ) : Prop where
  inv : Inv pool.state
  owns : ∀ i, (pool.tasks i).Owns view Inv i (view i pool.state) (Q i)

variable {view : ι → σ → γ} {Inv : σ → Prop} {Q : ∀ i, ρ i → γ → Prop} {pool : ThreadPool ι σ ρ}

theorem Owned.advance (h : pool.Owned view Inv Q) (i : ι) :
    (pool.advance i).Owned view Inv Q := by
  obtain ⟨hinv, hothers, howns⟩ := (h.owns i).advance h.inv
  refine ⟨hinv, fun j => ?_⟩
  by_cases hj : j = i
  · subst hj
    rw [tasks_advance_self]
    exact howns
  · rw [tasks_advance_of_ne pool hj]
    exact (hothers j hj).symm ▸ h.owns j

/-- In every schedule each thread keeps to its view. -/
theorem Owned.run (h : pool.Owned view Inv Q) (schedule : List ι) :
    (Foundation.run ThreadPool.advance pool schedule).Owned view Inv Q :=
  run_invariant (Owned view Inv Q) (fun _ i h => h.advance i) h schedule

omit [DecidableEq ι] in
/-- How a thread has ended does not depend on the schedule. -/
theorem Owned.ended (h : pool.Owned view Inv Q) {i : ι} {result : ρ i}
    (hended : pool.tasks i = .done result) : Q i result (view i pool.state) := by
  have howns := h.owns i
  rw [hended] at howns
  exact howns

/-- The view of a thread that is not scheduled does not change. -/
theorem Owned.view_run (h : pool.Owned view Inv Q) {i : ι} {schedule : List ι}
    (hi : i ∉ schedule) :
    view i (Foundation.run ThreadPool.advance pool schedule).state = view i pool.state := by
  induction schedule generalizing pool with
  | nil => rfl
  | cons j schedule ih =>
    rw [List.mem_cons, not_or] at hi
    obtain ⟨-, hothers, -⟩ := (h.owns j).advance h.inv
    exact (ih (h.advance j) hi.2).trans (hothers i hi.1)

/-- A thread that has ended stays as it is. -/
theorem done_run {i : ι} {result : ρ i} (h : pool.tasks i = .done result) (schedule : List ι) :
    (run advance pool schedule).tasks i = .done result := by
  refine run_invariant (fun pool : ThreadPool ι σ ρ => pool.tasks i = .done result)
    (fun pool j hdone => ?_) h schedule
  by_cases hj : j = i
  · subst hj
    rw [tasks_advance_self, hdone]
    rfl
  · rw [tasks_advance_of_ne pool (Ne.symm hj)]
    exact hdone

/-- A thread that is scheduled as often as it has sections has ended. -/
theorem ended_of_count {i : ι} {n : Nat} (h : (pool.tasks i).Within n) {schedule : List ι}
    (hcount : n ≤ schedule.count i) :
    ∃ result, (run advance pool schedule).tasks i = .done result := by
  induction schedule generalizing pool n with
  | nil =>
    rw [List.count_nil, Nat.le_zero] at hcount
    exact Task.within_zero_iff.mp (hcount ▸ h)
  | cons j schedule ih =>
    by_cases hj : j = i
    · subst hj
      rw [List.count_cons_self] at hcount
      refine ih (n := n - 1) ?_ (by omega)
      rw [tasks_advance_self]
      exact (h.mono (by omega : n ≤ n - 1 + 1)).advance pool.state
    · rw [List.count_cons_of_ne hj] at hcount
      refine ih ?_ hcount
      rw [tasks_advance_of_ne pool (Ne.symm hj)]
      exact h

end ThreadPool

end Foundation
