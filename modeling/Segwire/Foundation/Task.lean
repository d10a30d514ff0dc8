/-!
# Interruptible tasks

A task over a shared state is a sequence of *sections*. A section runs without
interruption (it holds the lock it needs), and other parties may act between two
sections. What a section saw of the state decides how the task continues.

`Task.run` executes a task without interruption; `Task.advance` executes its next
section only, which is what an interleaving machine does with it.

## Main definitions

* `Task` — a result, or a section followed by the rest of the task
* `Task.atomic` — one section that reads the state, changes it and answers
* `Task.run`, `Task.advance` — execution to the end, and by one section
* `Task.Keeps` — the sections keep an invariant, and the result satisfies a condition

## Main results

* `Task.run_bind` — running a sequence of two tasks runs one after the other
* `Task.Keeps.bind`, `Task.Keeps.advance` — keeping an invariant, step by step
-/

namespace Foundation

/-- A task: it has ended with a result, or it performs a section and continues
according to the state the section started in. -/
inductive Task (σ ρ : Type)
  | done (result : ρ)
  | act (effect : σ → σ) (next : σ → Task σ ρ)

namespace Task

variable {σ ρ ρ' : Type}

/-- Continue a task with one that depends on its result. -/
def bind : Task σ ρ → (ρ → Task σ ρ') → Task σ ρ'
  | .done result, f => f result
  | .act effect next, f => .act effect fun s => (next s).bind f

instance : Monad (Task σ) where
  pure := .done
  bind := bind

/-- A task of one section, which answers and changes the state. -/
def atomic (body : σ → ρ × σ) : Task σ ρ :=
  .act (fun s => (body s).2) fun s => .done (body s).1

/-- A section that only reads the state. -/
def read (f : σ → ρ) : Task σ ρ := atomic fun s => (f s, s)

/-- The task has a section to perform, and so reads or changes the state. -/
def Accesses (t : Task σ ρ) : Prop := ∃ effect next, t = .act effect next

/-- Execute a task with nothing in between its sections. -/
def run : Task σ ρ → σ → ρ × σ
  | .done result, s => (result, s)
  | .act effect next, s => (next s).run (effect s)

/-- Execute the next section of a task. A task that has ended stays as it is. -/
def advance : Task σ ρ → σ → Task σ ρ × σ
  | .done result, s => (.done result, s)
  | .act effect next, s => (next s, effect s)

@[simp] theorem not_accesses_done (result : ρ) : ¬ (done result : Task σ ρ).Accesses := by
  rintro ⟨effect, next, ⟨⟩⟩

@[simp] theorem pure_eq (result : ρ) : (pure result : Task σ ρ) = .done result := rfl

@[simp] theorem run_done (result : ρ) (s : σ) : (done result : Task σ ρ).run s = (result, s) := rfl

@[simp] theorem run_atomic (body : σ → ρ × σ) (s : σ) : (atomic body).run s = body s := rfl

@[simp] theorem run_read (f : σ → ρ) (s : σ) : (read f).run s = (f s, s) := rfl

@[simp] theorem run_bind (t : Task σ ρ) (f : ρ → Task σ ρ') (s : σ) :
    (t >>= f).run s = (f (t.run s).1).run (t.run s).2 := by
  change (t.bind f).run s = _
  -- the state is generalized: the rest of a task starts where its section ended
  induction t generalizing s with
  | done result => rfl
  | act effect next ih => exact ih s (effect s)

/-! ### What a task keeps

The sections of a task may be interleaved with those of other parties. If all of them
keep an invariant, each section starts in a state that satisfies it. -/

/-- Every section keeps `Inv` and, if every section started in a state that satisfies
`Inv`, the result satisfies `Q`. -/
def Keeps (Inv : σ → Prop) (Q : ρ → Prop) : Task σ ρ → Prop
  | .done result => Q result
  | .act effect next => ∀ s, Inv s → Inv (effect s) ∧ (next s).Keeps Inv Q

section Keeps

variable {Inv : σ → Prop} {Q : ρ → Prop} {Q' : ρ' → Prop}

theorem keeps_done {result : ρ} (h : Q result) : (done result : Task σ ρ).Keeps Inv Q := h

theorem keeps_atomic {body : σ → ρ × σ} (h : ∀ s, Inv s → Inv (body s).2 ∧ Q (body s).1) :
    (atomic body).Keeps Inv Q := h

theorem keeps_read {f : σ → ρ} (h : ∀ s, Inv s → Q (f s)) : (read f).Keeps Inv Q :=
  keeps_atomic fun s hs => ⟨hs, h s hs⟩

theorem Keeps.bind {t : Task σ ρ} {f : ρ → Task σ ρ'} (ht : t.Keeps Inv Q)
    (hf : ∀ result, Q result → (f result).Keeps Inv Q') : (t >>= f).Keeps Inv Q' := by
  change (t.bind f).Keeps Inv Q'
  induction t with
  | done result => exact hf result ht
  | act effect next ih => exact fun s hs => ⟨(ht s hs).1, ih s (ht s hs).2⟩

/-- The next section keeps the invariant, and the rest of the task keeps it too. -/
theorem Keeps.advance {t : Task σ ρ} (ht : t.Keeps Inv Q) {s : σ} (hs : Inv s) :
    Inv (t.advance s).2 ∧ (t.advance s).1.Keeps Inv Q := by
  cases t with
  | done result => exact ⟨hs, ht⟩
  | act effect next => exact ht s hs

end Keeps

end Task

end Foundation
