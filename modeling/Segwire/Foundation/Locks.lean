import Mathlib.Data.Set.BooleanAlgebra
import Mathlib.Data.Set.Insert
import Mathlib.Logic.Function.Basic
import Mathlib.Logic.Relation
import Segwire.Foundation.Run
import Segwire.Foundation.Task

/-!
# Threads that take locks

A thread acquires and releases locks and acts on a shared state in between. What it does next
depends on the state and on what the environment answers; the scheduler is free. If every thread
takes its locks in one order, the threads never wait for each other in a circle.

A thread has *control points*: between two of them its code is a finite tree, and a thread that
runs forever passes them again and again.

## Main definitions

* `LockedTask` — the code of a thread up to its next control point
* `LockSystem`, `LockPool` — what follows a control point, and the threads with their locks
* `LockedTask.Ordered` — locks are taken in ascending order and given back by their holder
* `LockedTask.Balanced` — and all of them are given back
* `LockedTask.Guarantees`, `LockedTask.Leads` — what the actions do, and where they lead
* `LockedTask.Follows` — the actions are steps of another machine

## Main results

* `LockSystem.disciplined_step` — every move keeps the order of the locks
* `LockSystem.exists_isSome_step` — ordered threads do not deadlock
-/

namespace Foundation

/-- The code of a thread up to its next control point. An action is told what the environment
answers. -/
inductive LockedTask (α : Type*) (ℓ σ ρ : Type)
  | done (point : ρ)
  | acquire (lock : ℓ) (next : LockedTask α ℓ σ ρ)
  | release (lock : ℓ) (next : LockedTask α ℓ σ ρ)
  | act (effect : α → σ → σ) (next : α → σ → LockedTask α ℓ σ ρ)

namespace LockedTask

variable {α : Type*} {ℓ σ ρ ρ' : Type}

/-- Continue with code that depends on the result. -/
def bind : LockedTask α ℓ σ ρ → (ρ → LockedTask α ℓ σ ρ') → LockedTask α ℓ σ ρ'
  | .done point, f => f point
  | .acquire lock next, f => .acquire lock (next.bind f)
  | .release lock next, f => .release lock (next.bind f)
  | .act effect next, f => .act effect fun a s => (next a s).bind f

instance : Monad (LockedTask α ℓ σ) where
  pure := .done
  bind := bind

/-- One action. -/
def atomic (body : α → σ → ρ × σ) : LockedTask α ℓ σ ρ :=
  .act (fun a s => (body a s).2) fun a s => .done (body a s).1

/-- An action that only looks. -/
def read (f : α → σ → ρ) : LockedTask α ℓ σ ρ := atomic fun a s => (f a s, s)

/-- Hold a lock for as long as the code runs. -/
def locked (lock : ℓ) (t : LockedTask α ℓ σ ρ) : LockedTask α ℓ σ ρ :=
  .acquire lock (t >>= fun result => .release lock (.done result))

/-- The code on a part of the state, with a part of what the environment answers. -/
def zoom {β : Type*} {υ : Type} (answer : β → α) (get : υ → σ) (set : σ → υ → υ) :
    LockedTask α ℓ σ ρ → LockedTask β ℓ υ ρ
  | .done point => .done point
  | .acquire lock next => .acquire lock (next.zoom answer get set)
  | .release lock next => .release lock (next.zoom answer get set)
  | .act effect next =>
    .act (fun b u => set (effect (answer b) (get u)) u)
      fun b u => (next (answer b) (get u)).zoom answer get set

/-- The code without its locks, where the environment has one answer. -/
def erase (a : α) : LockedTask α ℓ σ ρ → Task σ ρ
  | .done point => .done point
  | .acquire _ next | .release _ next => next.erase a
  | .act effect next => .act (effect a) fun s => (next a s).erase a

variable {a : α} {lock : ℓ}

@[simp] theorem pure_eq (point : ρ) : (pure point : LockedTask α ℓ σ ρ) = .done point := rfl

theorem erase_bind (t : LockedTask α ℓ σ ρ) (f : ρ → LockedTask α ℓ σ ρ') :
    (t >>= f).erase a = t.erase a >>= fun result => (f result).erase a := by
  change (t.bind f).erase a = (t.erase a).bind _
  induction t with
  | done point => rfl
  | acquire lock next ih => exact ih
  | release lock next ih => exact ih
  | act effect next ih => exact congrArg (Task.act _) (funext fun s => ih a s)

theorem erase_bind_eq {t : LockedTask α ℓ σ ρ} {u : Task σ ρ} {f : ρ → LockedTask α ℓ σ ρ'}
    {g : ρ → Task σ ρ'} (ht : t.erase a = u) (hf : ∀ result, (f result).erase a = g result) :
    (t >>= f).erase a = u >>= g := by
  rw [erase_bind, ht, funext hf]

@[simp] theorem erase_locked (t : LockedTask α ℓ σ ρ) : (locked lock t).erase a = t.erase a := by
  have hend : ∀ u : Task σ ρ, u.bind .done = u := by
    intro u
    induction u with
    | done result => rfl
    | act effect next ih => exact congrArg (Task.act effect) (funext ih)
  exact (erase_bind t _).trans (hend _)

/-! ### The order of locks -/

section Ordered

variable [Preorder ℓ] {Q : ρ → Set ℓ → Prop} {held : Set ℓ}

/-- A thread that holds some locks takes only locks that are above all of them, gives back what
it holds, and comes to its next control point with what `Q` tells. -/
def Ordered (Q : ρ → Set ℓ → Prop) : LockedTask α ℓ σ ρ → Set ℓ → Prop
  | .done point, held => Q point held
  | .acquire lock next, held => (∀ h ∈ held, h < lock) ∧ next.Ordered Q (insert lock held)
  | .release lock next, held => lock ∈ held ∧ next.Ordered Q (held \ {lock})
  | .act _ next, held => ∀ a s, (next a s).Ordered Q held

theorem Ordered.bind {Q' : ρ' → Set ℓ → Prop} {t : LockedTask α ℓ σ ρ}
    {f : ρ → LockedTask α ℓ σ ρ'} (h : t.Ordered Q held)
    (hf : ∀ point held, Q point held → (f point).Ordered Q' held) :
    (t >>= f).Ordered Q' held := by
  change (t.bind f).Ordered Q' held
  induction t generalizing held with
  | done point => exact hf point held h
  | acquire lock next ih => exact ⟨h.1, ih h.2⟩
  | release lock next ih => exact ⟨h.1, ih h.2⟩
  | act effect next ih => exact fun a s => ih a s (h a s)

theorem Ordered.mono {Q' : ρ → Set ℓ → Prop} {t : LockedTask α ℓ σ ρ} (h : t.Ordered Q held)
    (himp : ∀ point held, Q point held → Q' point held) : t.Ordered Q' held := by
  induction t generalizing held with
  | done point => exact himp point held h
  | acquire lock next ih => exact ⟨h.1, ih h.2⟩
  | release lock next ih => exact ⟨h.1, ih h.2⟩
  | act effect next ih => exact fun a s => ih a s (h a s)

/-- A lock that is given back leaves what was held before. -/
theorem insert_sdiff_of_lt (hlt : ∀ h ∈ held, h < lock) : insert lock held \ {lock} = held :=
  Set.insert_sdiff_self_of_notMem fun hmem => lt_irrefl lock (hlt lock hmem)

theorem ordered_locked {t : LockedTask α ℓ σ ρ} (hlt : ∀ h ∈ held, h < lock)
    (h : t.Ordered (fun result held' => held' = insert lock held ∧ Q result held)
      (insert lock held)) : (locked lock t).Ordered Q held := by
  refine ⟨hlt, h.bind ?_⟩
  rintro result _ ⟨rfl, hresult⟩
  refine ⟨Set.mem_insert lock held, ?_⟩
  rw [insert_sdiff_of_lt hlt]
  exact hresult

theorem Ordered.zoom {β : Type*} {υ : Type} {t : LockedTask α ℓ σ ρ} (h : t.Ordered Q held)
    (answer : β → α) (get : υ → σ) (set : σ → υ → υ) :
    (t.zoom answer get set).Ordered Q held := by
  induction t generalizing held with
  | done point => exact h
  | acquire lock next ih => exact ⟨h.1, ih h.2⟩
  | release lock next ih => exact ⟨h.1, ih h.2⟩
  | act effect next ih => exact fun b u => ih _ _ (h _ _)

/-- Locks are taken in ascending order, above what is held, and all of them are given back. -/
def Balanced (held : Set ℓ) (t : LockedTask α ℓ σ ρ) : Prop :=
  t.Ordered (fun _ held' => held' = held) held

theorem balanced_pure (result : ρ) : (pure result : LockedTask α ℓ σ ρ).Balanced held := rfl

theorem balanced_atomic (body : α → σ → ρ × σ) :
    (atomic body : LockedTask α ℓ σ ρ).Balanced held := fun _ _ => rfl

/-- Code that gives all of its locks back, before other code. -/
theorem Balanced.bind_ordered {Q' : ρ' → Set ℓ → Prop} {t : LockedTask α ℓ σ ρ}
    {f : ρ → LockedTask α ℓ σ ρ'} (h : t.Balanced held)
    (hf : ∀ result, (f result).Ordered Q' held) : (t >>= f).Ordered Q' held := by
  refine Ordered.bind h ?_
  rintro result _ rfl
  exact hf result

theorem Balanced.bind {t : LockedTask α ℓ σ ρ} {f : ρ → LockedTask α ℓ σ ρ'}
    (h : t.Balanced held) (hf : ∀ result, (f result).Balanced held) : (t >>= f).Balanced held :=
  h.bind_ordered hf

theorem Balanced.locked {t : LockedTask α ℓ σ ρ} (h : t.Balanced (insert lock held))
    (hlt : ∀ h ∈ held, h < lock) : (locked lock t).Balanced held := by
  refine ordered_locked hlt (Ordered.mono h ?_)
  rintro _ _ rfl
  exact ⟨rfl, rfl⟩

theorem Balanced.zoom {β : Type*} {υ : Type} {t : LockedTask α ℓ σ ρ} (h : t.Balanced held)
    (answer : β → α) (get : υ → σ) (set : σ → υ → υ) :
    (t.zoom answer get set).Balanced held :=
  Ordered.zoom h answer get set

end Ordered

/-! ### What the actions do -/

/-- Every action changes the state within a relation. -/
def Guarantees (R : σ → σ → Prop) : LockedTask α ℓ σ ρ → Prop
  | .done _ => True
  | .acquire _ next | .release _ next => next.Guarantees R
  | .act effect next => ∀ a s, R s (effect a s) ∧ (next a s).Guarantees R

/-- While the state satisfies `Inv`, the code leads to a control point with `P`. -/
def Leads (Inv : σ → Prop) (P : ρ → Prop) : LockedTask α ℓ σ ρ → Prop
  | .done point => P point
  | .acquire _ next | .release _ next => next.Leads Inv P
  | .act _ next => ∀ a s, Inv s → (next a s).Leads Inv P

/-- An action of the code is a step, or several, of a machine that is related to the state. The
thread has a place in the machine, and its actions change no other place. -/
def Follows {δ β : Type*} {γ : Type} (machine : δ → β → δ) (R : σ → δ → Prop) (place : δ → γ)
    (Others : δ → δ → Prop) (Q : ρ → γ → Prop) : LockedTask α ℓ σ ρ → γ → Prop
  | .done point, c => Q point c
  | .acquire _ next, c | .release _ next, c => next.Follows machine R place Others Q c
  | .act effect next, c => ∀ a s d, R s d → place d = c → ∃ inputs,
      R (effect a s) (Foundation.run machine d inputs) ∧
        Others d (Foundation.run machine d inputs) ∧
        (next a s).Follows machine R place Others Q (place (Foundation.run machine d inputs))

section Actions

variable {R : σ → σ → Prop} {Inv : σ → Prop} {P : ρ → Prop} {P' : ρ' → Prop}
  {t : LockedTask α ℓ σ ρ} {f : ρ → LockedTask α ℓ σ ρ'}

theorem guarantees_atomic {body : α → σ → ρ × σ} (h : ∀ a s, R s (body a s).2) :
    (atomic body : LockedTask α ℓ σ ρ).Guarantees R := fun a s => ⟨h a s, trivial⟩

theorem Guarantees.bind (h : t.Guarantees R) (hf : ∀ point, (f point).Guarantees R) :
    (t >>= f).Guarantees R := by
  change (t.bind f).Guarantees R
  induction t with
  | done point => exact hf point
  | acquire lock next ih => exact ih h
  | release lock next ih => exact ih h
  | act effect next ih => exact fun a s => ⟨(h a s).1, ih a s (h a s).2⟩

theorem Guarantees.mono {R' : σ → σ → Prop} (h : t.Guarantees R) (himp : ∀ s s', R s s' → R' s s') :
    t.Guarantees R' := by
  induction t with
  | done point => trivial
  | acquire lock next ih => exact ih h
  | release lock next ih => exact ih h
  | act effect next ih => exact fun a s => ⟨himp _ _ (h a s).1, ih a s (h a s).2⟩

theorem Guarantees.locked (h : t.Guarantees R) (lock : ℓ) : (t.locked lock).Guarantees R :=
  Guarantees.bind h fun _ => trivial

theorem Guarantees.zoom {β : Type*} {υ : Type} {R' : υ → υ → Prop} (h : t.Guarantees R)
    (answer : β → α) {get : υ → σ} {set : σ → υ → υ} (himp : ∀ s u, R (get u) s → R' u (set s u)) :
    (t.zoom answer get set).Guarantees R' := by
  induction t with
  | done point => trivial
  | acquire lock next ih => exact ih h
  | release lock next ih => exact ih h
  | act effect next ih => exact fun b u => ⟨himp _ u (h _ _).1, ih _ _ (h _ _).2⟩

theorem leads_atomic {body : α → σ → ρ × σ} (h : ∀ a s, Inv s → P (body a s).1) :
    (atomic body : LockedTask α ℓ σ ρ).Leads Inv P := h

theorem Leads.bind (h : t.Leads Inv P) (hf : ∀ point, P point → (f point).Leads Inv P') :
    (t >>= f).Leads Inv P' := by
  change (t.bind f).Leads Inv P'
  induction t with
  | done point => exact hf point h
  | acquire lock next ih => exact ih h
  | release lock next ih => exact ih h
  | act effect next ih => exact fun a s hs => ih a s (h a s hs)

/-- Code that may lead anywhere. -/
theorem leads_true (t : LockedTask α ℓ σ ρ) : t.Leads Inv fun _ => True := by
  induction t with
  | done point => trivial
  | acquire lock next ih => exact ih
  | release lock next ih => exact ih
  | act effect next ih => exact fun a s _ => ih a s

end Actions

section Follows

variable {δ β : Type*} {γ : Type} {machine : δ → β → δ} {R : σ → δ → Prop} {place : δ → γ}
  {Others : δ → δ → Prop} {Q : ρ → γ → Prop} {Q' : ρ' → γ → Prop} {t : LockedTask α ℓ σ ρ}
  {f : ρ → LockedTask α ℓ σ ρ'} {c : γ}

theorem Follows.bind (h : t.Follows machine R place Others Q c)
    (hf : ∀ point c, Q point c → (f point).Follows machine R place Others Q' c) :
    (t >>= f).Follows machine R place Others Q' c := by
  change (t.bind f).Follows machine R place Others Q' c
  induction t generalizing c with
  | done point => exact hf point c h
  | acquire lock next ih => exact ih h
  | release lock next ih => exact ih h
  | act effect next ih =>
    intro a s d hrelated hplace
    obtain ⟨inputs, hstate, hothers, hnext⟩ := h a s d hrelated hplace
    exact ⟨inputs, hstate, hothers, ih a s hnext⟩

theorem Follows.mono {Q' : ρ → γ → Prop} (h : t.Follows machine R place Others Q c)
    (himp : ∀ point c, Q point c → Q' point c) : t.Follows machine R place Others Q' c := by
  induction t generalizing c with
  | done point => exact himp point c h
  | acquire lock next ih => exact ih h
  | release lock next ih => exact ih h
  | act effect next ih =>
    intro a s d hrelated hplace
    obtain ⟨inputs, hstate, hothers, hnext⟩ := h a s d hrelated hplace
    exact ⟨inputs, hstate, hothers, ih a s hnext⟩

theorem Follows.locked (h : t.Follows machine R place Others Q c) (lock : ℓ) :
    (t.locked lock).Follows machine R place Others Q c :=
  Follows.bind h fun _ _ hpoint => hpoint

end Follows

/-! ### One move -/

/-- The lock that the code waits for is held. -/
def Blocked {τ : Type} (holder : ℓ → Option τ) : LockedTask α ℓ σ ρ → Prop
  | .acquire lock _ => holder lock ≠ none
  | _ => False

instance {τ : Type} (holder : ℓ → Option τ) (t : LockedTask α ℓ σ ρ) :
    Decidable (t.Blocked holder) :=
  match t with
  | .acquire lock _ => decidable_of_iff ((holder lock).isSome = true) Option.isSome_iff_ne_none
  | .done _ | .release _ _ | .act _ _ => .isFalse id

theorem blocked_iff {τ : Type} {holder : ℓ → Option τ} {t : LockedTask α ℓ σ ρ} :
    t.Blocked holder ↔ ∃ lock next i, t = .acquire lock next ∧ holder lock = some i := by
  cases t with
  | acquire lock next => simp [Blocked, Option.ne_none_iff_exists']
  | done point => simp [Blocked]
  | release lock next => simp [Blocked]
  | act effect next => simp [Blocked]

/-- The holders of the locks after a move of the thread `i`. -/
def holders {τ : Type} [DecidableEq ℓ] (i : τ) (holder : ℓ → Option τ) :
    LockedTask α ℓ σ ρ → ℓ → Option τ
  | .acquire lock _ => Function.update holder lock (some i)
  | .release lock _ => Function.update holder lock none
  | _ => holder

/-- The code and the state after a move, where `resume` tells what follows a control point. -/
def advance (resume : ρ → Option (LockedTask α ℓ σ ρ)) :
    LockedTask α ℓ σ ρ → α → σ → Option (LockedTask α ℓ σ ρ) × σ
  | .done point, _, s => (resume point, s)
  | .acquire _ next, _, s | .release _ next, _, s => (some next, s)
  | .act effect next, a, s => (some (next a s), effect a s)

end LockedTask

/-! ### Pools -/

/-- What follows a control point of a thread, if it does not end there, and what happens outside
of the threads. -/
structure LockSystem (τ ℓ σ : Type) (α : Type*) (ε : Type) (ρ : τ → Type) where
  resume : ∀ i, ρ i → Option (LockedTask α ℓ σ (ρ i))
  outside : ε → σ → σ

/-- The threads that have not ended with their code, and who holds which lock. -/
structure LockPool (τ ℓ σ : Type) (α : Type*) (ρ : τ → Type) where
  code : ∀ i, Option (LockedTask α ℓ σ (ρ i))
  holder : ℓ → Option τ
  state : σ

/-- What the scheduler may do. -/
inductive LockMove (τ : Type) (α : Type*) (ε : Type)
  | thread (i : τ) (answer : α)
  | outside (event : ε)

variable {τ ℓ σ ε : Type} {α : Type*} {ρ : τ → Type} [DecidableEq τ] [DecidableEq ℓ]

namespace LockSystem

/-- One move; a thread that waits for a lock, or has ended, cannot move. -/
def step (system : LockSystem τ ℓ σ α ε ρ) (pool : LockPool τ ℓ σ α ρ) :
    LockMove τ α ε → Option (LockPool τ ℓ σ α ρ)
  | .outside event => some { pool with state := system.outside event pool.state }
  | .thread i a =>
    match pool.code i with
    | none => none
    | some t =>
      if t.Blocked pool.holder then none
      else
        let (code, state) := t.advance (system.resume i) a pool.state
        some ⟨Function.update pool.code i code, t.holders i pool.holder, state⟩

/-- What the scheduler can reach. -/
def Reachable (system : LockSystem τ ℓ σ α ε ρ) :
    LockPool τ ℓ σ α ρ → LockPool τ ℓ σ α ρ → Prop :=
  Relation.ReflTransGen fun pool pool' => ∃ move, system.step pool move = some pool'

variable {system : LockSystem τ ℓ σ α ε ρ} {pool pool' : LockPool τ ℓ σ α ρ} {i : τ} {a : α}

/-- A thread that moves has code that is not blocked, and the move concerns no other thread. -/
theorem step_thread_iff :
    system.step pool (.thread i a) = some pool' ↔
      ∃ t, pool.code i = some t ∧ ¬ t.Blocked pool.holder ∧
        pool' = ⟨Function.update pool.code i (t.advance (system.resume i) a pool.state).1,
          t.holders i pool.holder, (t.advance (system.resume i) a pool.state).2⟩ := by
  unfold step
  dsimp only
  cases hcode : pool.code i with
  | none => simp
  | some t =>
    by_cases hblocked : t.Blocked pool.holder
    · simp [hblocked]
    · simp [hblocked, eq_comm]

theorem isSome_step_of_not_blocked {t : LockedTask α ℓ σ (ρ i)} (hcode : pool.code i = some t)
    (h : ¬ t.Blocked pool.holder) (a : α) : (system.step pool (.thread i a)).isSome :=
  Option.isSome_iff_exists.mpr ⟨_, step_thread_iff.mpr ⟨t, hcode, h, rfl⟩⟩

/-- What some moves one after the other lead to is reachable. -/
theorem reachable_of_foldlM {moves : List (LockMove τ α ε)}
    (h : moves.foldlM system.step pool = some pool') : system.Reachable pool pool' := by
  induction moves generalizing pool with
  | nil =>
    obtain rfl := Option.some.inj h
    exact .refl
  | cons move moves ih =>
    obtain ⟨next, hnext, hmoves⟩ := Option.bind_eq_some_iff.mp h
    exact .head ⟨move, hnext⟩ (ih hmoves)

/-- What every move preserves holds of all that is reached. -/
theorem reachable_invariant (Inv : LockPool τ ℓ σ α ρ → Prop)
    (hstep : ∀ pool pool' move, Inv pool → system.step pool move = some pool' → Inv pool')
    (h : system.Reachable pool pool') (hinv : Inv pool) : Inv pool' := by
  induction h with
  | refl => exact hinv
  | tail _ hmove ih =>
    obtain ⟨move, hmove⟩ := hmove
    exact hstep _ _ move ih hmove

end LockSystem

/-! ### Ordered threads do not deadlock -/

namespace LockPool

/-- The locks that a thread holds. -/
def held (pool : LockPool τ ℓ σ α ρ) (i : τ) : Set ℓ := {lock | pool.holder lock = some i}

/-- Every thread keeps to the order of the locks, and holds none once it has ended. -/
structure Disciplined [Preorder ℓ] (Q : ∀ i, ρ i → Set ℓ → Prop) (pool : LockPool τ ℓ σ α ρ) :
    Prop where
  ordered : ∀ i t, pool.code i = some t → t.Ordered (Q i) (pool.held i)
  ended : ∀ i, pool.code i = none → pool.held i = ∅

end LockPool

namespace LockSystem

variable [Preorder ℓ] {Q : ∀ i, ρ i → Set ℓ → Prop} {system : LockSystem τ ℓ σ α ε ρ}
  {pool pool' : LockPool τ ℓ σ α ρ} {move : LockMove τ α ε}

/-- What follows a control point keeps to the order, and a thread that ends holds no lock. -/
structure Orderly (system : LockSystem τ ℓ σ α ε ρ) (Q : ∀ i, ρ i → Set ℓ → Prop) : Prop where
  resumed : ∀ i point held t, Q i point held → system.resume i point = some t →
    t.Ordered (Q i) held
  ended : ∀ i point held, Q i point held → system.resume i point = none → held = ∅

omit [DecidableEq τ] in
/-- A move does not change what the other threads hold. -/
theorem held_of_ne {i j : τ} (hj : j ≠ i) {t : LockedTask α ℓ σ (ρ i)}
    {code : ∀ i, Option (LockedTask α ℓ σ (ρ i))} {s : σ}
    (hordered : t.Ordered (Q i) (pool.held i)) (hblocked : ¬ t.Blocked pool.holder) :
    LockPool.held ⟨code, t.holders i pool.holder, s⟩ j = pool.held j := by
  ext lock'
  cases t with
  | done point => exact Iff.rfl
  | act effect next => exact Iff.rfl
  | acquire lock next =>
    change Function.update pool.holder lock (some i) lock' = some j ↔ _
    rcases eq_or_ne lock' lock with rfl | hlock
    · have hfree : pool.holder lock' = none := not_not.mp hblocked
      rw [Function.update_self]
      exact iff_of_false (fun h => hj (Option.some.inj h).symm) fun h => nomatch hfree.symm.trans h
    · rw [Function.update_of_ne hlock]
      exact Iff.rfl
  | release lock next =>
    change Function.update pool.holder lock none lock' = some j ↔ _
    rcases eq_or_ne lock' lock with rfl | hlock
    · have hmine : pool.holder lock' = some i := hordered.1
      rw [Function.update_self]
      exact iff_of_false nofun fun h => hj (Option.some.inj (hmine.symm.trans h)).symm
    · rw [Function.update_of_ne hlock]
      exact Iff.rfl

omit [DecidableEq τ] in
/-- After a move the thread still keeps to the order. -/
theorem ordered_advance (hsystem : system.Orderly Q) {i : τ} {t t' : LockedTask α ℓ σ (ρ i)} {a : α}
    {code : ∀ i, Option (LockedTask α ℓ σ (ρ i))} {s : σ}
    (hordered : t.Ordered (Q i) (pool.held i))
    (hnext : (t.advance (system.resume i) a pool.state).1 = some t') :
    t'.Ordered (Q i) (LockPool.held ⟨code, t.holders i pool.holder, s⟩ i) := by
  cases t with
  | done point => exact hsystem.resumed i point _ t' hordered hnext
  | act effect next =>
    obtain rfl := Option.some.inj hnext
    exact hordered a pool.state
  | acquire lock next =>
    obtain rfl := Option.some.inj hnext
    have hheld : LockPool.held ⟨code, (LockedTask.acquire lock next).holders i pool.holder, s⟩ i =
        insert lock (pool.held i) := by
      ext lock'
      change Function.update pool.holder lock (some i) lock' = some i ↔
        lock' = lock ∨ pool.holder lock' = some i
      rw [Function.update_apply]
      split_ifs with h <;> simp [h]
    rw [hheld]
    exact hordered.2
  | release lock next =>
    obtain rfl := Option.some.inj hnext
    have hheld : LockPool.held ⟨code, (LockedTask.release lock next).holders i pool.holder, s⟩ i =
        pool.held i \ {lock} := by
      ext lock'
      change Function.update pool.holder lock none lock' = some i ↔
        pool.holder lock' = some i ∧ lock' ≠ lock
      rw [Function.update_apply]
      split_ifs with h <;> simp [h]
    rw [hheld]
    exact hordered.2

omit [DecidableEq τ] in
/-- A thread that ends with a move holds no lock. -/
theorem held_of_ended (hsystem : system.Orderly Q) {i : τ} {t : LockedTask α ℓ σ (ρ i)} {a : α}
    {code : ∀ i, Option (LockedTask α ℓ σ (ρ i))} {s : σ}
    (hordered : t.Ordered (Q i) (pool.held i))
    (hnext : (t.advance (system.resume i) a pool.state).1 = none) :
    LockPool.held ⟨code, t.holders i pool.holder, s⟩ i = ∅ := by
  cases t with
  | done point => exact hsystem.ended i point _ hordered hnext
  | act effect next => cases hnext
  | acquire lock next => cases hnext
  | release lock next => cases hnext

/-- Every move keeps the order. -/
theorem disciplined_step (hsystem : system.Orderly Q) (h : pool.Disciplined Q)
    (hstep : system.step pool move = some pool') : pool'.Disciplined Q := by
  cases move with
  | outside event =>
    obtain rfl := Option.some.inj hstep
    exact ⟨h.ordered, h.ended⟩
  | thread i a =>
    obtain ⟨t, hcode, hblocked, rfl⟩ := step_thread_iff.mp hstep
    have hordered := h.ordered i t hcode
    constructor
    · intro j u hu
      rcases eq_or_ne j i with rfl | hj
      · dsimp only at hu
        rw [Function.update_self] at hu
        exact ordered_advance hsystem hordered hu
      · dsimp only at hu
        rw [Function.update_of_ne hj] at hu
        rw [held_of_ne hj hordered hblocked]
        exact h.ordered j u hu
    · intro j hu
      rcases eq_or_ne j i with rfl | hj
      · dsimp only at hu
        rw [Function.update_self] at hu
        exact held_of_ended hsystem hordered hu
      · dsimp only at hu
        rw [Function.update_of_ne hj] at hu
        rw [held_of_ne hj hordered hblocked]
        exact h.ended j hu

variable [WellFoundedGT ℓ]

/-- If a lock is held, some thread can move: its holder, or the holder of a lock above it. -/
theorem exists_isSome_step_of_held (h : pool.Disciplined Q) (lock : ℓ) :
    ∀ i, pool.holder lock = some i → ∃ j, ∀ a, (system.step pool (.thread j a)).isSome := by
  induction lock using WellFoundedGT.induction with
  | ind lock ih =>
    intro i hholder
    cases hcode : pool.code i with
    | none =>
      have hmem : lock ∈ pool.held i := hholder
      rw [h.ended i hcode] at hmem
      exact hmem.elim
    | some t =>
      by_cases hblocked : t.Blocked pool.holder
      · obtain ⟨lock', next, j, rfl, hj⟩ := LockedTask.blocked_iff.mp hblocked
        exact ih lock' ((h.ordered i _ hcode).1 lock hholder) j hj
      · exact ⟨i, fun a => isSome_step_of_not_blocked hcode hblocked a⟩

/-- Threads that keep to the order of the locks do not deadlock: as long as one of them has not
ended, one of them can move. -/
theorem exists_isSome_step (h : pool.Disciplined Q) {i : τ} (hi : pool.code i ≠ none) :
    ∃ j, ∀ a, (system.step pool (.thread j a)).isSome := by
  obtain ⟨t, hcode⟩ := Option.ne_none_iff_exists'.mp hi
  by_cases hblocked : t.Blocked pool.holder
  · obtain ⟨lock, next, j, rfl, hj⟩ := LockedTask.blocked_iff.mp hblocked
    exact exists_isSome_step_of_held h lock j hj
  · exact ⟨i, fun a => isSome_step_of_not_blocked hcode hblocked a⟩

end LockSystem

end Foundation
