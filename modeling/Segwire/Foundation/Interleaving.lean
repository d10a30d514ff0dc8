import Segwire.Foundation.Task

/-!
# Interleavings under a lock

A critical task holds a lock from its first section to its last. Another task takes that
lock for most of its sections, but makes calls without it, so that a call can fall in the
middle of the critical task and no other section can.

## Main definitions

* `GuardedTask` — a task whose sections take the lock, except for its calls
* `Interleaves` — what an interleaving of such a task with a critical one leads to
* `Interrupted` — a critical task that is interrupted once
* `Task.Leads` — a task among others that do not touch what it looks at
* `Task.Guarantees` — a task whose sections change the state within a relation
* `Task.Leaves` — a task that does not touch what others look at

## Main results

* `Interleaves.locked_cases`, `Interleaves.call_cases` — where the critical task begins
* `Task.Leads.of_interrupted`, `Task.Guarantees.of_interrupted` — what an interrupted task
  leads to
-/

namespace Foundation

/-! ### Tasks that take a lock -/

/-- A task: it has ended, performs a section under the lock, or makes a call without it.
Sections and calls carry a label. -/
inductive GuardedTask (ι σ ρ : Type)
  | done (result : ρ)
  | locked (label : ι) (effect : σ → σ) (next : σ → GuardedTask ι σ ρ)
  | call (label : ι) (effect : σ → σ) (next : σ → GuardedTask ι σ ρ)

namespace GuardedTask

variable {ι σ ρ ρ' : Type}

/-- Continue a task with one that depends on its result. -/
def bind : GuardedTask ι σ ρ → (ρ → GuardedTask ι σ ρ') → GuardedTask ι σ ρ'
  | .done result, f => f result
  | .locked label effect next, f => .locked label effect fun s => (next s).bind f
  | .call label effect next, f => .call label effect fun s => (next s).bind f

instance : Monad (GuardedTask ι σ) where
  pure := .done
  bind := bind

/-- A section under the lock, which answers and changes the state. -/
def atomic (label : ι) (body : σ → ρ × σ) : GuardedTask ι σ ρ :=
  .locked label (fun s => (body s).2) fun s => .done (body s).1

/-- A section under the lock that only reads the state. -/
def read (label : ι) (f : σ → ρ) : GuardedTask ι σ ρ := atomic label fun s => (f s, s)

/-- A call, made without the lock. -/
def unlocked (label : ι) (body : σ → ρ × σ) : GuardedTask ι σ ρ :=
  .call label (fun s => (body s).2) fun s => .done (body s).1

/-- The task without its locks. -/
def erase : GuardedTask ι σ ρ → Task σ ρ
  | .done result => .done result
  | .locked _ effect next | .call _ effect next => .act effect fun s => (next s).erase

/-- The task is not about to make a call. -/
def Blocked (t : GuardedTask ι σ ρ) : Prop := ∀ label effect next, t ≠ .call label effect next

theorem blocked_done (result : ρ) : (done result : GuardedTask ι σ ρ).Blocked := nofun

theorem blocked_locked (label : ι) (effect : σ → σ) (next : σ → GuardedTask ι σ ρ) :
    (locked label effect next).Blocked := nofun

/-- A sequence is erased part by part. -/
theorem erase_bind {t : GuardedTask ι σ ρ} {u : Task σ ρ} {f : ρ → GuardedTask ι σ ρ'}
    {g : ρ → Task σ ρ'} (ht : t.erase = u) (hf : ∀ result, (f result).erase = g result) :
    (t >>= f).erase = u >>= g := by
  obtain rfl : (fun result => (f result).erase) = g := funext hf
  subst ht
  change (t.bind f).erase = t.erase.bind _
  induction t with
  | done result => rfl
  | locked label effect next ih => exact congrArg (Task.act effect) (funext ih)
  | call label effect next ih => exact congrArg (Task.act effect) (funext ih)

end GuardedTask

namespace Task

/-- The task has ended. -/
def isDone {σ ρ : Type} : Task σ ρ → Bool
  | .done _ => true
  | .act _ _ => false

end Task

/-! ### Interleavings -/

section Interleaving

variable {ι σ ρ ρ' : Type}

/-- An interleaving of a task with a critical one leads to a result of the first and a
state. The lock is `held` once the critical task has begun, until it ends. A section or
call is performed where it is `Allowed`. -/
inductive Interleaves (Allowed : ι → Bool → σ → Prop) :
    GuardedTask ι σ ρ → Task σ ρ' → Bool → σ → ρ × σ → Prop
  | finish {result : ρ} {result' : ρ'} {held : Bool} {s : σ} :
      Interleaves Allowed (.done result) (.done result') held s (result, s)
  | critical {t : GuardedTask ι σ ρ} {effect : σ → σ} {next : σ → Task σ ρ'} {held : Bool} {s : σ}
      {out : ρ × σ} (rest : Interleaves Allowed t (next s) (!(next s).isDone) (effect s) out) :
      Interleaves Allowed t (.act effect next) held s out
  | locked {label : ι} {effect : σ → σ} {next : σ → GuardedTask ι σ ρ} {c : Task σ ρ'} {s : σ}
      {out : ρ × σ} (allowed : Allowed label false s)
      (rest : Interleaves Allowed (next s) c false (effect s) out) :
      Interleaves Allowed (.locked label effect next) c false s out
  | call {label : ι} {effect : σ → σ} {next : σ → GuardedTask ι σ ρ} {c : Task σ ρ'} {held : Bool}
      {s : σ} {out : ρ × σ} (allowed : Allowed label held s)
      (rest : Interleaves Allowed (next s) c held (effect s) out) :
      Interleaves Allowed (.call label effect next) c held s out

/-- The task goes on alone, as the critical task has ended. -/
def Continues (Allowed : ι → Bool → σ → Prop) (t : GuardedTask ι σ ρ) (s : σ) (out : ρ × σ) :
    Prop :=
  Interleaves Allowed t (.done () : Task σ Unit) false s out

/-- A run of the task from a state is interrupted at `mid`, goes on from `mid'`, and ends in
another state. -/
inductive Interrupted (mid mid' : σ) : Task σ ρ' → σ → σ → Prop
  | here {t : Task σ ρ'} : Interrupted mid mid' t mid (t.run mid').2
  | later {effect : σ → σ} {next : σ → Task σ ρ'} {s s' : σ}
      (rest : Interrupted mid mid' (next s) (effect s) s') :
      Interrupted mid mid' (.act effect next) s s'

section Continues

variable {Allowed : ι → Bool → σ → Prop} {t : GuardedTask ι σ ρ} {s : σ} {out : ρ × σ}
  {effect : σ → σ} {next : σ → GuardedTask ι σ ρ} {label : ι}

theorem Interleaves.continues {result' : ρ'}
    (h : Interleaves Allowed t (.done result') false s out) : Continues Allowed t s out := by
  induction t generalizing s with
  | done result =>
    cases h
    exact .finish
  | locked label effect next ih =>
    cases h with
    | locked allowed rest => exact .locked allowed (ih s rest)
  | call label effect next ih =>
    cases h with
    | call allowed rest => exact .call allowed (ih s rest)

namespace Continues

theorem done {result : ρ} (h : Continues Allowed (.done result) s out) : out = (result, s) := by
  cases h
  rfl

theorem locked (h : Continues Allowed (.locked label effect next) s out) :
    Allowed label false s ∧ Continues Allowed (next s) (effect s) out := by
  cases h with
  | locked allowed rest => exact ⟨allowed, rest⟩

theorem call (h : Continues Allowed (.call label effect next) s out) :
    Allowed label false s ∧ Continues Allowed (next s) (effect s) out := by
  cases h with
  | call allowed rest => exact ⟨allowed, rest⟩

/-- Going on alone, the task runs. -/
theorem run (h : Continues Allowed t s out) : out = t.erase.run s := by
  induction t generalizing s with
  | done result => exact h.done
  | locked label effect next ih => exact ih s h.locked.2
  | call label effect next ih => exact ih s h.call.2

end Continues

end Continues

namespace Interleaves

variable {Allowed : ι → Bool → σ → Prop} {t : GuardedTask ι σ ρ} {c : Task σ ρ'} {held : Bool}
  {s : σ} {out : ρ × σ} {effect : σ → σ} {next : σ → GuardedTask ι σ ρ} {label : ι}

/-- A task that is not about to make a call waits for the end of the critical one. -/
theorem of_blocked (h : Interleaves Allowed t c held s out) (hblocked : t.Blocked)
    (hheld : held = !c.isDone) : Continues Allowed t (c.run s).2 out := by
  induction c generalizing held s with
  | done result' =>
    obtain rfl : held = false := hheld
    exact h.continues
  | act effect next ih =>
    cases h with
    | critical rest => exact ih s rest rfl
    | locked allowed rest => cases hheld
    | call allowed rest => exact absurd rfl (hblocked _ _ _)

/-- A call is made after the end of the critical task, or interrupts it. -/
theorem of_call (h : Interleaves Allowed (.call label effect next) c held s out)
    (hheld : held = !c.isDone) (hnext : ∀ s, (next s).Blocked) :
    Continues Allowed (.call label effect next) (c.run s).2 out ∨
    ∃ mid s', Interrupted mid (effect mid) c s s' ∧ Allowed label true mid ∧
      Continues Allowed (next mid) s' out := by
  induction c generalizing held s with
  | done result' =>
    obtain rfl : held = false := hheld
    exact .inl h.continues
  | act effect' next' ih =>
    obtain rfl : held = true := hheld
    cases h with
    | critical rest =>
      obtain hlater | ⟨mid, s', hinterrupted, hmid⟩ := ih s rest rfl
      · exact .inl hlater
      · exact .inr ⟨mid, s', .later hinterrupted, hmid⟩
    | call allowed rest => exact .inr ⟨s, _, .here, allowed, rest.of_blocked (hnext s) rfl⟩

end Interleaves

/-! ### Where the critical task begins -/

section Begins

variable {Allowed : ι → Bool → σ → Prop} {effect effect' : σ → σ}
  {next : σ → GuardedTask ι σ ρ} {next' : σ → Task σ ρ'} {s : σ} {out : ρ × σ} {label : ι}

theorem Interleaves.done_cases {result : ρ}
    (h : Interleaves Allowed (.done result : GuardedTask ι σ ρ) (.act effect' next') false s out) :
    out = (result, ((Task.act effect' next').run s).2) := by
  cases h with
  | critical rest => exact (rest.of_blocked (GuardedTask.blocked_done result) rfl).done

/-- The critical task runs before a section, or the section is performed before it begins. -/
theorem Interleaves.locked_cases
    (h : Interleaves Allowed (.locked label effect next) (.act effect' next') false s out) :
    Continues Allowed (.locked label effect next) ((Task.act effect' next').run s).2 out ∨
    Allowed label false s ∧ Interleaves Allowed (next s) (.act effect' next') false (effect s)
      out := by
  cases h with
  | critical rest => exact .inl (rest.of_blocked (GuardedTask.blocked_locked _ effect next) rfl)
  | locked allowed rest => exact .inr ⟨allowed, rest⟩

/-- The critical task runs before a call, the call interrupts it, or the call is made before
it begins. -/
theorem Interleaves.call_cases
    (h : Interleaves Allowed (.call label effect next) (.act effect' next') false s out)
    (hnext : ∀ s, (next s).Blocked) :
    Continues Allowed (.call label effect next) ((Task.act effect' next').run s).2 out ∨
    (∃ mid s', Interrupted mid (effect mid) (next' s) (effect' s) s' ∧ Allowed label true mid ∧
      Continues Allowed (next mid) s' out) ∨
    Allowed label false s ∧
      Interleaves Allowed (next s) (.act effect' next') false (effect s) out := by
  cases h with
  | critical rest =>
    obtain hafter | hinside := rest.of_call rfl hnext
    · exact .inl hafter
    · exact .inr (.inl hinside)
  | call allowed rest => exact .inr (.inr ⟨allowed, rest⟩)

end Begins

end Interleaving

/-! ### Tasks among others

`view s` is the part of the state that a task looks at. -/

namespace Task

variable {σ γ ρ ρ' : Type}

/-- From any state with the view `c`, among others that do not touch the view between two
sections, the task ends with a result and a view that satisfy `Q`. -/
def Leads (view : σ → γ) : Task σ ρ → γ → (ρ → γ → Prop) → Prop
  | .done result, c, Q => Q result c
  | .act effect next, c, Q => ∀ s, view s = c → (next s).Leads view (view (effect s)) Q

/-- From a state that satisfies `Inv`, a section leads to one that does, and changes it
within `R`. -/
def Guarantees (Inv : σ → Prop) (R : σ → σ → Prop) : Task σ ρ → Prop
  | .done _ => True
  | .act effect next => ∀ s, Inv s → Inv (effect s) ∧ R s (effect s) ∧ (next s).Guarantees Inv R

/-- No section touches the view. -/
def Leaves (view : σ → γ) (t : Task σ ρ) : Prop :=
  t.Guarantees (fun _ => True) fun s s' => view s' = view s

section Leads

variable {view : σ → γ} {t : Task σ ρ} {f : ρ → Task σ ρ'} {c : γ} {Q : ρ → γ → Prop}
  {Q' : ρ' → γ → Prop}

theorem leads_done {result : ρ} (h : Q result c) : (done result : Task σ ρ).Leads view c Q := h

theorem leads_atomic {body : σ → ρ × σ}
    (h : ∀ s, view s = c → Q (body s).1 (view (body s).2)) : (atomic body).Leads view c Q := h

theorem Leads.mono {Q' : ρ → γ → Prop} (h : t.Leads view c Q)
    (himp : ∀ result c', Q result c' → Q' result c') : t.Leads view c Q' := by
  induction t generalizing c with
  | done result => exact himp _ _ h
  | act effect next ih => exact fun s hs => ih s (h s hs)

theorem Leads.bind (h : t.Leads view c Q)
    (hf : ∀ result c', Q result c' → (f result).Leads view c' Q') :
    (t >>= f).Leads view c Q' := by
  change (t.bind f).Leads view c Q'
  induction t generalizing c with
  | done result => exact hf _ _ h
  | act effect next ih => exact fun s hs => ih s (h s hs)

/-- In particular the task may run alone. -/
theorem Leads.run {s : σ} (h : t.Leads view (view s) Q) : Q (t.run s).1 (view (t.run s).2) := by
  induction t generalizing s with
  | done result => exact h
  | act effect next ih => exact ih s (h s rfl)

/-- An interruption that does not touch the view makes no difference. -/
theorem Leads.of_interrupted {mid mid' s s' : σ} (h : t.Leads view (view s) Q)
    (hinterrupted : Interrupted mid mid' t s s') (hsame : view mid' = view mid) :
    ∃ result, Q result (view s') := by
  induction hinterrupted with
  | here =>
    rw [← hsame] at h
    exact ⟨_, h.run⟩
  | later rest ih => exact ih (h _ rfl)

end Leads

section Guarantees

variable {Inv : σ → Prop} {R : σ → σ → Prop} {t : Task σ ρ} {f : ρ → Task σ ρ'} {s : σ}

theorem guarantees_done (result : ρ) : (done result : Task σ ρ).Guarantees Inv R := trivial

theorem guarantees_atomic {body : σ → ρ × σ}
    (h : ∀ s, Inv s → Inv (body s).2 ∧ R s (body s).2) : (atomic body).Guarantees Inv R :=
  fun s hs => ⟨(h s hs).1, (h s hs).2, trivial⟩

theorem Guarantees.bind (h : t.Guarantees Inv R) (hf : ∀ result, (f result).Guarantees Inv R) :
    (t >>= f).Guarantees Inv R := by
  change (t.bind f).Guarantees Inv R
  induction t with
  | done result => exact hf result
  | act effect next ih => exact fun s hs => ⟨(h s hs).1, (h s hs).2.1, ih s (h s hs).2.2⟩

/-- What a task reads holds of a state with the invariant. -/
theorem guarantees_read_bind {g : σ → ρ} (hrefl : ∀ s, R s s)
    (h : ∀ s, Inv s → (f (g s)).Guarantees Inv R) : (read g >>= f).Guarantees Inv R :=
  fun s hs => ⟨hs, hrefl s, h s hs⟩

section Preorder

variable (hrefl : ∀ s, R s s) (htrans : ∀ s s' s'', R s s' → R s' s'' → R s s'')
include hrefl htrans

theorem Guarantees.run (h : t.Guarantees Inv R) (hs : Inv s) :
    Inv (t.run s).2 ∧ R s (t.run s).2 := by
  induction t generalizing s with
  | done result => exact ⟨hs, hrefl s⟩
  | act effect next ih =>
    obtain ⟨hinv, hstep, hnext⟩ := h s hs
    obtain ⟨hinv', hrest⟩ := ih s hnext hinv
    exact ⟨hinv', htrans _ _ _ hstep hrest⟩

/-- The guarantee covers the time up to an interruption, and the time after it if that keeps
the invariant. -/
theorem Guarantees.of_interrupted {mid mid' s' : σ} (h : t.Guarantees Inv R)
    (hinterrupted : Interrupted mid mid' t s s') (hs : Inv s) (hmid : Inv mid → Inv mid') :
    R s mid ∧ R mid' s' := by
  induction hinterrupted with
  | here => exact ⟨hrefl _, (h.run hrefl htrans (hmid hs)).2⟩
  | later rest ih =>
    obtain ⟨hinv, hstep, hnext⟩ := h _ hs
    obtain ⟨hbefore, hafter⟩ := ih hnext hinv
    exact ⟨htrans _ _ _ hstep hbefore, hafter⟩

end Preorder

end Guarantees

section Leaves

variable {view : σ → γ} {t : Task σ ρ} {f : ρ → Task σ ρ'} {c : γ}

theorem leaves_done (result : ρ) : (done result : Task σ ρ).Leaves view := trivial

theorem leaves_atomic {body : σ → ρ × σ} (h : ∀ s, view (body s).2 = view s) :
    (atomic body).Leaves view := guarantees_atomic fun s _ => ⟨trivial, h s⟩

theorem leaves_read (f : σ → ρ) : (read f).Leaves view := leaves_atomic fun _ => rfl

theorem Leaves.bind (h : t.Leaves view) (hf : ∀ result, (f result).Leaves view) :
    (t >>= f).Leaves view := Guarantees.bind h hf

/-- What a task leaves alone stays what it is. -/
theorem Leaves.leads (h : t.Leaves view) : t.Leads view c fun _ c' => c' = c := by
  induction t generalizing c with
  | done result => rfl
  | act effect next ih =>
    rintro s rfl
    obtain ⟨-, hview, hnext⟩ := h s trivial
    exact (ih s hnext).mono fun _ c' hc' => hc'.trans hview

end Leaves

end Task

end Foundation
