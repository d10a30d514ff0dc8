import Mathlib.Data.DFinsupp.WellFounded
import Mathlib.Order.RelClasses
import Segwire.Foundation.Locks

/-!
# Runs of threads that take locks

Two questions about the threads of a `LockSystem`. What do they reach? If the actions of each
thread follow another machine, in which the thread has a place of its own, then all that the
threads reach together is reached by that machine. And do they end? If each thread alone has
finitely many moves left, all of them together do, although one thread may give work to
another: a thread has a *variant* that only itself and the threads before it change.

## Main definitions

* `LockSystem.Related`, `LockSystem.Simulated` — the threads follow another machine
* `LockSystem.Guaranteed` — what is left to do changes the state within a relation
* `LockSystem.Drops` — a move of one thread, as far as it concerns this thread
* `LockSystem.Settles` — each thread alone has finitely many moves left

## Main results

* `LockSystem.exists_related_of_reachable` — what the threads reach, the other machine reaches
* `LockSystem.eventually_ended` — threads that settle and do not deadlock end
-/

namespace Foundation

variable {τ ℓ σ ε : Type} {α : Type*} {ρ : τ → Type} [DecidableEq τ] [DecidableEq ℓ]

namespace LockSystem

variable {system : LockSystem τ ℓ σ α ε ρ} {pool pool' : LockPool τ ℓ σ α ρ}
  {move : LockMove τ α ε}

/-! ### Another machine -/

section Simulation

variable {δ β : Type*} {γ : τ → Type} {machine : δ → β → δ} {R : σ → δ → Prop}
  {place : ∀ i, δ → γ i} {Q : ∀ i, ρ i → γ i → Prop} {E : ∀ i, γ i → Prop} {d : δ}

/-- Nothing but the place of the thread `i` differs. -/
def Elsewhere (place : ∀ i, δ → γ i) (i : τ) (d d' : δ) : Prop :=
  ∀ j, j ≠ i → place j d' = place j d

/-- The code of every thread follows the machine from the place of the thread. A thread that has
ended has a place with `E`. -/
structure Related (machine : δ → β → δ) (R : σ → δ → Prop) (place : ∀ i, δ → γ i)
    (Q : ∀ i, ρ i → γ i → Prop) (E : ∀ i, γ i → Prop) (pool : LockPool τ ℓ σ α ρ) (d : δ) :
    Prop where
  state : R pool.state d
  follows : ∀ i t, pool.code i = some t →
    t.Follows machine R (place i) (Elsewhere place i) (Q i) (place i d)
  ended : ∀ i, pool.code i = none → E i (place i d)

/-- What follows a control point follows the machine, and so does what happens outside. -/
structure Simulated (system : LockSystem τ ℓ σ α ε ρ) (machine : δ → β → δ) (R : σ → δ → Prop)
    (place : ∀ i, δ → γ i) (Q : ∀ i, ρ i → γ i → Prop) (E : ∀ i, γ i → Prop) : Prop where
  resumed : ∀ i point c t, Q i point c → system.resume i point = some t →
    t.Follows machine R (place i) (Elsewhere place i) (Q i) c
  ended : ∀ i point c, Q i point c → system.resume i point = none → E i c
  outside : ∀ event s d, R s d → ∃ inputs, R (system.outside event s) (run machine d inputs) ∧
    ∀ i, place i (run machine d inputs) = place i d

/-- One move is some steps of the machine. -/
theorem exists_related_of_step (hsystem : system.Simulated machine R place Q E)
    (h : Related machine R place Q E pool d) (hstep : system.step pool move = some pool') :
    ∃ inputs, Related machine R place Q E pool' (run machine d inputs) := by
  cases move with
  | outside event =>
    obtain rfl := Option.some.inj hstep
    obtain ⟨inputs, hstate, hplace⟩ := hsystem.outside event pool.state d h.state
    refine ⟨inputs, hstate, fun i t hcode => ?_, fun i hcode => ?_⟩
    · rw [hplace i]
      exact h.follows i t hcode
    · rw [hplace i]
      exact h.ended i hcode
  | thread i a =>
    obtain ⟨t, hcode, -, rfl⟩ := step_thread_iff.mp hstep
    have hfollows := h.follows i t hcode
    -- the other threads are where they were, whatever the machine does for this one
    have hpool {d' : δ} {code holder s} (hstate : R s d') (hd : Elsewhere place i d d')
        (hown : ∀ t', code = some t' →
          t'.Follows machine R (place i) (Elsewhere place i) (Q i) (place i d'))
        (hended : code = none → E i (place i d')) :
        Related machine R place Q E ⟨Function.update pool.code i code, holder, s⟩ d' := by
      refine ⟨hstate, fun j u hu => ?_, fun j hu => ?_⟩ <;> dsimp only at hu
      · rcases eq_or_ne j i with rfl | hj
        · rw [Function.update_self] at hu
          exact hown u hu
        · rw [Function.update_of_ne hj] at hu
          rw [hd j hj]
          exact h.follows j u hu
      · rcases eq_or_ne j i with rfl | hj
        · rw [Function.update_self] at hu
          exact hended hu
        · rw [Function.update_of_ne hj] at hu
          rw [hd j hj]
          exact h.ended j hu
    cases t with
    | done point =>
      exact ⟨[], hpool h.state (fun _ _ => rfl)
        (fun t' ht' => hsystem.resumed i point _ t' hfollows ht')
        fun hnone => hsystem.ended i point _ hfollows hnone⟩
    | acquire lock next =>
      exact ⟨[], hpool h.state (fun _ _ => rfl) (fun t' ht' => Option.some.inj ht' ▸ hfollows)
        nofun⟩
    | release lock next =>
      exact ⟨[], hpool h.state (fun _ _ => rfl) (fun t' ht' => Option.some.inj ht' ▸ hfollows)
        nofun⟩
    | act effect next =>
      obtain ⟨inputs, hstate, helsewhere, hnext⟩ := hfollows a pool.state d h.state rfl
      exact ⟨inputs, hpool hstate helsewhere (fun t' ht' => Option.some.inj ht' ▸ hnext) nofun⟩

/-- What the threads reach together, the machine reaches. -/
theorem exists_related_of_reachable (hsystem : system.Simulated machine R place Q E)
    (h : Related machine R place Q E pool d) (hreachable : system.Reachable pool pool') :
    ∃ inputs, Related machine R place Q E pool' (run machine d inputs) := by
  induction hreachable with
  | refl => exact ⟨[], h⟩
  | tail _ hmove ih =>
    obtain ⟨inputs, hrelated⟩ := ih
    obtain ⟨move, hstep⟩ := hmove
    obtain ⟨inputs', hrelated'⟩ := exists_related_of_step hsystem hrelated hstep
    refine ⟨inputs ++ inputs', ?_⟩
    rw [run, List.foldl_append]
    exact hrelated'

omit [DecidableEq τ] [DecidableEq ℓ] in
/-- What holds of every thread at its control points, and held before if it holds after, holds of
it at all times. -/
theorem Related.of_points [Nonempty α] (h : Related machine R place Q E pool d)
    (hpoint : ∀ i point c, Q i point c → E i c)
    (hback : ∀ i d inputs, E i (place i (run machine d inputs)) → E i (place i d)) (i : τ) :
    E i (place i d) := by
  have hcode (t : LockedTask α ℓ σ (ρ i)) (s : σ) (d : δ) (hstate : R s d)
      (ht : t.Follows machine R (place i) (Elsewhere place i) (Q i) (place i d)) :
      E i (place i d) := by
    induction t generalizing s d with
    | done point => exact hpoint i point _ ht
    | acquire lock next ih => exact ih s d hstate ht
    | release lock next ih => exact ih s d hstate ht
    | act effect next ih =>
      obtain ⟨a⟩ := ‹Nonempty α›
      obtain ⟨inputs, hstate', -, hnext⟩ := ht a s d hstate rfl
      exact hback i d inputs (ih a s _ _ hstate' hnext)
  cases hend : pool.code i with
  | none => exact h.ended i hend
  | some t => exact hcode t pool.state d h.state (h.follows i t hend)

end Simulation

/-! ### What the actions do -/

/-- Every action that is left to do changes the state within the relation of its thread. -/
def Guaranteed (R : τ → σ → σ → Prop) (pool : LockPool τ ℓ σ α ρ) : Prop :=
  ∀ i t, pool.code i = some t → t.Guarantees (R i)

/-- So it is after every move. -/
theorem guaranteed_step {R : τ → σ → σ → Prop}
    (hresume : ∀ i point t, system.resume i point = some t → t.Guarantees (R i))
    (h : Guaranteed R pool) (hstep : system.step pool move = some pool') :
    Guaranteed R pool' := by
  cases move with
  | outside event =>
    obtain rfl := Option.some.inj hstep
    exact h
  | thread i a =>
    obtain ⟨t, hcode, -, rfl⟩ := step_thread_iff.mp hstep
    have ht := h i t hcode
    intro j u hu
    dsimp only at hu
    rcases eq_or_ne j i with rfl | hj
    · rw [Function.update_self] at hu
      cases t with
      | done point => exact hresume j point u hu
      | acquire lock next => exact Option.some.inj hu ▸ ht
      | release lock next => exact Option.some.inj hu ▸ ht
      | act effect next => exact Option.some.inj hu ▸ (ht a pool.state).2
    · rw [Function.update_of_ne hj] at hu
      exact h j u hu

/-- What the actions keep, and what happens outside keeps, a move keeps. -/
theorem state_step {R : τ → σ → σ → Prop} {Inv : σ → Prop}
    (hR : ∀ i s s', R i s s' → Inv s → Inv s')
    (houtside : ∀ event s, Inv s → Inv (system.outside event s)) (h : Guaranteed R pool)
    (hinv : Inv pool.state) (hstep : system.step pool move = some pool') : Inv pool'.state := by
  cases move with
  | outside event =>
    obtain rfl := Option.some.inj hstep
    exact houtside event _ hinv
  | thread i a =>
    obtain ⟨t, hcode, -, rfl⟩ := step_thread_iff.mp hstep
    have ht := h i t hcode
    cases t with
    | done point => exact hinv
    | acquire lock next => exact hinv
    | release lock next => exact hinv
    | act effect next => exact hR i _ _ (ht a pool.state).1 hinv

/-- While the state has `Inv`, a thread that comes from a control point with `P` only to such
control points does not end. -/
theorem leads_step {Inv : σ → Prop} {i : τ} {P : ρ i → Prop}
    (hP : ∀ point, P point → ∃ t, system.resume i point = some t ∧ t.Leads Inv P)
    (h : ∃ t, pool.code i = some t ∧ t.Leads Inv P) (hinv : Inv pool.state)
    (hstep : system.step pool move = some pool') :
    ∃ t, pool'.code i = some t ∧ t.Leads Inv P := by
  cases move with
  | outside event =>
    obtain rfl := Option.some.inj hstep
    exact h
  | thread j a =>
    obtain ⟨t, hcode, -, rfl⟩ := step_thread_iff.mp hstep
    dsimp only
    rcases eq_or_ne i j with rfl | hj
    · obtain ⟨u, hu, hleads⟩ := h
      obtain rfl := Option.some.inj (hcode.symm.trans hu)
      rw [Function.update_self]
      cases t with
      | done point => exact hP point hleads
      | acquire lock next => exact ⟨next, rfl, hleads⟩
      | release lock next => exact ⟨next, rfl, hleads⟩
      | act effect next => exact ⟨_, rfl, hleads a pool.state hinv⟩
    · rw [Function.update_of_ne hj]
      exact h

/-! ### Threads that come to rest -/

section Rest

variable {Inv : σ → Prop} {variant : τ → σ → ℕ}

/-- A move of a thread in a state with `Inv`, as far as it concerns the thread: its variant and
its code, before and after. -/
def Drops (system : LockSystem τ ℓ σ α ε ρ) (Inv : σ → Prop) (variant : τ → σ → ℕ) (i : τ)
    (x' x : ℕ × Option (LockedTask α ℓ σ (ρ i))) : Prop :=
  ∃ t a s, Inv s ∧ x = (variant i s, some t) ∧
    x' = (variant i (t.advance (system.resume i) a s).2, (t.advance (system.resume i) a s).1)

/-- What the actions of a thread keep: `Inv`, and the variants of the threads before it. -/
def Quiet [LT τ] (Inv : σ → Prop) (variant : τ → σ → ℕ) (i : τ) (s s' : σ) : Prop :=
  (Inv s → Inv s') ∧ ∀ j, j < i → variant j s' = variant j s

/-- Each thread alone has finitely many moves left. -/
structure Settles [LT τ] (system : LockSystem τ ℓ σ α ε ρ) (Inv : σ → Prop)
    (variant : τ → σ → ℕ) : Prop where
  resumed : ∀ i point t, system.resume i point = some t → t.Guarantees (Quiet Inv variant i)
  outside : ∀ event s, Inv s → Inv (system.outside event s)
  variant_outside : ∀ event s i, variant i (system.outside event s) = variant i s
  wellFounded : ∀ i, WellFounded (system.Drops Inv variant i)

omit [DecidableEq τ] [DecidableEq ℓ] in
/-- A thread that has ended has no move left. -/
theorem acc_none (i : τ) (n : ℕ) : Acc (system.Drops Inv variant i) (n, none) := by
  refine Acc.intro _ ?_
  rintro x ⟨t, a, s, -, hx, -⟩
  cases hx

omit [DecidableEq τ] [DecidableEq ℓ] in
/-- A control point has the moves of what follows it. -/
theorem acc_done {i : τ} {n : ℕ} {point : ρ i}
    (h : Acc (system.Drops Inv variant i) (n, system.resume i point)) :
    Acc (system.Drops Inv variant i) (n, some (.done point)) := by
  refine Acc.intro _ ?_
  rintro x ⟨t, a, s, -, hx, rfl⟩
  obtain ⟨rfl, ht⟩ := Prod.mk.inj hx
  obtain rfl := Option.some.inj ht
  exact h

omit [DecidableEq τ] [DecidableEq ℓ] in
/-- Code that leads to control points after which a thread has finitely many moves left. -/
theorem acc_of_leads {i : τ} {P : ρ i → Prop} {t : LockedTask α ℓ σ (ρ i)} (h : t.Leads Inv P)
    (hP : ∀ point, P point → ∀ n, Acc (system.Drops Inv variant i) (n, system.resume i point))
    (n : ℕ) : Acc (system.Drops Inv variant i) (n, some t) := by
  induction t generalizing n with
  | done point => exact acc_done (hP point h n)
  | acquire lock next ih =>
    refine Acc.intro _ ?_
    rintro x ⟨t, a, s, -, hx, rfl⟩
    obtain ⟨rfl, ht⟩ := Prod.mk.inj hx
    obtain rfl := Option.some.inj ht
    exact ih h _
  | release lock next ih =>
    refine Acc.intro _ ?_
    rintro x ⟨t, a, s, -, hx, rfl⟩
    obtain ⟨rfl, ht⟩ := Prod.mk.inj hx
    obtain rfl := Option.some.inj ht
    exact ih h _
  | act effect next ih =>
    refine Acc.intro _ ?_
    rintro x ⟨t, a, s, hs, hx, rfl⟩
    obtain ⟨rfl, ht⟩ := Prod.mk.inj hx
    obtain rfl := Option.some.inj ht
    exact ih a s (h a s hs) _

omit [DecidableEq τ] [DecidableEq ℓ] in
/-- It is enough to know the control points. -/
theorem wellFounded_drops {i : τ}
    (h : ∀ point n, Acc (system.Drops Inv variant i) (n, system.resume i point)) :
    WellFounded (system.Drops Inv variant i) := by
  refine ⟨fun ⟨n, code⟩ => ?_⟩
  cases code with
  | none => exact acc_none i n
  | some t => exact acc_of_leads t.leads_true (fun point _ => h point) n

variable [LinearOrder τ]

/-- The state has `Inv`, and every action keeps it. -/
structure Settling (Inv : σ → Prop) (variant : τ → σ → ℕ) (pool : LockPool τ ℓ σ α ρ) : Prop where
  inv : Inv pool.state
  guaranteed : Guaranteed (Quiet Inv variant) pool

/-- The variants and the codes of the threads. -/
def standing (variant : τ → σ → ℕ) (pool : LockPool τ ℓ σ α ρ) (i : τ) :
    ℕ × Option (LockedTask α ℓ σ (ρ i)) := (variant i pool.state, pool.code i)

/-- Every move keeps `Inv`, and so does what is left to do. -/
theorem settling_step (hsystem : system.Settles Inv variant) (h : Settling Inv variant pool)
    (hstep : system.step pool move = some pool') : Settling Inv variant pool' where
  inv := state_step (fun _ _ _ hquiet => hquiet.1) hsystem.outside h.guaranteed h.inv hstep
  guaranteed := guaranteed_step hsystem.resumed h.guaranteed hstep

omit [DecidableEq τ] [DecidableEq ℓ] in
/-- A move of a thread leaves the variants of the threads before it. -/
theorem variant_advance {i j : τ} {t : LockedTask α ℓ σ (ρ i)} {a : α} {s : σ}
    (h : t.Guarantees (Quiet Inv variant i)) (hj : j < i) :
    variant j (t.advance (system.resume i) a s).2 = variant j s := by
  cases t with
  | done point => rfl
  | acquire lock next => rfl
  | release lock next => rfl
  | act effect next => exact (h a s).1.2 j hj

/-- A move of a thread brings the threads down. -/
theorem standing_lt {i : τ} {a : α} (h : Settling Inv variant pool)
    (hstep : system.step pool (.thread i a) = some pool') :
    Pi.Lex (· < ·) (fun {i} => system.Drops Inv variant i) (standing variant pool')
      (standing variant pool) := by
  obtain ⟨t, hcode, -, rfl⟩ := step_thread_iff.mp hstep
  refine ⟨i, fun j hj => ?_, t, a, pool.state, h.inv, ?_, ?_⟩
  · refine Prod.ext (variant_advance (h.guaranteed i t hcode) hj) ?_
    exact Function.update_of_ne hj.ne _ _
  · exact Prod.ext rfl hcode
  · exact Prod.ext rfl (Function.update_self ..)

/-- What happens outside leaves the threads where they are. -/
theorem standing_outside (hsystem : system.Settles Inv variant) {event : ε}
    (hstep : system.step pool (.outside event) = some pool') :
    standing variant pool' = standing variant pool := by
  obtain rfl := Option.some.inj hstep
  funext i
  exact Prod.ext (hsystem.variant_outside event _ i) rfl

variable {pools : ℕ → LockPool τ ℓ σ α ρ} {moves : ℕ → LockMove τ α ε}

/-- Along a run everything that is left to do keeps `Inv`. -/
theorem settling_run (hsystem : system.Settles Inv variant)
    (hrun : ∀ n, system.step (pools n) (moves n) = some (pools (n + 1)))
    (h : Settling Inv variant (pools 0)) (n : ℕ) : Settling Inv variant (pools n) := by
  induction n with
  | zero => exact h
  | succ n ih => exact settling_step hsystem ih (hrun n)

/-- Threads that settle come to rest: from some time on none of them moves. -/
theorem eventually_idle [Finite τ] (hsystem : system.Settles Inv variant)
    (hrun : ∀ n, system.step (pools n) (moves n) = some (pools (n + 1)))
    (h : Settling Inv variant (pools 0)) : ∃ N, ∀ n ≥ N, ∀ i a, moves n ≠ .thread i a := by
  -- from where the threads stand lowest, no move can bring them down
  have hwf := Pi.Lex.wellFounded (r := (· < · : τ → τ → Prop)) hsystem.wellFounded
  obtain ⟨_, ⟨N, rfl⟩, hmin⟩ := hwf.has_min (Set.range fun n => standing variant (pools n))
    ⟨_, ⟨0, rfl⟩⟩
  have hidle (n : ℕ) (hn : standing variant (pools n) = standing variant (pools N)) :
      ∀ i a, moves n ≠ .thread i a := by
    intro i a hmove
    have hstep := hrun n
    rw [hmove] at hstep
    have hlt := standing_lt (settling_run hsystem hrun h n) hstep
    rw [hn] at hlt
    exact hmin _ ⟨n + 1, rfl⟩ hlt
  have hrest (n : ℕ) (hn : N ≤ n) : standing variant (pools n) = standing variant (pools N) := by
    induction n, hn using Nat.le_induction with
    | base => rfl
    | succ n hn ih =>
      have hstep := hrun n
      cases hmove : moves n with
      | thread i a => exact absurd hmove (hidle n ih i a)
      | outside event =>
        rw [hmove] at hstep
        exact (standing_outside hsystem hstep).trans ih
  exact ⟨N, fun n hn => hidle n (hrest n hn)⟩

variable (pools moves) in
/-- Threads that settle and keep to the order of their locks all end, whatever the scheduler
does, as long as it does not stop to move them while one of them can move. -/
theorem eventually_ended [Finite τ] [Preorder ℓ] [WellFoundedGT ℓ] {Q : ∀ i, ρ i → Set ℓ → Prop}
    (horderly : system.Orderly Q) (hsystem : system.Settles Inv variant)
    (hrun : ∀ n, system.step (pools n) (moves n) = some (pools (n + 1)))
    (hdisciplined : (pools 0).Disciplined Q) (h : Settling Inv variant (pools 0))
    (hbusy : ∀ n, (∃ i, ∀ a, (system.step (pools n) (.thread i a)).isSome) →
      ∃ m ≥ n, ∃ i a, moves m = .thread i a) :
    ∃ N, ∀ i, (pools N).code i = none := by
  have hkept (n : ℕ) : (pools n).Disciplined Q := by
    induction n with
    | zero => exact hdisciplined
    | succ n ih => exact disciplined_step horderly ih (hrun n)
  obtain ⟨N, hidle⟩ := eventually_idle hsystem hrun h
  refine ⟨N, fun i => not_not.mp fun hi => ?_⟩
  obtain ⟨m, hm, j, a, hmove⟩ := hbusy N (exists_isSome_step (hkept N) hi)
  exact hidle m hm j a hmove

end Rest

end LockSystem

end Foundation
