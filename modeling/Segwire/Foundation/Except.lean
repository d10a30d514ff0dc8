import Mathlib.Data.List.Forall2

/-!
# Results

Rules for computations in `Except`, Rust's `Result`: when a sequence, a loop or a
computation with a translated error succeeds.

## Main results

* `Except.bind_eq_ok_iff`, `Except.map_eq_ok_iff`, `Except.mapError_eq_ok_iff` — sequencing,
  `map` and `map_err`
* `Except.forM_eq_ok_iff` — a loop of checks succeeds iff every check does
* `Except.mapM_eq_ok_iff` — a loop that rewrites a list succeeds iff every element
  can be rewritten
-/

namespace Foundation.Except

variable {ε ε' α β : Type}

theorem bind_eq_ok_iff {x : Except ε α} {f : α → Except ε β} {b : β} :
    (x >>= f) = .ok b ↔ ∃ a, x = .ok a ∧ f a = .ok b := by
  cases x with
  | error e => simp [bind, Except.bind]
  | ok a => simp [bind, Except.bind]

/-- Sequencing after a check. -/
theorem check_bind_eq_ok_iff {x : Except ε Unit} {f : Unit → Except ε β} {b : β} :
    (x >>= f) = .ok b ↔ x = .ok () ∧ f () = .ok b := by
  rw [bind_eq_ok_iff]
  constructor
  · rintro ⟨⟨⟩, hx, hf⟩
    exact ⟨hx, hf⟩
  · rintro ⟨hx, hf⟩
    exact ⟨(), hx, hf⟩

/-- A step that succeeds leaves the rest of the computation. -/
theorem exists_bind_eq_ok {x : Except ε α} {f : α → Except ε β} {a : α} (hx : x = .ok a)
    (h : ∃ b, f a = .ok b) : ∃ b, (x >>= f) = .ok b := by
  rw [hx]
  exact h

theorem toBool_eq_true_iff {x : Except ε Unit} : x.toBool = true ↔ x = .ok () := by
  cases x <;> simp [Except.toBool]

theorem toBool_eq_false_iff {x : Except ε Unit} : x.toBool = false ↔ ∃ e, x = .error e := by
  cases x <;> simp [Except.toBool]

theorem isSome_toOption_iff {x : Except ε α} : x.toOption.isSome = true ↔ ∃ a, x = .ok a := by
  cases x <;> simp [Except.toOption]

theorem map_eq_ok_iff {x : Except ε α} {f : α → β} {b : β} :
    x.map f = .ok b ↔ ∃ a, x = .ok a ∧ f a = b := by
  cases x <;> simp [Except.map]

@[simp] theorem mapError_eq_ok_iff {x : Except ε α} {f : ε → ε'} {a : α} :
    x.mapError f = .ok a ↔ x = .ok a := by
  cases x <;> simp [Except.mapError]

@[simp] theorem ok_bind (a : α) (f : α → Except ε β) : (.ok a >>= f) = f a := rfl

@[simp] theorem error_bind (e : ε) (f : α → Except ε β) : (.error e >>= f) = .error e := rfl

@[simp] theorem pure_eq_ok_iff {a b : α} : (pure a : Except ε α) = .ok b ↔ a = b :=
  Except.ok.injEq a b ▸ Iff.rfl

theorem forM_eq_ok_iff {xs : List α} {check : α → Except ε Unit} :
    forM xs check = .ok () ↔ ∀ x ∈ xs, check x = .ok () := by
  induction xs with
  | nil => simp [pure, Except.pure]
  | cons x xs ih =>
    rw [List.forM_cons, check_bind_eq_ok_iff, ih, List.forall_mem_cons]

theorem mapM_eq_ok_iff {xs : List α} {f : α → Except ε β} {ys : List β} :
    xs.mapM f = .ok ys ↔ List.Forall₂ (fun x y => f x = .ok y) xs ys := by
  induction xs generalizing ys with
  | nil => simp [pure, Except.pure, eq_comm]
  | cons x xs ih =>
    rw [List.mapM_cons, bind_eq_ok_iff]
    constructor
    · rintro ⟨y, hy, h⟩
      obtain ⟨rest, hrest, h⟩ := bind_eq_ok_iff.mp h
      obtain rfl := pure_eq_ok_iff.mp h
      exact .cons hy (ih.mp hrest)
    · intro h
      cases h with
      | cons hy hrest =>
        exact ⟨_, hy, bind_eq_ok_iff.mpr ⟨_, ih.mpr hrest, rfl⟩⟩

/-- A rewriting loop that can keep every element keeps the list. -/
theorem mapM_eq_self {xs : List α} {f : α → Except ε α} (h : ∀ x ∈ xs, f x = .ok x) :
    xs.mapM f = .ok xs :=
  mapM_eq_ok_iff.mpr (List.forall₂_same.mpr h)

/-- A rewriting loop can end in a list of good elements iff every element can be
rewritten into a good one. -/
theorem exists_mapM_eq_ok_iff {xs : List α} {f : α → Except ε β} {P : β → Prop} :
    (∃ ys, xs.mapM f = .ok ys ∧ ∀ y ∈ ys, P y) ↔ ∀ x ∈ xs, ∃ y, f x = .ok y ∧ P y := by
  simp only [mapM_eq_ok_iff]
  induction xs with
  | nil => simp
  | cons x xs ih =>
    rw [List.forall_mem_cons, ← ih]
    constructor
    · rintro ⟨ys, hys, hgood⟩
      cases hys with
      | cons hy hrest =>
        rw [List.forall_mem_cons] at hgood
        exact ⟨⟨_, hy, hgood.1⟩, _, hrest, hgood.2⟩
    · rintro ⟨⟨y, hy, hPy⟩, ys, hrest, hgood⟩
      exact ⟨y :: ys, .cons hy hrest, List.forall_mem_cons.mpr ⟨hPy, hgood⟩⟩

end Foundation.Except
