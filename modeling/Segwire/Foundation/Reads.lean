import Mathlib.Data.List.Basic

/-!
# Reading a buffer by index

A computation over a buffer asks for positions, and panics when it asks for one that does not
exist. Here it is a result together with the positions it asked for, so that it can be said
how far into the buffer a computation looks.

## Main definitions

* `Reads` — the positions asked for and the result
* `Reads.byte`, `Reads.slice` — a single position and a range
* `Reads.Below` — every position lies below a bound
* `Reads.Agree` — two computations do the same from some point on

## Main results

* `Reads.below_bind_iff`, `Reads.result_bind` — sequencing
-/

namespace Foundation

/-- The positions that a computation asks for, in order, and its result unless it panics. -/
structure Reads (α : Type) where
  indices : List Nat
  result : Option α

namespace Reads

variable {α β σ : Type}

/-- No further position is asked for after a panic. -/
protected def bind (x : Reads α) (f : α → Reads β) : Reads β :=
  match x.result with
  | none => ⟨x.indices, none⟩
  | some a => ⟨x.indices ++ (f a).indices, (f a).result⟩

instance : Monad Reads where
  pure a := ⟨[], some a⟩
  bind := Reads.bind

/-- `buf[i]` -/
def byte (buf : List σ) (i : Nat) : Reads σ := ⟨[i], buf[i]?⟩

/-- `&buf[start..stop]` -/
def slice (buf : List σ) (start stop : Nat) : Reads (List σ) where
  indices := List.range' start (stop - start)
  result :=
    if start ≤ stop ∧ stop ≤ buf.length then some ((buf.drop start).take (stop - start)) else none

/-- Every position asked for lies below `n`. -/
def Below (n : Nat) (x : Reads α) : Prop := ∀ i ∈ x.indices, i < n

variable {x : Reads α} {f : α → Reads β} {a : α} {n : Nat}

@[simp] theorem result_pure (a : α) : (pure a : Reads α).result = some a := rfl

@[simp] theorem result_bind : (x >>= f).result = x.result.bind fun a => (f a).result := by
  change (Reads.bind x f).result = _
  unfold Reads.bind
  cases x.result <;> rfl

theorem result_bind_of_eq (h : x.result = some a) : (x >>= f).result = (f a).result := by
  rw [result_bind, h, Option.bind_some]

@[simp] theorem below_pure (a : α) : (pure a : Reads α).Below n := fun _ hi => nomatch hi

/-- A computation stays below a bound if its first part does, and then the rest. -/
theorem below_bind_iff :
    (x >>= f).Below n ↔ x.Below n ∧ ∀ a, x.result = some a → (f a).Below n := by
  change (Reads.bind x f).Below n ↔ _
  unfold Reads.bind
  cases hresult : x.result with
  | none =>
    rw [and_iff_left fun _ h => nomatch h]
    rfl
  | some a =>
    simp only [Below, List.forall_mem_append, Option.some.injEq, forall_eq']

theorem below_bind (hx : x.Below n) (hf : ∀ a, x.result = some a → (f a).Below n) :
    (x >>= f).Below n := below_bind_iff.mpr ⟨hx, hf⟩

theorem below_byte_iff {buf : List σ} {i : Nat} : (byte buf i).Below n ↔ i < n :=
  List.forall_mem_singleton

theorem result_byte {buf : List σ} {i : Nat} (h : i < buf.length) :
    (byte buf i).result = some buf[i] := List.getElem?_eq_getElem h

theorem below_slice {buf : List σ} {start stop : Nat} (h : stop ≤ n) :
    (slice buf start stop).Below n := by
  intro i hi
  obtain ⟨hlow, hhigh⟩ := List.mem_range'_1.mp hi
  omega

theorem result_slice {buf : List σ} {start stop : Nat} (hle : start ≤ stop)
    (hstop : stop ≤ buf.length) :
    (slice buf start stop).result = some ((buf.drop start).take (stop - start)) :=
  if_pos ⟨hle, hstop⟩

/-! ### Computations that differ in earlier reads -/

/-- The two computations have the same result, and stay both below the bound or neither. -/
def Agree (n : Nat) (x y : Reads α) : Prop := x.result = y.result ∧ (x.Below n ↔ y.Below n)

theorem agree_refl (x : Reads α) : Agree n x x := ⟨rfl, Iff.rfl⟩

theorem Agree.trans {y z : Reads α} (h : Agree n x y) (h' : Agree n y z) : Agree n x z :=
  ⟨h.1.trans h'.1, h.2.trans h'.2⟩

/-- What a computation reads first makes no difference if it stays below the bound. -/
theorem agree_bind (hresult : x.result = some a) (hbelow : x.Below n) :
    Agree n (x >>= f) (f a) := by
  refine ⟨result_bind_of_eq hresult, below_bind_iff.trans ?_⟩
  rw [hresult, and_iff_right hbelow]
  exact ⟨fun h => h a rfl, fun h b hb => Option.some.inj hb ▸ h⟩

end Reads

end Foundation
