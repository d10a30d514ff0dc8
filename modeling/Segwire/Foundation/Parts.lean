import Mathlib.Data.List.Forall2

/-!
# Values and their parts

A value has parts of one type, in an order, and something is left of it when the parts are
blanked. Values with the same rest are related if their parts are, and a value is determined
by its parts and its rest if the rest fixes how many parts there are.

## Main definitions

* `RelatedAlong` — related parts and the same rest
* `DeterminedBy` — a value is determined by its parts and its rest

## Main results

* `RelatedAlong.list`, `RelatedAlong.option` — related elements
* `DeterminedBy.list`, `DeterminedBy.option` — a list has the parts of its elements
-/

namespace Foundation

variable {α β A : Type*} {parts : α → List A} {blank : α → β} {R : A → A → Prop} {a₀ : A}

/-! ### Related values -/

/-- The parts of two values are related, and nothing else is different. -/
structure RelatedAlong (parts : α → List A) (blank : α → β) (R : A → A → Prop) (x y : α) :
    Prop where
  parts : List.Forall₂ R (parts x) (parts y)
  blank : blank x = blank y

namespace RelatedAlong

theorem list {xs ys : List α} (h : List.Forall₂ (RelatedAlong parts blank R) xs ys) :
    RelatedAlong (List.flatMap parts) (List.map blank) R xs ys := by
  induction h with
  | nil => exact ⟨.nil, rfl⟩
  | cons hhead _ ih =>
    constructor
    · rw [List.flatMap_cons, List.flatMap_cons]
      exact List.rel_append hhead.parts ih.parts
    · rw [List.map_cons, List.map_cons, hhead.blank, ih.blank]

theorem option {x y : α} (h : RelatedAlong parts blank R x y) :
    RelatedAlong (fun z : Option α => z.toList.flatMap parts) (Option.map blank) R (some x)
      (some y) where
  parts := by
    rw [Option.toList_some, Option.toList_some, List.flatMap_singleton, List.flatMap_singleton]
    exact h.parts
  blank := congrArg some h.blank

/-- A list whose elements are the parts. -/
theorem elements {xs ys : List A} (h : List.Forall₂ R xs ys) :
    RelatedAlong id (List.map fun _ => a₀) R xs ys where
  parts := h
  blank := by
    induction h with
    | nil => rfl
    | cons _ _ ih => rw [List.map_cons, List.map_cons, ih]

end RelatedAlong

/-! ### Values that are determined -/

/-- A value is determined by its parts and by what is left without them, which fixes how many
parts there are. -/
structure DeterminedBy (parts : α → List A) (blank : α → β) : Prop where
  length : ∀ x y, blank x = blank y → (parts x).length = (parts y).length
  ext : ∀ x y, blank x = blank y → parts x = parts y → x = y

namespace DeterminedBy

theorem list (h : DeterminedBy parts blank) :
    DeterminedBy (List.flatMap parts) (List.map blank) where
  length xs ys hblank := by
    have hlengths : xs.map (fun x => (parts x).length) = ys.map fun y => (parts y).length := by
      induction xs generalizing ys with
      | nil => rw [List.map_eq_nil_iff.mp hblank.symm]
      | cons x xs ih =>
        obtain ⟨y, ys, rfl, hhead, htail⟩ := List.map_eq_cons_iff.mp hblank.symm
        rw [List.map_cons, List.map_cons, h.length x y hhead.symm, ih ys htail.symm]
    rw [List.length_flatMap, List.length_flatMap, hlengths]
  ext xs ys hblank hparts := by
    induction xs generalizing ys with
    | nil => exact (List.map_eq_nil_iff.mp hblank.symm).symm
    | cons x xs ih =>
      obtain ⟨y, ys, rfl, hhead, htail⟩ := List.map_eq_cons_iff.mp hblank.symm
      rw [List.flatMap_cons, List.flatMap_cons] at hparts
      obtain ⟨hx, hxs⟩ := List.append_inj hparts (h.length x y hhead.symm)
      rw [h.ext x y hhead.symm hx, ih ys htail.symm hxs]

theorem option (h : DeterminedBy parts blank) :
    DeterminedBy (fun x : Option α => x.toList.flatMap parts) (Option.map blank) where
  length x y hblank := by
    apply h.list.length
    rw [← Option.toList_map, ← Option.toList_map, hblank]
  ext x y hblank hparts := by
    cases x with
    | none => exact (Option.map_eq_none_iff.mp hblank.symm).symm
    | some x =>
      obtain ⟨y, rfl, hxy⟩ := Option.map_eq_some_iff.mp hblank.symm
      rw [Option.toList_some, Option.toList_some, List.flatMap_singleton,
        List.flatMap_singleton] at hparts
      rw [h.ext _ _ hxy.symm hparts]

/-- A list is determined by its elements. -/
theorem elements (a₀ : A) : DeterminedBy id (List.map fun _ : A => a₀) where
  length xs ys hblank := by simpa using congrArg List.length hblank
  ext _ _ _ hparts := hparts

/-- So is an optional value. -/
theorem toList (a₀ : A) : DeterminedBy Option.toList (Option.map fun _ : A => a₀) where
  length x y hblank := by
    have hsome := congrArg Option.isSome hblank
    rw [Option.isSome_map, Option.isSome_map] at hsome
    rw [Option.length_toList, Option.length_toList, hsome]
  ext x y _ hparts := by
    cases x with
    | none => exact (Option.toList_eq_nil_iff.mp hparts.symm).symm
    | some a => exact (Option.toList_eq_singleton_iff.mp hparts.symm).symm

end DeterminedBy

end Foundation
