import Mathlib.Computability.Language

/-!
# Regular expressions over classes of letters

A regular expression without captures is a language built from classes of letters by
concatenation, alternative and repetition. These are the operations of `Language`; what
is added here are the classes, and two shapes that validators use.

## Main definitions

* `Regex.charClass` — the one-letter words over a class
* `Regex.optional`, `Regex.separated` — the forms `e?` and `e(s e)*`

## Main results

* `Regex.mem_kstar_charClass_iff` — a repeated class
* `Regex.mem_separated_iff` — items between separators
-/

namespace Foundation.Regex

open Computability

variable {α : Type*} {p q : α → Bool} {word : List α}

/-- The one-letter words over a class of letters. -/
def charClass (p : α → Bool) : Language α := {word | ∃ a, p a = true ∧ word = [a]}

/-- `e?` -/
def optional (item : Language α) : Language α := 1 + item

/-- `e(s e)*` -/
def separated [BEq α] (sep : α) (item : Language α) : Language α :=
  item * (charClass (· == sep) * item)∗

theorem mem_optional_iff {item : Language α} : word ∈ optional item ↔ word = [] ∨ word ∈ item := by
  rw [optional, Language.mem_add, Language.mem_one]

theorem mem_charClass_mul_iff {item : Language α} :
    word ∈ charClass p * item ↔ ∃ a rest, p a = true ∧ rest ∈ item ∧ word = a :: rest := by
  rw [Language.mem_mul]
  constructor
  · rintro ⟨_, ⟨a, ha, rfl⟩, rest, hrest, rfl⟩
    exact ⟨a, rest, ha, hrest, rfl⟩
  · rintro ⟨a, rest, ha, hrest, rfl⟩
    exact ⟨[a], ⟨a, ha, rfl⟩, rest, hrest, rfl⟩

theorem mem_mul_charClass_iff {item : Language α} :
    word ∈ item * charClass p ↔ ∃ rest a, rest ∈ item ∧ p a = true ∧ word = rest ++ [a] := by
  rw [Language.mem_mul]
  constructor
  · rintro ⟨rest, hrest, _, ⟨a, ha, rfl⟩, rfl⟩
    exact ⟨rest, a, hrest, ha, rfl⟩
  · rintro ⟨rest, a, hrest, ha, rfl⟩
    exact ⟨rest, hrest, [a], ⟨a, ha, rfl⟩, rfl⟩

/-- The words over a class of letters. -/
theorem mem_kstar_charClass_iff : word ∈ (charClass p)∗ ↔ ∀ a ∈ word, p a = true := by
  rw [Language.mem_kstar]
  constructor
  · rintro ⟨letters, rfl, hletters⟩ a ha
    obtain ⟨letter, hletter, hmem⟩ := List.mem_flatten.mp ha
    obtain ⟨b, hb, rfl⟩ := hletters letter hletter
    rwa [List.mem_singleton.mp hmem]
  · intro h
    refine ⟨word.map fun a => [a], ?_, ?_⟩
    · rw [← List.flatMap_def, List.flatMap_singleton']
    · intro letter hletter
      obtain ⟨a, ha, rfl⟩ := List.mem_map.mp hletter
      exact ⟨a, h a ha, rfl⟩

section Separated

variable [BEq α] [LawfulBEq α] {sep : α} {item : Language α}

/-- One more item in front. -/
theorem cons_mem_separated {first rest : List α} (hfirst : first ∈ item)
    (hrest : rest ∈ separated sep item) : first ++ sep :: rest ∈ separated sep item := by
  obtain ⟨second, hsecond, tail, htail, rfl⟩ := Language.mem_mul.mp hrest
  obtain ⟨blocks, rfl, hblocks⟩ := Language.mem_kstar.mp htail
  have hblock : sep :: second ∈ charClass (· == sep) * item :=
    mem_charClass_mul_iff.mpr ⟨sep, second, beq_self_eq_true sep, hsecond, rfl⟩
  refine Language.mem_mul.mpr ⟨first, hfirst, ((sep :: second) :: blocks).flatten, ?_, rfl⟩
  exact Language.join_mem_kstar (List.forall_mem_cons.mpr ⟨hblock, hblocks⟩)

/-- The words of `e(s e)*` are the items joined by the separator. -/
theorem mem_separated_iff :
    word ∈ separated sep item ↔
      ∃ parts : List (List α), parts ≠ [] ∧ (∀ part ∈ parts, part ∈ item) ∧
        word = [sep].intercalate parts := by
  constructor
  · intro h
    obtain ⟨first, hfirst, tail, htail, rfl⟩ := Language.mem_mul.mp h
    obtain ⟨blocks, rfl, hblocks⟩ := Language.mem_kstar.mp htail
    clear h htail
    -- every block is a separator and an item, which becomes the first one of the rest
    induction blocks generalizing first with
    | nil => exact ⟨[first], List.cons_ne_nil _ _, by simpa using hfirst, by simp⟩
    | cons block blocks ih =>
      rw [List.forall_mem_cons] at hblocks
      obtain ⟨b, second, hb, hsecond, rfl⟩ := mem_charClass_mul_iff.mp hblocks.1
      obtain rfl := eq_of_beq hb
      obtain ⟨parts, hne, hparts, heq⟩ := ih second hsecond hblocks.2
      obtain ⟨next, rest, rfl⟩ := List.exists_cons_of_ne_nil hne
      refine ⟨first :: next :: rest, List.cons_ne_nil _ _,
        List.forall_mem_cons.mpr ⟨hfirst, hparts⟩, ?_⟩
      rw [List.intercalate_cons_cons, ← heq, List.flatten_cons]
      simp
  · rintro ⟨parts, hne, hparts, rfl⟩
    induction parts with
    | nil => exact absurd rfl hne
    | cons first parts ih =>
      rw [List.forall_mem_cons] at hparts
      cases parts with
      | nil =>
        rw [List.intercalate_singleton]
        exact Language.mem_mul.mpr
          ⟨first, hparts.1, [], Language.nil_mem_kstar _, List.append_nil first⟩
      | cons next rest =>
        rw [List.intercalate_cons_cons, List.append_assoc]
        exact cons_mem_separated hparts.1 (ih (List.cons_ne_nil _ _) hparts.2)

end Separated

end Foundation.Regex
