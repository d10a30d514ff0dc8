import Mathlib.Data.String.Basic

/-!
# Base64 decoding

The standard alphabet with canonical padding, as the `base64` crate's `STANDARD`
engine decodes it: the input is a sequence of groups of four characters, only the
last group may be padded, and the bits that padding leaves over must be zero.

## Main definitions

* `Base64.decode` — the bytes of a well-formed text

## Main results

* `Base64.isSymbol_of_decode` — a text that decodes is written in the alphabet
-/

namespace Foundation.Base64

/-- The six bits that a character of the alphabet stands for. -/
def sextet (c : Char) : Option Nat :=
  if 'A' ≤ c ∧ c ≤ 'Z' then some (c.toNat - 'A'.toNat)
  else if 'a' ≤ c ∧ c ≤ 'z' then some (c.toNat - 'a'.toNat + 26)
  else if '0' ≤ c ∧ c ≤ '9' then some (c.toNat - '0'.toNat + 52)
  else if c = '+' then some 62
  else if c = '/' then some 63
  else none

/-- A character of the alphabet or of the padding. -/
def isSymbol (c : Char) : Bool := (sextet c).isSome || c == '='

/-- The bytes of a padded or complete last group. -/
def decodeLast (a b c d : Char) : Option (List Nat) := do
  let x ← sextet a
  let y ← sextet b
  if c = '=' then
    -- one byte: the low bits of the second sextet are left over
    if d = '=' ∧ y % 16 = 0 then some [x * 4 + y / 16] else none
  else
    let z ← sextet c
    if d = '=' then
      -- two bytes: the low bits of the third sextet are left over
      if z % 4 = 0 then some [x * 4 + y / 16, y % 16 * 16 + z / 4] else none
    else
      let w ← sextet d
      some [x * 4 + y / 16, y % 16 * 16 + z / 4, z % 4 * 64 + w]

/-- The three bytes of a complete group. -/
def decodeGroup (a b c d : Char) : Option (List Nat) := do
  let x ← sextet a
  let y ← sextet b
  let z ← sextet c
  let w ← sextet d
  some [x * 4 + y / 16, y % 16 * 16 + z / 4, z % 4 * 64 + w]

/-- `STANDARD.decode(text)` -/
def decode : List Char → Option (List Nat)
  | [] => some []
  | [a, b, c, d] => decodeLast a b c d
  | a :: b :: c :: d :: rest => do
    let bytes ← decodeGroup a b c d
    let more ← decode rest
    some (bytes ++ more)
  | _ => none

theorem isSymbol_of_sextet {c : Char} {n : Nat} (h : sextet c = some n) : isSymbol c = true := by
  simp [isSymbol, h]

theorem isSymbol_of_decodeLast {a b c d : Char} {bytes : List Nat}
    (h : decodeLast a b c d = some bytes) : ∀ x ∈ [a, b, c, d], isSymbol x = true := by
  unfold decodeLast at h
  simp only [Option.bind_eq_bind, Option.bind_eq_some_iff] at h
  obtain ⟨x, ha, y, hb, h⟩ := h
  have hequals : isSymbol '=' = true := by decide
  have hcd : isSymbol c = true ∧ isSymbol d = true := by
    by_cases hc : c = '='
    · rw [if_pos hc] at h
      split_ifs at h with hd
      exact ⟨hc ▸ hequals, hd.1 ▸ hequals⟩
    · rw [if_neg hc] at h
      obtain ⟨z, hz, h⟩ := Option.bind_eq_some_iff.mp h
      refine ⟨isSymbol_of_sextet hz, ?_⟩
      by_cases hd : d = '='
      · exact hd ▸ hequals
      · rw [if_neg hd] at h
        obtain ⟨w, hw, -⟩ := Option.bind_eq_some_iff.mp h
        exact isSymbol_of_sextet hw
  simp [isSymbol_of_sextet ha, isSymbol_of_sextet hb, hcd]

theorem isSymbol_of_decodeGroup {a b c d : Char} {bytes : List Nat}
    (h : decodeGroup a b c d = some bytes) : ∀ x ∈ [a, b, c, d], isSymbol x = true := by
  unfold decodeGroup at h
  simp only [Option.bind_eq_bind, Option.bind_eq_some_iff] at h
  obtain ⟨x, ha, y, hb, z, hc, w, hd, -⟩ := h
  simp [isSymbol_of_sextet ha, isSymbol_of_sextet hb, isSymbol_of_sextet hc, isSymbol_of_sextet hd]

/-- Every character of a text that decodes belongs to the alphabet or the padding. -/
theorem isSymbol_of_decode {text : List Char} {bytes : List Nat} (h : decode text = some bytes)
    {c : Char} (hc : c ∈ text) : isSymbol c = true := by
  -- group by group, as `decode` reads the text; only the last group may be padded
  induction text using decode.induct generalizing bytes with
  | case1 => cases hc
  | case2 a b c' d => exact isSymbol_of_decodeLast h c hc
  | case3 a b c' d rest hrest ih =>
    rw [decode] at h
    · simp only [Option.bind_eq_bind, Option.bind_eq_some_iff] at h
      obtain ⟨group, hgroup, more, hmore, -⟩ := h
      have hsplit : c ∈ [a, b, c', d] ∨ c ∈ rest := by
        simpa [or_assoc] using hc
      rcases hsplit with hc | hc
      · exact isSymbol_of_decodeGroup hgroup c hc
      · exact ih hmore hc
    · exact hrest
  | case4 text h1 h2 h3 =>
    rw [decode] at h
    · cases h
    all_goals assumption

end Foundation.Base64
