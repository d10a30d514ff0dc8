import Mathlib.Data.List.Basic

/-!
# Byte offsets

Offsets into Rust's strings count the bytes of the UTF-8 encoding, and a string is only cut
between two characters.

## Main definitions

* `byteSize` — the number of bytes of a text
* `splitAtByte` — `str::split_at_checked`
* `sliceBytes`, `replaceByteRange` — a range of a text, and `String::replace_range`

## Main results

* `sliceBytes_append`, `replaceByteRange_append` — the range of a part of a text
-/

namespace Foundation.Text

/-- The number of bytes of a text. -/
def byteSize : List Char → Nat
  | [] => 0
  | c :: rest => c.utf8Size + byteSize rest

@[simp] theorem byteSize_append (a b : List Char) :
    byteSize (a ++ b) = byteSize a + byteSize b := by
  induction a with
  | nil => simp [byteSize]
  | cons c a ih =>
    rw [List.cons_append, byteSize, byteSize, ih]
    omega

/-- The text before and after an offset, unless it lies inside of a character or behind the
end. -/
def splitAtByte : Nat → List Char → Option (List Char × List Char)
  | 0, text => some ([], text)
  | _ + 1, [] => none
  | n + 1, c :: rest =>
    if c.utf8Size ≤ n + 1 then
      (splitAtByte (n + 1 - c.utf8Size) rest).map fun (before, after) => (c :: before, after)
    else none

theorem splitAtByte_append (a b : List Char) : splitAtByte (byteSize a) (a ++ b) = some (a, b) := by
  induction a with
  | nil => simp [byteSize, splitAtByte]
  | cons c a ih =>
    obtain ⟨n, hn⟩ : ∃ n, c.utf8Size + byteSize a = n + 1 :=
      Nat.exists_eq_add_one.mpr (by have := c.utf8Size_pos; omega)
    have hrest : n + 1 - c.utf8Size = byteSize a := by omega
    rw [byteSize, hn, List.cons_append, splitAtByte, if_pos (by omega), hrest, ih]
    rfl

/-- `&text[start..stop]`, which panics where this is `none`. -/
def sliceBytes (text : List Char) (start stop : Nat) : Option (List Char) := do
  let (before, _) ← splitAtByte stop text
  let (_, inside) ← splitAtByte start before
  if start ≤ stop then some inside else none

/-- A part of a text is cut out as a whole. -/
theorem sliceBytes_append (a b c : List Char) :
    sliceBytes (a ++ b ++ c) (byteSize a) (byteSize a + byteSize b) = some b := by
  have hstop : splitAtByte (byteSize a + byteSize b) (a ++ b ++ c) = some (a ++ b, c) := by
    rw [← byteSize_append, splitAtByte_append]
  rw [sliceBytes, hstop]
  change (splitAtByte (byteSize a) (a ++ b)).bind _ = _
  rw [splitAtByte_append]
  exact if_pos (Nat.le_add_right _ _)

/-- `text.replace_range(start..stop, substitution)`, which panics where this is `none`. -/
def replaceByteRange (text : List Char) (start stop : Nat) (substitution : List Char) :
    Option (List Char) := do
  let (before, _) ← splitAtByte start text
  let (_, after) ← splitAtByte stop text
  if start ≤ stop then some (before ++ substitution ++ after) else none

/-- The range of a part of a text is replaced as a whole, and the rest is kept. -/
theorem replaceByteRange_append (a b c substitution : List Char) :
    replaceByteRange (a ++ b ++ c) (byteSize a) (byteSize a + byteSize b) substitution =
      some (a ++ substitution ++ c) := by
  have hstart : splitAtByte (byteSize a) (a ++ b ++ c) = some (a, b ++ c) := by
    rw [List.append_assoc, splitAtByte_append]
  have hstop : splitAtByte (byteSize a + byteSize b) (a ++ b ++ c) = some (a ++ b, c) := by
    rw [← byteSize_append, splitAtByte_append]
  rw [replaceByteRange, hstart, hstop]
  exact if_pos (Nat.le_add_right _ _)

end Foundation.Text
