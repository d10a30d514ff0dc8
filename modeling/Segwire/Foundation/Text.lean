import Mathlib.Data.List.Infix
import Mathlib.Data.String.Basic

/-!
# Text operations

Rust's `str` operations that the modelled code applies, read through the list of
characters of a string.

## Main definitions

* `startsWith`, `endsWith`, `containsStr`, `containsChar` — the pattern tests
* `byteLen` — `str::len`, which counts UTF-8 bytes
* `splitOnce` — `str::split_once`
* `parseUnsigned` — `str::parse` at an unsigned integer type
-/

namespace Foundation.Text

/-- `s.starts_with(p)` -/
def startsWith (s p : String) : Bool := p.toList.isPrefixOf s.toList

/-- `s.ends_with(p)` -/
def endsWith (s p : String) : Bool := p.toList.isSuffixOf s.toList

/-- `s.contains(p)` for a string pattern -/
def containsStr (s p : String) : Bool := decide (p.toList <:+: s.toList)

/-- `s.contains(c)` for a character pattern -/
def containsChar (s : String) (c : Char) : Bool := s.toList.contains c

/-- `s.len()`: the number of bytes of the UTF-8 encoding. -/
def byteLen (s : String) : Nat := s.utf8ByteSize

/-- `s.split_once(p)`: the text before and after the first occurrence of `p`. -/
def splitOnce (p : List Char) : List Char → Option (List Char × List Char)
  | [] => if p = [] then some ([], []) else none
  | c :: rest =>
    if p.isPrefixOf (c :: rest) then some ([], (c :: rest).drop p.length)
    else (splitOnce p rest).map fun (before, after) => (c :: before, after)

theorem startsWith_iff {s p : String} : startsWith s p = true ↔ ∃ rest, s = p ++ rest := by
  rw [startsWith, List.isPrefixOf_iff_prefix]
  constructor
  · rintro ⟨rest, hrest⟩
    exact ⟨String.ofList rest, String.toList_inj.mp (by simp [hrest])⟩
  · rintro ⟨rest, rfl⟩
    exact ⟨rest.toList, by simp⟩

@[simp] theorem containsChar_iff {s : String} {c : Char} :
    containsChar s c = true ↔ c ∈ s.toList := by
  simp [containsChar]

@[simp] theorem containsStr_iff {s p : String} :
    containsStr s p = true ↔ p.toList <:+: s.toList := by
  simp [containsStr]

theorem mem_intercalate {sep : List Char} {c : Char} {parts : List (List Char)}
    (hc : c ∈ sep.intercalate parts) : c ∈ sep ∨ ∃ part ∈ parts, c ∈ part := by
  induction parts with
  | nil => cases hc
  | cons part parts ih =>
    cases parts with
    | nil => exact Or.inr ⟨part, List.mem_singleton_self _, by simpa using hc⟩
    | cons next rest =>
      rw [List.intercalate_cons_cons, List.mem_append, List.mem_append] at hc
      rcases hc with (hc | hc) | hc
      · exact Or.inr ⟨part, List.mem_cons_self, hc⟩
      · exact Or.inl hc
      · exact (ih hc).imp id fun ⟨p, hp, hcp⟩ => ⟨p, List.mem_cons_of_mem _ hp, hcp⟩

/-- Joined parts are what lies between the separators; no parts leave one empty part. -/
theorem splitOn_intercalate_eq {sep : Char} {parts : List (List Char)}
    (h : ∀ part ∈ parts, sep ∉ part) :
    ([sep].intercalate parts).splitOn sep = if parts = [] then [[]] else parts := by
  split_ifs with hempty
  · rw [hempty]
    rfl
  · exact List.splitOn_intercalate sep h hempty

theorem mem_intercalate_of_mem {sep part : List Char} {c : Char} {parts : List (List Char)}
    (hpart : part ∈ parts) (hc : c ∈ part) : c ∈ sep.intercalate parts := by
  induction parts with
  | nil => cases hpart
  | cons first parts ih =>
    cases parts with
    | nil => simpa [List.mem_singleton.mp hpart] using hc
    | cons next rest =>
      rw [List.intercalate_cons_cons, List.mem_append]
      rcases List.mem_cons.mp hpart with rfl | hpart
      · exact Or.inl (List.mem_append_left _ hc)
      · exact Or.inr (ih hpart)

/-- A character other than the separator stands in one of the parts. -/
theorem exists_mem_splitOn {s : List Char} (sep : Char) {c : Char} (hc : c ∈ s) (hne : c ≠ sep) :
    ∃ part ∈ s.splitOn sep, c ∈ part := by
  have hjoin : [sep].intercalate (s.splitOn sep) = s := List.intercalate_splitOn sep
  rw [← hjoin] at hc
  exact (mem_intercalate hc).resolve_left (by simpa using hne)

/-- The separator stands in none of the parts. -/
theorem notMem_of_mem_splitOn {s part : List Char} {sep : Char} (h : part ∈ s.splitOn sep) :
    sep ∉ part := by
  induction s generalizing part with
  | nil =>
    obtain rfl := List.mem_singleton.mp h
    exact List.not_mem_nil
  | cons c s ih =>
    rw [List.splitOn_cons_eq_if_modifyHead] at h
    split_ifs at h with hsep
    · rcases List.mem_cons.mp h with rfl | h
      · exact List.not_mem_nil
      · exact ih h
    · obtain ⟨first, rest, hparts⟩ := List.exists_cons_of_ne_nil (List.splitOn_ne_nil sep s)
      rw [hparts, List.modifyHead_cons] at h
      rw [hparts] at ih
      rcases List.mem_cons.mp h with rfl | h
      · rw [List.mem_cons, not_or]
        refine ⟨?_, ih List.mem_cons_self⟩
        rintro rfl
        exact hsep (beq_self_eq_true sep)
      · exact ih (List.mem_cons_of_mem _ h)

theorem splitOnce_singleton_eq_some_iff {s before after : List Char} {c : Char} :
    splitOnce [c] s = some (before, after) ↔ s = before ++ c :: after ∧ c ∉ before := by
  induction s generalizing before after with
  | nil => simp [splitOnce]
  | cons first rest ih =>
    rw [splitOnce]
    by_cases hfirst : first = c
    · subst hfirst
      rw [if_pos (by simp)]
      cases before with
      | nil => simp
      | cons x before =>
        simp only [Option.some.injEq, Prod.mk.injEq, List.cons_append, List.mem_cons]
        constructor
        · rintro ⟨hnil, -⟩
          cases hnil
        · rintro ⟨hsame, hfresh⟩
          exact absurd (.inl (List.cons.inj hsame).1) hfresh
    · rw [if_neg (by simpa using Ne.symm hfirst)]
      cases before with
      | nil => simp [hfirst]
      | cons x before =>
        simp only [Option.map_eq_some_iff, Prod.mk.injEq, List.cons_append, List.cons.injEq,
          List.mem_cons, not_or, Prod.exists, ih]
        constructor
        · rintro ⟨before', after', ⟨rfl, hfresh⟩, ⟨rfl, rfl⟩, rfl⟩
          exact ⟨⟨rfl, rfl⟩, Ne.symm hfirst, hfresh⟩
        · rintro ⟨⟨rfl, rfl⟩, -, hfresh⟩
          exact ⟨before, after, ⟨rfl, hfresh⟩, ⟨rfl, rfl⟩, rfl⟩

/-- A text with one separator is split there. -/
theorem splitOnce_of_splitOn {s before after : List Char} {c : Char}
    (h : s.splitOn c = [before, after]) : splitOnce [c] s = some (before, after) := by
  have hjoin : [c].intercalate (s.splitOn c) = s := List.intercalate_splitOn c
  rw [h] at hjoin
  rw [splitOnce_singleton_eq_some_iff]
  refine ⟨by simpa using hjoin.symm, notMem_of_mem_splitOn (s := s) ?_⟩
  rw [h]
  exact List.mem_cons_self

/-! ### Letters and digits -/

theorem char_le_iff (c d : Char) : c ≤ d ↔ c.toNat ≤ d.toNat :=
  Char.le_def.trans UInt32.le_iff_toNat_le

theorem isDigit_iff_toNat (c : Char) : c.isDigit = true ↔ 48 ≤ c.toNat ∧ c.toNat ≤ 57 := by
  simp [Char.isDigit, UInt32.le_iff_toNat_le]

theorem isUpper_iff_toNat (c : Char) : c.isUpper = true ↔ 65 ≤ c.toNat ∧ c.toNat ≤ 90 := by
  change decide (c.val ≥ 'A'.val ∧ c.val ≤ 'Z'.val) = true ↔ _
  rw [decide_eq_true_eq, ge_iff_le, UInt32.le_iff_toNat_le, UInt32.le_iff_toNat_le]
  rfl

theorem isLower_iff_toNat (c : Char) : c.isLower = true ↔ 97 ≤ c.toNat ∧ c.toNat ≤ 122 := by
  change (decide (c.val ≥ 'a'.val) && decide (c.val ≤ 'z'.val)) = true ↔ _
  rw [Bool.and_eq_true, decide_eq_true_eq, decide_eq_true_eq, ge_iff_le, UInt32.le_iff_toNat_le,
    UInt32.le_iff_toNat_le]
  rfl

theorem isAlpha_iff (c : Char) : c.isAlpha = true ↔ c.isUpper = true ∨ c.isLower = true := by
  change (c.isUpper || c.isLower) = true ↔ _
  rw [Bool.or_eq_true]

theorem isAlphanum_iff (c : Char) : c.isAlphanum = true ↔ c.isAlpha = true ∨ c.isDigit = true := by
  change (c.isAlpha || c.isDigit) = true ↔ _
  rw [Bool.or_eq_true]

/-- An ASCII text has as many bytes as characters. -/
theorem byteLen_ofList_of_ascii {s : List Char} (h : ∀ c ∈ s, c.toNat ≤ 127) :
    byteLen (String.ofList s) = s.length := by
  induction s with
  | nil => rfl
  | cons c s ih =>
    rw [List.forall_mem_cons] at h
    have hsize : c.utf8Size = 1 := Char.utf8Size_eq_one_iff.mpr (UInt32.le_iff_toNat_le.mpr h.1)
    have hrest := ih h.2
    unfold byteLen at hrest ⊢
    rw [String.ofList_cons, String.utf8ByteSize_append, String.utf8ByteSize_singleton, hsize, hrest,
      List.length_cons, Nat.add_comm]

/-- The number that a list of decimal digits denotes. -/
def decimalValue (digits : List Char) : Nat :=
  digits.foldl (fun value digit => 10 * value + (digit.toNat - '0'.toNat)) 0

/-- A non-empty list of decimal digits whose value is at most `max`. -/
def parseDigits (max : Nat) (digits : List Char) : Option Nat :=
  if digits ≠ [] ∧ digits.all Char.isDigit ∧ decimalValue digits ≤ max then
    some (decimalValue digits)
  else none

/-- `s.parse::<T>()` for an unsigned integer type whose largest value is `max`: an
optional plus sign and at least one digit. -/
def parseUnsigned (max : Nat) : List Char → Option Nat
  | '+' :: digits => parseDigits max digits
  | digits => parseDigits max digits

/-- `s.parse::<u8>()` -/
def parseU8 (s : List Char) : Option Nat := parseUnsigned 255 s

/-- `s.parse::<u16>()` -/
def parseU16 (s : List Char) : Option Nat := parseUnsigned 65535 s

/-- `s.parse::<u32>()` -/
def parseU32 (s : List Char) : Option Nat := parseUnsigned (2 ^ 32 - 1) s

theorem isDigit_of_parseDigits {max n : Nat} {digits : List Char}
    (h : parseDigits max digits = some n) {c : Char} (hc : c ∈ digits) : c.isDigit = true := by
  unfold parseDigits at h
  split_ifs at h with hdigits
  exact List.all_eq_true.mp hdigits.2.1 c hc

/-- A parsed number is written with digits and at most a plus sign. -/
theorem eq_plus_or_isDigit_of_parseUnsigned {max n : Nat} {s : List Char}
    (h : parseUnsigned max s = some n) {c : Char} (hc : c ∈ s) : c = '+' ∨ c.isDigit = true := by
  unfold parseUnsigned at h
  split at h
  · rcases List.mem_cons.mp hc with rfl | hc
    · exact Or.inl rfl
    · exact Or.inr (isDigit_of_parseDigits h hc)
  · exact Or.inr (isDigit_of_parseDigits h hc)

/-- A number that fits is read back from its digits. -/
theorem parseUnsigned_toDigits {max n : Nat} (h : n ≤ max) :
    parseUnsigned max (Nat.toDigits 10 n) = some n := by
  have hdigit : ∀ c ∈ Nat.toDigits 10 n, c.isDigit = true := fun c hc =>
    Nat.isDigit_of_mem_toDigits (by omega) le_rfl hc
  have hvalue : decimalValue (Nat.toDigits 10 n) = n := by
    have hread := Nat.ofDigitChars_ten_toDigits (n := n)
    rwa [Nat.ofDigitChars_eq_foldl] at hread
  have hdigits : parseDigits max (Nat.toDigits 10 n) = some n := by
    rw [parseDigits, hvalue,
      if_pos ⟨Nat.toDigits_ne_nil, List.all_eq_true.mpr hdigit, h⟩]
  unfold parseUnsigned
  split
  · rename_i digits heq
    have hplus := hdigit (Char.ofNat 43) (heq ▸ List.mem_cons_self)
    cases hplus
  · exact hdigits

/-- Different numbers are displayed differently. -/
theorem toString_nat_injective {m n : Nat} (h : toString m = toString n) : m = n := by
  have hdigits : Nat.toDigits 10 m = Nat.toDigits 10 n := by
    rw [← Nat.toList_repr, ← Nat.toList_repr]
    exact congrArg String.toList h
  have hread := congrArg (Nat.ofDigitChars 10 · 0) hdigits
  rwa [Nat.ofDigitChars_ten_toDigits, Nat.ofDigitChars_ten_toDigits] at hread

end Foundation.Text
