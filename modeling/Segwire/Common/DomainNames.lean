import Segwire.Common.Utils
import Segwire.Foundation.Regex

/-!
# The grammar of domain names

A domain name is checked by a regular expression, with a limit on its whole length and one
on the length of each label. Together they accept the labels of a host name, joined by dots
and with one more dot allowed at the end.

## Main definitions

* `labelRegex`, `domainRegex` — the regular expression of the check
* `IsLabel`, `IsDomainName` — the grammar

## Main results

* `all_labelPattern_iff_mem_domainRegex` — the parts between the dots decide the expression
* `validateDomainName_eq_ok_iff` — the check accepts the grammar
-/

namespace Segwire.Common

open Computability Foundation Foundation.Text Foundation.Regex

/-- `[a-zA-Z0-9]([a-zA-Z0-9-]*[a-zA-Z0-9])?` -/
def labelRegex : Language Char :=
  charClass Char.isAlphanum * optional ((charClass isNameChar)∗ * charClass Char.isAlphanum)

/-- `^[a-zA-Z0-9]([a-zA-Z0-9-]*[a-zA-Z0-9])?(\.[a-zA-Z0-9]([a-zA-Z0-9-]*[a-zA-Z0-9])?)*$` -/
def domainRegex : Language Char := separated '.' labelRegex

/-- A label has 1 to 63 ASCII letters, digits and hyphens, with no hyphen at either end. -/
structure IsLabel (label : List Char) : Prop where
  nonempty : 1 ≤ label.length
  short : label.length ≤ 63
  chars : ∀ c ∈ label, c.isAlpha ∨ c.isDigit ∨ c = '-'
  first : label.head? ≠ some '-'
  last : label.getLast? ≠ some '-'

/-- At least one label, the labels separated by dots and followed by at most one dot. -/
def IsDomainName (domain : String) : Prop :=
  ∃ labels : List (List Char), labels ≠ [] ∧ (∀ label ∈ labels, IsLabel label) ∧
    (domain.toList = ['.'].intercalate labels ∨ domain.toList = ['.'].intercalate labels ++ ['.'])

theorem isNameChar_iff {c : Char} : isNameChar c = true ↔ c.isAlphanum = true ∨ c = '-' := by
  rw [isNameChar, Bool.or_eq_true, beq_iff_eq]

theorem isAlphanum_iff_isNameChar {c : Char} :
    c.isAlphanum = true ↔ isNameChar c = true ∧ c ≠ '-' := by
  rw [isNameChar_iff]
  constructor
  · intro h
    refine ⟨.inl h, ?_⟩
    rintro rfl
    exact absurd h (by decide)
  · rintro ⟨h, hne⟩
    exact h.resolve_right hne

theorem toNat_le_of_isNameChar {c : Char} (h : isNameChar c = true) : c.toNat ≤ 127 := by
  rw [isNameChar_iff, isAlphanum_iff, isAlpha_iff, isUpper_iff_toNat, isLower_iff_toNat,
    isDigit_iff_toNat] at h
  rcases h with h | rfl
  · omega
  · decide

/-- The pattern as three conditions on the characters. -/
theorem labelPattern_iff {label : List Char} :
    labelPattern label = true ↔
      (∀ c ∈ label, isNameChar c = true) ∧ (∃ c, label.head? = some c ∧ c.isAlphanum = true) ∧
        ∃ c, label.getLast? = some c ∧ c.isAlphanum = true := by
  simp only [labelPattern, Bool.and_eq_true, List.all_eq_true, Option.any_eq_true, and_assoc]

/-- A label that ends in the character it starts with, or goes on to another one. -/
theorem mem_labelRegex_iff {label : List Char} :
    label ∈ labelRegex ↔ labelPattern label = true := by
  rw [labelRegex, mem_charClass_mul_iff, labelPattern_iff]
  simp only [mem_optional_iff, mem_mul_charClass_iff, mem_kstar_charClass_iff]
  constructor
  · rintro ⟨a, rest, ha, hrest, rfl⟩
    have hname : isNameChar a = true := (isAlphanum_iff_isNameChar.mp ha).1
    rcases hrest with rfl | ⟨middle, b, hmiddle, hb, rfl⟩
    · exact ⟨by simpa using hname, ⟨a, rfl, ha⟩, a, rfl, ha⟩
    · have hnameb : isNameChar b = true := (isAlphanum_iff_isNameChar.mp hb).1
      refine ⟨?_, ⟨a, rfl, ha⟩, b, ?_, hb⟩
      · intro c hc
        rw [List.mem_cons, List.mem_append, List.mem_singleton] at hc
        rcases hc with rfl | hc | rfl
        · exact hname
        · exact hmiddle c hc
        · exact hnameb
      · rw [← List.cons_append, List.getLast?_concat]
  · rintro ⟨hchars, ⟨a, hhead, ha⟩, b, hlast, hb⟩
    obtain ⟨rest, rfl⟩ := List.head?_eq_some_iff.mp hhead
    refine ⟨a, rest, ha, ?_, rfl⟩
    rcases List.eq_nil_or_concat rest with rfl | ⟨middle, c, rfl⟩
    · exact .inl rfl
    · rw [List.concat_eq_append] at hchars hlast ⊢
      rw [← List.cons_append, List.getLast?_concat] at hlast
      obtain rfl := Option.some.inj hlast
      exact .inr ⟨middle, c,
        fun d hd => hchars d (List.mem_cons_of_mem a (List.mem_append_left _ hd)), hb, rfl⟩

theorem dot_notMem_of_labelPattern {label : List Char} (h : labelPattern label = true) :
    '.' ∉ label :=
  fun hdot => absurd ((labelPattern_iff.mp h).1 '.' hdot) (by decide)

/-- The source matches the whole text, the model looks at the parts between the dots. -/
theorem all_labelPattern_iff_mem_domainRegex {text : List Char} :
    (text.splitOn '.').all labelPattern = true ↔ text ∈ domainRegex := by
  rw [domainRegex, mem_separated_iff, List.all_eq_true]
  simp only [mem_labelRegex_iff]
  constructor
  · intro h
    exact ⟨text.splitOn '.', List.splitOn_ne_nil '.' text, h, (List.intercalate_splitOn '.').symm⟩
  · rintro ⟨labels, hne, hlabels, rfl⟩
    rwa [List.splitOn_intercalate '.' (fun l hl => dot_notMem_of_labelPattern (hlabels l hl)) hne]

/-- The labels of the grammar are the ones that pass the pattern and the limit. -/
theorem isLabel_iff {label : List Char} :
    IsLabel label ↔ labelPattern label = true ∧ byteLen (String.ofList label) ≤ 63 := by
  have hname (c : Char) : isNameChar c = true ↔ c.isAlpha = true ∨ c.isDigit = true ∨ c = '-' := by
    rw [isNameChar_iff, isAlphanum_iff, or_assoc]
  have hlen (h : ∀ c ∈ label, isNameChar c = true) :
      byteLen (String.ofList label) = label.length :=
    byteLen_ofList_of_ascii fun c hc => toNat_le_of_isNameChar (h c hc)
  rw [labelPattern_iff]
  constructor
  · rintro ⟨hnonempty, hshort, hchars, hfirst, hlast⟩
    have hnames : ∀ c ∈ label, isNameChar c = true := fun c hc => (hname c).mpr (hchars c hc)
    have hne : label ≠ [] := List.ne_nil_of_length_pos hnonempty
    rw [List.head?_eq_some_head hne] at hfirst ⊢
    rw [List.getLast?_eq_some_getLast hne] at hlast ⊢
    have ends {c : Char} (hc : c ∈ label) (hne : some c ≠ some '-') : c.isAlphanum = true :=
      isAlphanum_iff_isNameChar.mpr ⟨hnames c hc, fun heq => hne (congrArg some heq)⟩
    refine ⟨⟨hnames, ⟨_, rfl, ends (List.head_mem hne) hfirst⟩, _, rfl,
      ends (List.getLast_mem hne) hlast⟩, ?_⟩
    rwa [hlen hnames]
  · rintro ⟨⟨hnames, ⟨a, hhead, ha⟩, b, hlast, hb⟩, hshort⟩
    rw [hlen hnames] at hshort
    refine ⟨?_, hshort, fun c hc => (hname c).mp (hnames c hc), ?_, ?_⟩
    · obtain ⟨rest, rfl⟩ := List.head?_eq_some_iff.mp hhead
      exact Nat.succ_pos _
    · rw [hhead]
      exact fun h => (isAlphanum_iff_isNameChar.mp ha).2 (Option.some.inj h)
    · rw [hlast]
      exact fun h => (isAlphanum_iff_isNameChar.mp hb).2 (Option.some.inj h)

/-- A text of labels does not end in a dot. -/
theorem getLast?_intercalate_ne_dot {labels : List (List Char)} (hne : labels ≠ [])
    (h : ∀ label ∈ labels, labelPattern label = true) :
    (['.'].intercalate labels).getLast? ≠ some '.' := by
  induction labels with
  | nil => exact absurd rfl hne
  | cons label labels ih =>
    rw [List.forall_mem_cons] at h
    cases labels with
    | nil =>
      rw [List.intercalate_singleton]
      exact fun hlast => dot_notMem_of_labelPattern h.1 (List.mem_of_getLast? hlast)
    | cons next rest =>
      have hrest := ih (List.cons_ne_nil _ _) h.2
      have hnonempty : ['.'].intercalate (next :: rest) ≠ [] := by
        intro hempty
        obtain ⟨-, ⟨c, hc, -⟩, -⟩ := labelPattern_iff.mp (h.2 next List.mem_cons_self)
        have hmem : c ∈ ['.'].intercalate (next :: rest) :=
          mem_intercalate_of_mem List.mem_cons_self (List.mem_of_head? hc)
        rw [hempty] at hmem
        cases hmem
      rw [List.intercalate_cons_cons, List.getLast?_append_of_ne_nil _ hnonempty]
      exact hrest

/-- Removing the dot at the end leaves the labels. -/
theorem stripTrailingDot_eq_intercalate_iff {text : List Char} {labels : List (List Char)}
    (hne : labels ≠ []) (h : ∀ label ∈ labels, labelPattern label = true) :
    stripTrailingDot text = ['.'].intercalate labels ↔
      text = ['.'].intercalate labels ∨ text = ['.'].intercalate labels ++ ['.'] := by
  have hlast := getLast?_intercalate_ne_dot hne h
  unfold stripTrailingDot
  split_ifs with hdot
  · obtain ⟨front, rfl⟩ := List.getLast?_eq_some_iff.mp hdot
    rw [List.dropLast_concat, List.append_left_inj]
    constructor
    · exact .inr
    · rintro (heq | heq)
      · rw [← heq] at hlast
        exact absurd hdot hlast
      · exact heq
  · constructor
    · exact .inl
    · rintro (heq | rfl)
      · exact heq
      · exact absurd List.getLast?_concat hdot

/-- What the check asks of a name, with the regular expression of the source. -/
theorem validateDomainName_eq_ok_iff_regex {domain : String} :
    validateDomainName domain = .ok () ↔
      domain ≠ "" ∧ byteLen domain ≤ 253 ∧ stripTrailingDot domain.toList ∈ domainRegex ∧
        ∀ label ∈ (stripTrailingDot domain.toList).splitOn '.',
          byteLen (String.ofList label) ≤ 63 := by
  rw [← all_labelPattern_iff_mem_domainRegex]
  unfold validateDomainName
  split_ifs with hempty hlength
  · simp [hempty]
  · simp [hlength]
  · dsimp only
    split_ifs with hlabels
    · rw [Bool.not_eq_true'] at hlabels
      simp [hlabels]
    · rw [Bool.not_eq_true', Bool.not_eq_false] at hlabels
      rw [Except.forM_eq_ok_iff]
      simp [hempty, not_lt.mp hlength, hlabels]

/-- The check accepts exactly the domain names of 1 to 253 bytes. -/
theorem validateDomainName_eq_ok_iff (domain : String) :
    validateDomainName domain = .ok () ↔
      1 ≤ byteLen domain ∧ byteLen domain ≤ 253 ∧ IsDomainName domain := by
  have hempty : domain ≠ "" ↔ 1 ≤ byteLen domain := by
    rw [Nat.one_le_iff_ne_zero, byteLen, Ne, Ne, String.utf8ByteSize_eq_zero_iff]
  rw [validateDomainName_eq_ok_iff_regex, hempty]
  refine and_congr_right fun _ => and_congr_right fun _ => ?_
  rw [domainRegex, mem_separated_iff]
  simp only [mem_labelRegex_iff]
  constructor
  · rintro ⟨⟨labels, hne, hlabels, heq⟩, hshort⟩
    rw [heq, List.splitOn_intercalate '.'
      (fun l hl => dot_notMem_of_labelPattern (hlabels l hl)) hne] at hshort
    exact ⟨labels, hne, fun l hl => isLabel_iff.mpr ⟨hlabels l hl, hshort l hl⟩,
      (stripTrailingDot_eq_intercalate_iff hne hlabels).mp heq⟩
  · rintro ⟨labels, hne, hgrammar, heq⟩
    have hlabels : ∀ label ∈ labels, labelPattern label = true :=
      fun l hl => (isLabel_iff.mp (hgrammar l hl)).1
    have hstripped := (stripTrailingDot_eq_intercalate_iff hne hlabels).mpr heq
    refine ⟨⟨labels, hne, hlabels, hstripped⟩, ?_⟩
    rw [hstripped, List.splitOn_intercalate '.'
      (fun l hl => dot_notMem_of_labelPattern (hlabels l hl)) hne]
    exact fun l hl => (isLabel_iff.mp (hgrammar l hl)).2

end Segwire.Common
