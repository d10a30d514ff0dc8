import Mathlib.Data.List.DropRight
import Segwire.Foundation.Text

/-!
# Lines and whitespace

Rust's `str` operations on lines and on whitespace, read through lists of characters. The
white space is that of Unicode, which has more than the separators of lines.

## Main definitions

* `isWhitespace`, `Blank` — `char::is_whitespace`, and texts of such characters only
* `trim`, `lines`, `splitWhitespace` — the operations of `str`
* `Token` — texts without white space

## Main results

* `trim_padded` — padding does not outlast `trim`
* `filter_map_trim_lines` — the trimmed lines that are not empty
* `lines_flatMap` — the lines of a text that is written piece by piece
* `splitWhitespace_intercalate` — tokens that are joined by spaces are split again
-/

namespace Foundation.Text

variable {text core pre post : List Char}

/-- `c.is_whitespace()`: the characters with the Unicode property White_Space. -/
def isWhitespace (c : Char) : Bool :=
  let n := c.toNat
  (9 ≤ n && n ≤ 13) || n == 0x20 || n == 0x85 || n == 0xA0 || n == 0x1680 ||
    (0x2000 ≤ n && n ≤ 0x200A) || n == 0x2028 || n == 0x2029 || n == 0x202F || n == 0x205F ||
    n == 0x3000

/-- The visible characters of ASCII are no white space. -/
theorem isWhitespace_of_visible {c : Char} (hlow : 0x20 < c.toNat) (hhigh : c.toNat < 0x7F) :
    isWhitespace c = false := by
  simp only [isWhitespace, Bool.or_eq_false_iff, Bool.and_eq_false_iff, beq_eq_false_iff_ne,
    decide_eq_false_iff_not, ne_eq]
  omega

/-- A text of white space. -/
def Blank (text : List Char) : Prop := ∀ c ∈ text, isWhitespace c = true

instance (text : List Char) : Decidable (Blank text) :=
  List.decidableBAll (isWhitespace · = true) text

theorem blank_nil : Blank [] := by
  intro c hc
  cases hc

theorem blank_append : Blank (pre ++ post) ↔ Blank pre ∧ Blank post := by
  simp only [Blank, List.mem_append, or_imp, forall_and]

/-! ### Trimming -/

/-- `text.trim()` -/
def trim (text : List Char) : List Char :=
  (text.dropWhile isWhitespace).rdropWhile isWhitespace

/-- Only white space is taken away. -/
theorem exists_trim (text : List Char) :
    ∃ pre post, Blank pre ∧ Blank post ∧ text = pre ++ trim text ++ post := by
  refine ⟨text.takeWhile isWhitespace,
    (text.dropWhile isWhitespace).rtakeWhile isWhitespace, ?_, ?_, ?_⟩
  · exact fun c hc => List.mem_takeWhile_imp hc
  · exact fun c hc => List.mem_rtakeWhile_imp hc
  · rw [trim, List.append_assoc, List.rdropWhile_append_rtakeWhile,
      List.takeWhile_append_dropWhile]

theorem dropWhile_blank_append (hpre : Blank pre) :
    (pre ++ core).dropWhile isWhitespace = core.dropWhile isWhitespace :=
  List.dropWhile_append_of_pos hpre

theorem rdropWhile_append_blank (hpost : Blank post) :
    (core ++ post).rdropWhile isWhitespace = core.rdropWhile isWhitespace := by
  rw [List.rdropWhile, List.rdropWhile, List.reverse_append,
    dropWhile_blank_append fun c hc => hpost c (List.mem_reverse.mp hc)]

theorem trim_eq_nil_iff : trim text = [] ↔ Blank text := by
  constructor
  · intro h
    obtain ⟨pre, post, hpre, hpost, htext⟩ := exists_trim text
    rw [htext, h, List.append_nil]
    exact blank_append.mpr ⟨hpre, hpost⟩
  · intro h
    have hdrop : text.dropWhile isWhitespace = [] := List.dropWhile_eq_nil_iff.mpr h
    rw [trim, hdrop]
    rfl

/-- Padding does not outlast trimming. -/
theorem trim_padded (hpre : Blank pre) (hpost : Blank post) (core : List Char) :
    trim (pre ++ core ++ post) = trim core := by
  by_cases hcore : Blank core
  · rw [trim_eq_nil_iff.mpr hcore, trim_eq_nil_iff, blank_append, blank_append]
    exact ⟨⟨hpre, hcore⟩, hpost⟩
  · -- the first character that stays is one of the core
    have hdrop : (core ++ post).dropWhile isWhitespace = core.dropWhile isWhitespace ++ post := by
      rw [List.dropWhile_append, if_neg]
      intro hempty
      apply hcore
      exact List.dropWhile_eq_nil_iff.mp (List.isEmpty_iff.mp hempty)
    rw [trim, List.append_assoc, dropWhile_blank_append hpre, hdrop, rdropWhile_append_blank hpost,
      trim]

/-- A text is trimmed already if it neither begins nor ends with white space. -/
theorem trim_eq_self (hhead : ∀ c ∈ text.head?, isWhitespace c = false)
    (hlast : ∀ c ∈ text.getLast?, isWhitespace c = false) : trim text = text := by
  have hdrop : text.dropWhile isWhitespace = text := by
    cases text with
    | nil => rfl
    | cons c rest =>
      rw [List.dropWhile_cons_of_neg]
      rw [hhead c rfl]
      exact Bool.false_ne_true
  rw [trim, hdrop, List.rdropWhile_eq_self_iff]
  intro hne hspace
  rw [hlast _ (List.getLast?_eq_some_getLast hne)] at hspace
  cases hspace

theorem trim_dropWhile (text : List Char) : trim (text.dropWhile isWhitespace) = trim text := by
  have hblank : Blank (text.takeWhile isWhitespace) := fun c hc => List.mem_takeWhile_imp hc
  have htext := trim_padded hblank blank_nil (text.dropWhile isWhitespace)
  rwa [List.append_nil, List.takeWhile_append_dropWhile, eq_comm] at htext

theorem trim_rdropWhile (text : List Char) : trim (text.rdropWhile isWhitespace) = trim text := by
  have hblank : Blank (text.rtakeWhile isWhitespace) := fun c hc => List.mem_rtakeWhile_imp hc
  have htext := trim_padded blank_nil hblank (text.rdropWhile isWhitespace)
  rwa [List.nil_append, List.rdropWhile_append_rtakeWhile, eq_comm] at htext

theorem trim_trim (text : List Char) : trim (trim text) = trim text := by
  obtain ⟨pre, post, hpre, hpost, htext⟩ := exists_trim text
  conv_rhs => rw [htext]
  exact (trim_padded hpre hpost _).symm

/-- A trimmed text does not end with white space. -/
theorem getLast?_of_trim_eq (h : trim text = text) :
    ∀ c ∈ text.getLast?, isWhitespace c = false := by
  intro c hc
  have hne : trim text ≠ [] := by
    rw [h]
    rintro rfl
    cases hc
  have hlast := List.rdropWhile_last_not isWhitespace (text.dropWhile isWhitespace) hne
  rw [← h, List.getLast?_eq_some_getLast hne] at hc
  rw [← Option.some.inj hc]
  exact Bool.eq_false_iff.mpr hlast

/-- A trimmed text at the end of one that does not begin with white space keeps it from being
trimmed. -/
theorem trim_append {first : Char} (hne : text ≠ []) (htrim : trim text = text)
    (hfirst : pre.head? = some first) (hvisible : isWhitespace first = false) :
    trim (pre ++ text) = pre ++ text := by
  apply trim_eq_self
  · intro c hc
    rw [List.head?_append, hfirst] at hc
    rw [← Option.some.inj hc]
    exact hvisible
  · rw [List.getLast?_append_of_ne_nil _ hne]
    exact getLast?_of_trim_eq htrim

/-- Two texts that differ in the white space around them. -/
def SamePadded (text text' : List Char) : Prop :=
  ∃ core pre post pre' post', Blank pre ∧ Blank post ∧ Blank pre' ∧ Blank post' ∧
    text = pre ++ core ++ post ∧ text' = pre' ++ core ++ post'

theorem samePadded_iff {text text' : List Char} :
    SamePadded text text' ↔ trim text = trim text' := by
  constructor
  · rintro ⟨core, pre, post, pre', post', hpre, hpost, hpre', hpost', rfl, rfl⟩
    rw [trim_padded hpre hpost, trim_padded hpre' hpost']
  · intro h
    obtain ⟨pre, post, hpre, hpost, htext⟩ := exists_trim text
    obtain ⟨pre', post', hpre', hpost', htext'⟩ := exists_trim text'
    exact ⟨trim text, pre, post, pre', post', hpre, hpost, hpre', hpost', htext, h ▸ htext'⟩

/-- Trimming stops at a character that is no white space. -/
theorem trim_append_cons {c : Char} (hc : isWhitespace c = false) (before after : List Char) :
    trim (before ++ c :: after) =
      before.dropWhile isWhitespace ++ c :: after.rdropWhile isWhitespace := by
  -- the character stops the trimming from the left, and then the one from the right
  have hhead : (before ++ c :: after).dropWhile isWhitespace =
      before.dropWhile isWhitespace ++ c :: after := by
    rw [List.dropWhile_append]
    split_ifs with hblank
    · rw [List.isEmpty_iff.mp hblank, List.nil_append, List.dropWhile_cons_of_neg (by simp [hc])]
    · rfl
  have hsplit : before.dropWhile isWhitespace ++ c :: after =
      before.dropWhile isWhitespace ++ [c] ++ after := by
    rw [List.append_assoc, List.singleton_append]
  rw [trim, hhead, hsplit, List.rdropWhile, List.reverse_append, List.dropWhile_append]
  split_ifs with hblank
  · have hafter : after.rdropWhile isWhitespace = [] := by
      rw [List.rdropWhile, List.isEmpty_iff.mp hblank, List.reverse_nil]
    rw [hafter, ← List.rdropWhile, List.rdropWhile_concat_neg _ _ _ (by simp [hc])]
  · rw [List.reverse_append, List.reverse_reverse, List.rdropWhile, List.append_assoc,
      List.singleton_append]

/-- The first character of a text that stays, or that follows it. -/
theorem head?_dropWhile_append_cons (text : List Char) (c : Char) (rest : List Char) :
    (text.dropWhile isWhitespace ++ c :: rest).head? = (trim text ++ [c]).head? := by
  have hsplit : text.dropWhile isWhitespace =
      trim text ++ (text.dropWhile isWhitespace).rtakeWhile isWhitespace :=
    List.rdropWhile_append_rtakeWhile.symm
  cases htrim : trim text with
  | nil =>
    have hblank : text.dropWhile isWhitespace = [] :=
      List.dropWhile_eq_nil_iff.mpr (trim_eq_nil_iff.mp htrim)
    rw [hblank]
    rfl
  | cons first others =>
    rw [hsplit, htrim]
    rfl

/-- The last character of a text that stays, or that precedes it. -/
theorem getLast?_append_cons_rdropWhile (before : List Char) (c : Char) (text : List Char) :
    (before ++ c :: text.rdropWhile isWhitespace).getLast? = (c :: trim text).getLast? := by
  rw [List.getLast?_append_cons, List.getLast?_cons, List.getLast?_cons]
  congr 1
  cases htrim : trim text with
  | nil =>
    have hblank : text.rdropWhile isWhitespace = [] :=
      List.rdropWhile_eq_nil_iff.mpr (trim_eq_nil_iff.mp htrim)
    rw [hblank]
  | cons first others =>
    obtain ⟨pre, post, hpre, hpost, htext⟩ := exists_trim text
    have hne : trim text ≠ [] := by
      rw [htrim]
      exact List.cons_ne_nil _ _
    -- the last character that trimming leaves is no white space
    have hkept : (pre ++ trim text).rdropWhile isWhitespace = pre ++ trim text := by
      rw [List.rdropWhile_eq_self_iff]
      intro hne'
      rw [List.getLast_append_of_ne_nil hne' hne]
      exact List.rdropWhile_last_not _ _ hne
    have hdropped : text.rdropWhile isWhitespace = pre ++ trim text := by
      conv_lhs => rw [htext, rdropWhile_append_blank hpost]
      exact hkept
    rw [hdropped, List.getLast?_append_of_ne_nil _ hne, htrim]

theorem not_blank_of_mem {c : Char} (hc : isWhitespace c = false) (hmem : c ∈ text) :
    ¬ Blank text := by
  intro hblank
  rw [hblank c hmem] at hc
  cases hc

/-- The trimmed parts of a text do not depend on the white space around it. -/
theorem map_trim_splitOn_padded {sep : Char} (hsep : isWhitespace sep = false) (hpre : Blank pre)
    (hpost : Blank post) (core : List Char) :
    ((pre ++ core ++ post).splitOn sep).map trim = (core.splitOn sep).map trim := by
  induction hlength : core.length using Nat.strong_induction_on generalizing core pre post with
  | _ n ih =>
    by_cases hmem : sep ∈ core
    · -- the text is split at a separator, and each part is padded on one side
      obtain ⟨before, after, rfl⟩ := List.append_of_mem hmem
      rw [List.length_append, List.length_cons] at hlength
      have hbefore := ih before.length (by omega) hpre blank_nil before rfl
      have hafter := ih after.length (by omega) blank_nil hpost after rfl
      have hparts : pre ++ (before ++ sep :: after) ++ post =
          pre ++ before ++ [] ++ sep :: ([] ++ after ++ post) := by simp
      rw [hparts, List.splitOn_append_cons_self, List.splitOn_append_cons_self, List.map_append,
        List.map_append, hbefore, hafter]
    · have hfree : sep ∉ pre ++ core ++ post := by
        rw [List.mem_append, List.mem_append, not_or, not_or]
        exact ⟨⟨fun h => not_blank_of_mem hsep h hpre, hmem⟩,
          fun h => not_blank_of_mem hsep h hpost⟩
      rw [List.splitOn_eq_singleton hfree, List.splitOn_eq_singleton hmem, List.map_singleton,
        List.map_singleton, trim_padded hpre hpost]

theorem map_trim_splitOn_trim {sep : Char} (hsep : isWhitespace sep = false) (text : List Char) :
    ((trim text).splitOn sep).map trim = (text.splitOn sep).map trim := by
  obtain ⟨pre, post, hpre, hpost, htext⟩ := exists_trim text
  conv_rhs => rw [htext]
  exact (map_trim_splitOn_padded hsep hpre hpost _).symm

/-! ### Lines -/

/-- A line without the carriage return at its end. -/
def stripCarriage (line : List Char) : List Char :=
  if line.getLast? = some '\r' then line.dropLast else line

/-- `text.lines()`: a line ends with a line feed, possibly after a carriage return, or at the
end of the text. -/
def lines (text : List Char) : List (List Char) :=
  let parts := text.splitOn '\n'
  parts.dropLast.map stripCarriage ++ parts.getLast?.toList.filter (· ≠ [])

theorem trim_stripCarriage (line : List Char) : trim (stripCarriage line) = trim line := by
  unfold stripCarriage
  split_ifs with h
  · have hline : line = [] ++ line.dropLast ++ ['\r'] := by
      rw [List.nil_append]
      exact (List.dropLast_append_getLast? '\r' h).symm
    conv_rhs => rw [hline]
    exact (trim_padded blank_nil (by decide) _).symm
  · rfl

/-- The trimmed lines that are not empty. -/
theorem filter_map_trim_lines (text : List Char) :
    ((lines text).map trim).filter (· ≠ []) =
      ((text.splitOn '\n').map trim).filter (· ≠ []) := by
  obtain ⟨last, hlast⟩ : ∃ last, (text.splitOn '\n').getLast? = some last :=
    ⟨_, List.getLast?_eq_some_getLast (List.splitOn_ne_nil _ _)⟩
  have hparts : text.splitOn '\n' = (text.splitOn '\n').dropLast ++ [last] :=
    (List.dropLast_append_getLast? last hlast).symm
  have hstrip : (text.splitOn '\n').dropLast.map (trim ∘ stripCarriage) =
      (text.splitOn '\n').dropLast.map trim :=
    List.map_congr_left fun line _ => trim_stripCarriage line
  conv_rhs => rw [hparts]
  rw [lines, hlast]
  simp only [List.map_append, List.map_map, hstrip, List.filter_append, Option.toList_some]
  congr 1
  -- `lines` drops the last part only if it is empty, and the filter does as well
  by_cases hempty : last = []
  · subst hempty
    rfl
  · simp [hempty]

theorem newline_notMem_of_mem_lines {line : List Char} (h : line ∈ lines text) : '\n' ∉ line := by
  rw [lines, List.mem_append] at h
  rcases h with h | h
  · obtain ⟨part, hpart, rfl⟩ := List.mem_map.mp h
    have hfree := notMem_of_mem_splitOn (List.mem_of_mem_dropLast hpart)
    unfold stripCarriage
    split_ifs
    · exact fun hmem => hfree (List.mem_of_mem_dropLast hmem)
    · exact hfree
  · have hlast := Option.mem_toList.mp (List.mem_of_mem_filter h)
    exact notMem_of_mem_splitOn (List.mem_of_getLast? hlast)

/-- The lines before a line feed do not depend on what follows it. -/
theorem lines_append_cons (before after : List Char) :
    lines (before ++ '\n' :: after) = (before.splitOn '\n').map stripCarriage ++ lines after := by
  have hne := List.splitOn_ne_nil '\n' after
  rw [lines, List.splitOn_append_cons_self, List.dropLast_append_of_ne_nil hne,
    List.getLast?_append_of_ne_nil _ hne, List.map_append, List.append_assoc]
  rfl

/-- The lines of a text that is written piece by piece, with a line feed after each piece. -/
theorem lines_flatMap (pieces : List (List Char)) :
    lines (pieces.flatMap (· ++ ['\n'])) =
      (pieces.flatMap (·.splitOn '\n')).map stripCarriage := by
  induction pieces with
  | nil => rfl
  | cons piece pieces ih =>
    rw [List.flatMap_cons, List.append_assoc, List.singleton_append, lines_append_cons, ih,
      List.flatMap_cons, List.map_append]

/-! ### Tokens -/

/-- A text that is not empty and has no white space. -/
def Token (text : List Char) : Prop := text ≠ [] ∧ ∀ c ∈ text, isWhitespace c = false

/-- `text.split_whitespace()` -/
def splitWhitespace (text : List Char) : List (List Char) :=
  (text.splitOnP isWhitespace).filter (· ≠ [])

theorem Token.newline_notMem (h : Token text) : '\n' ∉ text := by
  intro hmem
  have hspace := h.2 '\n' hmem
  revert hspace
  decide

theorem Token.trim_eq (h : Token text) : trim text = text :=
  trim_eq_self (fun c hc => h.2 c (List.mem_of_mem_head? hc))
    fun c hc => h.2 c (List.mem_of_getLast? hc)

/-- Tokens that are joined by spaces are trimmed. -/
theorem trim_intercalate {tokens : List (List Char)} (h : ∀ token ∈ tokens, Token token)
    (hne : tokens ≠ []) :
    [' '].intercalate tokens ≠ [] ∧ trim ([' '].intercalate tokens) = [' '].intercalate tokens := by
  induction tokens with
  | nil => exact absurd rfl hne
  | cons token tokens ih =>
    obtain ⟨htoken, htokens⟩ := List.forall_mem_cons.mp h
    cases tokens with
    | nil =>
      rw [List.intercalate_singleton]
      exact ⟨htoken.1, htoken.trim_eq⟩
    | cons next rest =>
      obtain ⟨hrest, htrim⟩ := ih htokens (List.cons_ne_nil _ _)
      obtain ⟨first, chars, rfl⟩ := List.exists_cons_of_ne_nil htoken.1
      rw [List.intercalate_cons_cons]
      exact ⟨List.append_ne_nil_of_right_ne_nil _ hrest,
        trim_append hrest htrim rfl (htoken.2 first List.mem_cons_self)⟩

/-- Tokens that are joined by spaces are split again. -/
theorem splitWhitespace_intercalate {tokens : List (List Char)}
    (h : ∀ token ∈ tokens, Token token) :
    splitWhitespace ([' '].intercalate tokens) = tokens := by
  induction tokens with
  | nil => rfl
  | cons token tokens ih =>
    obtain ⟨htoken, htokens⟩ := List.forall_mem_cons.mp h
    have hself : [token].filter (· ≠ []) = [token] := by simp [htoken.1]
    cases tokens with
    | nil =>
      rw [List.intercalate_singleton, splitWhitespace, List.splitOnP_eq_singleton htoken.2, hself]
    | cons next rest =>
      -- the first token ends at the first space, since it has no white space itself
      have hsplit := List.splitOnP_append_cons_of_forall_mem htoken.2 ' ' (by decide)
        ([' '].intercalate (next :: rest))
      rw [List.intercalate_cons_cons, List.append_assoc, List.singleton_append, splitWhitespace,
        hsplit, ← List.singleton_append, List.filter_append, hself, ← splitWhitespace, ih htokens]
      rfl

end Foundation.Text
