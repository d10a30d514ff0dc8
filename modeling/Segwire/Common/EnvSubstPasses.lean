import Segwire.Common.EnvSubst

/-!
# Passes of the substitution

A pass finds its references first and replaces them from the last to the first. The outcome
is that of reading the text from left to right: a reference is replaced by its
substitution, any other character is kept. A reference ends at the first closing brace, so
a pass takes away one closing brace and at least one dollar sign for every reference.

## Main definitions

* `rewriteFrom` — a pass, from left to right
* `ClosedText` — after every dollar sign there is a closing brace
* `PlainText`, `PlainValues` — texts and values without dollar signs and braces

## Main results

* `replaceMatches_findIter` — a pass is the rewriting of its text
* `rewrite_append` — closed texts are rewritten by themselves
* `Balanced.of_substituteLoop` — a run leaves no closing brace out
-/

namespace Segwire.Common

open Foundation Foundation.Text

variable {systemEnv : String → Option String} {configEnv : HashMap String String}
  {text spec rest out : List Char}

/-! ### Finding a separator -/

theorem splitOnce_eq_some {p s before after : List Char}
    (h : splitOnce p s = some (before, after)) :
    s = before ++ p ++ after := by
  induction s generalizing before with
  | nil =>
    rw [splitOnce] at h
    split_ifs at h with hp
    obtain ⟨rfl, rfl⟩ := Prod.mk.inj (Option.some.inj h)
    rw [hp]
    rfl
  | cons c s ih =>
    rw [splitOnce] at h
    split_ifs at h with hp
    · obtain ⟨rfl, rfl⟩ := Prod.mk.inj (Option.some.inj h)
      exact (List.prefix_iff_eq_append.mp (List.isPrefixOf_iff_prefix.mp hp)).symm
    · obtain ⟨⟨before', after'⟩, hsplit, heq⟩ := Option.map_eq_some_iff.mp h
      obtain ⟨rfl, rfl⟩ := Prod.mk.inj heq
      rw [ih hsplit]
      rfl

theorem splitOnce_eq_none_iff {p s : List Char} : splitOnce p s = none ↔ ¬ p <:+: s := by
  induction s with
  | nil =>
    rw [splitOnce, List.infix_nil]
    split_ifs with hp <;> simp [hp]
  | cons c s ih =>
    rw [splitOnce, List.infix_cons_iff, ← List.isPrefixOf_iff_prefix]
    split_ifs with hp
    · simp [hp]
    · rw [Option.map_eq_none_iff, ih]
      simp [hp]

/-- The first colon is in front of the separator. -/
theorem splitOnce_colon {name after : List Char} (h : ':' ∉ name) (c : Char) :
    splitOnce [':', c] (name ++ ':' :: c :: after) = some (name, after) := by
  induction name with
  | nil => simp [splitOnce]
  | cons first name ih =>
    rw [List.mem_cons, not_or] at h
    rw [List.cons_append, splitOnce, if_neg (by simp [h.1]), ih h.2]
    rfl

/-! ### References -/

theorem takeWhile_brace (h : '}' ∉ spec) (rest : List Char) :
    (spec ++ '}' :: rest).takeWhile (· ≠ '}') = spec := by
  rw [List.takeWhile_append_of_pos (by simpa using fun c hc => ne_of_mem_of_not_mem hc h)]
  simp

theorem referenceAt_eq_some_iff :
    referenceAt text = some spec ↔
      ∃ rest, text = '$' :: '{' :: (spec ++ '}' :: rest) ∧ spec ≠ [] ∧ '}' ∉ spec := by
  constructor
  · intro h
    unfold referenceAt at h
    split at h
    · next rest =>
      dsimp only at h
      split_ifs at h with hnone
      obtain rfl := Option.some.inj h
      rw [not_or, not_not] at hnone
      obtain ⟨front, back, rfl, hfresh⟩ := List.eq_append_cons_of_mem hnone.2
      rw [takeWhile_brace hfresh] at hnone ⊢
      exact ⟨back, rfl, hnone.1, hfresh⟩
    · cases h
  · rintro ⟨rest, rfl, hne, hfresh⟩
    simp only [referenceAt]
    rw [takeWhile_brace hfresh, if_neg (by simp [hne])]

/-- A text consists of references and of characters that start none. -/
@[elab_as_elim]
theorem text_induction {P : List Char → Prop} (text : List Char) (nil : P [])
    (plain : ∀ c rest, referenceAt (c :: rest) = none → P rest → P (c :: rest))
    (reference : ∀ spec rest, spec ≠ [] → '}' ∉ spec → P rest →
      P ('$' :: '{' :: (spec ++ '}' :: rest))) : P text := by
  induction hlength : text.length using Nat.strong_induction_on generalizing text with
  | _ n ih =>
    cases text with
    | nil => exact nil
    | cons c rest =>
      cases href : referenceAt (c :: rest) with
      | none => exact plain c rest href (ih rest.length (by simp [← hlength]) rest rfl)
      | some spec =>
        obtain ⟨tail, htext, hne, hfresh⟩ := referenceAt_eq_some_iff.mp href
        rw [htext] at hlength ⊢
        refine reference spec tail hne hfresh (ih tail.length ?_ tail rfl)
        rw [← hlength]
        simp
        omega

/-! ### A pass from left to right -/

/-- The rest of a text after `skip` characters, with its references replaced. -/
def rewriteFrom (systemEnv : String → Option String) (configEnv : HashMap String String) :
    Nat → List Char → SegwireResult (List Char)
  | _, [] => .ok []
  | skip + 1, _ :: rest => rewriteFrom systemEnv configEnv skip rest
  | 0, c :: rest =>
    match referenceAt (c :: rest) with
    | some spec => do
      let after ← rewriteFrom systemEnv configEnv (spec.length + 2) rest
      let substitution ← resolveVariableSpec systemEnv spec configEnv
      return substitution ++ after
    | none => do
      let after ← rewriteFrom systemEnv configEnv 0 rest
      return c :: after

/-- A text with its references replaced. -/
abbrev rewrite (systemEnv : String → Option String) (configEnv : HashMap String String)
    (text : List Char) : SegwireResult (List Char) :=
  rewriteFrom systemEnv configEnv 0 text

theorem rewriteFrom_skip (skipped rest : List Char) :
    rewriteFrom systemEnv configEnv skipped.length (skipped ++ rest) =
      rewrite systemEnv configEnv rest := by
  induction skipped with
  | nil => rfl
  | cons c skipped ih => exact ih

theorem rewrite_plain {c : Char} (h : referenceAt (c :: rest) = none) :
    rewrite systemEnv configEnv (c :: rest) =
      (rewrite systemEnv configEnv rest >>= fun after => .ok (c :: after)) := by
  rw [rewrite, rewriteFrom, h]
  rfl

theorem rewrite_reference (hne : spec ≠ []) (hfresh : '}' ∉ spec) (rest : List Char) :
    rewrite systemEnv configEnv ('$' :: '{' :: (spec ++ '}' :: rest)) =
      (rewrite systemEnv configEnv rest >>= fun after =>
        resolveVariableSpec systemEnv spec configEnv >>= fun substitution =>
          .ok (substitution ++ after)) := by
  have href := referenceAt_eq_some_iff.mpr ⟨rest, rfl, hne, hfresh⟩
  have hskip : rewriteFrom systemEnv configEnv ('{' :: (spec ++ ['}'])).length
      ('{' :: (spec ++ ['}']) ++ rest) = rewrite systemEnv configEnv rest := rewriteFrom_skip _ _
  have hlength : ('{' :: (spec ++ ['}'])).length = spec.length + 2 := by simp
  have htext : '{' :: (spec ++ ['}']) ++ rest = '{' :: (spec ++ '}' :: rest) := by simp
  rw [hlength, htext] at hskip
  rw [rewrite, rewriteFrom, href]
  dsimp only
  rw [hskip]
  rfl

/-! ### A pass of the program -/

/-- The first match is replaced last. -/
theorem replaceMatches_cons (reference : Reference) (matched : List Reference) :
    replaceMatches systemEnv configEnv (reference :: matched) text =
      (replaceMatches systemEnv configEnv matched text >>= fun text =>
        resolveVariableSpec systemEnv reference.spec configEnv >>= fun substitution =>
          .ok (replaceRange text reference.start reference.stop substitution)) := by
  unfold replaceMatches
  rw [List.reverse_cons, List.foldlM_append]
  simp only [List.foldlM_cons, List.foldlM_nil, bind_pure]
  rfl

/-- The text from a reference on, and the part of it that the reference takes up. -/
theorem exists_tail_of_referenceAt {c : Char} {rest spec : List Char}
    (h : referenceAt (c :: rest) = some spec) :
    ∃ tail, c = '$' ∧ rest = '{' :: (spec ++ '}' :: tail) ∧
      rest.take (spec.length + 2) = '{' :: (spec ++ ['}']) := by
  obtain ⟨tail, htext, -, -⟩ := referenceAt_eq_some_iff.mp h
  obtain ⟨rfl, rfl⟩ := List.cons.inj htext
  refine ⟨tail, rfl, rfl, ?_⟩
  rw [List.take_succ_cons, List.take_length_add_append]
  rfl

/-- The matches in a text that stands behind `pre` are replaced as in the text itself. -/
theorem replaceMatches_findFrom (pre text : List Char) (skip : Nat) :
    replaceMatches systemEnv configEnv (findFrom pre.length skip text) (pre ++ text) =
      (rewriteFrom systemEnv configEnv skip text >>= fun after =>
        .ok (pre ++ text.take skip ++ after)) := by
  induction text generalizing pre skip with
  | nil => simp [findFrom, replaceMatches, rewriteFrom, pure, Except.pure]
  | cons c rest ih =>
    have hlength : pre.length + 1 = (pre ++ [c]).length := by simp
    have hshift : pre ++ c :: rest = (pre ++ [c]) ++ rest := by simp
    cases skip with
    | succ skip =>
      rw [findFrom, rewriteFrom, hlength, hshift, ih]
      simp
    | zero =>
      rw [findFrom, rewriteFrom]
      cases href : referenceAt (c :: rest) with
      | none =>
        dsimp only
        rw [hlength, hshift, ih]
        simp
      | some spec =>
        obtain ⟨tail, rfl, rfl, htake⟩ := exists_tail_of_referenceAt href
        dsimp only
        rw [replaceMatches_cons, hlength, hshift, ih, htake, bind_assoc, bind_assoc]
        refine congrArg _ (funext fun after => ?_)
        rw [Except.ok_bind, bind_assoc]
        refine congrArg _ (funext fun substitution => ?_)
        have hfront : (pre ++ ['$'] ++ '{' :: (spec ++ ['}']) ++ after).take pre.length = pre := by
          simp
        have hback : (pre ++ ['$'] ++ '{' :: (spec ++ ['}']) ++ after).drop
            (pre.length + spec.length + 3) = after := by
          apply List.drop_left'
          simp
          omega
        rw [replaceRange, hfront, hback]
        simp

/-- A pass rewrites its text. -/
theorem replaceMatches_findIter (text : List Char) :
    replaceMatches systemEnv configEnv (findIter text) text =
      rewrite systemEnv configEnv text := by
  calc replaceMatches systemEnv configEnv (findIter text) text
      = (rewrite systemEnv configEnv text >>= fun after => .ok after) := by
        simpa [findIter, rewrite] using replaceMatches_findFrom [] text 0
    _ = rewrite systemEnv configEnv text := bind_pure _

/-- A text without dollar signs is left alone. -/
theorem rewrite_of_no_dollar (h : '$' ∉ text) : rewrite systemEnv configEnv text = .ok text := by
  rw [← replaceMatches_findIter, findIter, findFrom_eq_nil h]
  rfl

/-! ### Closed texts -/

/-- After every dollar sign there is a closing brace. -/
def ClosedText (text : List Char) : Prop :=
  ∀ before after, text = before ++ '$' :: after → '}' ∈ after

theorem ClosedText.of_no_dollar (h : '$' ∉ text) : ClosedText text := by
  rintro before after rfl
  exact absurd (by simp) h

theorem ClosedText.append {a b : List Char} (ha : ClosedText a) (hb : ClosedText b) :
    ClosedText (a ++ b) := by
  intro before after h
  rcases List.append_eq_append_iff.mp h with ⟨between, hbefore, hafter⟩ | ⟨between, hbefore, hafter⟩
  · exact hb between after hafter
  · cases between with
    | nil => exact hb [] after hafter.symm
    | cons c between =>
      obtain ⟨rfl, rfl⟩ := List.cons.inj hafter
      exact List.mem_append_left _ (ha before between hbefore)

theorem ClosedText.of_append {a b : List Char} (h : ClosedText (a ++ b)) : ClosedText b := by
  rintro before after rfl
  exact h (a ++ before) after (List.append_assoc a before _).symm

/-- Where a closed text starts no reference, it starts none with more text after it. -/
theorem referenceAt_append {c : Char} (h : ClosedText (c :: rest))
    (href : referenceAt (c :: rest) = none) (more : List Char) :
    referenceAt (c :: (rest ++ more)) = none := by
  by_contra hsome
  obtain ⟨spec, hsome⟩ := Option.ne_none_iff_exists'.mp hsome
  obtain ⟨tail, htext, hne, hfresh⟩ := referenceAt_eq_some_iff.mp hsome
  obtain ⟨rfl, hrest⟩ := List.cons.inj htext
  obtain ⟨front, back, rfl, hfront⟩ := List.eq_append_cons_of_mem (h [] rest rfl)
  -- the first closing brace is the same with and without the additional text
  rw [List.append_assoc, List.cons_append] at hrest
  have hbrace : '}' ∉ '{' :: spec := by simpa using hfresh
  have hsame : front = '{' :: spec :=
    calc front = (front ++ '}' :: (back ++ more)).takeWhile (· ≠ '}') :=
          (takeWhile_brace hfront _).symm
      _ = ('{' :: spec ++ '}' :: tail).takeWhile (· ≠ '}') := by rw [hrest, List.cons_append]
      _ = '{' :: spec := takeWhile_brace hbrace tail
  rw [hsame] at href
  have hhere : referenceAt ('$' :: ('{' :: spec ++ '}' :: back)) = some spec :=
    referenceAt_eq_some_iff.mpr ⟨back, rfl, hne, hfresh⟩
  rw [hhere] at href
  cases href

/-- A closed text is rewritten independently of what follows. -/
theorem rewrite_append {a : List Char} (h : ClosedText a) (b : List Char) :
    rewrite systemEnv configEnv (a ++ b) =
      (rewrite systemEnv configEnv b >>= fun after =>
        rewrite systemEnv configEnv a >>= fun before => .ok (before ++ after)) := by
  induction a using text_induction with
  | nil =>
    have hid : (fun after => rewrite systemEnv configEnv [] >>= fun before =>
        (.ok (before ++ after) : SegwireResult (List Char))) = pure := rfl
    rw [hid, bind_pure]
    rfl
  | plain c rest href ih =>
    have hrest : ClosedText rest := ClosedText.of_append (a := [c]) h
    rw [List.cons_append, rewrite_plain (referenceAt_append h href b), ih hrest, rewrite_plain href]
    simp only [bind_assoc, Except.ok_bind, List.cons_append]
  | reference spec rest hne hfresh ih =>
    have hrest : ClosedText rest := by
      apply ClosedText.of_append (a := '$' :: '{' :: (spec ++ ['}']))
      simpa using h
    have htext : '$' :: '{' :: (spec ++ '}' :: rest) ++ b =
        '$' :: '{' :: (spec ++ '}' :: (rest ++ b)) := by simp
    rw [htext, rewrite_reference hne hfresh, ih hrest, rewrite_reference hne hfresh]
    simp only [bind_assoc, Except.ok_bind, List.append_assoc]

/-! ### Values -/

/-- A text without dollar signs and braces. -/
structure PlainText (text : List Char) : Prop where
  no_dollar : '$' ∉ text
  no_open : '{' ∉ text
  no_close : '}' ∉ text

theorem plainText_nil : PlainText [] := ⟨List.not_mem_nil, List.not_mem_nil, List.not_mem_nil⟩

theorem PlainText.append {a b : List Char} (ha : PlainText a) (hb : PlainText b) :
    PlainText (a ++ b) := by
  constructor <;> rw [List.mem_append, not_or]
  · exact ⟨ha.no_dollar, hb.no_dollar⟩
  · exact ⟨ha.no_open, hb.no_open⟩
  · exact ⟨ha.no_close, hb.no_close⟩

/-- The value of a variable. -/
def valueOf (systemEnv : String → Option String) (configEnv : HashMap String String)
    (name : List Char) : Option (List Char) :=
  (getVariableValue systemEnv (String.ofList name) configEnv).map String.toList

/-- The value of a variable that is set and not empty. -/
def nonemptyValue (systemEnv : String → Option String) (configEnv : HashMap String String)
    (name : List Char) : Option (List Char) :=
  (valueOf systemEnv configEnv name).filter (· ≠ [])

/-- All values are plain. -/
def PlainValues (systemEnv : String → Option String) (configEnv : HashMap String String) : Prop :=
  ∀ name value, valueOf systemEnv configEnv name = some value → PlainText value

/-- What a reference with a default is replaced by. -/
theorem resolve_default {name default : List Char} (h : splitOnce [':', '-'] spec =
    some (name, default)) :
    resolveVariableSpec systemEnv spec configEnv =
      .ok ((nonemptyValue systemEnv configEnv name).getD default) := by
  unfold resolveVariableSpec nonemptyValue valueOf
  rw [h]
  dsimp only
  cases getVariableValue systemEnv (String.ofList name) configEnv with
  | none => rfl
  | some value =>
    by_cases hempty : value.toList = []
    · simp [Option.filter, hempty]
    · simp [Option.filter, hempty]

/-- What a reference with an alternate is replaced by. -/
theorem resolve_alternate {name alternate : List Char}
    (hdefault : splitOnce [':', '-'] spec = none)
    (h : splitOnce [':', '+'] spec = some (name, alternate)) :
    resolveVariableSpec systemEnv spec configEnv =
      .ok (if (nonemptyValue systemEnv configEnv name).isSome then alternate else []) := by
  unfold resolveVariableSpec nonemptyValue valueOf
  rw [hdefault, h]
  dsimp only
  cases getVariableValue systemEnv (String.ofList name) configEnv with
  | none => rfl
  | some value =>
    by_cases hempty : value.toList = []
    · simp [Option.filter, hempty]
    · simp [Option.filter, hempty]

/-- What a reference to a variable is replaced by. -/
theorem resolve_variable {value : List Char} (h : ':' ∉ spec)
    (hvalue : valueOf systemEnv configEnv spec = some value) :
    resolveVariableSpec systemEnv spec configEnv = .ok value := by
  have hnone (c : Char) : splitOnce [':', c] spec = none := by
    rw [splitOnce_eq_none_iff]
    exact fun hfound => h (hfound.subset List.mem_cons_self)
  obtain ⟨text, htext, rfl⟩ := Option.map_eq_some_iff.mp hvalue
  unfold resolveVariableSpec
  rw [hnone, hnone]
  dsimp only
  rw [htext]
  rfl

/-- A substitution is a value, or what stands at the end of the reference. -/
theorem plainText_or_suffix (hvalues : PlainValues systemEnv configEnv)
    (h : resolveVariableSpec systemEnv spec configEnv = .ok out) :
    PlainText out ∨ out <:+ spec := by
  cases hdefault : splitOnce [':', '-'] spec with
  | some parts =>
    obtain ⟨name, default⟩ := parts
    rw [resolve_default hdefault] at h
    obtain rfl := Except.ok.inj h
    cases hvalue : nonemptyValue systemEnv configEnv name with
    | none => exact .inr ⟨name ++ [':', '-'], (splitOnce_eq_some hdefault).symm⟩
    | some value => exact .inl (hvalues name value (Option.filter_eq_some_iff.mp hvalue).1)
  | none =>
    cases halternate : splitOnce [':', '+'] spec with
    | some parts =>
      obtain ⟨name, alternate⟩ := parts
      rw [resolve_alternate hdefault halternate] at h
      obtain rfl := Except.ok.inj h
      split_ifs
      · exact .inr ⟨name ++ [':', '+'], (splitOnce_eq_some halternate).symm⟩
      · exact .inl plainText_nil
    | none =>
      unfold resolveVariableSpec at h
      rw [hdefault, halternate] at h
      dsimp only at h
      split at h
      · next value hvalue =>
        obtain rfl := Except.ok.inj h
        exact .inl (hvalues spec value hvalue)
      · cases h

/-! ### The balance of a text -/

/-- The surplus of closing braces over dollar signs in the first text is at most the one in
the second. -/
def Balanced (text out : List Char) : Prop :=
  text.count '}' + out.count '$' ≤ out.count '}' + text.count '$'

theorem Balanced.refl (text : List Char) : Balanced text text := le_rfl

theorem Balanced.trans {a b c : List Char} (hab : Balanced a b) (hbc : Balanced b c) :
    Balanced a c := by
  unfold Balanced at *
  omega

theorem count_eq_zero_of_plainText (h : PlainText text) :
    text.count '$' = 0 ∧ text.count '}' = 0 :=
  ⟨List.count_eq_zero.mpr h.no_dollar, List.count_eq_zero.mpr h.no_close⟩

/-- A substitution has no closing brace, and no more dollar signs than the reference. -/
theorem count_of_resolve (hvalues : PlainValues systemEnv configEnv) (hfresh : '}' ∉ spec)
    (h : resolveVariableSpec systemEnv spec configEnv = .ok out) :
    out.count '}' = 0 ∧ out.count '$' ≤ spec.count '$' := by
  rcases plainText_or_suffix hvalues h with hplain | hsuffix
  · obtain ⟨hdollar, hclose⟩ := count_eq_zero_of_plainText hplain
    omega
  · exact ⟨List.count_eq_zero.mpr fun hmem => hfresh (hsuffix.subset hmem),
      hsuffix.sublist.count_le '$'⟩

theorem Balanced.of_rewrite (hvalues : PlainValues systemEnv configEnv)
    (h : rewrite systemEnv configEnv text = .ok out) : Balanced text out := by
  induction text using text_induction generalizing out with
  | nil =>
    obtain rfl := Except.ok.inj h
    exact Balanced.refl []
  | plain c rest href ih =>
    rw [rewrite_plain href] at h
    obtain ⟨after, hafter, heq⟩ := Except.bind_eq_ok_iff.mp h
    obtain rfl := Except.ok.inj heq
    have hrest := ih hafter
    unfold Balanced at *
    rw [List.count_cons, List.count_cons, List.count_cons, List.count_cons]
    omega
  | reference spec rest hne hfresh ih =>
    rw [rewrite_reference hne hfresh] at h
    obtain ⟨after, hafter, h₁⟩ := Except.bind_eq_ok_iff.mp h
    obtain ⟨substitution, hresolve, heq⟩ := Except.bind_eq_ok_iff.mp h₁
    obtain rfl := Except.ok.inj heq
    obtain ⟨hclose, hdollar⟩ := count_of_resolve hvalues hfresh hresolve
    have hspec : spec.count '}' = 0 := List.count_eq_zero.mpr hfresh
    have hrest := ih hafter
    unfold Balanced at *
    simp [List.count_append, hclose, hspec]
    omega

theorem Balanced.of_substituteLoop (hvalues : PlainValues systemEnv configEnv) {n : Nat}
    (h : substituteLoop systemEnv configEnv n text = .ok out) : Balanced text out := by
  induction n generalizing text with
  | zero => cases h
  | succ n ih =>
    rw [substituteLoop] at h
    split at h
    · split_ifs at h
      obtain rfl := Except.ok.inj h
      exact Balanced.refl text
    · rw [replaceMatches_findIter] at h
      obtain ⟨text', hpass, hloop⟩ := Except.bind_eq_ok_iff.mp h
      exact (Balanced.of_rewrite hvalues hpass).trans (ih hloop)

end Segwire.Common
