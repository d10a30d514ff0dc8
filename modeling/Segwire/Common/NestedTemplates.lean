import Segwire.Common.EnvSubstPasses

/-!
# Nested templates

A template is text with references, which may have templates for defaults and alternates.
The substitution ends a reference at the first closing brace, which in a nested template
is that of an inner reference. What is left works if the outer reference is replaced by
its own template and nothing follows the inner ones. Otherwise a closing brace stays, or
the inner reference takes the text behind it.

## Main definitions

* `Template`, `Template.render`, `Template.eval` — templates, their texts and their values
* `Template.Substitutes` — the substitution gives the value
* `Template.Flat` — all defaults and alternates are literal
* `Template.Unfolds` — every outer reference is replaced by a template that ends in braces

## Main results

* `Template.Unfolds.substitutes` — what unfolds is substituted as it should be
* `Template.substitutes_iff` — the templates that have their value in every environment
* `Template.not_substitutes_of_nested`
-/

namespace Segwire.Common

open Foundation Foundation.Text

/-! ### Templates -/

/-- Text with references. -/
inductive Template
  | text (s : List Char)
  /-- `${name}` -/
  | var (name : List Char)
  /-- `${name:-body}` -/
  | orDefault (name : List Char) (body : Template)
  /-- `${name:+body}` -/
  | orAlternate (name : List Char) (body : Template)
  | append (t u : Template)
  deriving DecidableEq, Repr

/-- The name of a variable. -/
structure IsName (name : List Char) : Prop where
  ne_nil : name ≠ []
  plain : PlainText name
  no_colon : ':' ∉ name

namespace Template

/-- The text of a template. -/
def render : Template → List Char
  | text s => s
  | var name => '$' :: '{' :: (name ++ ['}'])
  | orDefault name body => '$' :: '{' :: (name ++ ':' :: '-' :: (body.render ++ ['}']))
  | orAlternate name body => '$' :: '{' :: (name ++ ':' :: '+' :: (body.render ++ ['}']))
  | append t u => t.render ++ u.render

/-- How deep references are nested. -/
def depth : Template → Nat
  | text _ => 0
  | var _ => 1
  | orDefault _ body => body.depth + 1
  | orAlternate _ body => body.depth + 1
  | append t u => max t.depth u.depth

/-- Literal text has no dollar signs, braces and colons. -/
def WellFormed : Template → Prop
  | text s => PlainText s ∧ ':' ∉ s
  | var name => IsName name
  | orDefault name body => IsName name ∧ body.WellFormed
  | orAlternate name body => IsName name ∧ body.WellFormed
  | append t u => t.WellFormed ∧ u.WellFormed

/-- There are no references. -/
def IsText : Template → Prop
  | text _ => True
  | append t u => t.IsText ∧ u.IsText
  | _ => False

/-- All defaults and alternates are literal. -/
def Flat : Template → Prop
  | text _ => True
  | var _ => True
  | orDefault _ body => body.IsText
  | orAlternate _ body => body.IsText
  | append t u => t.Flat ∧ u.Flat

/-- All closing braces stand at the end. -/
def ClosesAtEnd (t : Template) : Prop :=
  ∃ front k, t.render = front ++ List.replicate k '}' ∧ '}' ∉ front

section Environment

variable (systemEnv : String → Option String) (configEnv : HashMap String String)

/-- The value of a template, if all the variables that it needs are set. A default counts for
a variable that is not set or empty, an alternate for one that is set and not empty. -/
def eval : Template → Option (List Char)
  | text s => some s
  | var name => valueOf systemEnv configEnv name
  | orDefault name body =>
    match nonemptyValue systemEnv configEnv name with
    | some value => some value
    | none => body.eval
  | orAlternate name body =>
    match nonemptyValue systemEnv configEnv name with
    | some _ => body.eval
    | none => some []
  | append t u => t.eval.bind fun a => u.eval.map fun b => a ++ b

/-- If the template has a value, the substitution returns it. -/
def Substitutes (t : Template) : Prop :=
  ∀ value, t.eval systemEnv configEnv = some value →
    substituteEnvVars systemEnv configEnv (String.ofList t.render) = .ok (String.ofList value)

/-- Defaults and alternates that are not literal are used, and nothing stands behind the
references in them; and no alternate contains a default. -/
def Unfolds : Template → Prop
  | text _ => True
  | var _ => True
  | orDefault name body =>
    match nonemptyValue systemEnv configEnv name with
    | some _ => body.IsText
    | none => body.ClosesAtEnd ∧ body.Unfolds
  | orAlternate name body =>
    match nonemptyValue systemEnv configEnv name with
    | some _ => body.ClosesAtEnd ∧ ¬ [':', '-'] <:+: body.render ∧ body.Unfolds
    | none => body.IsText
  | append t u => t.Unfolds ∧ u.Unfolds

/-- The template after one pass. -/
def expand : Template → Template
  | text s => text s
  | var name => text ((valueOf systemEnv configEnv name).getD [])
  | orDefault name body =>
    match nonemptyValue systemEnv configEnv name with
    | some value => text value
    | none => body
  | orAlternate name body =>
    match nonemptyValue systemEnv configEnv name with
    | some _ => body
    | none => text []
  | append t u => append t.expand u.expand

end Environment

variable {systemEnv : String → Option String} {configEnv : HashMap String String}
  {t body : Template} {name front value : List Char}

/-! ### Texts of templates -/

/-- The first text of a template may have colons, once values have taken their places. -/
def WellFormedAfter : Template → Prop
  | text s => PlainText s
  | append t u => t.WellFormedAfter ∧ u.WellFormedAfter
  | t => t.WellFormed

theorem WellFormed.after (h : t.WellFormed) : t.WellFormedAfter := by
  induction t with
  | text s => exact h.1
  | append t u iht ihu => exact ⟨iht h.1, ihu h.2⟩
  | var | orDefault | orAlternate => exact h

theorem plainText_of_isText (h : t.WellFormedAfter) (htext : t.IsText) : PlainText t.render := by
  induction t with
  | text s => exact h
  | append t u iht ihu => exact (iht h.1 htext.1).append (ihu h.2 htext.2)
  | var | orDefault | orAlternate => exact htext.elim

theorem no_colon_of_isText (h : t.WellFormed) (htext : t.IsText) : ':' ∉ t.render := by
  induction t with
  | text s => exact h.2
  | append t u iht ihu =>
    rw [render, List.mem_append, not_or]
    exact ⟨iht h.1 htext.1, ihu h.2 htext.2⟩
  | var | orDefault | orAlternate => exact htext.elim

theorem closesAtEnd_of_isText (h : t.WellFormed) (htext : t.IsText) : t.ClosesAtEnd :=
  ⟨t.render, 0, (List.append_nil _).symm, (plainText_of_isText h.after htext).no_close⟩

/-- A text that ends in a closing brace is closed. -/
theorem closedText_brace (s : List Char) : ClosedText (s ++ ['}']) := by
  intro before after h
  rcases List.append_eq_append_iff.mp h with ⟨between, -, hafter⟩ | ⟨between, -, hafter⟩
  · have hdollar : '$' ∈ ['}'] := hafter ▸ List.mem_append_right _ List.mem_cons_self
    exact absurd hdollar (by decide)
  · cases between with
    | nil => exact absurd (List.cons.inj hafter).1 (by decide)
    | cons c between =>
      rw [(List.cons.inj hafter).2]
      simp

theorem closedText_render (h : t.WellFormedAfter) : ClosedText t.render := by
  induction t with
  | text s => exact .of_no_dollar h.no_dollar
  | append t u iht ihu => exact (iht h.1).append (ihu h.2)
  | var name => exact closedText_brace ('$' :: '{' :: name)
  | orDefault name body =>
    have hclosed := closedText_brace ('$' :: '{' :: (name ++ ':' :: '-' :: body.render))
    simpa [render] using hclosed
  | orAlternate name body =>
    have hclosed := closedText_brace ('$' :: '{' :: (name ++ ':' :: '+' :: body.render))
    simpa [render] using hclosed

/-! ### One pass -/

/-- The first closing brace ends the reference, and the others stay. -/
theorem rewrite_conditional {sep : Char} {substitution : List Char} (hname : IsName name)
    (hsep : '}' ≠ sep) (hfront : '}' ∉ front)
    (hresolve : resolveVariableSpec systemEnv (name ++ ':' :: sep :: front) configEnv =
      .ok substitution) (k : Nat) :
    rewrite systemEnv configEnv
        ('$' :: '{' :: (name ++ ':' :: sep :: (front ++ List.replicate k '}' ++ ['}']))) =
      .ok (substitution ++ List.replicate k '}') := by
  have htext : '$' :: '{' :: (name ++ ':' :: sep :: (front ++ List.replicate k '}' ++ ['}'])) =
      '$' :: '{' :: ((name ++ ':' :: sep :: front) ++ '}' :: List.replicate k '}') := by
    simp [← List.replicate_succ', List.replicate_succ]
  have hbraces : '$' ∉ List.replicate k '}' := by simp
  rw [htext, rewrite_reference (by simp) (by simp [hname.plain.no_close, hfront, hsep]),
    rewrite_of_no_dollar hbraces, Except.ok_bind, hresolve]
  rfl

/-- The separator of an alternate is not that of a default. -/
theorem not_infix_alternate (hname : ':' ∉ name) (hfront : ¬ [':', '-'] <:+: front) :
    ¬ [':', '-'] <:+: name ++ ':' :: '+' :: front := by
  induction name with
  | nil => simp [List.infix_cons_iff, hfront]
  | cons first name ih =>
    rw [List.mem_cons, not_or] at hname
    rw [List.cons_append, List.infix_cons_iff, List.cons_prefix_cons, not_or]
    exact ⟨fun hstarts => hname.1 hstarts.1, ih hname.2⟩

theorem rewrite_orDefault (hname : IsName name) (hfront : '}' ∉ front) (k : Nat) :
    rewrite systemEnv configEnv
        ('$' :: '{' :: (name ++ ':' :: '-' :: (front ++ List.replicate k '}' ++ ['}']))) =
      .ok ((nonemptyValue systemEnv configEnv name).getD front ++ List.replicate k '}') :=
  rewrite_conditional hname (by decide) hfront
    (resolve_default (splitOnce_colon hname.no_colon '-')) k

theorem rewrite_orAlternate (hname : IsName name) (hfront : '}' ∉ front)
    (hdefault : ¬ [':', '-'] <:+: front) (k : Nat) :
    rewrite systemEnv configEnv
        ('$' :: '{' :: (name ++ ':' :: '+' :: (front ++ List.replicate k '}' ++ ['}']))) =
      .ok ((if (nonemptyValue systemEnv configEnv name).isSome then front else []) ++
        List.replicate k '}') :=
  rewrite_conditional hname (by decide) hfront
    (resolve_alternate (splitOnce_eq_none_iff.mpr (not_infix_alternate hname.no_colon hdefault))
      (splitOnce_colon hname.no_colon '+')) k

theorem rewrite_render (h : t.WellFormedAfter) (hunfolds : t.Unfolds systemEnv configEnv)
    (heval : t.eval systemEnv configEnv = some value) :
    rewrite systemEnv configEnv t.render = .ok (t.expand systemEnv configEnv).render := by
  induction t generalizing value with
  | text s => exact rewrite_of_no_dollar h.no_dollar
  | var name =>
    have hvalue : valueOf systemEnv configEnv name = some value := heval
    have hpass : rewrite systemEnv configEnv (var name).render = .ok (value ++ []) := by
      rw [render, rewrite_reference h.ne_nil h.plain.no_close,
        rewrite_of_no_dollar List.not_mem_nil, Except.ok_bind, resolve_variable h.no_colon hvalue]
      rfl
    rw [hpass, List.append_nil, expand, hvalue]
    rfl
  | orDefault name body =>
    obtain ⟨hname, hbody⟩ := h
    rw [Unfolds] at hunfolds
    rw [render, expand]
    cases hvalue : nonemptyValue systemEnv configEnv name with
    | some set =>
      rw [hvalue] at hunfolds
      have hplain := plainText_of_isText hbody.after hunfolds
      have hpass : rewrite systemEnv configEnv _ = _ := rewrite_orDefault hname hplain.no_close 0
      rw [hvalue] at hpass
      simpa [render] using hpass
    | none =>
      rw [hvalue] at hunfolds
      obtain ⟨⟨front, k, hrender, hfront⟩, -⟩ := hunfolds
      rw [hrender, rewrite_orDefault hname hfront, hvalue]
      rfl
  | orAlternate name body =>
    obtain ⟨hname, hbody⟩ := h
    rw [Unfolds] at hunfolds
    rw [render, expand]
    cases hvalue : nonemptyValue systemEnv configEnv name with
    | some set =>
      rw [hvalue] at hunfolds
      obtain ⟨⟨front, k, hrender, hfront⟩, hdefault, -⟩ := hunfolds
      have hoccurs : ¬ [':', '-'] <:+: front := fun hoccurs =>
        hdefault (hrender ▸ hoccurs.trans (List.prefix_append _ _).isInfix)
      rw [hrender, rewrite_orAlternate hname hfront hoccurs, hvalue]
      rfl
    | none =>
      rw [hvalue] at hunfolds
      have hplain := plainText_of_isText hbody.after hunfolds
      have hoccurs : ¬ [':', '-'] <:+: body.render := fun hoccurs =>
        no_colon_of_isText hbody hunfolds (hoccurs.subset List.mem_cons_self)
      have hpass : rewrite systemEnv configEnv _ = _ :=
        rewrite_orAlternate hname hplain.no_close hoccurs 0
      rw [hvalue] at hpass
      simpa [render] using hpass
  | append t u iht ihu =>
    obtain ⟨a, ha, hmap⟩ := Option.bind_eq_some_iff.mp heval
    obtain ⟨b, hb, -⟩ := Option.map_eq_some_iff.mp hmap
    rw [render, rewrite_append (closedText_render h.1), ihu h.2 hunfolds.2 hb, Except.ok_bind,
      iht h.1 hunfolds.1 ha]
    rfl

/-! ### Runs -/

theorem eval_of_isText (htext : t.IsText) : t.eval systemEnv configEnv = some t.render := by
  induction t with
  | text s => rfl
  | append t u iht ihu => rw [eval, iht htext.1, ihu htext.2]; rfl
  | var | orDefault | orAlternate => exact htext.elim

theorem unfolds_of_isText (htext : t.IsText) : t.Unfolds systemEnv configEnv := by
  induction t with
  | text s => trivial
  | append t u iht ihu => exact ⟨iht htext.1, ihu htext.2⟩
  | var | orDefault | orAlternate => exact htext.elim

theorem isText_of_depth (h : t.depth = 0) : t.IsText := by
  induction t with
  | text s => trivial
  | append t u iht ihu =>
    rw [depth] at h
    exact ⟨iht (by omega), ihu (by omega)⟩
  | var | orDefault | orAlternate => cases h

/-- A pass keeps the value. -/
theorem eval_expand (h : t.eval systemEnv configEnv = some value) :
    (t.expand systemEnv configEnv).eval systemEnv configEnv = some value := by
  induction t generalizing value with
  | text s => exact h
  | var name =>
    rw [eval] at h
    rw [expand, h]
    rfl
  | orDefault name body =>
    rw [eval] at h
    rw [expand]
    cases hvalue : nonemptyValue systemEnv configEnv name <;> rw [hvalue] at h <;> exact h
  | orAlternate name body =>
    rw [eval] at h
    rw [expand]
    cases hvalue : nonemptyValue systemEnv configEnv name <;> rw [hvalue] at h <;> exact h
  | append t u iht ihu =>
    obtain ⟨a, ha, hmap⟩ := Option.bind_eq_some_iff.mp h
    obtain ⟨b, hb, rfl⟩ := Option.map_eq_some_iff.mp hmap
    rw [expand, eval, iht ha, ihu hb]
    rfl

theorem unfolds_expand (h : t.Unfolds systemEnv configEnv) :
    (t.expand systemEnv configEnv).Unfolds systemEnv configEnv := by
  induction t with
  | text s => trivial
  | var name => trivial
  | orDefault name body =>
    rw [Unfolds] at h
    rw [expand]
    cases hvalue : nonemptyValue systemEnv configEnv name <;> rw [hvalue] at h
    · exact h.2
    · trivial
  | orAlternate name body =>
    rw [Unfolds] at h
    rw [expand]
    cases hvalue : nonemptyValue systemEnv configEnv name <;> rw [hvalue] at h
    · trivial
    · exact h.2.2
  | append t u iht ihu => exact ⟨iht h.1, ihu h.2⟩

theorem wellFormedAfter_expand (hvalues : PlainValues systemEnv configEnv)
    (h : t.WellFormedAfter) : (t.expand systemEnv configEnv).WellFormedAfter := by
  induction t with
  | text s => exact h
  | var name =>
    cases hvalue : valueOf systemEnv configEnv name with
    | none => rw [expand, hvalue]; exact plainText_nil
    | some value => rw [expand, hvalue]; exact hvalues name value hvalue
  | orDefault name body =>
    rw [expand]
    cases hvalue : nonemptyValue systemEnv configEnv name with
    | none => exact h.2.after
    | some value => exact hvalues name value (Option.filter_eq_some_iff.mp hvalue).1
  | orAlternate name body =>
    rw [expand]
    cases nonemptyValue systemEnv configEnv name with
    | none => exact plainText_nil
    | some value => exact h.2.after
  | append t u iht ihu => exact ⟨iht h.1, ihu h.2⟩

/-- A pass takes one level away. -/
theorem depth_expand (t : Template) : (t.expand systemEnv configEnv).depth ≤ t.depth - 1 := by
  induction t with
  | text s => exact le_rfl
  | var name => exact le_rfl
  | orDefault name body =>
    rw [expand]
    cases nonemptyValue systemEnv configEnv name with
    | none => exact le_rfl
    | some value => exact Nat.zero_le _
  | orAlternate name body =>
    rw [expand]
    cases nonemptyValue systemEnv configEnv name with
    | none => exact Nat.zero_le _
    | some value => exact le_rfl
  | append t u iht ihu =>
    rw [expand, depth, depth]
    omega

/-- A template that unfolds has its value after as many passes as it is deep; one more finds
nothing left. -/
theorem substituteLoop_render (hvalues : PlainValues systemEnv configEnv) {d n : Nat}
    (hdepth : t.depth ≤ d) (hn : d + 2 ≤ n) (h : t.WellFormedAfter)
    (hunfolds : t.Unfolds systemEnv configEnv) (heval : t.eval systemEnv configEnv = some value) :
    substituteLoop systemEnv configEnv n t.render = .ok value := by
  have hdone {n : Nat} (hn : 2 ≤ n) {s : List Char} (hnone : findIter s = []) :
      substituteLoop systemEnv configEnv n s = .ok s := by
    obtain ⟨m, rfl⟩ : ∃ m, n = m + 1 := ⟨n - 1, by omega⟩
    rw [substituteLoop, hnone]
    exact if_neg (by omega)
  induction d generalizing t n with
  | zero =>
    have htext := isText_of_depth (Nat.le_zero.mp hdepth)
    have hvalue : t.render = value :=
      Option.some.inj ((eval_of_isText htext).symm.trans heval)
    rw [← hvalue]
    exact hdone hn (findFrom_eq_nil (plainText_of_isText h htext).no_dollar 0 0)
  | succ d ih =>
    obtain ⟨m, rfl⟩ : ∃ m, n = m + 1 := ⟨n - 1, by omega⟩
    have hless : (t.expand systemEnv configEnv).depth ≤ t.depth - 1 := depth_expand t
    have hnext := ih (n := m) (by omega) (by omega) (wellFormedAfter_expand hvalues h)
      (unfolds_expand hunfolds) (eval_expand heval)
    have hpass := rewrite_render h hunfolds heval
    rw [← replaceMatches_findIter] at hpass
    cases hfound : findIter t.render with
    | nil =>
      -- nothing is left to replace, so the text is already the value
      rw [hfound] at hpass
      rw [← Except.ok.inj hpass, hdone (by omega) hfound] at hnext
      rw [hdone (by omega) hfound, hnext]
    | cons reference matched =>
      rw [hfound] at hpass
      rw [substituteLoop, hfound]
      dsimp only
      rw [hpass]
      exact hnext

/-- As many passes as the program makes are enough for eight levels. -/
theorem Unfolds.substitutes (hvalues : PlainValues systemEnv configEnv) (h : t.WellFormed)
    (hdepth : t.depth ≤ 8) (hunfolds : t.Unfolds systemEnv configEnv) :
    t.Substitutes systemEnv configEnv := by
  intro value heval
  have hloop := substituteLoop_render hvalues hdepth (n := maxIterations) le_rfl h.after hunfolds
    heval
  rw [substituteEnvVars, String.toList_ofList, hloop]
  rfl

theorem unfolds_of_flat (h : t.WellFormed) (hflat : t.Flat) :
    t.Unfolds systemEnv configEnv := by
  induction t with
  | text s => trivial
  | var name => trivial
  | orDefault name body =>
    rw [Unfolds]
    cases nonemptyValue systemEnv configEnv name with
    | none => exact ⟨closesAtEnd_of_isText h.2 hflat, unfolds_of_isText hflat⟩
    | some value => exact hflat
  | orAlternate name body =>
    rw [Unfolds]
    cases nonemptyValue systemEnv configEnv name with
    | none => exact hflat
    | some value =>
      refine ⟨closesAtEnd_of_isText h.2 hflat, fun hoccurs => ?_, unfolds_of_isText hflat⟩
      exact no_colon_of_isText h.2 hflat (hoccurs.subset List.mem_cons_self)
  | append t u iht ihu => exact ⟨iht h.1 hflat.1, ihu h.2 hflat.2⟩

/-! ### Nested templates fail -/

/-- A body that has references is left out. -/
def Drops (systemEnv : String → Option String) (configEnv : HashMap String String) :
    Template → Prop
  | orDefault name body =>
    (nonemptyValue systemEnv configEnv name).isSome = true ∧ ¬ body.IsText
  | orAlternate name body =>
    (nonemptyValue systemEnv configEnv name).isSome = false ∧ ¬ body.IsText
  | append t u => t.Drops systemEnv configEnv ∨ u.Drops systemEnv configEnv
  | _ => False

/-- In a text with references, a dollar sign without a colon before it stands before the first
closing brace. -/
theorem exists_brace (h : t.WellFormed) (htext : ¬ t.IsText) :
    ∃ front inner back, t.render = front ++ '$' :: (inner ++ '}' :: back) ∧ ':' ∉ front ∧
      '}' ∉ front ∧ '}' ∉ inner := by
  have hreference {s rest : List Char} (hs : s = '$' :: rest) (hclose : '}' ∈ rest) :
      ∃ front inner back, s = front ++ '$' :: (inner ++ '}' :: back) ∧ ':' ∉ front ∧
        '}' ∉ front ∧ '}' ∉ inner := by
    obtain ⟨inner, back, rfl, hinner⟩ := List.eq_append_cons_of_mem hclose
    exact ⟨[], inner, back, hs, List.not_mem_nil, List.not_mem_nil, hinner⟩
  induction t with
  | text s => exact absurd trivial htext
  | var name => exact hreference rfl (by simp)
  | orDefault name body => exact hreference rfl (by simp)
  | orAlternate name body => exact hreference rfl (by simp)
  | append t u iht ihu =>
    by_cases ht : t.IsText
    · obtain ⟨front, inner, back, hrender, hcolon, hfront, hinner⟩ :=
        ihu h.2 fun hu => htext ⟨ht, hu⟩
      refine ⟨t.render ++ front, inner, back, by rw [render, hrender, List.append_assoc], ?_, ?_,
        hinner⟩
      · simp [no_colon_of_isText h.1 ht, hcolon]
      · simp [(plainText_of_isText h.1.after ht).no_close, hfront]
    · obtain ⟨front, inner, back, hrender, hrest⟩ := iht h.1 ht
      exact ⟨front, inner, back ++ u.render, by simp [render, hrender], hrest⟩

/-- A reference that loses a dollar sign leaves a surplus of closing braces. -/
theorem lt_of_rewrite_reference (hvalues : PlainValues systemEnv configEnv)
    {spec rest out : List Char} (hne : spec ≠ []) (hfresh : '}' ∉ spec)
    (hpass : rewrite systemEnv configEnv ('$' :: '{' :: (spec ++ '}' :: rest)) = .ok out)
    (hloses : ∀ substitution, resolveVariableSpec systemEnv spec configEnv = .ok substitution →
      substitution.count '$' < spec.count '$') :
    ('$' :: '{' :: (spec ++ '}' :: rest)).count '}' + out.count '$' <
      out.count '}' + ('$' :: '{' :: (spec ++ '}' :: rest)).count '$' := by
  rw [rewrite_reference hne hfresh] at hpass
  obtain ⟨after, hafter, hresolved⟩ := Except.bind_eq_ok_iff.mp hpass
  obtain ⟨substitution, hresolve, heq⟩ := Except.bind_eq_ok_iff.mp hresolved
  obtain rfl := Except.ok.inj heq
  have hless := hloses substitution hresolve
  have hclose := (count_of_resolve hvalues hfresh hresolve).1
  have hspec : spec.count '}' = 0 := List.count_eq_zero.mpr hfresh
  have hrest : Balanced rest after := Balanced.of_rewrite hvalues hafter
  unfold Balanced at hrest
  simp [List.count_append, hclose, hspec]
  omega

/-- A default that is found in an alternate belongs to a reference in it. -/
theorem dollar_mem_of_default {before after more : List Char}
    (h : before ++ ':' :: '-' :: after = front ++ '$' :: more)
    (hfront : ¬ [':', '-'] <:+: front) : '$' ∈ before := by
  rcases List.append_eq_append_iff.mp h with ⟨between, hsplit, hmore⟩ | ⟨between, hsplit, hmore⟩
  · exfalso
    cases between with
    | nil => exact absurd (List.cons.inj hmore).1 (by decide)
    | cons first between =>
      obtain ⟨rfl, htail⟩ := List.cons.inj hmore
      cases between with
      | nil => exact absurd (List.cons.inj htail).1 (by decide)
      | cons second between =>
        obtain ⟨rfl, -⟩ := List.cons.inj htail
        exact hfront ⟨before, between, by simp [hsplit]⟩
  · cases between with
    | nil => exact absurd (List.cons.inj hmore).1 (by decide)
    | cons first between =>
      obtain ⟨rfl, -⟩ := List.cons.inj hmore
      simp [hsplit]

/-- A value has no dollar sign, so the reference that it takes the place of loses its own. -/
theorem count_lt_of_nonemptyValue (hvalues : PlainValues systemEnv configEnv) {spec : List Char}
    (hdollar : '$' ∈ spec) (hvalue : nonemptyValue systemEnv configEnv name = some value) :
    value.count '$' < spec.count '$' := by
  have hplain := hvalues name value (Option.filter_eq_some_iff.mp hvalue).1
  rw [(count_eq_zero_of_plainText hplain).1]
  exact List.count_pos_iff.mpr hdollar

/-- An alternate that is left out takes its dollar sign with it, also where a default of its
own comes first. -/
theorem count_lt_of_resolve_alternate (hvalues : PlainValues systemEnv configEnv)
    {inner substitution : List Char} (hname : IsName name) (hfront : ':' ∉ front)
    (hunset : (nonemptyValue systemEnv configEnv name).isSome = false)
    (hresolve : resolveVariableSpec systemEnv (name ++ ':' :: '+' :: (front ++ '$' :: inner))
      configEnv = .ok substitution) :
    substitution.count '$' < (name ++ ':' :: '+' :: (front ++ '$' :: inner)).count '$' := by
  have hdollar : '$' ∈ name ++ ':' :: '+' :: (front ++ '$' :: inner) := by simp
  cases hdefault : splitOnce [':', '-'] (name ++ ':' :: '+' :: (front ++ '$' :: inner)) with
  | none =>
    rw [resolve_alternate hdefault (splitOnce_colon hname.no_colon '+'), hunset] at hresolve
    obtain rfl := Except.ok.inj hresolve
    exact List.count_pos_iff.mpr hdollar
  | some parts =>
    obtain ⟨before, after⟩ := parts
    have hspec := splitOnce_eq_some hdefault
    rw [List.append_assoc] at hspec
    have hno_default : ¬ [':', '-'] <:+: name ++ ':' :: '+' :: front :=
      not_infix_alternate hname.no_colon fun hoccurs =>
        hfront (hoccurs.subset List.mem_cons_self)
    have hsplit : before ++ ':' :: '-' :: after =
        (name ++ ':' :: '+' :: front) ++ '$' :: inner := by simpa using hspec.symm
    have hbefore : '$' ∈ before := dollar_mem_of_default hsplit hno_default
    rw [resolve_default hdefault] at hresolve
    obtain rfl := Except.ok.inj hresolve
    cases hvalue : nonemptyValue systemEnv configEnv before with
    | none =>
      have hpos : 0 < before.count '$' := List.count_pos_iff.mpr hbefore
      rw [hspec, List.count_append, List.count_append]
      simp
      omega
    | some value => exact count_lt_of_nonemptyValue hvalues hdollar hvalue

/-- The first closing brace of a body that has references ends the reference around it. -/
theorem lt_of_rewrite_conditional (hvalues : PlainValues systemEnv configEnv) {sep : Char}
    {out : List Char} (hname : IsName name) (hsep : '}' ≠ sep) (hbody : body.WellFormed)
    (htext : ¬ body.IsText)
    (hloses : ∀ front inner substitution, ':' ∉ front →
      resolveVariableSpec systemEnv (name ++ ':' :: sep :: (front ++ '$' :: inner)) configEnv =
        .ok substitution →
      substitution.count '$' < (name ++ ':' :: sep :: (front ++ '$' :: inner)).count '$')
    (hpass : rewrite systemEnv configEnv
      ('$' :: '{' :: (name ++ ':' :: sep :: (body.render ++ ['}']))) = .ok out) :
    ('$' :: '{' :: (name ++ ':' :: sep :: (body.render ++ ['}']))).count '}' + out.count '$' <
      out.count '}' + ('$' :: '{' :: (name ++ ':' :: sep :: (body.render ++ ['}']))).count '$' := by
  obtain ⟨front, inner, back, hrender, hcolon, hfront, hinner⟩ := exists_brace hbody htext
  have hshape : '$' :: '{' :: (name ++ ':' :: sep :: (body.render ++ ['}'])) =
      '$' :: '{' ::
        ((name ++ ':' :: sep :: (front ++ '$' :: inner)) ++ '}' :: (back ++ ['}'])) := by
    simp [hrender]
  rw [hshape] at hpass ⊢
  refine lt_of_rewrite_reference hvalues (by simp) ?_ hpass fun substitution hresolve =>
    hloses front inner substitution hcolon hresolve
  simp [hname.plain.no_close, hsep, hfront, hinner]

/-- A dropped dollar sign leaves a surplus of closing braces. -/
theorem Drops.lt_of_rewrite (hvalues : PlainValues systemEnv configEnv) (h : t.WellFormed)
    (hdrops : t.Drops systemEnv configEnv) {out : List Char}
    (hpass : rewrite systemEnv configEnv t.render = .ok out) :
    t.render.count '}' + out.count '$' < out.count '}' + t.render.count '$' := by
  induction t generalizing out with
  | text s => exact hdrops.elim
  | var name => exact hdrops.elim
  | orDefault name body =>
    obtain ⟨hname, hbody⟩ := h
    obtain ⟨hset, htext⟩ := hdrops
    obtain ⟨value, hvalue⟩ := Option.isSome_iff_exists.mp hset
    refine lt_of_rewrite_conditional hvalues hname (by decide) hbody htext
      (fun front inner substitution hfront hresolve => ?_) hpass
    rw [resolve_default (splitOnce_colon hname.no_colon '-'), hvalue] at hresolve
    obtain rfl := Except.ok.inj hresolve
    exact count_lt_of_nonemptyValue hvalues (by simp) hvalue
  | orAlternate name body =>
    obtain ⟨hname, hbody⟩ := h
    obtain ⟨hunset, htext⟩ := hdrops
    exact lt_of_rewrite_conditional hvalues hname (by decide) hbody htext
      (fun front inner substitution hfront hresolve =>
        count_lt_of_resolve_alternate hvalues hname hfront hunset hresolve) hpass
  | append t u iht ihu =>
    rw [render, rewrite_append (closedText_render h.1.after)] at hpass
    obtain ⟨after, hafter, hrest⟩ := Except.bind_eq_ok_iff.mp hpass
    obtain ⟨before, hbefore, heq⟩ := Except.bind_eq_ok_iff.mp hrest
    obtain rfl := Except.ok.inj heq
    have ht : Balanced t.render before := Balanced.of_rewrite hvalues hbefore
    have hu : Balanced u.render after := Balanced.of_rewrite hvalues hafter
    unfold Balanced at ht hu
    rw [render, List.count_append, List.count_append, List.count_append, List.count_append]
    rcases hdrops with hdrops | hdrops
    · have hless := iht h.1 hdrops hbefore
      omega
    · have hless := ihu h.2 hdrops hafter
      omega

/-- A text has as many closing braces as dollar signs. -/
theorem count_render (h : t.WellFormedAfter) : t.render.count '}' = t.render.count '$' := by
  induction t with
  | text s =>
    obtain ⟨hdollar, hclose⟩ := count_eq_zero_of_plainText h
    exact hclose.trans hdollar.symm
  | var name =>
    obtain ⟨hdollar, hclose⟩ := count_eq_zero_of_plainText h.plain
    simp [render, hdollar, hclose]
  | orDefault name body ih =>
    obtain ⟨hdollar, hclose⟩ := count_eq_zero_of_plainText h.1.plain
    simp [render, hdollar, hclose, ih h.2.after]
  | orAlternate name body ih =>
    obtain ⟨hdollar, hclose⟩ := count_eq_zero_of_plainText h.1.plain
    simp [render, hdollar, hclose, ih h.2.after]
  | append t u iht ihu =>
    rw [render, List.count_append, List.count_append, iht h.1, ihu h.2]

/-- Values of templates are plain. -/
theorem plainText_of_eval (hvalues : PlainValues systemEnv configEnv) (h : t.WellFormedAfter)
    (heval : t.eval systemEnv configEnv = some value) : PlainText value := by
  induction t generalizing value with
  | text s =>
    obtain rfl := Option.some.inj heval
    exact h
  | var name => exact hvalues name value heval
  | orDefault name body ih =>
    rw [eval] at heval
    cases hvalue : nonemptyValue systemEnv configEnv name with
    | none =>
      rw [hvalue] at heval
      exact ih h.2.after heval
    | some set =>
      rw [hvalue] at heval
      obtain rfl := Option.some.inj heval
      exact hvalues name set (Option.filter_eq_some_iff.mp hvalue).1
  | orAlternate name body ih =>
    rw [eval] at heval
    cases hvalue : nonemptyValue systemEnv configEnv name with
    | none =>
      rw [hvalue] at heval
      obtain rfl := Option.some.inj heval
      exact plainText_nil
    | some set =>
      rw [hvalue] at heval
      exact ih h.2.after heval
  | append t u iht ihu =>
    obtain ⟨a, ha, hmap⟩ := Option.bind_eq_some_iff.mp heval
    obtain ⟨b, hb, rfl⟩ := Option.map_eq_some_iff.mp hmap
    exact (iht h.1 ha).append (ihu h.2 hb)

/-- A surplus of closing braces stays until the end, so what drops is substituted wrongly. -/
theorem Drops.not_substitutes (hvalues : PlainValues systemEnv configEnv) (h : t.WellFormed)
    (hdrops : t.Drops systemEnv configEnv) (heval : t.eval systemEnv configEnv = some value) :
    ¬ t.Substitutes systemEnv configEnv := by
  intro hsubstitutes
  have hresult := hsubstitutes value heval
  have hloop : substituteLoop systemEnv configEnv maxIterations t.render = .ok value := by
    rw [substituteEnvVars, String.toList_ofList] at hresult
    cases hloop : substituteLoop systemEnv configEnv maxIterations t.render with
    | error e =>
      rw [hloop] at hresult
      cases hresult
    | ok out =>
      rw [hloop] at hresult
      have hsame := congrArg String.toList (Except.ok.inj hresult)
      rw [String.toList_ofList, String.toList_ofList] at hsame
      rw [hsame]
  obtain ⟨hdollar, hclose⟩ :=
    count_eq_zero_of_plainText (plainText_of_eval hvalues h.after heval)
  have hcount := count_render h.after
  rw [maxIterations, substituteLoop] at hloop
  cases hfound : findIter t.render with
  | nil =>
    -- nothing is replaced, although something is dropped
    have hpass : rewrite systemEnv configEnv t.render = .ok t.render := by
      rw [← replaceMatches_findIter, hfound]
      rfl
    exact absurd (hdrops.lt_of_rewrite hvalues h hpass) (by omega)
  | cons reference matched =>
    rw [hfound] at hloop
    obtain ⟨next, hpass, hrest⟩ := Except.bind_eq_ok_iff.mp hloop
    rw [← hfound, replaceMatches_findIter] at hpass
    have hless := hdrops.lt_of_rewrite hvalues h hpass
    have hbalanced : Balanced next value := Balanced.of_substituteLoop hvalues hrest
    unfold Balanced at hbalanced
    omega

/-- The variables of a template. -/
def names : Template → List (List Char)
  | text _ => []
  | var name => [name]
  | orDefault name body => name :: body.names
  | orAlternate name body => name :: body.names
  | append t u => t.names ++ u.names

/-- An environment that sets the named variables to one value. -/
def settingAll (named : List (List Char)) (value : String) : String → Option String :=
  fun name => if name.toList ∈ named then some value else none

theorem valueOf_settingAll (named : List (List Char)) (value : String) (name : List Char) :
    valueOf (settingAll named value) ∅ name =
      if name ∈ named then some value.toList else none := by
  unfold valueOf getVariableValue settingAll
  have hnone : (∅ : HashMap String String).lookup (String.ofList name) = none := rfl
  rw [hnone, String.toList_ofList]
  split_ifs <;> rfl

theorem plainValues_settingAll {named : List (List Char)} {value : String}
    (h : PlainText value.toList) : PlainValues (settingAll named value) ∅ := by
  intro name s hs
  rw [valueOf_settingAll] at hs
  split_ifs at hs
  obtain rfl := Option.some.inj hs
  exact h

/-- With all its variables set, a template has a value. -/
theorem exists_eval {named : List (List Char)} (hnames : t.names ⊆ named) (value : String) :
    ∃ s, t.eval (settingAll named value) ∅ = some s := by
  induction t with
  | text s => exact ⟨s, rfl⟩
  | var name =>
    refine ⟨value.toList, ?_⟩
    rw [eval, valueOf_settingAll, if_pos (hnames List.mem_cons_self)]
  | orDefault name body ih =>
    rw [eval]
    cases nonemptyValue (settingAll named value) ∅ name with
    | none => exact ih fun x hx => hnames (List.mem_cons_of_mem _ hx)
    | some set => exact ⟨set, rfl⟩
  | orAlternate name body ih =>
    rw [eval]
    cases nonemptyValue (settingAll named value) ∅ name with
    | none => exact ⟨[], rfl⟩
    | some set => exact ih fun x hx => hnames (List.mem_cons_of_mem _ hx)
  | append t u iht ihu =>
    obtain ⟨a, ha⟩ := iht fun x hx => hnames (List.mem_append_left _ hx)
    obtain ⟨b, hb⟩ := ihu fun x hx => hnames (List.mem_append_right _ hx)
    exact ⟨a ++ b, by rw [eval, ha, hb]; rfl⟩

/-- A nested default is dropped when all variables are set, a nested alternate when all are
empty. -/
theorem drops_of_not_flat {named : List (List Char)} (hnames : t.names ⊆ named)
    (h : ¬ t.Flat) :
    t.Drops (settingAll named "x") ∅ ∨ t.Drops (settingAll named "") ∅ := by
  induction t with
  | text s => exact absurd trivial h
  | var name => exact absurd trivial h
  | orDefault name body =>
    refine .inl ⟨?_, h⟩
    rw [nonemptyValue, valueOf_settingAll, if_pos (hnames List.mem_cons_self)]
    rfl
  | orAlternate name body =>
    refine .inr ⟨?_, h⟩
    rw [nonemptyValue, valueOf_settingAll, if_pos (hnames List.mem_cons_self)]
    rfl
  | append t u iht ihu =>
    by_cases ht : t.Flat
    · have hu := ihu (fun x hx => hnames (List.mem_append_right _ hx)) fun hu => h ⟨ht, hu⟩
      exact hu.imp .inr .inr
    · have ht := iht (fun x hx => hnames (List.mem_append_left _ hx)) ht
      exact ht.imp .inl .inl

/-- Up to eight levels, a template that unfolds in an environment has its value there; and the
templates that have it in every environment are those without nested references. -/
theorem substitutes_iff (h : t.WellFormed) (hdepth : t.depth ≤ 8) :
    (∀ systemEnv configEnv, PlainValues systemEnv configEnv → t.Unfolds systemEnv configEnv →
      t.Substitutes systemEnv configEnv) ∧
    ((∀ systemEnv configEnv, PlainValues systemEnv configEnv →
      t.Substitutes systemEnv configEnv) ↔ t.Flat) := by
  refine ⟨fun systemEnv configEnv hvalues hunfolds => hunfolds.substitutes hvalues h hdepth,
    fun hall => ?_, fun hflat systemEnv configEnv hvalues => ?_⟩
  · by_contra hnested
    have hfails (value : String) (hplain : PlainText value.toList) :
        ¬ t.Drops (settingAll t.names value) ∅ := by
      intro hdrops
      have hvalues : PlainValues (settingAll t.names value) ∅ := plainValues_settingAll hplain
      obtain ⟨s, heval⟩ := exists_eval (List.Subset.refl t.names) value
      exact hdrops.not_substitutes hvalues h heval (hall _ _ hvalues)
    rcases drops_of_not_flat (List.Subset.refl t.names) hnested with hdrops | hdrops
    · exact hfails "x" ⟨by decide, by decide, by decide⟩ hdrops
    · exact hfails "" ⟨by decide, by decide, by decide⟩ hdrops
  · exact (unfolds_of_flat h hflat).substitutes hvalues h hdepth

section Fixture

/-- `${A:-${B}}` -/
def fallback : Template := orDefault ['A'] (var ['B'])

theorem wellFormed_fallback : fallback.WellFormed where
  left := ⟨by decide, ⟨by decide, by decide, by decide⟩, by decide⟩
  right := ⟨by decide, ⟨by decide, by decide, by decide⟩, by decide⟩

/-- It works while `A` is not set, but not in every environment. -/
theorem substitutes_fallback :
    (∀ systemEnv configEnv, PlainValues systemEnv configEnv →
      fallback.Unfolds systemEnv configEnv → fallback.Substitutes systemEnv configEnv) ∧
    ¬ ∀ systemEnv configEnv, PlainValues systemEnv configEnv →
      fallback.Substitutes systemEnv configEnv :=
  have hiff := substitutes_iff wellFormed_fallback (by decide)
  ⟨hiff.1, fun hall => hiff.2.mp hall⟩

/-- With `A` set to `a`, the value of `${A:-${B}}` is `a`, and the program returns `a}`. -/
theorem not_substitutes_of_nested :
    ¬ ∀ t : Template, t.WellFormed → t.depth ≤ 4 → ∀ systemEnv configEnv,
      PlainValues systemEnv configEnv → t.Substitutes systemEnv configEnv := by
  intro hall
  have hplain : PlainText "a".toList := ⟨by decide, by decide, by decide⟩
  have hresult := hall fallback wellFormed_fallback (by decide) (settingAll [['A'], ['B']] "a") ∅
    (plainValues_settingAll hplain) ['a'] rfl
  have hcode : substituteEnvVars (settingAll [['A'], ['B']] "a") ∅ "${A:-${B}}" = .ok "a\x7d" :=
    rfl
  exact absurd (Except.ok.inj (hcode.symm.trans hresult)) (by decide)

end Fixture

end Template

end Segwire.Common
