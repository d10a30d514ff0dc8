import Segwire.Common.EnvSubstPasses
import Segwire.Foundation.ByteOffset
import Segwire.Foundation.Iteration

/-!
# Substitution as iterated replacement

A text is read from left to right into pieces: a reference where one starts, and a single
character elsewhere. A pass replaces all references of this reading at once. The
substitution repeats passes until a text has no reference, and returns it unless it took
nine passes or more.

## Main definitions

* `HasReference` — a reference `${…}` stands in the text
* `Reading` — the pieces of a text
* `pass`, `passes` — the body of the loop, and its repetition
* `bytePass` — the body of the loop with offsets in bytes

## Main results

* `findIter_eq_nil_iff` — the matches are found where there is a reference
* `pass_eq_ok_iff` — a pass replaces all references at once
* `bytePass_eq_pass` — the byte offsets stay valid
* `substituteEnvVars_of_resolvedAfter`, `substituteEnvVars_of_unresolved` — the outcomes
-/

namespace Segwire.Common

open Foundation Foundation.Text Foundation.Except

variable {systemEnv : String → Option String} {configEnv : HashMap String String}
  {text spec rest out : List Char}

/-! ### References in a text -/

/-- A reference `${…}` stands in the text. -/
def HasReference (text : List Char) : Prop :=
  ∃ before spec after, text = before ++ '$' :: '{' :: (spec ++ '}' :: after) ∧
    spec ≠ [] ∧ '}' ∉ spec

theorem hasReference_of_referenceAt (h : referenceAt text = some spec) : HasReference text := by
  obtain ⟨after, htext, hne, hfresh⟩ := referenceAt_eq_some_iff.mp h
  exact ⟨[], spec, after, htext, hne, hfresh⟩

/-- Where no reference starts, it is the rest of the text that has one. -/
theorem hasReference_cons_iff {c : Char} (h : referenceAt (c :: rest) = none) :
    HasReference (c :: rest) ↔ HasReference rest := by
  constructor
  · rintro ⟨before, spec, after, htext, hne, hfresh⟩
    cases before with
    | nil =>
      rw [referenceAt_eq_some_iff.mpr ⟨after, htext, hne, hfresh⟩] at h
      cases h
    | cons first before => exact ⟨before, spec, after, (List.cons.inj htext).2, hne, hfresh⟩
  · rintro ⟨before, spec, after, rfl, hne, hfresh⟩
    exact ⟨c :: before, spec, after, rfl, hne, hfresh⟩

theorem not_hasReference_nil : ¬ HasReference [] := by
  rintro ⟨before, spec, after, htext, -⟩
  simp at htext

theorem findFrom_eq_nil_iff (offset : Nat) : findFrom offset 0 text = [] ↔ ¬ HasReference text := by
  induction text generalizing offset with
  | nil => exact iff_of_true rfl not_hasReference_nil
  | cons c rest ih =>
    rw [findFrom]
    cases href : referenceAt (c :: rest) with
    | some spec =>
      exact iff_of_false (List.cons_ne_nil _ _) (not_not.mpr (hasReference_of_referenceAt href))
    | none => exact (ih (offset + 1)).trans (not_congr (hasReference_cons_iff href).symm)

/-- The matches are found where there is a reference. -/
theorem findIter_eq_nil_iff : findIter text = [] ↔ ¬ HasReference text := findFrom_eq_nil_iff 0

instance : DecidablePred fun text => ¬ HasReference text := fun text =>
  decidable_of_iff (findIter text = []) findIter_eq_nil_iff

/-! ### The pieces of a text -/

/-- A piece of a text: a character, or a reference with the text between its braces. -/
inductive Piece where
  | char (c : Char)
  | reference (spec : List Char)
  deriving DecidableEq, Repr

/-- The pieces of a text, from left to right. A reference is read wherever one starts, up to
the first closing brace. -/
inductive Reading : List Char → List Piece → Prop
  | nil : Reading [] []
  | char {c rest pieces} : referenceAt (c :: rest) = none → Reading rest pieces →
      Reading (c :: rest) (.char c :: pieces)
  | reference {spec rest pieces} : spec ≠ [] → '}' ∉ spec → Reading rest pieces →
      Reading ('$' :: '{' :: (spec ++ '}' :: rest)) (.reference spec :: pieces)

/-- Every text can be read. -/
theorem exists_reading (text : List Char) : ∃ pieces, Reading text pieces := by
  induction text using text_induction with
  | nil => exact ⟨[], .nil⟩
  | plain c rest href ih =>
    obtain ⟨pieces, hread⟩ := ih
    exact ⟨.char c :: pieces, .char href hread⟩
  | reference spec rest hne hfresh ih =>
    obtain ⟨pieces, hread⟩ := ih
    exact ⟨.reference spec :: pieces, .reference hne hfresh hread⟩

/-- A text is read in one way. -/
theorem Reading.unique {pieces pieces' : List Piece} (h : Reading text pieces)
    (h' : Reading text pieces') : pieces = pieces' := by
  induction h generalizing pieces' with
  | nil =>
    cases h'
    rfl
  | char href _ ih =>
    cases h' with
    | char _ hrest => rw [ih hrest]
    | reference hne hfresh _ =>
      rw [referenceAt_eq_some_iff.mpr ⟨_, rfl, hne, hfresh⟩] at href
      cases href
  | @reference spec rest pieces hne hfresh _ ih =>
    have href : referenceAt ('$' :: '{' :: (spec ++ '}' :: rest)) = some spec :=
      referenceAt_eq_some_iff.mpr ⟨rest, rfl, hne, hfresh⟩
    generalize htext : '$' :: '{' :: (spec ++ '}' :: rest) = whole at h' href
    cases h' with
    | nil => cases htext
    | char hnone _ =>
      rw [hnone] at href
      cases href
    | @reference spec' rest' pieces' hne' hfresh' hrest =>
      rw [referenceAt_eq_some_iff.mpr ⟨rest', rfl, hne', hfresh'⟩] at href
      obtain rfl := Option.some.inj href
      simp only [List.cons.injEq, List.append_cancel_left_eq, true_and] at htext
      rw [htext] at ih
      rw [ih hrest]

/-- What a pass puts in the place of a piece. -/
def Piece.replacement (systemEnv : String → Option String) (configEnv : HashMap String String) :
    Piece → SegwireResult (List Char)
  | .char c => .ok [c]
  | .reference spec => resolveVariableSpec systemEnv spec configEnv

/-- The rewriting of a text puts its replacements in the places of the pieces. -/
theorem rewrite_eq_ok_iff {pieces : List Piece} (h : Reading text pieces) :
    rewrite systemEnv configEnv text = .ok out ↔
      ∃ replacements, List.Forall₂ (fun piece replacement =>
        piece.replacement systemEnv configEnv = .ok replacement) pieces replacements ∧
        out = replacements.flatten := by
  induction h generalizing out with
  | nil =>
    constructor
    · intro h
      exact ⟨[], .nil, (Except.ok.inj h).symm⟩
    · rintro ⟨replacements, hpieces, rfl⟩
      cases hpieces
      rfl
  | char href _ ih =>
    rw [rewrite_plain href, bind_eq_ok_iff]
    constructor
    · rintro ⟨after, hafter, heq⟩
      obtain ⟨replacements, hpieces, rfl⟩ := ih.mp hafter
      exact ⟨_, .cons rfl hpieces, (Except.ok.inj heq).symm⟩
    · rintro ⟨replacements, hpieces, rfl⟩
      cases hpieces with
      | cons hhead hpieces =>
        obtain rfl := Except.ok.inj hhead
        exact ⟨_, ih.mpr ⟨_, hpieces, rfl⟩, rfl⟩
  | reference hne hfresh _ ih =>
    rw [rewrite_reference hne hfresh, bind_eq_ok_iff]
    constructor
    · rintro ⟨after, hafter, h⟩
      obtain ⟨substitution, hresolve, heq⟩ := bind_eq_ok_iff.mp h
      obtain ⟨replacements, hpieces, rfl⟩ := ih.mp hafter
      exact ⟨_, .cons hresolve hpieces, (Except.ok.inj heq).symm⟩
    · rintro ⟨replacements, hpieces, rfl⟩
      cases hpieces with
      | cons hhead hpieces =>
        exact ⟨_, ih.mpr ⟨_, hpieces, rfl⟩, bind_eq_ok_iff.mpr ⟨_, hhead, rfl⟩⟩

/-! ### A pass -/

/-- The body of the loop: the matches of the text are found, and then replaced from the last
to the first. -/
def pass (systemEnv : String → Option String) (configEnv : HashMap String String)
    (text : List Char) : SegwireResult (List Char) :=
  replaceMatches systemEnv configEnv (findIter text) text

/-- A pass replaces all references at once and keeps the other characters in their order. -/
theorem pass_eq_ok_iff {pieces : List Piece} (h : Reading text pieces) :
    pass systemEnv configEnv text = .ok out ↔
      ∃ replacements, List.Forall₂ (fun piece replacement =>
        piece.replacement systemEnv configEnv = .ok replacement) pieces replacements ∧
        out = replacements.flatten := by
  rw [pass, replaceMatches_findIter]
  exact rewrite_eq_ok_iff h

theorem pass_of_not_hasReference (h : ¬ HasReference text) :
    pass systemEnv configEnv text = .ok text := by
  rw [pass, findIter_eq_nil_iff.mpr h]
  rfl

/-! ### A pass with byte offsets -/

/-- The matches in the rest of a text, after `skip` characters of it, with their offsets
counted in bytes. -/
def findBytesFrom : Nat → Nat → List Char → List Reference
  | _, _, [] => []
  | offset, skip + 1, c :: rest => findBytesFrom (offset + c.utf8Size) skip rest
  | offset, 0, c :: rest =>
    match referenceAt (c :: rest) with
    | some spec =>
      ⟨offset, offset + byteSize ('$' :: '{' :: (spec ++ ['}'])), spec⟩ ::
        findBytesFrom (offset + c.utf8Size) (spec.length + 2) rest
    | none => findBytesFrom (offset + c.utf8Size) 0 rest

/-- The matches of a text, replaced from the last to the first. There is no outcome where a
range does not begin and end between two characters of the text. -/
def replaceByteMatches (systemEnv : String → Option String) (configEnv : HashMap String String) :
    List Reference → List Char → Option (SegwireResult (List Char))
  | [], text => some (.ok text)
  | reference :: matched, text => do
    match ← replaceByteMatches systemEnv configEnv matched text with
    | .error e => return .error e
    | .ok text =>
      match resolveVariableSpec systemEnv reference.spec configEnv with
      | .error e => return .error e
      | .ok substitution =>
        let text ← replaceByteRange text reference.start reference.stop substitution
        return .ok text

/-- The body of the loop with offsets in bytes. -/
def bytePass (systemEnv : String → Option String) (configEnv : HashMap String String)
    (text : List Char) : Option (SegwireResult (List Char)) :=
  replaceByteMatches systemEnv configEnv (findBytesFrom 0 0 text) text

theorem replaceByteMatches_findBytesFrom (pre text : List Char) (skip : Nat) :
    replaceByteMatches systemEnv configEnv (findBytesFrom (byteSize pre) skip text) (pre ++ text) =
      some (rewriteFrom systemEnv configEnv skip text >>= fun after =>
        .ok (pre ++ text.take skip ++ after)) := by
  induction text generalizing pre skip with
  | nil => simp [findBytesFrom, replaceByteMatches, rewriteFrom]
  | cons c rest ih =>
    have hsize : byteSize pre + c.utf8Size = byteSize (pre ++ [c]) := by simp [byteSize]
    have hshift : pre ++ c :: rest = (pre ++ [c]) ++ rest := by simp
    cases skip with
    | succ skip =>
      rw [findBytesFrom, rewriteFrom, hsize, hshift, ih]
      simp
    | zero =>
      rw [findBytesFrom, rewriteFrom]
      cases href : referenceAt (c :: rest) with
      | none =>
        dsimp only
        rw [hsize, hshift, ih]
        simp
      | some spec =>
        obtain ⟨tail, rfl, rfl, htake⟩ := exists_tail_of_referenceAt href
        dsimp only
        rw [replaceByteMatches, hsize, hshift, ih, htake]
        cases rewriteFrom systemEnv configEnv (spec.length + 2) ('{' :: (spec ++ '}' :: tail)) with
        | error e => rfl
        | ok after =>
          cases hresolve : resolveVariableSpec systemEnv spec configEnv with
          | error e => simp
          | ok substitution =>
            -- the text before the reference has not changed, nor has the reference
            have hreplace := replaceByteRange_append pre ('$' :: '{' :: (spec ++ ['}'])) after
              substitution
            simp only [List.append_assoc, List.cons_append, List.nil_append] at hreplace
            simp [hreplace]

/-- The offsets of a pass stay valid while it replaces, and the outcome is the same as with
offsets in characters. -/
theorem bytePass_eq_pass (text : List Char) :
    bytePass systemEnv configEnv text = some (pass systemEnv configEnv text) := by
  have hbytes : bytePass systemEnv configEnv text = some (rewrite systemEnv configEnv text >>=
      fun after => .ok after) := replaceByteMatches_findBytesFrom [] text 0
  calc bytePass systemEnv configEnv text
      = some (rewrite systemEnv configEnv text >>= fun after => .ok after) := hbytes
    _ = some (pass systemEnv configEnv text) := by
        rw [pass, replaceMatches_findIter]
        exact congrArg some (bind_pure _)

/-! ### The loop -/

/-- A number of passes, one after the other. -/
abbrev passes (systemEnv : String → Option String) (configEnv : HashMap String String) (n : Nat)
    (text : List Char) : SegwireResult (List Char) :=
  iterate (pass systemEnv configEnv) n text

/-- After `n` passes a text has no reference for the first time. -/
abbrev ResolvedAfter (systemEnv : String → Option String) (configEnv : HashMap String String)
    (n : Nat) (text out : List Char) : Prop :=
  FinishesAfter (pass systemEnv configEnv) (fun text => ¬ HasReference text) n text out

/-- The first `n` texts all have references. -/
abbrev Unresolved (systemEnv : String → Option String) (configEnv : HashMap String String)
    (n : Nat) (text : List Char) : Prop :=
  StillRunning (pass systemEnv configEnv) (fun text => ¬ HasReference text) n text

/-- What is reported when the passes are used up. -/
def limitError : SegwireError :=
  .config (.envSubstitution
    "Maximum substitution iterations exceeded - possible circular reference")

/-- The loop repeats passes, and its last pass ends in an error. -/
theorem substituteLoop_succ (n : Nat) (text : List Char) :
    substituteLoop systemEnv configEnv (n + 1) text =
      boundedLoop (pass systemEnv configEnv) (fun text => ¬ HasReference text)
        (fun text => pass systemEnv configEnv text >>= fun _ => .error limitError) n text := by
  induction n generalizing text with
  | zero =>
    rw [substituteLoop, boundedLoop]
    split
    · next hnone =>
      rw [pass_of_not_hasReference (findIter_eq_nil_iff.mp hnone)]
      rfl
    · rfl
  | succ n ih =>
    rw [substituteLoop, boundedLoop]
    split
    · next hnone => rw [if_neg n.succ_ne_zero, if_pos (findIter_eq_nil_iff.mp hnone)]
    · next hsome =>
      rw [if_neg (mt findIter_eq_nil_iff.mpr hsome), ← funext ih]
      rfl

/-- A text that is resolved in fewer than nine passes is returned. -/
theorem substituteEnvVars_of_resolvedAfter {input : String} {n : Nat}
    (h : ResolvedAfter systemEnv configEnv n input.toList out) (hlt : n < 9) :
    substituteEnvVars systemEnv configEnv input = .ok (String.ofList out) := by
  rw [substituteEnvVars, maxIterations, substituteLoop_succ, boundedLoop_of_finishesAfter h hlt]
  rfl

/-- Otherwise the ten passes end in an error. -/
theorem substituteEnvVars_of_unresolved {input : String}
    (h : Unresolved systemEnv configEnv 9 input.toList) :
    substituteEnvVars systemEnv configEnv input =
      (passes systemEnv configEnv 10 input.toList >>= fun _ => .error limitError) := by
  have hlast : passes systemEnv configEnv 10 input.toList =
      (iterate (pass systemEnv configEnv) 9 input.toList >>= pass systemEnv configEnv) :=
    iterate_succ 9 _
  rw [substituteEnvVars, maxIterations, substituteLoop_succ, boundedLoop_of_stillRunning h, hlast,
    bind_assoc]
  cases iterate (pass systemEnv configEnv) 9 input.toList with
  | error e => rfl
  | ok text =>
    rw [ok_bind, ok_bind]
    cases pass systemEnv configEnv text <;> rfl

/-- What is returned is the first text without a reference. -/
theorem exists_resolvedAfter_of_substituteEnvVars {input output : String}
    (h : substituteEnvVars systemEnv configEnv input = .ok output) :
    ∃ n < 9, ResolvedAfter systemEnv configEnv n input.toList output.toList := by
  rcases stillRunning_or_finishesAfter (pass systemEnv configEnv) (fun text => ¬ HasReference text)
    9 input.toList with hrunning | ⟨n, hn, out, hfinish⟩
  · rw [substituteEnvVars_of_unresolved hrunning] at h
    obtain ⟨_, -, herror⟩ := bind_eq_ok_iff.mp h
    cases herror
  · rw [substituteEnvVars_of_resolvedAfter hfinish hn] at h
    obtain rfl := Except.ok.inj h
    exact ⟨n, hn, by simpa using hfinish⟩

/-- A text without references is returned as it is. -/
theorem substituteEnvVars_of_not_hasReference {input : String} (h : ¬ HasReference input.toList) :
    substituteEnvVars systemEnv configEnv input = .ok input := by
  have hnow : ResolvedAfter systemEnv configEnv 0 input.toList input.toList :=
    ⟨rfl, h, fun m hm => absurd hm (Nat.not_lt_zero m)⟩
  rw [substituteEnvVars_of_resolvedAfter hnow (by decide), String.ofList_toList]

/-- What is returned has no reference. -/
theorem not_hasReference_of_substituteEnvVars {input output : String}
    (h : substituteEnvVars systemEnv configEnv input = .ok output) :
    ¬ HasReference output.toList := by
  obtain ⟨n, -, hfinish⟩ := exists_resolvedAfter_of_substituteEnvVars h
  exact hfinish.done

/-! ### The result -/

/-- A pass replaces all the references of a text at once: the text is read into pieces in one
way, and the outcome consists of their replacements. The offsets in bytes that the program
works with give the same outcome. -/
structure ReplacesAtOnce (systemEnv : String → Option String) (configEnv : HashMap String String)
    (text : List Char) : Prop where
  reading : ∃! pieces, Reading text pieces
  outcome : ∀ pieces, Reading text pieces → ∀ out, pass systemEnv configEnv text = .ok out ↔
    ∃ replacements, List.Forall₂ (fun piece replacement =>
      piece.replacement systemEnv configEnv = .ok replacement) pieces replacements ∧
      out = replacements.flatten
  bytes : bytePass systemEnv configEnv text = some (pass systemEnv configEnv text)

theorem replacesAtOnce (text : List Char) : ReplacesAtOnce systemEnv configEnv text where
  reading := by
    obtain ⟨pieces, hread⟩ := exists_reading text
    exact ⟨pieces, hread, fun other hother => hother.unique hread⟩
  outcome := fun _ hread _ => pass_eq_ok_iff hread
  bytes := bytePass_eq_pass text

/-- Substitution is iterated replacement: every pass replaces all references at once, and what
is returned is the first of the texts that has no reference, which is then left alone. -/
theorem substituteEnvVars_iterates (systemEnv : String → Option String)
    (configEnv : HashMap String String) (input : String) :
    (∀ text, ReplacesAtOnce systemEnv configEnv text) ∧
      ∀ output, substituteEnvVars systemEnv configEnv input = .ok output →
        (∃ n, ResolvedAfter systemEnv configEnv n input.toList output.toList) ∧
          substituteEnvVars systemEnv configEnv output = .ok output := by
  refine ⟨replacesAtOnce, fun output h => ⟨?_, ?_⟩⟩
  · obtain ⟨n, -, hresolved⟩ := exists_resolvedAfter_of_substituteEnvVars h
    exact ⟨n, hresolved⟩
  · exact substituteEnvVars_of_not_hasReference (not_hasReference_of_substituteEnvVars h)

end Segwire.Common
