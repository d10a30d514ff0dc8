import Segwire.Common.WireguardSections

/-!
# The layout of a wg-quick file

What an accepted file says does not depend on its layout: on blank lines and comments, on the
white space around lines, keys, values and the items of lists, and on the kind of line ends.

## Main definitions

* `Relaid` — one line in another layout
* `SameLayout` — the lines of two files that differ in their layout
* `crlf` — a text with carriage returns at its line ends

## Main results

* `WgParser.step_entry_iff` — what a key line does
* `Relaid.step` — a line that is accepted does the same in another layout
* `parseWgQuickRaw_sections_layout`
-/

namespace Segwire.Common

open Foundation Foundation.Text

/-! ### Key lines in any layout -/

/-- The keys whose values are lists. -/
def listKeys : List String := ["Address", "DNS", "AllowedIPs"]

/-- Two values of a key that are read alike. -/
def ReadAlike (key : String) (value value' : List Char) : Prop :=
  value' = value ∨ key ∈ listKeys ∧ commaItems value' = commaItems value

theorem ReadAlike.eq {key : String} {value value' : List Char} (h : ReadAlike key value value')
    (hkey : key ∉ listKeys) : value' = value :=
  h.resolve_right fun hlist => hkey hlist.1

theorem ReadAlike.commaItems {key : String} {value value' : List Char}
    (h : ReadAlike key value value') : commaItems value' = commaItems value := by
  rcases h with rfl | ⟨-, hitems⟩
  · rfl
  · exact hitems

/-- The text of a line is only named in an error. -/
theorem parseNumber_map_congr {α : Type} {f : Nat → α} {line line' : List Char}
    {number : Option Nat} {a : α} (h : (parseNumber line number).map f = .ok a) :
    (parseNumber line' number).map f = .ok a := by
  cases number with
  | none => cases h
  | some n => exact h

theorem WgQuickConfig.set_congr {config config' : WgQuickConfig}
    {line line' value value' : List Char} {key : String} (hvalue : ReadAlike key value value')
    (h : config.set line key value = .ok config') : config.set line' key value' = .ok config' := by
  unfold set at h ⊢
  split at h
  · rwa [hvalue.eq (by decide)]
  · rw [hvalue.eq (by decide)]
    exact parseNumber_map_congr h
  · rwa [hvalue.commaItems]
  · rwa [hvalue.commaItems]
  · rw [hvalue.eq (by decide)]
    exact parseNumber_map_congr h
  · exact h

theorem WgQuickPeer.set_congr {peer peer' : WgQuickPeer} {line line' value value' : List Char}
    {key : String} (hvalue : ReadAlike key value value')
    (h : peer.set line key value = .ok peer') : peer.set line' key value' = .ok peer' := by
  unfold set at h ⊢
  split at h
  · rwa [hvalue.eq (by decide)]
  · rwa [hvalue.eq (by decide)]
  · rwa [hvalue.eq (by decide)]
  · rwa [hvalue.commaItems]
  · rw [hvalue.eq (by decide)]
    exact parseNumber_map_congr h
  · exact h

namespace WgParser

variable {parser parser' : WgParser}

theorem entry_congr {line line' value value' : List Char} {key : String}
    (hvalue : ReadAlike key value value')
    (h : parser.entry line key value = some (.ok parser')) :
    parser.entry line' key value' = some (.ok parser') := by
  unfold entry at h ⊢
  split at h
  · obtain ⟨config, hset, rfl⟩ := Except.map_eq_ok_iff.mp (Option.some.inj h)
    rw [WgQuickConfig.set_congr hvalue hset]
    rfl
  · obtain ⟨peer, hpeer, hresult⟩ := Option.map_eq_some_iff.mp h
    obtain ⟨changed, hset, rfl⟩ := Except.map_eq_ok_iff.mp hresult
    rw [hpeer, Option.map_some, WgQuickPeer.set_congr hvalue hset]
    rfl
  · exact h

theorem isSkipped_congr {line line' : List Char} (h : line'.head? = line.head?) :
    isSkipped line' = isSkipped line := by
  have hempty : line'.isEmpty = line.isEmpty := by
    cases line <;> cases line' <;> simp_all
  rw [isSkipped, isSkipped, hempty, h]

/-- Whether a key line is taken for a section header. -/
def looksLikeHeader (key value : List Char) : Bool :=
  (trim key ++ ['=']).head? == some '[' && ('=' :: trim value).getLast? == some ']'

/-- A header line with an equals sign in it names no known section. -/
theorem map_header_ne_ok {line : List Char} (h : isHeader line = true) (hmem : '=' ∈ line) :
    (sliceBytes line 1 (byteSize line - 1)).map (fun name => parser.header (String.ofList name)) ≠
      some (.ok parser') := by
  obtain ⟨name, rfl⟩ := exists_of_isHeader h
  have hname : '=' ∈ name := by simpa using hmem
  have hunknown {known : String} (hplain : '=' ∉ known.toList) : String.ofList name ≠ known := by
    rintro rfl
    rw [String.toList_ofList] at hplain
    exact hplain hname
  rw [sliceBytes_header, Option.map_some, header]
  · exact fun h => nomatch h
  · exact hunknown (by decide)
  · exact hunknown (by decide)

/-- A key line is a comment, or is refused as the header of an unknown section, or sets its key. -/
theorem step_entry_iff {key : List Char} (hkey : '=' ∉ key) (value : List Char) :
    parser.step (key ++ '=' :: value) = some (.ok parser') ↔
      if isSkipped (trim key ++ ['=']) then parser' = parser
      else looksLikeHeader key value = false ∧
        parser.entry [] (String.ofList (trim key)) (trim value) = some (.ok parser') := by
  have hline := trim_append_cons (c := '=') (by decide) key value
  have hhead := head?_dropWhile_append_cons key '=' (value.rdropWhile isWhitespace)
  have hlast := getLast?_append_cons_rdropWhile (key.dropWhile isWhitespace) '=' value
  have hheader : isHeader (trim (key ++ '=' :: value)) = looksLikeHeader key value := by
    rw [isHeader, looksLikeHeader, hline, hhead, hlast]
  have hskipped : isSkipped (trim (key ++ '=' :: value)) = isSkipped (trim key ++ ['=']) := by
    rw [hline]
    exact isSkipped_congr hhead
  have hsplit : splitOnce ['='] (trim (key ++ '=' :: value)) =
      some (key.dropWhile isWhitespace, value.rdropWhile isWhitespace) := by
    rw [splitOnce_singleton_eq_some_iff]
    exact ⟨hline, fun hmem => hkey ((List.dropWhile_suffix _).subset hmem)⟩
  unfold step
  dsimp only
  rw [hskipped, hheader, hsplit]
  split_ifs with hskip hlooks
  · exact ⟨fun h => (Except.ok.inj (Option.some.inj h)).symm, fun h => by rw [h]⟩
  · have hmem : '=' ∈ trim (key ++ '=' :: value) := by
      rw [hline]
      exact List.mem_append_right _ List.mem_cons_self
    exact iff_of_false (map_header_ne_ok (hheader.trans hlooks) hmem)
      fun h => Bool.false_ne_true (h.1.symm.trans hlooks)
  · dsimp only
    rw [trim_dropWhile, trim_rdropWhile]
    constructor
    · exact fun h => ⟨by simpa using hlooks, entry_congr (.inl rfl) h⟩
    · exact fun h => entry_congr (.inl rfl) h.2

end WgParser

/-! ### Lines in another layout -/

/-- A line in another layout: with other white space around it, around its key and value, or
around the items of its list. -/
inductive Relaid : List Char → List Char → Prop
  | line {text text' : List Char} : SamePadded text text' → Relaid text text'
  | entry {key key' value value' : List Char} : '=' ∉ key → SamePadded key key' →
      SamePadded value value' → Relaid (key ++ '=' :: value) (key' ++ '=' :: value')
  | items {key key' : List Char} {items items' : List (List Char)} : '=' ∉ key →
      SamePadded key key' → String.ofList (trim key) ∈ listKeys → items ≠ [] →
      (∀ item ∈ items, ',' ∉ item) → List.Forall₂ SamePadded items items' →
      Relaid (key ++ '=' :: [','].intercalate items) (key' ++ '=' :: [','].intercalate items')

/-- White space contains no other character. -/
theorem notMem_of_samePadded {c : Char} (hc : isWhitespace c = false) {text text' : List Char}
    (h : SamePadded text text') (hmem : c ∉ text) : c ∉ text' := by
  obtain ⟨core, pre, post, pre', post', -, -, hpre', hpost', rfl, rfl⟩ := h
  simp only [List.mem_append, not_or] at hmem ⊢
  exact ⟨⟨fun h => not_blank_of_mem hc h hpre', hmem.1.2⟩, fun h => not_blank_of_mem hc h hpost'⟩

/-- The items of a list in another layout. -/
theorem commaItems_intercalate {items items' : List (List Char)} (hne : items ≠ [])
    (hfree : ∀ item ∈ items, ',' ∉ item) (h : List.Forall₂ SamePadded items items') :
    commaItems (trim ([','].intercalate items')) = commaItems (trim ([','].intercalate items)) := by
  have hne' : items' ≠ [] := by
    rintro rfl
    exact hne (List.forall₂_nil_right_iff.mp h)
  have hfree' : ∀ item ∈ items', ',' ∉ item := by
    intro item' hitem'
    obtain ⟨i, hi, rfl⟩ := List.mem_iff_getElem.mp hitem'
    have hi' : i < items.length := h.length_eq ▸ hi
    exact notMem_of_samePadded (by decide) (h.get hi' hi) (hfree _ (List.getElem_mem hi'))
  -- trimming the whole list first does not matter, since every item is trimmed
  have hitems (l : List (List Char)) (hne : l ≠ []) (hfree : ∀ item ∈ l, ',' ∉ item) :
      commaItems (trim ([','].intercalate l)) = (l.map trim).map String.ofList := by
    have hcomma : isWhitespace ',' = false := by decide
    have htrim := map_trim_splitOn_trim hcomma ([','].intercalate l)
    rw [List.splitOn_intercalate ',' hfree hne] at htrim
    rw [← htrim, List.map_map]
    rfl
  have htrim : items'.map trim = items.map trim := by
    clear hne hfree hne' hfree'
    induction h with
    | nil => rfl
    | cons hhead _ ih => rw [List.map_cons, List.map_cons, ih, samePadded_iff.mp hhead]
  rw [hitems items' hne' hfree', hitems items hne hfree, htrim]

/-- A line of a list key is neither a comment nor a header. -/
theorem head?_of_listKey {name : List Char} (h : String.ofList name ∈ listKeys)
    (rest : List Char) : (name ++ rest).head? = some 'A' ∨ (name ++ rest).head? = some 'D' := by
  have hname : name ∈ listKeys.map String.toList :=
    List.mem_map.mpr ⟨_, h, String.toList_ofList⟩
  simp only [listKeys, List.map_cons, List.map_nil, List.mem_cons, List.not_mem_nil,
    or_false] at hname
  rcases hname with rfl | rfl | rfl
  · exact Or.inl rfl
  · exact Or.inr rfl
  · exact Or.inl rfl

/-- A line that is accepted does the same in another layout. -/
theorem Relaid.step {line line' : List Char} (h : Relaid line line') {parser parser' : WgParser}
    (hstep : parser.step line = some (.ok parser')) : parser.step line' = some (.ok parser') := by
  cases h with
  | line hpadded =>
    unfold WgParser.step at hstep ⊢
    rwa [← samePadded_iff.mp hpadded]
  | entry hkey hpaddedKey hpaddedValue =>
    have hkey' := notMem_of_samePadded (by decide) hpaddedKey hkey
    rw [WgParser.step_entry_iff hkey] at hstep
    rw [WgParser.step_entry_iff hkey', WgParser.looksLikeHeader, ← samePadded_iff.mp hpaddedKey,
      ← samePadded_iff.mp hpaddedValue]
    exact hstep
  | @items key key' items items' hkey hpaddedKey hlist hne hfree hpadded =>
    have hkey' := notMem_of_samePadded (by decide) hpaddedKey hkey
    have hitems := commaItems_intercalate hne hfree hpadded
    have hhead := head?_of_listKey hlist ['=']
    -- so the line is read as an entry in both layouts
    have hskipped : isSkipped (trim key ++ ['=']) = false := by
      rcases hhead with hhead | hhead <;> simp [isSkipped, hhead]
    have hlooks (value : List Char) : WgParser.looksLikeHeader key' value = false := by
      rw [WgParser.looksLikeHeader, ← samePadded_iff.mp hpaddedKey]
      rcases hhead with hhead | hhead <;> simp [hhead]
    rw [WgParser.step_entry_iff hkey, hskipped, if_neg Bool.false_ne_true] at hstep
    rw [WgParser.step_entry_iff hkey', ← samePadded_iff.mp hpaddedKey, hskipped,
      if_neg Bool.false_ne_true]
    exact ⟨hlooks _, WgParser.entry_congr (.inr ⟨hlist, hitems⟩) hstep.2⟩

/-! ### Files in another layout -/

/-- The lines of two files that differ in the layout of lines, and in lines that are blank or
comments. -/
inductive SameLayout : List (List Char) → List (List Char) → Prop
  | nil : SameLayout [] []
  | relaid {line line' : List Char} {rest rest' : List (List Char)} :
      Relaid line line' → SameLayout rest rest' → SameLayout (line :: rest) (line' :: rest')
  | inserted {line : List Char} {rest rest' : List (List Char)} :
      isSkipped (trim line) = true → SameLayout rest rest' → SameLayout rest (line :: rest')
  | removed {line : List Char} {rest rest' : List (List Char)} :
      isSkipped (trim line) = true → SameLayout rest rest' → SameLayout (line :: rest) rest'

/-- A text with the lines of another one, ended by carriage returns and line feeds. -/
def crlf (text : List Char) : List Char := ['\r', '\n'].intercalate (text.splitOn '\n')

namespace WgParser

variable {parser parser' : WgParser}

theorem step_of_skipped {line : List Char} (h : isSkipped (trim line) = true) :
    parser.step line = some (.ok parser) := by
  unfold step
  dsimp only
  rw [if_pos h]

/-- The loop does not see empty lines, nor white space around lines. -/
theorem run_eq_run_trimmed (ls : List (List Char)) :
    parser.run ls = parser.run ((ls.map trim).filter (· ≠ [])) := by
  induction ls generalizing parser with
  | nil => rfl
  | cons line rest ih =>
    rw [List.map_cons]
    by_cases hempty : trim line = []
    · rw [List.filter_cons_of_neg (by simp [hempty]), run,
        step_of_skipped (by rw [hempty]; rfl)]
      exact ih
    · have hstep : parser.step (trim line) = parser.step line := by
        unfold step
        rw [trim_trim]
      rw [List.filter_cons_of_pos (by simpa using hempty), run, run, hstep]
      split
      · rfl
      · rfl
      · exact ih

theorem run_lines (text : List Char) :
    parser.run (lines text) = parser.run (text.splitOn '\n') := by
  rw [run_eq_run_trimmed, filter_map_trim_lines, ← run_eq_run_trimmed]

/-- An accepted file is accepted in another layout, with the same result. -/
theorem run_of_sameLayout {ls ls' : List (List Char)} (h : SameLayout ls ls')
    (hrun : parser.run ls = some (.ok parser')) : parser.run ls' = some (.ok parser') := by
  induction h generalizing parser with
  | nil => exact hrun
  | relaid hrelaid _ ih =>
    rw [run] at hrun
    split at hrun
    · cases hrun
    · cases Option.some.inj hrun
    · next hstep =>
      rw [run, hrelaid.step hstep]
      exact ih hrun
  | inserted hskipped _ ih =>
    rw [run, step_of_skipped hskipped]
    exact ih hrun
  | removed hskipped _ ih =>
    rw [run, step_of_skipped hskipped] at hrun
    exact ih hrun

end WgParser

/-- Carriage returns at the line ends are another layout. -/
theorem sameLayout_crlf (text : List Char) :
    SameLayout (text.splitOn '\n') ((crlf text).splitOn '\n') := by
  have hself (line : List Char) : Relaid line line := .line (samePadded_iff.mpr rfl)
  have hreturn (line : List Char) : Relaid line (line ++ ['\r']) := by
    refine .line (samePadded_iff.mpr ?_)
    exact (trim_padded blank_nil (by decide) line).symm
  have hfree : ∀ line ∈ text.splitOn '\n', '\n' ∉ line := fun line h => notMem_of_mem_splitOn h
  unfold crlf
  generalize hls : text.splitOn '\n' = ls at hfree
  have hne : ls ≠ [] := hls ▸ List.splitOn_ne_nil _ _
  clear hls
  induction ls with
  | nil => exact absurd rfl hne
  | cons line rest ih =>
    obtain ⟨hhead, htail⟩ := List.forall_mem_cons.mp hfree
    cases rest with
    | nil =>
      rw [List.intercalate_singleton, List.splitOn_eq_singleton hhead]
      exact .relaid (hself line) .nil
    | cons next rest =>
      -- the carriage return stays with the line before it
      have hfresh : '\n' ∉ line ++ ['\r'] := by simp [hhead]
      have hjoin : ['\r', '\n'].intercalate (line :: next :: rest) =
          (line ++ ['\r']) ++ '\n' :: ['\r', '\n'].intercalate (next :: rest) := by
        rw [List.intercalate_cons_cons]
        simp
      rw [hjoin, List.splitOn_append_cons_self_of_not_mem hfresh]
      exact .relaid (hreturn line) (ih htail (List.cons_ne_nil _ _))

theorem parseWgQuickRaw_of_sameLayout {content content' : String} {config : WgQuickConfig}
    (h : SameLayout (content.toList.splitOn '\n') (content'.toList.splitOn '\n'))
    (hparse : parseWgQuickRaw content = some (.ok config)) :
    parseWgQuickRaw content' = some (.ok config) := by
  rw [parseWgQuickRaw, WgParser.run_lines] at hparse ⊢
  obtain ⟨result, hrun, hfinish⟩ := Option.map_eq_some_iff.mp hparse
  cases result with
  | error e => cases hfinish
  | ok parser =>
    rw [WgParser.run_of_sameLayout h hrun]
    exact congrArg some hfinish

/-- The parser does not panic. An accepted file is read section by section: there is one peer for
each peer header, from the key lines up to the next header, and the interface fields come from the
key lines under interface headers. The layout of the file does not matter. -/
theorem parseWgQuickRaw_sections_layout (content : String) :
    ∃ result, parseWgQuickRaw content = some result ∧
      ∀ config, result = .ok config →
        config = configOf (wgLines content) ∧
        (∀ content' : String,
          SameLayout (content.toList.splitOn '\n') (content'.toList.splitOn '\n') →
            parseWgQuickRaw content' = some (.ok config)) ∧
        parseWgQuickRaw (String.ofList (crlf content.toList)) = some (.ok config) := by
  obtain ⟨result, hresult⟩ := exists_parseWgQuickRaw content
  refine ⟨result, hresult, ?_⟩
  rintro config rfl
  refine ⟨parseWgQuickRaw_eq_configOf hresult, fun content' h => ?_, ?_⟩
  · exact parseWgQuickRaw_of_sameLayout h hresult
  · apply parseWgQuickRaw_of_sameLayout _ hresult
    rw [String.toList_ofList]
    exact sameLayout_crlf _

example : parseWgQuickRaw
      "[Interface]\r\nPrivateKey = k\n\n[Peer]\n # first\nAllowedIPs=10.0.0.0/8 , ::/0\n[Peer]" =
    some (.ok { WgQuickConfig.default with
      privateKey := "k"
      peers := [{ WgQuickPeer.default with allowedIps := ["10.0.0.0/8", "::/0"] },
        WgQuickPeer.default] }) := by
  decide +kernel

end Segwire.Common
