import Segwire.Foundation.IpAddr
import Mathlib.Data.List.TakeWhile

/-!
# The grammar of IP addresses

What the readers of `IpAddr` accept. A number is a run of digits that no digit follows; an
IPv4 address is four of them between dots; an IPv6 address is eight groups between colons,
the last two of which may be written as an IPv4 address, or has `::` in place of at least
one of them.

## Main definitions

* `IsNumber`, `IsOctet`, `IsHexGroup` — the numbers of an address
* `IsIpv4`, `IsGroups`, `IsIpv6` — the addresses
* `Ends` — a text that does not continue an address

## Main results

* `readNumber_eq_some_iff`, `readIpv4_eq_some_iff` — what the readers accept
* `exists_isIpv6_of_readIpv6`, `exists_readIpv6` — the same for IPv6
* `parse_isSome_iff` — the texts that are addresses
-/

namespace Foundation.IpAddr

variable {radix maxDigits limit : Nat} {zeroPrefix : Bool} {input rest : List Char}

/-! ### Numbers -/

/-- The character is a digit of the radix. -/
def IsDigit (radix : Nat) (c : Char) : Prop := (toDigit radix c).isSome = true

instance (radix : Nat) : DecidablePred (IsDigit radix) := fun c =>
  inferInstanceAs (Decidable ((toDigit radix c).isSome = true))

/-- The text does not start with a digit. -/
def Stops (radix : Nat) (rest : List Char) : Prop := ∀ c ∈ rest.head?, toDigit radix c = none

/-- The number that the digits denote when they follow `value`. -/
def valueFrom (radix value : Nat) (digits : List Char) : Nat :=
  digits.foldl (fun value c => value * radix + (toDigit radix c).getD 0) value

/-- The digits of a number that `readNumber` accepts. -/
structure IsNumber (radix maxDigits limit : Nat) (zeroPrefix : Bool) (digits : List Char) :
    Prop where
  digit : ∀ c ∈ digits, IsDigit radix c
  ne_nil : digits ≠ []
  length_le : digits.length ≤ maxDigits
  value_le : valueFrom radix 0 digits ≤ limit
  plain : zeroPrefix = true ∨ digits.head? ≠ some '0' ∨ digits.length ≤ 1

theorem le_valueFrom (hradix : 0 < radix) (value : Nat) (digits : List Char) :
    value ≤ valueFrom radix value digits := by
  induction digits generalizing value with
  | nil => exact le_rfl
  | cons c digits ih =>
    calc value ≤ value * radix := Nat.le_mul_of_pos_right value hradix
      _ ≤ value * radix + (toDigit radix c).getD 0 := Nat.le_add_right ..
      _ ≤ valueFrom radix value (c :: digits) := ih _

/-- Each digit multiplies the bound on the number by the radix. -/
theorem valueFrom_lt (hradix : 0 < radix) (value : Nat) (digits : List Char) :
    valueFrom radix value digits < (value + 1) * radix ^ digits.length := by
  induction digits generalizing value with
  | nil =>
    rw [List.length_nil, Nat.pow_zero, Nat.mul_one]
    exact Nat.lt_succ_self value
  | cons c digits ih =>
    have hdigit : (toDigit radix c).getD 0 < radix := by
      unfold toDigit
      cases hexDigit c with
      | none => exact hradix
      | some digit =>
        by_cases hsmall : digit < radix
        · simp [Option.filter, hsmall]
        · simpa [Option.filter, hsmall] using hradix
    calc valueFrom radix value (c :: digits)
        < (value * radix + (toDigit radix c).getD 0 + 1) * radix ^ digits.length := ih _
      _ ≤ ((value + 1) * radix) * radix ^ digits.length :=
          Nat.mul_le_mul_right _ (by rw [Nat.add_mul]; omega)
      _ = (value + 1) * radix ^ (c :: digits).length := by
          rw [List.length_cons, Nat.pow_succ', Nat.mul_assoc]

/-- The loop reads all digits, unless they are too many or denote too much. -/
theorem readDigits_append (hradix : 0 < radix) {digits : List Char}
    (hdigits : ∀ c ∈ digits, IsDigit radix c) (hrest : Stops radix rest) (value count : Nat) :
    readDigits radix maxDigits limit value count (digits ++ rest) =
      if digits = [] ∨ count + digits.length ≤ maxDigits ∧ valueFrom radix value digits ≤ limit then
        some ((valueFrom radix value digits, count + digits.length), rest)
      else none := by
  induction digits generalizing value count with
  | nil =>
    rw [if_pos (.inl rfl)]
    cases rest with
    | nil => rfl
    | cons c rest =>
      have hc := hrest c rfl
      rw [List.nil_append, readDigits, hc]
      rfl
  | cons c digits ih =>
    obtain ⟨digit, hdigit⟩ := Option.isSome_iff_exists.mp (hdigits c List.mem_cons_self)
    have hvalue : valueFrom radix value (c :: digits) =
        valueFrom radix (value * radix + digit) digits := by
      rw [valueFrom, List.foldl_cons, hdigit]
      rfl
    have hle := le_valueFrom hradix (value * radix + digit) digits
    have hnil : digits = [] → digits.length = 0 ∧
        valueFrom radix (value * radix + digit) digits = value * radix + digit := by
      rintro rfl
      exact ⟨rfl, rfl⟩
    rw [List.cons_append, readDigits, hdigit]
    dsimp only
    rw [ih (fun c hc => hdigits c (List.mem_cons_of_mem _ hc)), hvalue, List.length_cons]
    -- the bounds are tested at every digit, but values and counts only grow
    by_cases hfits : count + (digits.length + 1) ≤ maxDigits ∧
        valueFrom radix (value * radix + digit) digits ≤ limit
    · rw [if_neg (by omega), if_pos (.inr ⟨by omega, hfits.2⟩), if_pos (.inr hfits)]
      congr 3
      omega
    · rw [if_neg (not_or.mpr ⟨List.cons_ne_nil c digits, hfits⟩)]
      by_cases hbad : limit < value * radix + digit ∨ maxDigits < count + 1
      · rw [if_pos hbad]
      · rw [if_neg hbad, if_neg]
        rintro (hempty | hrest)
        · obtain ⟨hlength, hsame⟩ := hnil hempty
          omega
        · omega

/-- The text is its digits and what follows them. -/
theorem exists_digits (radix : Nat) (input : List Char) :
    ∃ digits rest, (∀ c ∈ digits, IsDigit radix c) ∧ Stops radix rest ∧
      input = digits ++ rest := by
  let isDigit (c : Char) : Bool := (toDigit radix c).isSome
  refine ⟨input.takeWhile isDigit, input.dropWhile isDigit, ?_, ?_, ?_⟩
  · intro c hc
    exact List.mem_takeWhile_imp (p := isDigit) hc
  · intro c hc
    have hfirst := List.head?_dropWhile_not isDigit input
    rw [Option.mem_def] at hc
    rw [hc] at hfirst
    exact Option.not_isSome_iff_eq_none.mp (Bool.eq_false_iff.mp hfirst)
  · exact List.takeWhile_append_dropWhile.symm

theorem readNumber_eq_some_iff (hradix : 0 < radix) {n : Nat} :
    readNumber radix maxDigits limit zeroPrefix input = some (n, rest) ↔
      ∃ digits, IsNumber radix maxDigits limit zeroPrefix digits ∧ Stops radix rest ∧
        input = digits ++ rest ∧ n = valueFrom radix 0 digits := by
  constructor
  · intro h
    obtain ⟨digits, after, hdigits, hafter, rfl⟩ := exists_digits radix input
    unfold readNumber at h
    rw [readDigits_append hradix hdigits hafter, Nat.zero_add] at h
    split_ifs at h with hfits
    dsimp only at h
    split_ifs at h with hcount hzero
    obtain ⟨rfl, rfl⟩ := Prod.mk.inj (Option.some.inj h)
    have hne : digits ≠ [] := fun hempty => hcount (List.length_eq_zero_iff.mpr hempty)
    refine ⟨digits, ⟨hdigits, hne, (hfits.resolve_left hne).1, (hfits.resolve_left hne).2, ?_⟩,
      hafter, rfl, rfl⟩
    rw [List.head?_append_of_ne_nil _ hne] at hzero
    by_contra hplain
    simp only [not_or, not_not, not_le, Bool.not_eq_true] at hplain
    exact hzero ⟨by rw [hplain.1]; rfl, hplain.2⟩
  · rintro ⟨digits, hnumber, hrest, rfl, rfl⟩
    have hcount : digits.length ≠ 0 := fun hzero =>
      hnumber.ne_nil (List.length_eq_zero_iff.mp hzero)
    unfold readNumber
    rw [readDigits_append hradix hnumber.digit hrest, Nat.zero_add,
      if_pos (.inr ⟨hnumber.length_le, hnumber.value_le⟩)]
    dsimp only
    rw [if_neg hcount, List.head?_append_of_ne_nil _ hnumber.ne_nil, if_neg]
    rintro ⟨hplus, hzero, hlong⟩
    rcases hnumber.plain with hallowed | hother | hshort
    · rw [hallowed] at hplus
      cases hplus
    · exact hother hzero
    · exact not_le.mpr hlong hshort

/-- A text of digits ends where the digits do. -/
theorem digits_append_inj {digits digits' rest' : List Char}
    (hdigits : ∀ c ∈ digits, IsDigit radix c) (hdigits' : ∀ c ∈ digits', IsDigit radix c)
    (hrest : Stops radix rest) (hrest' : Stops radix rest')
    (h : digits ++ rest = digits' ++ rest') : digits = digits' ∧ rest = rest' := by
  have hspan {ds tail : List Char} (hds : ∀ c ∈ ds, IsDigit radix c) (htail : Stops radix tail) :
      (ds ++ tail).takeWhile (fun c => (toDigit radix c).isSome) = ds := by
    rw [List.takeWhile_append_of_pos hds]
    cases tail with
    | nil => exact List.append_nil ds
    | cons c tail =>
      rw [List.takeWhile_cons_of_neg (by simp [htail c rfl]), List.append_nil]
  have hsame : digits = digits' := by
    rw [← hspan hdigits hrest, h, hspan hdigits' hrest']
  exact ⟨hsame, List.append_cancel_left (hsame ▸ h)⟩

/-! ### Separators -/

/-- The parts, with the separator before each but the very first. -/
def separated (sep : Char) : Nat → List (List Char) → List Char
  | _, [] => []
  | index, part :: parts =>
    (if 0 < index then [sep] else []) ++ part ++ separated sep (index + 1) parts

theorem separated_succ (sep : Char) (index : Nat) (part : List Char) (parts : List (List Char)) :
    separated sep (index + 1) (part :: parts) = sep :: [sep].intercalate (part :: parts) := by
  induction parts generalizing index part with
  | nil => simp [separated]
  | cons next parts ih =>
    rw [separated, ih, if_pos (Nat.succ_pos index), List.intercalate_cons_cons]
    simp

theorem separated_zero (sep : Char) (parts : List (List Char)) :
    separated sep 0 parts = [sep].intercalate parts := by
  cases parts with
  | nil => rfl
  | cons part parts =>
    cases parts with
    | nil => simp [separated]
    | cons next parts =>
      rw [separated, separated_succ, List.intercalate_cons_cons]
      simp

theorem readGivenChar_eq_some_iff {c : Char} {u : Unit} :
    readGivenChar c input = some (u, rest) ↔ input = c :: rest := by
  cases input with
  | nil => simp [readGivenChar]
  | cons first tail =>
    rw [readGivenChar]
    split_ifs with hfirst
    · simp [hfirst]
    · simp [hfirst]

theorem readSeparator_eq_some_iff {α : Type} {sep : Char} {index : Nat} {reader : Reader α}
    {a : α} :
    readSeparator sep index reader input = some (a, rest) ↔
      ∃ after, input = (if 0 < index then [sep] else []) ++ after ∧
        reader after = some (a, rest) := by
  unfold readSeparator
  split_ifs with hindex
  · rw [Option.bind_eq_some_iff]
    constructor
    · rintro ⟨⟨u, after⟩, hsep, hread⟩
      exact ⟨after, readGivenChar_eq_some_iff.mp hsep, hread⟩
    · rintro ⟨after, rfl, hread⟩
      exact ⟨((), after), readGivenChar_eq_some_iff.mpr rfl, hread⟩
  · simp

/-! ### IPv4 addresses -/

/-- A number from 0 to 255 without leading zeros. -/
abbrev IsOctet (digits : List Char) : Prop := IsNumber 10 3 255 false digits

/-- Four octets with dots between them. -/
def IsIpv4 (text : List Char) : Prop :=
  ∃ octets : List (List Char), octets.length = 4 ∧ (∀ octet ∈ octets, IsOctet octet) ∧
    text = ['.'].intercalate octets

theorem stops_cons {c : Char} (hc : toDigit radix c = none) (rest : List Char) :
    Stops radix (c :: rest) := by
  intro first hfirst
  obtain rfl := Option.some.inj hfirst
  exact hc

theorem stops_separated {sep : Char} (hsep : toDigit radix sep = none) (hrest : Stops radix rest)
    (index : Nat) (parts : List (List Char)) :
    Stops radix (separated sep (index + 1) parts ++ rest) := by
  cases parts with
  | nil => exact hrest
  | cons part parts =>
    rw [separated_succ]
    exact stops_cons hsep _

theorem readOctets_eq_some_iff {n index : Nat} {octets : List Nat} :
    readOctets n index input = some (octets, rest) ↔
      ∃ parts, parts.length = n ∧ (∀ part ∈ parts, IsOctet part) ∧
        (parts ≠ [] → Stops 10 rest) ∧ input = separated '.' index parts ++ rest ∧
        octets = parts.map (valueFrom 10 0) := by
  induction n generalizing index input octets with
  | zero =>
    rw [readOctets]
    constructor
    · intro h
      obtain ⟨rfl, rfl⟩ := Prod.mk.inj (Option.some.inj h)
      exact ⟨[], rfl, by simp, fun hne => absurd rfl hne, rfl, rfl⟩
    · rintro ⟨parts, hlength, -, -, rfl, rfl⟩
      obtain rfl := List.length_eq_zero_iff.mp hlength
      rfl
  | succ n ih =>
    rw [readOctets, Option.bind_eq_some_iff]
    constructor
    · rintro ⟨⟨octet, after⟩, hsep, h⟩
      obtain ⟨⟨octets', rest'⟩, hread, heq⟩ := Option.map_eq_some_iff.mp h
      obtain ⟨rfl, rfl⟩ := Prod.mk.inj heq
      obtain ⟨text, rfl, hnumber⟩ := readSeparator_eq_some_iff.mp hsep
      obtain ⟨part, hpart, hstops, rfl, rfl⟩ := (readNumber_eq_some_iff (by omega)).mp hnumber
      obtain ⟨parts, hlength, hparts, hrest, rfl, rfl⟩ := ih.mp hread
      refine ⟨part :: parts, congrArg Nat.succ hlength,
        List.forall_mem_cons.mpr ⟨hpart, hparts⟩, fun _ => ?_, ?_, rfl⟩
      · by_cases hempty : parts = []
        · rwa [hempty] at hstops
        · exact hrest hempty
      · simp [separated]
    · rintro ⟨parts, hlength, hparts, hrest, rfl, rfl⟩
      obtain ⟨part, parts, rfl⟩ := List.exists_cons_of_length_eq_add_one hlength
      obtain ⟨hpart, hparts⟩ := List.forall_mem_cons.mp hparts
      have hstops : Stops 10 (separated '.' (index + 1) parts ++ rest) :=
        stops_separated (by decide) (hrest (List.cons_ne_nil part parts)) index parts
      refine ⟨(valueFrom 10 0 part, separated '.' (index + 1) parts ++ rest), ?_, ?_⟩
      · rw [readSeparator_eq_some_iff]
        refine ⟨part ++ (separated '.' (index + 1) parts ++ rest), by simp [separated], ?_⟩
        exact (readNumber_eq_some_iff (by omega)).mpr ⟨part, hpart, hstops, rfl, rfl⟩
      · rw [Option.map_eq_some_iff]
        refine ⟨(parts.map (valueFrom 10 0), rest), ?_, rfl⟩
        exact ih.mpr ⟨parts, Nat.succ.inj hlength, hparts,
          fun _ => hrest (List.cons_ne_nil part parts), rfl, rfl⟩

theorem readIpv4_eq_some_iff {octets : List Nat} :
    readIpv4 input = some (octets, rest) ↔
      ∃ parts : List (List Char), parts.length = 4 ∧ (∀ part ∈ parts, IsOctet part) ∧
        Stops 10 rest ∧ input = ['.'].intercalate parts ++ rest ∧
        octets = parts.map (valueFrom 10 0) := by
  rw [readIpv4, readOctets_eq_some_iff]
  simp only [separated_zero]
  constructor
  · rintro ⟨parts, hlength, hparts, hrest, h⟩
    refine ⟨parts, hlength, hparts, hrest ?_, h⟩
    rintro rfl
    cases hlength
  · rintro ⟨parts, hlength, hparts, hrest, h⟩
    exact ⟨parts, hlength, hparts, fun _ => hrest, h⟩

theorem exists_readIpv4 {text : List Char} (h : IsIpv4 text) (hrest : Stops 10 rest) :
    ∃ octets, octets.length = 4 ∧ readIpv4 (text ++ rest) = some (octets, rest) := by
  obtain ⟨parts, hlength, hparts, rfl⟩ := h
  refine ⟨parts.map (valueFrom 10 0), by simp [hlength], ?_⟩
  exact readIpv4_eq_some_iff.mpr ⟨parts, hlength, hparts, hrest, rfl, rfl⟩

theorem exists_isIpv4_of_readIpv4 {octets : List Nat}
    (h : readIpv4 input = some (octets, rest)) :
    ∃ text, IsIpv4 text ∧ Stops 10 rest ∧ input = text ++ rest ∧ octets.length = 4 := by
  obtain ⟨parts, hlength, hparts, hrest, rfl, rfl⟩ := readIpv4_eq_some_iff.mp h
  exact ⟨_, ⟨parts, hlength, hparts, rfl⟩, hrest, rfl, by simp [hlength]⟩

theorem isDigit_mono {radix' : Nat} (h : radix ≤ radix') {c : Char} (hc : IsDigit radix c) :
    IsDigit radix' c := by
  unfold IsDigit toDigit at *
  cases hdigit : hexDigit c with
  | none => simp [hdigit] at hc
  | some digit =>
    rw [hdigit] at hc
    simp only [Option.isSome_filter, Option.any_some, decide_eq_true_eq] at *
    omega

theorem stops_anti {radix' : Nat} (h : radix ≤ radix') (hrest : Stops radix' rest) :
    Stops radix rest := by
  intro c hc
  have hother := hrest c hc
  by_contra hdigit
  have hdigit' : IsDigit radix' c := isDigit_mono h (Option.isSome_iff_ne_none.mpr hdigit)
  rw [IsDigit, hother] at hdigit'
  cases hdigit'

/-- Hexadecimal digits without a dot after them are not the start of an IPv4 address. -/
theorem readIpv4_eq_none (group : List Char) (hgroup : ∀ c ∈ group, IsDigit 16 c)
    (hrest : Stops 16 rest) (hdot : rest.head? ≠ some '.') : readIpv4 (group ++ rest) = none := by
  by_contra hread
  obtain ⟨⟨octets, after⟩, hread⟩ := Option.ne_none_iff_exists'.mp hread
  obtain ⟨parts, hlength, hparts, -, hinput, -⟩ := readIpv4_eq_some_iff.mp hread
  obtain ⟨first, parts, rfl⟩ := List.exists_cons_of_length_eq_add_one hlength
  obtain ⟨second, parts, rfl⟩ := List.exists_cons_of_length_eq_add_one (Nat.succ.inj hlength)
  rw [List.intercalate_cons_cons, List.append_assoc, List.append_assoc] at hinput
  have hfirst (c : Char) (hc : c ∈ first) : IsDigit 16 c :=
    isDigit_mono (by omega) ((hparts first List.mem_cons_self).digit c hc)
  obtain ⟨-, rfl⟩ := digits_append_inj hgroup hfirst hrest (stops_cons (by decide) _) hinput
  exact hdot rfl

/-! ### IPv6 addresses -/

/-- One to four hexadecimal digits. -/
abbrev IsHexGroup (digits : List Char) : Prop := IsNumber 16 4 65535 true digits

/-- The parts stand for `n` groups, the last two of them written as an IPv4 address if
`embedded`. -/
inductive IsGroups : List (List Char) → Nat → Bool → Prop
  | nil : IsGroups [] 0 false
  | ipv4 {text : List Char} (h : IsIpv4 text) : IsGroups [text] 2 true
  | cons {group : List Char} {parts : List (List Char)} {n : Nat} {embedded : Bool}
      (hgroup : IsHexGroup group) (h : IsGroups parts n embedded) :
      IsGroups (group :: parts) (n + 1) embedded

/-- Eight groups, or up to seven with `::` between them. -/
inductive IsIpv6 : List Char → Prop
  | full {parts : List (List Char)} {embedded : Bool} (h : IsGroups parts 8 embedded) :
      IsIpv6 ([':'].intercalate parts)
  | compressed {front back : List (List Char)} {m n : Nat} {embedded : Bool}
      (hfront : IsGroups front m false) (hback : IsGroups back n embedded) (h : m + n ≤ 7) :
      IsIpv6 ([':'].intercalate front ++ ':' :: ':' :: [':'].intercalate back)

/-- No group follows, nor does the text continue a number. -/
structure Ends (rest : List Char) : Prop where
  stops : Stops 16 rest
  no_dot : rest.head? ≠ some '.'
  no_group : ∀ tail, rest = ':' :: tail → Stops 16 tail ∧ tail.head? ≠ some '.'

theorem isGroups_false_iff {parts : List (List Char)} {n : Nat} :
    IsGroups parts n false ↔ parts.length = n ∧ ∀ part ∈ parts, IsHexGroup part := by
  constructor
  · intro h
    generalize hembedded : false = embedded at h
    induction h with
    | nil => simp
    | ipv4 => cases hembedded
    | cons hgroup h ih =>
      obtain ⟨hlength, hparts⟩ := ih hembedded
      exact ⟨congrArg Nat.succ hlength, List.forall_mem_cons.mpr ⟨hgroup, hparts⟩⟩
  · rintro ⟨rfl, hparts⟩
    induction parts with
    | nil => exact .nil
    | cons part parts ih =>
      obtain ⟨hpart, hparts⟩ := List.forall_mem_cons.mp hparts
      exact .cons hpart (ih hparts)

theorem length_embedded {octets : List Nat} (h : octets.length = 4) :
    (embedded octets).length = 2 := by
  match octets, h with
  | [_, _, _, _], _ => rfl

/-- What `readGroups` reads are groups. -/
theorem exists_isGroups_of_readGroups {n index : Nat} {groups : List Nat} {ipv4 : Bool}
    (h : readGroups n index input = (groups, ipv4, rest)) :
    ∃ parts, IsGroups parts groups.length ipv4 ∧ groups.length ≤ n ∧
      input = separated ':' index parts ++ rest := by
  induction n generalizing index input groups with
  | zero =>
    obtain ⟨rfl, rfl, rfl⟩ : [] = groups ∧ false = ipv4 ∧ input = rest := by
      simpa [readGroups] using h
    exact ⟨[], .nil, le_rfl, rfl⟩
  | succ n ih =>
    rw [readGroups] at h
    split at h
    · next octets after hipv4 =>
      split_ifs at hipv4 with hroom
      obtain ⟨rfl, rfl, rfl⟩ : embedded octets = groups ∧ true = ipv4 ∧ after = rest := by
        simpa using h
      obtain ⟨text, rfl, hread⟩ := readSeparator_eq_some_iff.mp hipv4
      obtain ⟨address, haddress, -, rfl, hlength⟩ := exists_isIpv4_of_readIpv4 hread
      rw [length_embedded hlength]
      exact ⟨[address], .ipv4 haddress, by omega, by simp [separated]⟩
    · split at h
      · obtain ⟨rfl, rfl, rfl⟩ : [] = groups ∧ false = ipv4 ∧ input = rest := by simpa using h
        exact ⟨[], .nil, Nat.zero_le _, rfl⟩
      · next group after hgroup =>
        rcases hmore : readGroups n (index + 1) after with ⟨groups', ipv4', rest'⟩
        rw [hmore] at h
        obtain ⟨rfl, rfl, rfl⟩ : group :: groups' = groups ∧ ipv4' = ipv4 ∧ rest' = rest := by
          simpa using h
        obtain ⟨text, rfl, hnumber⟩ := readSeparator_eq_some_iff.mp hgroup
        obtain ⟨digits, hdigits, -, rfl, -⟩ := (readNumber_eq_some_iff (by omega)).mp hnumber
        obtain ⟨parts, hparts, hlength, rfl⟩ := ih hmore
        exact ⟨digits :: parts, .cons hdigits hparts, Nat.succ_le_succ hlength,
          by simp [separated]⟩

theorem readSeparator_append {α : Type} (sep : Char) (index : Nat) (reader : Reader α)
    (after : List Char) :
    readSeparator sep index reader ((if 0 < index then [sep] else []) ++ after) = reader after := by
  unfold readSeparator
  split_ifs with hindex
  · simp [readGivenChar]
  · rfl

theorem readNumber_eq_none (hradix : 0 < radix) (hinput : Stops radix input) :
    readNumber radix maxDigits limit zeroPrefix input = none := by
  by_contra hread
  obtain ⟨⟨n, rest⟩, hread⟩ := Option.ne_none_iff_exists'.mp hread
  obtain ⟨digits, hdigits, -, rfl, -⟩ := (readNumber_eq_some_iff hradix).mp hread
  obtain ⟨first, digits, rfl⟩ := List.exists_cons_of_ne_nil hdigits.ne_nil
  have hfirst := hdigits.digit first List.mem_cons_self
  unfold IsDigit at hfirst
  rw [hinput first rfl] at hfirst
  cases hfirst

/-- No group is read from a text that does not continue an address. -/
theorem Ends.readSeparator_eq_none {α : Type} (h : Ends rest) {reader : Reader α}
    (hreader : ∀ text, Stops 16 text → text.head? ≠ some '.' → reader text = none) (index : Nat) :
    readSeparator ':' index reader rest = none := by
  unfold readSeparator
  split_ifs with hindex
  · rw [Option.bind_eq_none_iff]
    rintro ⟨u, tail⟩ hsep
    obtain ⟨hstops, hdot⟩ := h.no_group tail (readGivenChar_eq_some_iff.mp hsep)
    exact hreader tail hstops hdot
  · exact hreader rest h.stops h.no_dot

theorem Ends.readGroups (h : Ends rest) (n index : Nat) :
    readGroups n index rest = ([], false, rest) := by
  cases n with
  | zero => rfl
  | succ n =>
    have hipv4 : readSeparator ':' index readIpv4 rest = none :=
      h.readSeparator_eq_none (fun text hstops hdot => readIpv4_eq_none [] (by simp) hstops hdot)
        index
    have hnumber : readSeparator ':' index (readNumber 16 4 65535 true) rest = none :=
      h.readSeparator_eq_none (fun text hstops _ => readNumber_eq_none (by omega) hstops) index
    rw [IpAddr.readGroups, hipv4, ite_self, hnumber]

theorem Ends.separated (h : Ends rest) (index : Nat) (parts : List (List Char)) :
    Stops 16 (separated ':' (index + 1) parts ++ rest) ∧
      (IpAddr.separated ':' (index + 1) parts ++ rest).head? ≠ some '.' := by
  refine ⟨stops_separated (by decide) h.stops index parts, ?_⟩
  cases parts with
  | nil => exact h.no_dot
  | cons part parts =>
    rw [separated_succ]
    simp

/-- `readGroups` reads all the groups that there are; hexadecimal ones are the numbers that
their digits denote. -/
theorem exists_readGroups {parts : List (List Char)} {k : Nat} {embedded : Bool}
    (h : IsGroups parts k embedded) (hends : Ends rest) (n index : Nat) (hk : k ≤ n) :
    ∃ groups, groups.length = k ∧ (embedded = false → groups = parts.map (valueFrom 16 0)) ∧
      readGroups n index (separated ':' index parts ++ rest) = (groups, embedded, rest) := by
  induction h generalizing n index with
  | nil => exact ⟨[], rfl, fun _ => rfl, hends.readGroups n index⟩
  | @ipv4 text haddress =>
    obtain ⟨n, rfl⟩ : ∃ m, n = m + 2 := ⟨n - 2, by omega⟩
    obtain ⟨octets, hlength, hread⟩ :=
      exists_readIpv4 haddress (stops_anti (by omega) hends.stops)
    refine ⟨IpAddr.embedded octets, length_embedded hlength, nofun, ?_⟩
    rw [separated, separated, List.append_nil, List.append_assoc, readGroups,
      readSeparator_append, hread, if_pos (Nat.succ_pos n)]
  | @cons group parts k embedded hgroup h ih =>
    obtain ⟨n, rfl⟩ : ∃ m, n = m + 1 := ⟨n - 1, by omega⟩
    obtain ⟨groups, hlength, hvalues, hread⟩ := ih n (index + 1) (by omega)
    obtain ⟨hstops, hdot⟩ := hends.separated index parts
    have hipv4 : readIpv4 (group ++ (separated ':' (index + 1) parts ++ rest)) = none :=
      readIpv4_eq_none group hgroup.digit hstops hdot
    have hnumber : readNumber 16 4 65535 true
        (group ++ (separated ':' (index + 1) parts ++ rest)) =
          some (valueFrom 16 0 group, separated ':' (index + 1) parts ++ rest) :=
      (readNumber_eq_some_iff (by omega)).mpr ⟨group, hgroup, hstops, rfl, rfl⟩
    refine ⟨valueFrom 16 0 group :: groups, congrArg Nat.succ hlength,
      fun hhex => by rw [hvalues hhex, List.map_cons], ?_⟩
    rw [separated, List.append_assoc, List.append_assoc, readGroups, readSeparator_append, hipv4,
      ite_self, readSeparator_append, hnumber]
    dsimp only
    rw [hread]

theorem exists_isIpv6_of_readIpv6 {groups : List Nat} (h : readIpv6 input = some (groups, rest)) :
    ∃ text, IsIpv6 text ∧ input = text ++ rest := by
  unfold readIpv6 at h
  rcases hfront : readGroups 8 0 input with ⟨front, ipv4, after⟩
  rw [hfront] at h
  dsimp only at h
  obtain ⟨parts, hparts, hlength, rfl⟩ := exists_isGroups_of_readGroups hfront
  rw [separated_zero]
  split_ifs at h with hfull hipv4
  · obtain ⟨rfl, rfl⟩ := Prod.mk.inj (Option.some.inj h)
    rw [hfull] at hparts
    exact ⟨_, .full hparts, rfl⟩
  · rw [Bool.not_eq_true] at hipv4
    rw [hipv4] at hparts
    obtain ⟨⟨u, middle⟩, hcolon, hread⟩ := Option.bind_eq_some_iff.mp h
    obtain ⟨⟨v, tail⟩, hcolon', heq⟩ := Option.map_eq_some_iff.mp hread
    obtain rfl := readGivenChar_eq_some_iff.mp hcolon
    obtain rfl := readGivenChar_eq_some_iff.mp hcolon'
    rcases hback : readGroups (8 - (front.length + 1)) 0 tail with ⟨back, ipv4', rest'⟩
    rw [hback] at heq
    obtain ⟨rfl, rfl⟩ := Prod.mk.inj heq
    obtain ⟨parts', hparts', hlength', rfl⟩ := exists_isGroups_of_readGroups hback
    refine ⟨_, .compressed hparts hparts' (by omega), ?_⟩
    rw [separated_zero]
    simp

theorem ends_colons (tail : List Char) : Ends (':' :: ':' :: tail) where
  stops := stops_cons (by decide) _
  no_dot := by simp
  no_group tail' h := by
    obtain ⟨-, rfl⟩ := List.cons.inj h
    exact ⟨stops_cons (by decide) _, by simp⟩

theorem ends_nil : Ends [] where
  stops _ hc := by cases hc
  no_dot := by simp
  no_group _ h := by cases h

theorem readIpv6_of_full {groups : List Nat} {embedded : Bool}
    (h : readGroups 8 0 input = (groups, embedded, rest)) (hlength : groups.length = 8) :
    readIpv6 input = some (groups, rest) := by
  unfold readIpv6
  rw [h]
  exact if_pos hlength

theorem readIpv6_of_compressed {front back : List Nat} {embedded : Bool} {tail : List Char}
    (h : readGroups 8 0 input = (front, false, ':' :: ':' :: tail)) (hlength : front.length ≠ 8)
    (hback : readGroups (8 - (front.length + 1)) 0 tail = (back, embedded, rest)) :
    readIpv6 input =
      some (front ++ List.replicate (8 - front.length - back.length) 0 ++ back, rest) := by
  unfold readIpv6
  rw [h]
  dsimp only
  rw [if_neg hlength, if_neg Bool.false_ne_true]
  simp only [readGivenChar, if_true, Option.bind_some, Option.map_some, hback]

theorem exists_readIpv6 {text : List Char} (h : IsIpv6 text) (hrest : Ends rest) :
    ∃ groups, readIpv6 (text ++ rest) = some (groups, rest) := by
  cases h with
  | full hparts =>
    obtain ⟨groups, hlength, -, hread⟩ := exists_readGroups hparts hrest 8 0 le_rfl
    rw [separated_zero] at hread
    exact ⟨groups, readIpv6_of_full hread hlength⟩
  | @compressed front back m n embedded hfront hback h =>
    have hcolons := ends_colons ([':'].intercalate back ++ rest)
    obtain ⟨groups, hlength, -, hread⟩ :=
      exists_readGroups hfront hcolons 8 0 (by omega)
    obtain ⟨groups', -, -, hread'⟩ :=
      exists_readGroups hback hrest (8 - (groups.length + 1)) 0 (by omega)
    rw [separated_zero] at hread hread'
    rw [List.append_assoc, List.cons_append, List.cons_append]
    exact ⟨_, readIpv6_of_compressed hread (by omega) hread'⟩

/-- An IPv6 address does not start with an IPv4 address. -/
theorem readIpv4_eq_none_of_isIpv6 {text : List Char} (h : IsIpv6 text) (hrest : Ends rest) :
    readIpv4 (text ++ rest) = none := by
  have hparts {group : List Char} {parts : List (List Char)} {after : List Char}
      (hgroup : IsHexGroup group) (hafter : Ends after) :
      readIpv4 ([':'].intercalate (group :: parts) ++ after) = none := by
    rw [← separated_zero, separated, if_neg (Nat.lt_irrefl 0), List.nil_append, List.append_assoc]
    obtain ⟨hstops, hdot⟩ := hafter.separated 0 parts
    exact readIpv4_eq_none group hgroup.digit hstops hdot
  cases h with
  | full hfull =>
    cases hfull with
    | cons hgroup h => exact hparts hgroup hrest
  | @compressed front back m n embedded hfront hback h =>
    rw [List.append_assoc, List.cons_append, List.cons_append]
    have hcolons := ends_colons ([':'].intercalate back ++ rest)
    cases hfront with
    | nil => exact readIpv4_eq_none [] (by simp) hcolons.stops hcolons.no_dot
    | cons hgroup h => exact hparts hgroup hcolons

/-! ### Addresses -/

theorem parse_eq_some_iff {s : List Char} {addr : IpAddr} :
    parse s = some addr ↔ readIp s = some (addr, []) := by
  unfold parse
  split
  · next addr' hread =>
    rw [hread]
    simp
  · next hother =>
    constructor
    · intro h
      cases h
    · intro h
      exact absurd h (hother addr)

/-- The texts that `parse` accepts are the addresses of the grammar. -/
theorem parse_isSome_iff {s : List Char} : (parse s).isSome = true ↔ IsIpv4 s ∨ IsIpv6 s := by
  rw [Option.isSome_iff_exists]
  simp only [parse_eq_some_iff]
  unfold readIp
  constructor
  · rintro ⟨addr, h⟩
    cases hipv4 : readIpv4 s with
    | some read =>
      rw [hipv4] at h
      obtain ⟨rfl, hrest⟩ := Prod.mk.inj (Option.some.inj h)
      obtain ⟨text, htext, -, rfl, -⟩ := exists_isIpv4_of_readIpv4 hipv4
      rw [hrest, List.append_nil]
      exact .inl htext
    | none =>
      rw [hipv4] at h
      obtain ⟨⟨groups, rest⟩, hread, heq⟩ := Option.map_eq_some_iff.mp h
      obtain ⟨-, rfl⟩ := Prod.mk.inj heq
      obtain ⟨text, htext, rfl⟩ := exists_isIpv6_of_readIpv6 hread
      rw [List.append_nil]
      exact .inr htext
  · intro h
    rcases h with h | h
    · obtain ⟨octets, -, hread⟩ := exists_readIpv4 h (stops_anti (by omega) ends_nil.stops)
      rw [List.append_nil] at hread
      rw [hread]
      exact ⟨_, rfl⟩
    · obtain ⟨groups, hread⟩ := exists_readIpv6 h ends_nil
      have hipv4 := readIpv4_eq_none_of_isIpv6 h ends_nil
      rw [List.append_nil] at hread hipv4
      rw [hipv4, hread]
      exact ⟨_, rfl⟩

theorem readIpv4_of_parse {text : List Char} {octets : List Nat}
    (h : IpAddr.parse text = some (.v4 octets)) : readIpv4 text = some (octets, []) := by
  rw [parse_eq_some_iff, readIp] at h
  cases hread : readIpv4 text with
  | some read =>
    rw [hread] at h
    obtain ⟨hoctets, hrest⟩ := Prod.mk.inj (Option.some.inj h)
    rw [← IpAddr.v4.inj hoctets, ← hrest]
  | none =>
    rw [hread] at h
    obtain ⟨read, -, heq⟩ := Option.map_eq_some_iff.mp h
    cases (Prod.mk.inj heq).1

theorem isIpv4_of_parse {text : List Char} {octets : List Nat}
    (h : IpAddr.parse text = some (.v4 octets)) : IsIpv4 text := by
  obtain ⟨front, hfront, -, rfl, -⟩ := exists_isIpv4_of_readIpv4 (readIpv4_of_parse h)
  rw [List.append_nil]
  exact hfront

theorem readIpv6_of_parse {text : List Char} {groups : List Nat}
    (h : IpAddr.parse text = some (.v6 groups)) : readIpv6 text = some (groups, []) := by
  rw [parse_eq_some_iff, readIp] at h
  cases hread : readIpv4 text with
  | some read =>
    rw [hread] at h
    cases (Prod.mk.inj (Option.some.inj h)).1
  | none =>
    rw [hread] at h
    obtain ⟨⟨groups', rest⟩, hread', heq⟩ := Option.map_eq_some_iff.mp h
    obtain ⟨hgroups, hrest⟩ := Prod.mk.inj heq
    rw [hread', IpAddr.v6.inj hgroups, hrest]

theorem isIpv6_of_parse {text : List Char} {groups : List Nat}
    (h : IpAddr.parse text = some (.v6 groups)) : IsIpv6 text := by
  obtain ⟨front, hfront, rfl⟩ := exists_isIpv6_of_readIpv6 (readIpv6_of_parse h)
  rw [List.append_nil]
  exact hfront

/-! ### Separators of an address -/

theorem dot_mem_of_isIpv4 {s : List Char} (h : IsIpv4 s) : '.' ∈ s := by
  obtain ⟨octets, hlength, -, rfl⟩ := h
  obtain ⟨first, octets, rfl⟩ := List.exists_cons_of_length_eq_add_one hlength
  obtain ⟨second, octets, rfl⟩ := List.exists_cons_of_length_eq_add_one (Nat.succ.inj hlength)
  rw [List.intercalate_cons_cons]
  simp

/-- Groups without a dot are all hexadecimal. -/
theorem hexGroups_of_no_dot {parts : List (List Char)} {n : Nat} {embedded : Bool}
    (h : IsGroups parts n embedded) (hdot : ∀ part ∈ parts, '.' ∉ part) :
    parts.length = n ∧ ∀ part ∈ parts, IsHexGroup part := by
  induction h with
  | nil => simp
  | ipv4 haddress => exact absurd (dot_mem_of_isIpv4 haddress) (hdot _ List.mem_cons_self)
  | cons hgroup h ih =>
    obtain ⟨hlength, hparts⟩ := ih fun part hpart => hdot part (List.mem_cons_of_mem _ hpart)
    exact ⟨congrArg Nat.succ hlength, List.forall_mem_cons.mpr ⟨hgroup, hparts⟩⟩

theorem colon_mem_of_isIpv6 {s : List Char} (h : IsIpv6 s) : ':' ∈ s := by
  cases h with
  | full hparts =>
    cases hparts with
    | cons _ hparts =>
      cases hparts with
      | cons =>
        rw [List.intercalate_cons_cons]
        simp
  | compressed => simp

theorem splitOn_colons (front back : List Char) :
    (front ++ ':' :: ':' :: back).splitOn ':' = front.splitOn ':' ++ [] :: back.splitOn ':' := by
  rw [List.splitOn_append_cons_self, ← List.nil_append (':' :: back),
    List.splitOn_append_cons_self]
  rfl

end Foundation.IpAddr
