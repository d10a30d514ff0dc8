import Segwire.Foundation.IpAddrGrammar
import Mathlib.Data.Nat.Digits.Defs
import Mathlib.Data.List.DropRight

/-!
# Spellings of an IP address

The parser of addresses reads many texts as one address: the digits of an IPv6 group come in
both cases and with leading zeros, and `::` stands for any number of zero groups. Undoing these
three gives every address one normal spelling, and two texts denote the same address if and only
if their normal spellings are the same. An IPv4 address inside an IPv6 one is not covered.

## Main definitions

* `normalNumeral`, `numeral` — digits without leading zeros, from digits and from a number
* `expandGroups` — the groups of an IPv6 address with `::` written out
* `normalAddress`, `spelling` — the normal spelling, from a text and from an address

## Main results

* `parse_full`, `parse_compressed` — the groups that are read from hexadecimal groups
* `normalAddress_eq_spelling` — the normal spelling of a text is the one of its address
* `parse_eq_iff_normalAddress_eq` — equal addresses have equal normal spellings
-/

namespace Foundation.IpAddr

open Text

variable {radix : Nat}

/-! ### Numerals -/

/-- The digits without leading zeros, in lower case. Zero has no digits left. -/
def normalNumeral (digits : List Char) : List Char :=
  (digits.dropWhile (· = '0')).map Char.toLower

/-- The number in digits without leading zeros, in lower case. -/
def numeral (radix n : Nat) : List Char := ((Nat.digits radix n).map Nat.digitChar).reverse

theorem exists_toDigit_of_isDigit {c : Char} (h : IsDigit radix c) :
    ∃ digit < radix, toDigit radix c = some digit ∧ hexDigit c = some digit := by
  obtain ⟨digit, hdigit⟩ := Option.isSome_iff_exists.mp h
  obtain ⟨hhex, hsmall⟩ := Option.filter_eq_some_iff.mp hdigit
  exact ⟨digit, of_decide_eq_true hsmall, hdigit, hhex⟩

theorem toLower_eq_digitChar {c : Char} {digit : Nat} (h : hexDigit c = some digit) :
    c.toLower = Nat.digitChar digit := by
  have hall : ∀ n < 103, (hexDigit (Char.ofNat n)).all fun digit =>
      (Char.ofNat n).toLower = Nat.digitChar digit := by decide
  have hsmall : c.toNat < 103 := by
    have hbounds : '9'.toNat = 57 ∧ 'f'.toNat = 102 ∧ 'F'.toNat = 70 := by decide
    unfold hexDigit at h
    simp only [char_le_iff] at h
    split_ifs at h <;> omega
  have hc := hall c.toNat hsmall
  rw [Char.ofNat_toNat, h, Option.all_some] at hc
  exact of_decide_eq_true hc

theorem eq_zero_of_hexDigit {c : Char} (h : hexDigit c = some 0) : c = '0' := by
  have hzero : '0'.toNat = 48 := rfl
  unfold hexDigit at h
  simp only [char_le_iff] at h
  apply Char.toNat_inj.mp
  split_ifs at h
  all_goals
    have hdigit := Option.some.inj h
    omega

theorem hexDigit_digitChar : ∀ digit < 16, hexDigit (Nat.digitChar digit) = some digit := by
  decide

theorem numeral_injective (hlow : 1 < radix) (hhigh : radix ≤ 16) :
    Function.Injective (numeral radix) := by
  intro m n h
  have hread (n : Nat) :
      ((Nat.digits radix n).map Nat.digitChar).map (fun c => (hexDigit c).getD 0) =
        Nat.digits radix n := by
    rw [List.map_map]
    refine (List.map_congr_left fun digit hdigit => ?_).trans (List.map_id _)
    have hsmall := (Nat.digits_lt_base hlow hdigit).trans_le hhigh
    rw [Function.comp_apply, hexDigit_digitChar digit hsmall]
    rfl
  apply Nat.digits.injective radix
  rw [← hread m, ← hread n, List.reverse_injective h]

/-- Leading zeros do not change the number. -/
theorem valueFrom_dropWhile_zero (hradix : 0 < radix) (digits : List Char) :
    valueFrom radix 0 (digits.dropWhile (· = '0')) = valueFrom radix 0 digits := by
  have hzero : (toDigit radix '0').getD 0 = 0 := by
    have hhex : hexDigit '0' = some 0 := by decide
    rw [toDigit, hhex, Option.filter_some, if_pos (decide_eq_true hradix)]
    rfl
  induction digits with
  | nil => rfl
  | cons c digits ih =>
    by_cases hc : c = '0'
    · rw [List.dropWhile_cons_of_pos (by simpa using hc), ih, valueFrom, valueFrom,
        List.foldl_cons, hc, hzero, Nat.zero_mul]
    · rw [List.dropWhile_cons_of_neg (by simpa using hc)]

/-- The number that digits denote has these digits, from the last to the first. -/
theorem valueFrom_eq_ofDigits (digits : List Char) :
    valueFrom radix 0 digits =
      Nat.ofDigits radix (digits.map fun c => (toDigit radix c).getD 0).reverse := by
  rw [Nat.ofDigits_eq_foldr, List.foldr_reverse, List.foldl_map, valueFrom]
  congr 1
  funext value c
  rw [Nat.cast_id, Nat.add_comm, Nat.mul_comm]

/-- The digits of a number, unless the first of them is a zero. -/
theorem digits_valueFrom (hlow : 1 < radix) {digits : List Char}
    (hdigits : ∀ c ∈ digits, IsDigit radix c) (hfirst : digits.head? ≠ some '0') :
    Nat.digits radix (valueFrom radix 0 digits) =
      (digits.map fun c => (toDigit radix c).getD 0).reverse := by
  rw [valueFrom_eq_ofDigits]
  -- the digits of a number are the only ones below the radix that do not end with a zero
  apply Nat.digits_ofDigits radix hlow
  · intro n hn
    rw [List.mem_reverse, List.mem_map] at hn
    obtain ⟨c, hc, rfl⟩ := hn
    obtain ⟨digit, hsmall, hdigit, -⟩ := exists_toDigit_of_isDigit (hdigits c hc)
    rw [hdigit]
    exact hsmall
  · intro hne
    have hnonempty : digits ≠ [] := by simpa using hne
    rw [List.getLast_reverse, List.head_map]
    obtain ⟨digit, -, hdigit, hhex⟩ :=
      exists_toDigit_of_isDigit (hdigits _ (List.head_mem hnonempty))
    rw [hdigit]
    rintro rfl
    rw [List.head?_eq_some_head hnonempty, eq_zero_of_hexDigit hhex] at hfirst
    exact hfirst rfl

/-- Digits in normal form are the numeral of the number that they denote. -/
theorem normalNumeral_eq_numeral (hlow : 1 < radix) {digits : List Char}
    (hdigits : ∀ c ∈ digits, IsDigit radix c) :
    normalNumeral digits = numeral radix (valueFrom radix 0 digits) := by
  have hdrop (c : Char) (hc : c ∈ digits.dropWhile (· = '0')) : IsDigit radix c :=
    hdigits c ((List.dropWhile_sublist _).subset hc)
  have hfirst : (digits.dropWhile (· = '0')).head? ≠ some '0' := by
    intro hzero
    have hother := List.head?_dropWhile_not (· = '0') digits
    rw [hzero] at hother
    cases hother
  rw [numeral, ← valueFrom_dropWhile_zero (Nat.zero_lt_of_lt hlow),
    digits_valueFrom hlow hdrop hfirst, List.map_reverse, List.reverse_reverse, List.map_map,
    normalNumeral]
  apply List.map_congr_left
  intro c hc
  obtain ⟨digit, -, hdigit, hhex⟩ := exists_toDigit_of_isDigit (hdrop c hc)
  rw [Function.comp_apply, hdigit, toLower_eq_digitChar hhex]
  rfl

/-! ### Groups -/

/-- The groups of an IPv6 address without an embedded IPv4 address, with as many empty groups in
the place of `::` as make them eight. -/
def expandGroups (s : List Char) : List (List Char) :=
  let groups := s.splitOn ':'
  if groups.any List.isEmpty then
    let front := groups.takeWhile (! ·.isEmpty)
    let back := groups.rtakeWhile (! ·.isEmpty)
    front ++ List.replicate (8 - front.length - back.length) [] ++ back
  else groups

/-- The numbers of an address in normal form: eight groups of an IPv6 address, or four numbers
of an IPv4 address. -/
def normalAddress (s : List Char) : List (List Char) :=
  (if ':' ∈ s then expandGroups s else s.splitOn '.').map normalNumeral

/-- The numbers of an address, each without leading zeros and in lower case. -/
def spelling : IpAddr → List (List Char)
  | .v4 octets => octets.map (numeral 10)
  | .v6 groups => groups.map (numeral 16)

example : normalAddress "FD00::02".toList = normalAddress "fd00:0::2".toList := by decide

theorem colon_notMem_of_isHexGroup {group : List Char} (h : IsHexGroup group) : ':' ∉ group :=
  fun hcolon => absurd (h.digit ':' hcolon) (by decide)

theorem splitOn_hexGroups {groups : List (List Char)} (h : ∀ group ∈ groups, IsHexGroup group) :
    ([':'].intercalate groups).splitOn ':' = if groups = [] then [[]] else groups :=
  splitOn_intercalate_eq fun group hgroup => colon_notMem_of_isHexGroup (h group hgroup)

theorem expandGroups_full {parts : List (List Char)} (hparts : ∀ part ∈ parts, IsHexGroup part)
    (hne : parts ≠ []) : expandGroups ([':'].intercalate parts) = parts := by
  have hnonempty : parts.any List.isEmpty ≠ true := by
    intro hany
    obtain ⟨part, hpart, hempty⟩ := List.any_eq_true.mp hany
    exact (hparts part hpart).ne_nil (List.isEmpty_iff.mp hempty)
  unfold expandGroups
  rw [splitOn_hexGroups hparts, if_neg hne]
  exact if_neg hnonempty

/-- The parts before the first empty one and after the last one are the groups on the two sides
of `::`. -/
theorem expandGroups_compressed {front back : List (List Char)}
    (hfront : ∀ part ∈ front, IsHexGroup part) (hback : ∀ part ∈ back, IsHexGroup part) :
    expandGroups ([':'].intercalate front ++ ':' :: ':' :: [':'].intercalate back) =
      front ++ List.replicate (8 - front.length - back.length) [] ++ back := by
  have hside {parts : List (List Char)} (hparts : ∀ part ∈ parts, IsHexGroup part)
      (part : List Char) (hpart : part ∈ parts) : (! part.isEmpty) = true := by
    simpa using (hparts part hpart).ne_nil
  -- an empty side leaves an empty part of its own, which the front and the back do without
  have htake (tail : List (List Char)) :
      ((if front = [] then [[]] else front) ++ [] :: tail).takeWhile (! ·.isEmpty) = front := by
    split_ifs with hempty
    · rw [hempty]
      rfl
    · rw [List.takeWhile_append_of_pos (hside hfront), List.takeWhile_cons_of_neg (by simp),
        List.append_nil]
  have hrtake (tail : List (List Char)) :
      (tail ++ [] :: if back = [] then [[]] else back).rtakeWhile (! ·.isEmpty) = back := by
    unfold List.rtakeWhile
    split_ifs with hempty
    · rw [hempty]
      simp
    · rw [List.reverse_append, List.reverse_cons, List.append_assoc,
        List.takeWhile_append_of_pos fun part hpart => hside hback part (List.mem_reverse.mp hpart)]
      simp
  unfold expandGroups
  rw [splitOn_colons, splitOn_hexGroups hfront, splitOn_hexGroups hback, if_pos (by simp), htake,
    hrtake]

theorem parse_full {parts : List (List Char)} (hparts : ∀ part ∈ parts, IsHexGroup part)
    (hlength : parts.length = 8) :
    parse ([':'].intercalate parts) = some (.v6 (parts.map (valueFrom 16 0))) := by
  have hgroups := isGroups_false_iff.mpr ⟨hlength, hparts⟩
  obtain ⟨groups, hcount, hvalues, hread⟩ := exists_readGroups hgroups ends_nil 8 0 le_rfl
  have hipv4 := readIpv4_eq_none_of_isIpv6 (.full hgroups) ends_nil
  rw [List.append_nil] at hipv4
  rw [separated_zero, List.append_nil] at hread
  rw [parse_eq_some_iff, readIp, hipv4, readIpv6_of_full hread hcount, hvalues rfl]
  rfl

theorem parse_compressed {front back : List (List Char)}
    (hfront : ∀ part ∈ front, IsHexGroup part) (hback : ∀ part ∈ back, IsHexGroup part)
    (h : front.length + back.length ≤ 7) :
    parse ([':'].intercalate front ++ ':' :: ':' :: [':'].intercalate back) =
      some (.v6 (front.map (valueFrom 16 0) ++
        List.replicate (8 - front.length - back.length) 0 ++ back.map (valueFrom 16 0))) := by
  have hgroups := isGroups_false_iff.mpr ⟨rfl, hfront⟩
  have hgroups' := isGroups_false_iff.mpr ⟨rfl, hback⟩
  obtain ⟨groups, hcount, hvalues, hread⟩ :=
    exists_readGroups hgroups (ends_colons ([':'].intercalate back)) 8 0 (by omega)
  obtain ⟨groups', hcount', hvalues', hread'⟩ :=
    exists_readGroups hgroups' ends_nil (8 - (groups.length + 1)) 0 (by omega)
  have hipv4 := readIpv4_eq_none_of_isIpv6 (.compressed hgroups hgroups' h) ends_nil
  rw [List.append_nil] at hipv4
  rw [separated_zero] at hread
  rw [separated_zero, List.append_nil] at hread'
  rw [parse_eq_some_iff, readIp, hipv4, readIpv6_of_compressed hread (by omega) hread', hcount,
    hcount', hvalues rfl, hvalues' rfl]
  rfl

/-! ### Normal spellings -/

theorem map_normalNumeral (hlow : 1 < radix) {parts : List (List Char)}
    (h : ∀ part ∈ parts, ∀ c ∈ part, IsDigit radix c) :
    parts.map normalNumeral = (parts.map (valueFrom radix 0)).map (numeral radix) := by
  rw [List.map_map]
  exact List.map_congr_left fun part hpart => normalNumeral_eq_numeral hlow (h part hpart)

/-- The octets of an address are the numbers between its dots. -/
theorem octets_of_parse {s : List Char} {octets : List Nat} (h : parse s = some (.v4 octets)) :
    (∀ part ∈ s.splitOn '.', IsOctet part) ∧ octets = (s.splitOn '.').map (valueFrom 10 0) := by
  obtain ⟨parts, hlength, hparts, -, rfl, rfl⟩ := readIpv4_eq_some_iff.mp (readIpv4_of_parse h)
  have hnodot (part : List Char) (hpart : part ∈ parts) : '.' ∉ part := fun hdot =>
    absurd ((hparts part hpart).digit '.' hdot) (by decide)
  have hne : parts ≠ [] := by
    rintro rfl
    cases hlength
  rw [List.append_nil, splitOn_intercalate_eq hnodot, if_neg hne]
  exact ⟨hparts, rfl⟩

/-- The groups of an address without a dot are the numbers that its expansion denotes. -/
theorem groups_of_parse {s : List Char} {groups : List Nat} (h : parse s = some (.v6 groups))
    (hdot : '.' ∉ s) :
    (∀ part ∈ expandGroups s, ∀ c ∈ part, IsDigit 16 c) ∧
      groups = (expandGroups s).map (valueFrom 16 0) := by
  cases isIpv6_of_parse h with
  | @full parts embedded hparts =>
    obtain ⟨hlength, hhex⟩ := hexGroups_of_no_dot hparts fun part hpart hmem =>
      hdot (mem_intercalate_of_mem hpart hmem)
    have hne : parts ≠ [] := by
      rintro rfl
      cases hlength
    rw [parse_full hhex hlength] at h
    rw [expandGroups_full hhex hne]
    exact ⟨fun part hpart => (hhex part hpart).digit, (IpAddr.v6.inj (Option.some.inj h)).symm⟩
  | @compressed front back m n embedded hfront hback hroom =>
    -- without a dot neither side ends with an IPv4 address
    obtain ⟨rfl, hhex⟩ := hexGroups_of_no_dot hfront fun part hpart hmem =>
      hdot (List.mem_append_left _ (mem_intercalate_of_mem hpart hmem))
    obtain ⟨rfl, hhex'⟩ := hexGroups_of_no_dot hback fun part hpart hmem =>
      hdot (List.mem_append_right _ (.tail _ (.tail _ (mem_intercalate_of_mem hpart hmem))))
    rw [parse_compressed hhex hhex' hroom] at h
    rw [expandGroups_compressed hhex hhex']
    constructor
    · intro part hpart
      rw [List.mem_append, List.mem_append] at hpart
      rcases hpart with (hpart | hpart) | hpart
      · exact (hhex part hpart).digit
      · rw [List.eq_of_mem_replicate hpart]
        exact List.forall_mem_nil _
      · exact (hhex' part hpart).digit
    · rw [List.map_append, List.map_append, List.map_replicate]
      exact (IpAddr.v6.inj (Option.some.inj h)).symm

/-- The normal spelling of a text is the one of its address, unless the text mixes the families. -/
theorem normalAddress_eq_spelling {s : List Char} {ip : IpAddr} (h : parse s = some ip)
    (hpure : ':' ∈ s → '.' ∉ s) : normalAddress s = spelling ip := by
  cases ip with
  | v4 octets =>
    obtain ⟨hparts, hoctets⟩ := octets_of_parse h
    have hcolon : ':' ∉ s := fun hcolon => hpure hcolon (dot_mem_of_isIpv4 (isIpv4_of_parse h))
    rw [normalAddress, if_neg hcolon, spelling, hoctets]
    exact map_normalNumeral (by omega) fun part hpart => (hparts part hpart).digit
  | v6 groups =>
    have hcolon := colon_mem_of_isIpv6 (isIpv6_of_parse h)
    obtain ⟨hparts, hgroups⟩ := groups_of_parse h (hpure hcolon)
    rw [normalAddress, if_pos hcolon, spelling, hgroups]
    exact map_normalNumeral (by omega) hparts

/-! ### Equal addresses -/

/-- Four octets, or eight groups. -/
def HasFullLength : IpAddr → Prop
  | .v4 octets => octets.length = 4
  | .v6 groups => groups.length = 8

theorem length_of_readIpv6 {input rest : List Char} {groups : List Nat}
    (h : readIpv6 input = some (groups, rest)) : groups.length = 8 := by
  unfold readIpv6 at h
  rcases hfront : readGroups 8 0 input with ⟨front, ipv4, after⟩
  rw [hfront] at h
  dsimp only at h
  split_ifs at h with hfull hipv4
  · rw [← (Prod.mk.inj (Option.some.inj h)).1]
    exact hfull
  · obtain ⟨-, -, hroom, -⟩ := exists_isGroups_of_readGroups hfront
    obtain ⟨⟨u, middle⟩, -, hread⟩ := Option.bind_eq_some_iff.mp h
    obtain ⟨⟨v, tail⟩, -, heq⟩ := Option.map_eq_some_iff.mp hread
    rcases hback : readGroups (8 - (front.length + 1)) 0 tail with ⟨back, ipv4', rest'⟩
    rw [hback] at heq
    obtain ⟨-, -, hroom', -⟩ := exists_isGroups_of_readGroups hback
    rw [← (Prod.mk.inj heq).1]
    simp only [List.length_append, List.length_replicate]
    omega

theorem hasFullLength_of_parse {s : List Char} {ip : IpAddr} (h : parse s = some ip) :
    HasFullLength ip := by
  cases ip with
  | v4 octets =>
    obtain ⟨-, -, -, -, hlength⟩ := exists_isIpv4_of_readIpv4 (readIpv4_of_parse h)
    exact hlength
  | v6 groups => exact length_of_readIpv6 (readIpv6_of_parse h)

/-- The spelling tells addresses apart; the two families differ in the number of parts. -/
theorem spelling_inj {ip ip' : IpAddr} (h : HasFullLength ip) (h' : HasFullLength ip') :
    spelling ip = spelling ip' ↔ ip = ip' := by
  have hmap {radix : Nat} (hlow : 1 < radix) (hhigh : radix ≤ 16) :
      Function.Injective (List.map (numeral radix)) :=
    List.map_injective_iff.mpr (numeral_injective hlow hhigh)
  refine ⟨fun hsame => ?_, fun heq => by rw [heq]⟩
  -- four parts are never eight
  have hcount := congrArg List.length hsame
  cases ip with
  | v4 octets =>
    cases ip' with
    | v4 octets' => exact congrArg IpAddr.v4 (hmap (by omega) (by omega) hsame)
    | v6 groups =>
      rw [spelling, spelling, List.length_map, List.length_map, h, h'] at hcount
      cases hcount
  | v6 groups =>
    cases ip' with
    | v4 octets =>
      rw [spelling, spelling, List.length_map, List.length_map, h, h'] at hcount
      cases hcount
    | v6 groups' => exact congrArg IpAddr.v6 (hmap (by omega) (by omega) hsame)

/-- Two texts denote the same address if and only if their normal spellings are the same. -/
theorem parse_eq_iff_normalAddress_eq {s t : List Char} {ip ip' : IpAddr} (h : parse s = some ip)
    (h' : parse t = some ip') (hpure : ':' ∈ s → '.' ∉ s) (hpure' : ':' ∈ t → '.' ∉ t) :
    ip = ip' ↔ normalAddress s = normalAddress t := by
  rw [normalAddress_eq_spelling h hpure, normalAddress_eq_spelling h' hpure',
    spelling_inj (hasFullLength_of_parse h) (hasFullLength_of_parse h')]

/-! ### IPv4 addresses -/

theorem toLower_eq_self_of_isDigit {c : Char} (h : IsDigit 10 c) : c.toLower = c := by
  obtain ⟨digit, hsmall, -, hhex⟩ := exists_toDigit_of_isDigit h
  have hle : c.toNat ≤ '9'.toNat := by
    unfold hexDigit at hhex
    simp only [char_le_iff] at hhex
    split_ifs at hhex with hdecimal
    · exact hdecimal.2
    all_goals
      have hdigit := Option.some.inj hhex
      omega
  have hbounds : '9'.toNat = 57 ∧ 'A'.val.toNat = 65 := by decide
  unfold Char.toLower
  rw [dif_neg]
  rw [ge_iff_le, UInt32.le_iff_toNat_le]
  rw [Char.toNat] at hle
  omega

/-- An octet has no leading zeros to lose, but the octet zero is itself one. -/
theorem octet_eq_of_normalNumeral {octet : List Char} (h : IsOctet octet) :
    octet = if normalNumeral octet = [] then ['0'] else normalNumeral octet := by
  obtain ⟨first, rest, rfl⟩ := List.exists_cons_of_ne_nil h.ne_nil
  by_cases hzero : first = '0'
  · -- an octet that begins with a zero is the octet zero
    subst hzero
    have hrest : rest = [] := by
      rcases h.plain with hallowed | hother | hshort
      · cases hallowed
      · exact absurd rfl hother
      · exact List.length_eq_zero_iff.mp (Nat.le_zero.mp (Nat.le_of_succ_le_succ hshort))
    rw [hrest]
    decide
  · have hself : normalNumeral (first :: rest) = first :: rest := by
      rw [normalNumeral, List.dropWhile_cons_of_neg (by simpa using hzero)]
      exact (List.map_congr_left fun c hc => toLower_eq_self_of_isDigit (h.digit c hc)).trans
        (List.map_id _)
    rw [hself, if_neg (List.cons_ne_nil first rest)]

/-- An IPv4 address has one spelling only. -/
theorem eq_of_parse_v4 {s t : List Char} {octets : List Nat} (h : parse s = some (.v4 octets))
    (h' : parse t = some (.v4 octets)) : s = t := by
  have hparts {text : List Char} (hread : parse text = some (.v4 octets)) :
      text.splitOn '.' = octets.map fun n => if numeral 10 n = [] then ['0'] else numeral 10 n := by
    obtain ⟨hoctets, hvalues⟩ := octets_of_parse hread
    rw [hvalues, List.map_map]
    refine (List.map_id _).symm.trans (List.map_congr_left fun part hpart => ?_)
    have hpart := hoctets part hpart
    rw [Function.comp_apply, ← normalNumeral_eq_numeral (by omega) hpart.digit]
    exact octet_eq_of_normalNumeral hpart
  calc s = ['.'].intercalate (s.splitOn '.') := (List.intercalate_splitOn '.').symm
    _ = ['.'].intercalate (t.splitOn '.') := by rw [hparts h, hparts h']
    _ = t := List.intercalate_splitOn '.'

end Foundation.IpAddr
