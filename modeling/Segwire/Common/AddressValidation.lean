import Segwire.Common.Utils
import Segwire.Foundation.IpAddrGrammar

/-!
# Validated addresses and parsed addresses

`validateIpAddress` tests the form of a text with two regular expressions, and what it
accepts is later read by the parser of addresses. The IPv4 form admits leading zeros, which
the parser refuses. The IPv6 form counts colons and does not look where they stand, and it
knows neither embedded IPv4 addresses nor eight colons.

## Main definitions

* `FourOctets`, `HasLeadingZero` — the IPv4 texts that pass the check
* `WellGrouped` — eight groups, or groups around one `::`
* `PlainAddress` — none of the forms on which the check and the parser differ

## Main results

* `validateIpAddress_eq_ok_iff` — what passes the check
* `isIpv4_iff`, `ipv6Pattern_of_isIpv6`, `isIpv6_of_wellGrouped` — the addresses among it
* `validates_iff_parses_iff` — the texts on which the check and the parser agree
* `not_validates_iff_parses`
-/

namespace Segwire.Common

open Foundation Foundation.Text Foundation.IpAddr

/-! ### Digits -/

theorem toDigit_ten (c : Char) :
    toDigit 10 c = if c.isDigit then some (c.toNat - 48) else none := by
  have hzero : '0'.toNat = 48 := rfl
  have hnine : '9'.toNat = 57 := rfl
  unfold toDigit hexDigit
  simp only [char_le_iff, hzero, hnine, ← isDigit_iff_toNat]
  split_ifs with hdigit
  · have hrange := (isDigit_iff_toNat c).mp hdigit
    exact Option.filter_eq_some_iff.mpr ⟨rfl, decide_eq_true (by omega)⟩
  all_goals simp [Option.filter]

theorem isDigit_ten_iff (c : Char) : IsDigit 10 c ↔ c.isDigit = true := by
  unfold IsDigit
  rw [toDigit_ten]
  split_ifs with hdigit
  · simp [hdigit]
  · simp [hdigit]

theorem isDigit_sixteen_iff (c : Char) : IsDigit 16 c ↔ isHexDigit c = true := by
  have hbounds : '0'.toNat = 48 ∧ '9'.toNat = 57 ∧ 'a'.toNat = 97 ∧ 'f'.toNat = 102 ∧
      'A'.toNat = 65 ∧ 'F'.toNat = 70 := by decide
  obtain ⟨h0, h9, ha, hf, hA, hF⟩ := hbounds
  unfold IsDigit toDigit hexDigit isHexDigit
  simp only [char_le_iff, h0, h9, ha, hf, hA, hF, Bool.or_eq_true, isDigit_iff_toNat,
    decide_eq_true_iff]
  split_ifs with hdigit hlower hupper
  · simp [hdigit]
    omega
  · simp [hlower]
    omega
  · simp [hupper]
    omega
  · simp [hdigit, hlower, hupper]

theorem isDecimalDigit_of_isDigit {c : Char} (h : c.isDigit = true) : isDecimalDigit c = true := by
  have hrange := (isDigit_iff_toNat c).mp h
  exact List.any_eq_true.mpr ⟨0x30, List.mem_cons_self, decide_eq_true (by omega)⟩

theorem valueFrom_ten {digits : List Char} (h : ∀ c ∈ digits, c.isDigit = true) (value : Nat) :
    valueFrom 10 value digits =
      digits.foldl (fun value digit => 10 * value + (digit.toNat - '0'.toNat)) value := by
  induction digits generalizing value with
  | nil => rfl
  | cons c digits ih =>
    obtain ⟨hc, hdigits⟩ := List.forall_mem_cons.mp h
    have hstep : value * 10 + (toDigit 10 c).getD 0 = 10 * value + (c.toNat - '0'.toNat) := by
      rw [toDigit_ten, if_pos hc, Nat.mul_comm]
      rfl
    rw [List.foldl_cons, ← hstep, ← ih hdigits]
    rfl

/-! ### IPv4 addresses -/

/-- The part starts with a zero that is not its only digit. -/
def HasLeadingZero (octet : List Char) : Prop := octet.head? = some '0' ∧ 1 < octet.length

/-- Four numbers between dots, as the check of IPv4 addresses reads them. -/
def FourOctets (s : List Char) : Prop :=
  ipv4Pattern s = true ∧ ∀ octet ∈ s.splitOn '.', (parseU8 octet).isSome = true

/-- An octet passes the check of octets, and has no leading zero. -/
theorem isOctet_iff {octet : List Char} :
    IsOctet octet ↔ ((1 ≤ octet.length ∧ octet.length ≤ 3) ∧
      ∀ c ∈ octet, isDecimalDigit c = true) ∧ (parseU8 octet).isSome = true ∧
      ¬ HasLeadingZero octet := by
  constructor
  · intro h
    have hdigits (c : Char) (hc : c ∈ octet) : c.isDigit = true :=
      (isDigit_ten_iff c).mp (h.digit c hc)
    refine ⟨⟨⟨List.length_pos_iff.mpr h.ne_nil, h.length_le⟩,
      fun c hc => isDecimalDigit_of_isDigit (hdigits c hc)⟩, ?_, ?_⟩
    · have hvalue := h.value_le
      rw [valueFrom_ten hdigits] at hvalue
      unfold parseU8 parseUnsigned
      split
      · exact absurd (hdigits '+' List.mem_cons_self) (by decide)
      · rw [parseDigits, if_pos ⟨h.ne_nil, List.all_eq_true.mpr hdigits, hvalue⟩]
        rfl
    · rintro ⟨hzero, hlong⟩
      rcases h.plain with hallowed | hother | hshort
      · cases hallowed
      · exact hother hzero
      · exact not_le.mpr hlong hshort
  · rintro ⟨⟨⟨hnonempty, hlength⟩, hchars⟩, hparse, hplain⟩
    unfold parseU8 parseUnsigned at hparse
    split at hparse
    · exact absurd (hchars '+' List.mem_cons_self) (by decide)
    · unfold parseDigits at hparse
      split_ifs at hparse with hdigits
      · have hall := List.all_eq_true.mp hdigits.2.1
        refine ⟨fun c hc => (isDigit_ten_iff c).mpr (hall c hc), hdigits.1, hlength, ?_, ?_⟩
        · rw [valueFrom_ten hall]
          exact hdigits.2.2
        · rw [HasLeadingZero, not_and_or, not_lt] at hplain
          exact .inr hplain
      · cases hparse

theorem isIpv4_iff {s : List Char} :
    IsIpv4 s ↔ FourOctets s ∧ ∀ octet ∈ s.splitOn '.', ¬ HasLeadingZero octet := by
  have hpattern : ipv4Pattern s = true ↔ (s.splitOn '.').length = 4 ∧
      ∀ octet ∈ s.splitOn '.', (1 ≤ octet.length ∧ octet.length ≤ 3) ∧
        ∀ c ∈ octet, isDecimalDigit c = true := by
    simp [ipv4Pattern]
  constructor
  · rintro ⟨octets, hlength, hoctets, rfl⟩
    have hnodot (octet : List Char) (hoctet : octet ∈ octets) : '.' ∉ octet := fun hdot =>
      absurd ((hoctets octet hoctet).digit '.' hdot) (by decide)
    have hne : octets ≠ [] := by
      rintro rfl
      cases hlength
    unfold FourOctets
    rw [hpattern, List.splitOn_intercalate '.' hnodot hne]
    have hparts (octet : List Char) (hoctet : octet ∈ octets) :=
      isOctet_iff.mp (hoctets octet hoctet)
    exact ⟨⟨⟨hlength, fun octet hoctet => (hparts octet hoctet).1⟩,
      fun octet hoctet => (hparts octet hoctet).2.1⟩, fun octet hoctet => (hparts octet hoctet).2.2⟩
  · rintro ⟨⟨hform, hparse⟩, hplain⟩
    obtain ⟨hlength, hparts⟩ := hpattern.mp hform
    refine ⟨s.splitOn '.', hlength, fun octet hoctet => ?_, (List.intercalate_splitOn '.').symm⟩
    exact isOctet_iff.mpr ⟨hparts octet hoctet, hparse octet hoctet, hplain octet hoctet⟩

/-! ### IPv6 addresses -/

/-- Groups that are neither empty nor contain a colon. -/
def IsRun (groups : List (List Char)) : Prop := ∀ group ∈ groups, group ≠ [] ∧ ':' ∉ group

/-- Eight groups between colons, or runs of groups on both sides of one `::`. -/
def WellGrouped (s : List Char) : Prop :=
  (∃ groups, IsRun groups ∧ groups.length = 8 ∧ s = [':'].intercalate groups) ∨
    ∃ front back, IsRun front ∧ IsRun back ∧
      s = [':'].intercalate front ++ ':' :: ':' :: [':'].intercalate back

theorem isRun_of_isHexGroup {groups : List (List Char)} (h : ∀ group ∈ groups, IsHexGroup group) :
    IsRun groups := fun group hgroup =>
  ⟨(h group hgroup).ne_nil, fun hcolon => absurd ((h group hgroup).digit ':' hcolon) (by decide)⟩

/-- A run is what lies between the colons; an empty run leaves one empty part. -/
theorem IsRun.splitOn {groups : List (List Char)} (h : IsRun groups) :
    ([':'].intercalate groups).splitOn ':' = if groups = [] then [[]] else groups :=
  splitOn_intercalate_eq fun group hgroup => (h group hgroup).2

theorem IsRun.length_splitOn {groups : List (List Char)} (h : IsRun groups) :
    (([':'].intercalate groups).splitOn ':').length = max 1 groups.length := by
  rw [h.splitOn]
  split_ifs with hempty
  · subst hempty
    rfl
  · exact (max_eq_right (List.length_pos_iff.mpr hempty)).symm

theorem ipv6Pattern_iff {s : List Char} :
    ipv6Pattern s = true ↔ (3 ≤ (s.splitOn ':').length ∧ (s.splitOn ':').length ≤ 8) ∧
      ∀ group ∈ s.splitOn ':', group.length ≤ 4 ∧ ∀ c ∈ group, isHexDigit c = true := by
  simp [ipv6Pattern]

/-- Up to four hexadecimal digits denote a number of 16 bits. -/
theorem isHexGroup_iff {group : List Char} :
    IsHexGroup group ↔ group ≠ [] ∧ group.length ≤ 4 ∧ ∀ c ∈ group, isHexDigit c = true := by
  constructor
  · intro h
    exact ⟨h.ne_nil, h.length_le, fun c hc => (isDigit_sixteen_iff c).mp (h.digit c hc)⟩
  · rintro ⟨hne, hlength, hdigits⟩
    refine ⟨fun c hc => (isDigit_sixteen_iff c).mpr (hdigits c hc), hne, hlength, ?_, .inl rfl⟩
    have hvalue : valueFrom 16 0 group < 65536 :=
      calc valueFrom 16 0 group < (0 + 1) * 16 ^ group.length := valueFrom_lt (by omega) 0 group
        _ ≤ (0 + 1) * 16 ^ 4 := Nat.mul_le_mul_left _ (Nat.pow_le_pow_right (by omega) hlength)
    omega

/-- What the IPv6 form admits has no dot. -/
theorem no_dot_of_ipv6Pattern {s : List Char} (h : ipv6Pattern s = true) : '.' ∉ s := by
  intro hdot
  obtain ⟨group, hgroup, hmem⟩ := exists_mem_splitOn ':' hdot (by decide)
  exact absurd (((ipv6Pattern_iff.mp h).2 group hgroup).2 '.' hmem) (by decide)

/-- An address without a dot and with at most seven colons is well grouped and has the IPv6
form. -/
theorem ipv6Pattern_of_isIpv6 {s : List Char} (h : IsIpv6 s) (hdot : '.' ∉ s)
    (hfew : (s.splitOn ':').length ≤ 8) : ipv6Pattern s = true ∧ WellGrouped s := by
  rw [ipv6Pattern_iff]
  have hhex {parts : List (List Char)} {n : Nat} {embedded : Bool}
      (hparts : IsGroups parts n embedded)
      (hsub : ∀ c, c ∈ [':'].intercalate parts → c ∈ s) :=
    hexGroups_of_no_dot hparts fun part hpart hmem =>
      hdot (hsub '.' (mem_intercalate_of_mem hpart hmem))
  cases h with
  | @full parts embedded hparts =>
    obtain ⟨hlength, hparts⟩ := hhex hparts fun c hc => hc
    have hrun := isRun_of_isHexGroup hparts
    have hne : parts ≠ [] := by
      rintro rfl
      cases hlength
    refine ⟨?_, .inl ⟨parts, hrun, hlength, rfl⟩⟩
    rw [hrun.splitOn, if_neg hne, hlength]
    exact ⟨by omega, fun group hgroup => (isHexGroup_iff.mp (hparts group hgroup)).2⟩
  | @compressed front back m n embedded hfront hback h =>
    obtain ⟨-, hfront⟩ := hhex hfront fun c hc => List.mem_append_left _ hc
    obtain ⟨-, hback⟩ := hhex hback fun c hc =>
      List.mem_append_right _ (List.mem_cons_of_mem _ (List.mem_cons_of_mem _ hc))
    have hrun := isRun_of_isHexGroup hfront
    have hrun' := isRun_of_isHexGroup hback
    refine ⟨⟨⟨?_, hfew⟩, ?_⟩, .inr ⟨front, back, hrun, hrun', rfl⟩⟩
    · rw [splitOn_colons, List.length_append, List.length_cons, hrun.length_splitOn,
        hrun'.length_splitOn]
      omega
    · have hside {groups : List (List Char)} (hgroups : ∀ group ∈ groups, IsHexGroup group)
          {group : List Char} (hgroup : group ∈ ([':'].intercalate groups).splitOn ':') :
          group.length ≤ 4 ∧ ∀ c ∈ group, isHexDigit c = true := by
        rw [(isRun_of_isHexGroup hgroups).splitOn] at hgroup
        split_ifs at hgroup
        · obtain rfl := List.mem_singleton.mp hgroup
          exact ⟨by simp, by simp⟩
        · exact (isHexGroup_iff.mp (hgroups group hgroup)).2
      intro group hgroup
      rw [splitOn_colons, List.mem_append, List.mem_cons] at hgroup
      rcases hgroup with hgroup | rfl | hgroup
      · exact hside hfront hgroup
      · exact ⟨by simp, by simp⟩
      · exact hside hback hgroup

/-- What has the IPv6 form and is well grouped is an address. -/
theorem isIpv6_of_wellGrouped {s : List Char} (hform : ipv6Pattern s = true) (h : WellGrouped s) :
    IsIpv6 s := by
  obtain ⟨⟨-, hfew⟩, hgroups⟩ := ipv6Pattern_iff.mp hform
  have hhex {groups : List (List Char)} (hrun : IsRun groups)
      (hsub : ∀ group ∈ groups, group ∈ s.splitOn ':') : ∀ group ∈ groups, IsHexGroup group :=
    fun group hgroup =>
      isHexGroup_iff.mpr ⟨(hrun group hgroup).1, hgroups group (hsub group hgroup)⟩
  have hparts {groups : List (List Char)} (hrun : IsRun groups) {group : List Char}
      (hgroup : group ∈ groups) : group ∈ ([':'].intercalate groups).splitOn ':' := by
    rw [hrun.splitOn, if_neg (List.ne_nil_of_mem hgroup)]
    exact hgroup
  rcases h with ⟨groups, hrun, hlength, rfl⟩ | ⟨front, back, hrun, hrun', rfl⟩
  · have hall := hhex hrun fun group hgroup => hparts hrun hgroup
    exact .full (isGroups_false_iff.mpr ⟨hlength, hall⟩)
  · rw [splitOn_colons, List.length_append, List.length_cons, hrun.length_splitOn,
      hrun'.length_splitOn] at hfew
    rw [splitOn_colons] at hhex
    have hfront := hhex hrun fun group hgroup => List.mem_append_left _ (hparts hrun hgroup)
    have hback := hhex hrun' fun group hgroup =>
      List.mem_append_right _ (List.mem_cons_of_mem _ (hparts hrun' hgroup))
    exact .compressed (isGroups_false_iff.mpr ⟨rfl, hfront⟩) (isGroups_false_iff.mpr ⟨rfl, hback⟩)
      (by omega)

/-! ### The check and the parser -/

theorem validateIpAddress_eq_ok_iff {ip : String} :
    validateIpAddress ip = .ok () ↔ FourOctets ip.toList ∨ ipv6Pattern ip.toList = true := by
  unfold validateIpAddress FourOctets
  split_ifs with hv4 hv6
  · have hother : ipv6Pattern ip.toList ≠ true := by
      intro hv6
      have hsingle := List.splitOn_eq_singleton (no_dot_of_ipv6Pattern hv6)
      simp [ipv4Pattern, hsingle] at hv4
    rw [or_iff_left hother, and_iff_right hv4, Except.forM_eq_ok_iff]
    refine forall₂_congr fun octet _ => ?_
    cases parseU8 octet with
    | none => simp
    | some n => simp
  · exact iff_of_true rfl (.inr hv6)
  · simp [hv4, hv6]

/-- A text on which the check and the parser agree: no number of an IPv4 address has a
leading zero, groups of the IPv6 form are well grouped, and an IPv6 address has no embedded
IPv4 address and at most seven colons. -/
structure PlainAddress (s : List Char) : Prop where
  no_leading_zero : FourOctets s → ∀ octet ∈ s.splitOn '.', ¬ HasLeadingZero octet
  well_grouped : ipv6Pattern s = true → WellGrouped s
  no_embedded : IsIpv6 s → '.' ∉ s
  few_colons : IsIpv6 s → (s.splitOn ':').length ≤ 8

theorem no_colon_of_ipv4Pattern {s : List Char} (h : ipv4Pattern s = true) : ':' ∉ s := by
  intro hmem
  obtain ⟨octet, hoctet, hcolon⟩ := exists_mem_splitOn '.' hmem (by decide)
  simp only [ipv4Pattern, Bool.and_eq_true, List.all_eq_true] at h
  exact absurd ((h.2 octet hoctet).2 ':' hcolon) (by decide)

theorem not_isIpv6_of_fourOctets {s : List Char} (h : FourOctets s) : ¬ IsIpv6 s :=
  fun hv6 => no_colon_of_ipv4Pattern h.1 (colon_mem_of_isIpv6 hv6)

/-- The check and the parser agree exactly on the plain texts. -/
theorem validates_iff_parses_iff (ip : String) :
    (validateIpAddress ip = .ok () ↔ (IpAddr.parse ip.toList).isSome = true) ↔
      PlainAddress ip.toList := by
  rw [validateIpAddress_eq_ok_iff, parse_isSome_iff, isIpv4_iff]
  generalize ip.toList = s
  have hdisjoint : FourOctets s → ¬ IsIpv6 s := not_isIpv6_of_fourOctets
  constructor
  · intro h
    have hform (hv6 : IsIpv6 s) : ipv6Pattern s = true :=
      (h.mpr (.inr hv6)).resolve_left fun hv4 => hdisjoint hv4 hv6
    refine ⟨fun hv4 => ?_, fun hv6 => ?_, fun hv6 => no_dot_of_ipv6Pattern (hform hv6),
      fun hv6 => (ipv6Pattern_iff.mp (hform hv6)).1.2⟩
    · exact ((h.mp (.inl hv4)).resolve_right (hdisjoint hv4)).2
    · have hno_dot := no_dot_of_ipv6Pattern hv6
      have haddress : IsIpv6 s := by
        refine (h.mp (.inr hv6)).resolve_left fun hv4 => hno_dot ?_
        exact dot_mem_of_isIpv4 (isIpv4_iff.mpr hv4)
      exact (ipv6Pattern_of_isIpv6 haddress hno_dot (ipv6Pattern_iff.mp hv6).1.2).2
  · intro h
    constructor
    · intro haccepted
      rcases haccepted with hv4 | hv6
      · exact .inl ⟨hv4, h.no_leading_zero hv4⟩
      · exact .inr (isIpv6_of_wellGrouped hv6 (h.well_grouped hv6))
    · intro haddress
      rcases haddress with hv4 | hv6
      · exact .inl hv4.1
      · exact .inr (ipv6Pattern_of_isIpv6 hv6 (h.no_embedded hv6) (h.few_colons hv6)).1

/-- The check accepts an octet that the parser does not. -/
theorem not_validates_iff_parses :
    ¬ ∀ ip, validateIpAddress ip = .ok () ↔ (IpAddr.parse ip.toList).isSome = true := by
  intro h
  exact absurd (h "010.0.0.1") (by decide)

end Segwire.Common
