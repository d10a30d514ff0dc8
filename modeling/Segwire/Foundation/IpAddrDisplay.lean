import Segwire.Foundation.IpAddrSpelling

/-!
# Printing IP addresses

The standard library's `Display` of an address. An IPv6 address is shortened: its longest run of
zero groups becomes `::`, and the last two groups of a mapped IPv4 address are printed as one.
What is printed is read back as the same address.

## Main definitions

* `WellFormed` — the numbers of an address fit their fields
* `Ipv4Addr`, `Ipv6Addr` — the addresses of one family
* `Span`, `longestZeros` — the run of zero groups that is left out
* `display` — the text of an address

## Main results

* `wellFormed_of_parse` — the addresses that are read are well formed
* `parse_display` — an address is read back from its text
* `display_injOn` — different addresses have different texts
-/

namespace Foundation.IpAddr

variable {radix maxDigits limit n : Nat} {zeroPrefix : Bool}

/-- The address has the parts of its family, and each fits its field. -/
def WellFormed : IpAddr → Prop
  | .v4 octets => octets.length = 4 ∧ ∀ octet ∈ octets, octet ≤ 255
  | .v6 groups => groups.length = 8 ∧ ∀ group ∈ groups, group ≤ 65535

instance : DecidablePred WellFormed
  | .v4 octets => inferInstanceAs (Decidable (octets.length = 4 ∧ ∀ octet ∈ octets, octet ≤ 255))
  | .v6 groups => inferInstanceAs (Decidable (groups.length = 8 ∧ ∀ group ∈ groups, group ≤ 65535))

/-- `std::net::Ipv4Addr` -/
abbrev Ipv4Addr := {octets : List Nat // WellFormed (.v4 octets)}

/-- `std::net::Ipv6Addr` -/
abbrev Ipv6Addr := {groups : List Nat // WellFormed (.v6 groups)}

/-! ### Numbers -/

/-- The digits of a number, built from the first to the last. -/
theorem toDigits_induct {motive : Nat → List Char → Prop} (hlow : 1 < radix)
    (hdigit : ∀ digit < radix, motive digit [Nat.digitChar digit])
    (hnext : ∀ n ≠ 0, ∀ digit < radix, motive n (Nat.toDigits radix n) →
      motive (n * radix + digit) (Nat.toDigits radix n ++ [Nat.digitChar digit])) (n : Nat) :
    motive n (Nat.toDigits radix n) := by
  induction n using Nat.strong_induction_on with
  | _ n ih =>
    rw [Nat.toDigits_eq_if hlow]
    split_ifs with hsmall
    · exact hdigit n hsmall
    · have hquotient : n / radix < n := Nat.div_lt_self (by omega) hlow
      have hpos : n / radix ≠ 0 := (Nat.div_pos (by omega) (by omega)).ne'
      have hlast := hnext _ hpos _ (Nat.mod_lt n (by omega)) (ih _ hquotient)
      rwa [Nat.div_add_mod'] at hlast

theorem toDigit_digitChar (hhigh : radix ≤ 16) {digit : Nat} (h : digit < radix) :
    toDigit radix (Nat.digitChar digit) = some digit := by
  rw [toDigit, hexDigit_digitChar digit (h.trans_le hhigh), Option.filter_some,
    if_pos (decide_eq_true h)]

theorem isDigit_of_mem_toDigits (hlow : 1 < radix) (hhigh : radix ≤ 16) :
    ∀ c ∈ Nat.toDigits radix n, IsDigit radix c := by
  have hdigit {digit : Nat} (h : digit < radix) : IsDigit radix (Nat.digitChar digit) := by
    rw [IsDigit, toDigit_digitChar hhigh h]
    rfl
  induction n using toDigits_induct hlow with
  | hdigit digit h => exact List.forall_mem_singleton.mpr (hdigit h)
  | hnext n hn digit h ih =>
    intro c hc
    rcases List.mem_append.mp hc with hc | hc
    · exact ih c hc
    · rw [List.mem_singleton.mp hc]
      exact hdigit h

theorem valueFrom_toDigits (hlow : 1 < radix) (hhigh : radix ≤ 16) (n : Nat) :
    valueFrom radix 0 (Nat.toDigits radix n) = n := by
  induction n using toDigits_induct hlow with
  | hdigit digit h =>
    rw [valueFrom, List.foldl_cons, toDigit_digitChar hhigh h, Nat.zero_mul, Nat.zero_add]
    rfl
  | hnext n hn digit h ih =>
    rw [valueFrom] at ih
    rw [valueFrom, List.foldl_append, ih, List.foldl_cons, toDigit_digitChar hhigh h]
    rfl

/-- Only the number zero begins with a zero. -/
theorem head?_toDigits (hlow : 1 < radix) (hhigh : radix ≤ 16) (hn : n ≠ 0) :
    (Nat.toDigits radix n).head? ≠ some '0' := by
  induction n using toDigits_induct hlow with
  | hdigit digit h =>
    intro hzero
    have hhex := hexDigit_digitChar digit (h.trans_le hhigh)
    rw [Option.some.inj hzero] at hhex
    exact hn (Option.some.inj hhex).symm
  | hnext n hpos digit h ih =>
    rw [List.head?_append_of_ne_nil _ Nat.toDigits_ne_nil]
    exact ih hpos

/-- A number that fits is printed as one that can be read. -/
theorem isNumber_toDigits (hlow : 1 < radix) (hhigh : radix ≤ 16) (hmax : 0 < maxDigits)
    (hlimit : limit < radix ^ maxDigits) (hn : n ≤ limit) :
    IsNumber radix maxDigits limit zeroPrefix (Nat.toDigits radix n) where
  digit := isDigit_of_mem_toDigits hlow hhigh
  ne_nil := Nat.toDigits_ne_nil
  length_le := (Nat.length_toDigits_le_iff hlow hmax).mpr (hn.trans_lt hlimit)
  value_le := (valueFrom_toDigits hlow hhigh n).le.trans hn
  plain := by
    by_cases hzero : n = 0
    · rw [hzero, Nat.toDigits_zero]
      exact .inr (.inr le_rfl)
    · exact .inr (.inl (head?_toDigits hlow hhigh hzero))

theorem isOctet_toDigits (h : n ≤ 255) : IsOctet (Nat.toDigits 10 n) :=
  isNumber_toDigits (by omega) (by omega) (by omega) (by omega) h

theorem isHexGroup_toDigits (h : n ≤ 65535) : IsHexGroup (Nat.toDigits 16 n) :=
  isNumber_toDigits (by omega) (by omega) (by omega) (by omega) h

theorem map_valueFrom_toDigits (hlow : 1 < radix) (hhigh : radix ≤ 16) (numbers : List Nat) :
    (numbers.map (Nat.toDigits radix)).map (valueFrom radix 0) = numbers := by
  rw [List.map_map]
  exact (List.map_congr_left fun n _ => valueFrom_toDigits hlow hhigh n).trans (List.map_id _)

/-! ### Addresses that are read -/

theorem wellFormed_of_readIpv4 {input rest : List Char} {octets : List Nat}
    (h : readIpv4 input = some (octets, rest)) : WellFormed (.v4 octets) := by
  obtain ⟨parts, hlength, hparts, -, -, rfl⟩ := readIpv4_eq_some_iff.mp h
  refine ⟨?_, List.forall_mem_map.mpr fun part hpart => (hparts part hpart).value_le⟩
  rw [List.length_map, hlength]

theorem le_of_mem_embedded {octets : List Nat} (h : WellFormed (.v4 octets)) :
    ∀ group ∈ embedded octets, group ≤ 65535 := by
  obtain ⟨hlength, hoctets⟩ := h
  match octets, hlength with
  | [a, b, c, d], _ =>
    simp only [List.forall_mem_cons] at hoctets
    obtain ⟨ha, hb, hc, hd, -⟩ := hoctets
    simp only [embedded, List.forall_mem_cons]
    exact ⟨by omega, by omega, List.forall_mem_nil _⟩

theorem le_of_mem_readGroups {n index : Nat} {input rest : List Char} {groups : List Nat}
    {ipv4 : Bool} (h : readGroups n index input = (groups, ipv4, rest)) :
    ∀ group ∈ groups, group ≤ 65535 := by
  induction n generalizing index input groups ipv4 rest with
  | zero =>
    obtain ⟨rfl, -⟩ := Prod.mk.inj h
    exact List.forall_mem_nil _
  | succ n ih =>
    rw [readGroups] at h
    split at h
    · next octets after hipv4 =>
      split_ifs at hipv4 with hroom
      obtain ⟨text, -, hread⟩ := readSeparator_eq_some_iff.mp hipv4
      obtain ⟨rfl, -⟩ := Prod.mk.inj h
      exact le_of_mem_embedded (wellFormed_of_readIpv4 hread)
    · split at h
      · obtain ⟨rfl, -⟩ := Prod.mk.inj h
        exact List.forall_mem_nil _
      · next group after hgroup =>
        obtain ⟨text, -, hnumber⟩ := readSeparator_eq_some_iff.mp hgroup
        obtain ⟨digits, hdigits, -, -, rfl⟩ := (readNumber_eq_some_iff (by omega)).mp hnumber
        rcases hmore : readGroups n (index + 1) after with ⟨groups', ipv4', rest'⟩
        rw [hmore] at h
        obtain ⟨rfl, -⟩ := Prod.mk.inj h
        exact List.forall_mem_cons.mpr ⟨hdigits.value_le, ih hmore⟩

theorem wellFormed_of_readIpv6 {input rest : List Char} {groups : List Nat}
    (h : readIpv6 input = some (groups, rest)) : WellFormed (.v6 groups) := by
  refine ⟨length_of_readIpv6 h, ?_⟩
  unfold readIpv6 at h
  rcases hfront : readGroups 8 0 input with ⟨front, ipv4, after⟩
  rw [hfront] at h
  dsimp only at h
  split_ifs at h with hfull hipv4
  · obtain ⟨rfl, -⟩ := Prod.mk.inj (Option.some.inj h)
    exact le_of_mem_readGroups hfront
  · obtain ⟨⟨u, middle⟩, -, hread⟩ := Option.bind_eq_some_iff.mp h
    obtain ⟨⟨v, tail⟩, -, heq⟩ := Option.map_eq_some_iff.mp hread
    rcases hback : readGroups (8 - (front.length + 1)) 0 tail with ⟨back, ipv4', rest'⟩
    rw [hback] at heq
    obtain ⟨rfl, -⟩ := Prod.mk.inj heq
    intro group hgroup
    rcases List.mem_append.mp hgroup with hgroup | hgroup
    · rcases List.mem_append.mp hgroup with hgroup | hgroup
      · exact le_of_mem_readGroups hfront group hgroup
      · rw [List.eq_of_mem_replicate hgroup]
        exact Nat.zero_le _
    · exact le_of_mem_readGroups hback group hgroup

/-- Addresses that are read are well formed. -/
theorem wellFormed_of_parse {s : List Char} {ip : IpAddr} (h : parse s = some ip) :
    ip.WellFormed := by
  cases ip with
  | v4 octets => exact wellFormed_of_readIpv4 (readIpv4_of_parse h)
  | v6 groups => exact wellFormed_of_readIpv6 (readIpv6_of_parse h)

/-! ### The text of an address -/

/-- A run of groups. -/
structure Span where
  start : Nat
  len : Nat
  deriving DecidableEq, Repr

/-- The loop for the longest run of zeros: the groups from index `i` on, the longest run so
far, and the run that ends here. -/
def zeroSpan : Nat → Span → Span → List Nat → Span
  | _, longest, _, [] => longest
  | i, longest, current, segment :: segments =>
    if segment = 0 then
      let current : Span := ⟨if current.len = 0 then i else current.start, current.len + 1⟩
      zeroSpan (i + 1) (if longest.len < current.len then current else longest) current segments
    else zeroSpan (i + 1) longest ⟨0, 0⟩ segments

/-- The longest run of zeros, the first one among equals. -/
def longestZeros (segments : List Nat) : Span := zeroSpan 0 ⟨0, 0⟩ ⟨0, 0⟩ segments

/-- `fmt_subslice` -/
def fmtSubslice (chunk : List Nat) : List Char := [':'].intercalate (chunk.map (Nat.toDigits 16))

/-- `Display` of an IPv4 address. -/
def displayV4 (octets : List Nat) : List Char := ['.'].intercalate (octets.map (Nat.toDigits 10))

/-- `to_ipv4_mapped` -/
def toIpv4Mapped : List Nat → Option (List Nat)
  | [0, 0, 0, 0, 0, 65535, ab, cd] => some [ab / 256, ab % 256, cd / 256, cd % 256]
  | _ => none

/-- `Display` of an IPv6 address. -/
def displayV6 (segments : List Nat) : List Char :=
  match toIpv4Mapped segments with
  | some ipv4 => "::ffff:".toList ++ displayV4 ipv4
  | none =>
    let zeroes := longestZeros segments
    -- a single zero group is printed like any other
    if 1 < zeroes.len then
      fmtSubslice (segments.take zeroes.start) ++ "::".toList ++
        fmtSubslice (segments.drop (zeroes.start + zeroes.len))
    else fmtSubslice segments

/-- `Display` of an address. -/
def display : IpAddr → List Char
  | .v4 octets => displayV4 octets
  | .v6 segments => displayV6 segments

example : display (.v6 [64768, 0, 0, 1, 0, 0, 0, 2]) = "fd00:0:0:1::2".toList := by decide

/-! ### Runs of zeros -/

/-- The groups of the run are zeros. -/
def Span.Zeros (span : Span) (segments : List Nat) : Prop :=
  ∃ front back, front.length = span.start ∧
    segments = front ++ (List.replicate span.len 0 ++ back)

/-- The run is empty or ends with the groups. -/
def Span.Current (span : Span) (segments : List Nat) : Prop :=
  span.len = 0 ∨ ∃ front, front.length = span.start ∧ segments = front ++ List.replicate span.len 0

/-- A zero makes the run at the end longer, or starts it. -/
theorem Span.Current.concat_zero {span : Span} {seen : List Nat} (h : span.Current seen) :
    Span.Current ⟨if span.len = 0 then seen.length else span.start, span.len + 1⟩
      (seen ++ [0]) := by
  right
  by_cases hlen : span.len = 0
  · rw [if_pos hlen]
    exact ⟨seen, rfl, by rw [hlen]; rfl⟩
  · obtain ⟨front, hstart, hseen⟩ := h.resolve_left hlen
    rw [if_neg hlen]
    refine ⟨front, hstart, ?_⟩
    rw [hseen, List.append_assoc, List.replicate_succ']

/-- The run at the end, as a run of all groups. -/
theorem Span.Current.zeros {span : Span} {seen : List Nat} (h : span.Current seen)
    (hlen : span.len ≠ 0) (rest : List Nat) : span.Zeros (seen ++ rest) := by
  obtain ⟨front, hstart, hseen⟩ := h.resolve_left hlen
  exact ⟨front, rest, hstart, by rw [hseen, List.append_assoc]⟩

/-- The loop keeps a run of zeros, and the run that ends with the groups seen so far. -/
theorem zeros_zeroSpan {seen rest : List Nat} {longest current : Span}
    (hlongest : longest.Zeros (seen ++ rest)) (hcurrent : current.Current seen) :
    (zeroSpan seen.length longest current rest).Zeros (seen ++ rest) := by
  induction rest generalizing seen longest current with
  | nil => exact hlongest
  | cons segment rest ih =>
    have happend : seen ++ segment :: rest = seen ++ [segment] ++ rest := by simp
    have hindex : seen.length + 1 = (seen ++ [segment]).length := by simp
    rw [happend] at hlongest ⊢
    rw [zeroSpan, hindex]
    by_cases hzero : segment = 0
    · subst hzero
      have hnext := hcurrent.concat_zero
      rw [if_pos rfl]
      refine ih ?_ hnext
      by_cases hlonger : longest.len < current.len + 1
      · rw [if_pos hlonger]
        exact hnext.zeros (Nat.succ_ne_zero _) rest
      · rw [if_neg hlonger]
        exact hlongest
    · rw [if_neg hzero]
      exact ih hlongest (.inl rfl)

theorem zeros_longestZeros (segments : List Nat) : (longestZeros segments).Zeros segments := by
  have hstart : Span.Zeros ⟨0, 0⟩ ([] ++ segments) := ⟨[], segments, rfl, rfl⟩
  exact zeros_zeroSpan hstart (.inl rfl)

/-! ### Reading back -/

theorem isHexGroup_of_mem_map {segments : List Nat} (h : ∀ segment ∈ segments, segment ≤ 65535) :
    ∀ part ∈ segments.map (Nat.toDigits 16), IsHexGroup part :=
  List.forall_mem_map.mpr fun segment hsegment => isHexGroup_toDigits (h segment hsegment)

/-- An IPv4 address is read back, up to where its text ends. -/
theorem readIpv4_displayV4 {octets : List Nat} (hlength : octets.length = 4)
    (hoctets : ∀ octet ∈ octets, octet ≤ 255) :
    readIpv4 (displayV4 octets) = some (octets, []) := by
  refine readIpv4_eq_some_iff.mpr ⟨octets.map (Nat.toDigits 10), ?_, ?_, ?_, ?_, ?_⟩
  · rw [List.length_map, hlength]
  · exact List.forall_mem_map.mpr fun octet hoctet => isOctet_toDigits (hoctets octet hoctet)
  · intro c hc
    cases hc
  · rw [List.append_nil]
    rfl
  · exact (map_valueFrom_toDigits (by omega) (by omega) octets).symm

theorem toIpv4Mapped_eq_some_iff {segments octets : List Nat} :
    toIpv4Mapped segments = some octets ↔ ∃ ab cd, segments = [0, 0, 0, 0, 0, 65535, ab, cd] ∧
      octets = [ab / 256, ab % 256, cd / 256, cd % 256] := by
  unfold toIpv4Mapped
  constructor
  · intro h
    split at h
    · exact ⟨_, _, rfl, (Option.some.inj h).symm⟩
    · cases h
  · rintro ⟨ab, cd, rfl, rfl⟩
    rfl

/-- The text of a mapped IPv4 address: the group `ffff`, and the last two as one part. -/
theorem parse_mapped {ab cd : Nat} (hab : ab ≤ 65535) (hcd : cd ≤ 65535) :
    parse ("::ffff:".toList ++ displayV4 [ab / 256, ab % 256, cd / 256, cd % 256]) =
      some (.v6 [0, 0, 0, 0, 0, 65535, ab, cd]) := by
  set octets := [ab / 256, ab % 256, cd / 256, cd % 256] with hoctets
  have hread : readIpv4 (displayV4 octets) = some (octets, []) := by
    apply readIpv4_displayV4 rfl
    simp only [hoctets, List.forall_mem_cons]
    refine ⟨?_, ?_, ?_, ?_, List.forall_mem_nil _⟩ <;> omega
  have hgroup : IsHexGroup "ffff".toList := isHexGroup_toDigits (n := 65535) le_rfl
  have hstops : Stops 16 (':' :: displayV4 octets) := stops_cons (by decide) _
  -- the part before the colon is not an octet, the part after it is an IPv4 address
  have hback : readGroups 7 0 ("ffff".toList ++ ':' :: displayV4 octets) =
      ([65535, ab, cd], true, []) := by
    have hnumber : readNumber 16 4 65535 true ("ffff".toList ++ ':' :: displayV4 octets) =
        some (65535, ':' :: displayV4 octets) :=
      (readNumber_eq_some_iff (by omega)).mpr ⟨_, hgroup, hstops, rfl, rfl⟩
    have hrest : readGroups 6 1 (':' :: displayV4 octets) = (embedded octets, true, []) := by
      have hseparator := readSeparator_append ':' 1 readIpv4 (displayV4 octets)
      rw [if_pos Nat.one_pos, List.singleton_append] at hseparator
      rw [readGroups, hseparator, hread, if_pos (by omega)]
    have hsplit : embedded octets = [ab, cd] := by
      rw [embedded, Nat.div_add_mod', Nat.div_add_mod']
    rw [readGroups, readSeparator, if_neg (Nat.lt_irrefl 0),
      readIpv4_eq_none _ hgroup.digit hstops (by simp), ite_self, readSeparator,
      if_neg (Nat.lt_irrefl 0), hnumber]
    dsimp only
    rw [hrest, hsplit]
  have hcolons := ends_colons ("ffff".toList ++ ':' :: displayV4 octets)
  have hipv6 := readIpv6_of_compressed (hcolons.readGroups 8 0) (by simp) hback
  have hipv4 := readIpv4_eq_none [] (by simp) hcolons.stops hcolons.no_dot
  rw [List.nil_append] at hipv4
  have htext : "::ffff:".toList ++ displayV4 octets =
      ':' :: ':' :: ("ffff".toList ++ ':' :: displayV4 octets) := rfl
  rw [parse_eq_some_iff, readIp, htext, hipv4, hipv6]
  rfl

theorem parse_displayV6 {segments : List Nat} (hlength : segments.length = 8)
    (hsegments : ∀ segment ∈ segments, segment ≤ 65535) :
    parse (displayV6 segments) = some (.v6 segments) := by
  unfold displayV6
  split
  · rename_i octets hmapped
    obtain ⟨ab, cd, rfl, rfl⟩ := toIpv4Mapped_eq_some_iff.mp hmapped
    exact parse_mapped (hsegments ab (by simp)) (hsegments cd (by simp))
  · dsimp only
    split_ifs with hlen
    · obtain ⟨front, back, hstart, hzeros⟩ := zeros_longestZeros segments
      set zeroes := longestZeros segments
      have hfront : segments.take zeroes.start = front := by
        rw [hzeros, ← hstart, List.take_left]
      have hback : segments.drop (zeroes.start + zeroes.len) = back := by
        rw [hzeros, ← hstart, ← List.drop_drop, List.drop_left,
          List.drop_left' List.length_replicate]
      rw [hzeros] at hlength hsegments
      simp only [List.length_append, List.length_replicate] at hlength
      have hsub (part : List Nat) (hpart : part ⊆ front ++ (List.replicate zeroes.len 0 ++ back)) :
          ∀ segment ∈ part, segment ≤ 65535 := fun segment hsegment =>
        hsegments segment (hpart hsegment)
      rw [hfront, hback]
      have hread := parse_compressed (isHexGroup_of_mem_map (hsub front (by simp)))
        (isHexGroup_of_mem_map (hsub back (by simp)))
        (by rw [List.length_map, List.length_map]; omega)
      rw [map_valueFrom_toDigits (by omega) (by omega),
        map_valueFrom_toDigits (by omega) (by omega), List.length_map, List.length_map] at hread
      have hcount : 8 - front.length - back.length = zeroes.len := by omega
      rw [hcount, List.append_assoc, ← hzeros] at hread
      rw [List.append_assoc]
      exact hread
    · have hread := parse_full (isHexGroup_of_mem_map hsegments) (by rw [List.length_map, hlength])
      rwa [map_valueFrom_toDigits (by omega) (by omega)] at hread

/-- The text of an address has digits, dots and colons only. -/
theorem mem_display {ip : IpAddr} {c : Char} (h : c ∈ display ip) :
    IsDigit 16 c ∨ c = '.' ∨ c = ':' := by
  have hsub (chunk : List Nat) (hc : c ∈ fmtSubslice chunk) : IsDigit 16 c ∨ c = '.' ∨ c = ':' := by
    rcases Text.mem_intercalate hc with hsep | ⟨part, hpart, hc⟩
    · exact .inr (.inr (List.mem_singleton.mp hsep))
    · obtain ⟨n, -, rfl⟩ := List.mem_map.mp hpart
      exact .inl (isDigit_of_mem_toDigits (by omega) (by omega) c hc)
  have hv4 (octets : List Nat) (hc : c ∈ displayV4 octets) :
      IsDigit 16 c ∨ c = '.' ∨ c = ':' := by
    rcases Text.mem_intercalate hc with hsep | ⟨part, hpart, hc⟩
    · exact .inr (.inl (List.mem_singleton.mp hsep))
    · obtain ⟨n, -, rfl⟩ := List.mem_map.mp hpart
      exact .inl (isDigit_mono (by omega) (isDigit_of_mem_toDigits (by omega) (by omega) c hc))
  cases ip with
  | v4 octets => exact hv4 octets h
  | v6 segments =>
    rw [display, displayV6] at h
    split at h
    · rename_i octets _
      rcases List.mem_append.mp h with h | h
      · have hall : ("::ffff:".toList.all fun c => decide (IsDigit 16 c ∨ c = ':')) = true := by
          decide
        exact (of_decide_eq_true (List.all_eq_true.mp hall c h)).imp id .inr
      · exact hv4 octets h
    · dsimp only at h
      split_ifs at h with hlen
      · rcases List.mem_append.mp h with h | h
        · rcases List.mem_append.mp h with h | h
          · exact hsub _ h
          · have hall : ("::".toList.all fun c => c == ':') = true := rfl
            exact .inr (.inr (beq_iff_eq.mp (List.all_eq_true.mp hall c h)))
        · exact hsub _ h
      · exact hsub _ h

/-- An address is read back from its text. -/
theorem parse_display {ip : IpAddr} (h : ip.WellFormed) : parse (display ip) = some ip := by
  cases ip with
  | v4 octets =>
    rw [parse_eq_some_iff, readIp, display, readIpv4_displayV4 h.1 h.2]
  | v6 segments => exact parse_displayV6 h.1 h.2

/-- Different addresses have different texts. -/
theorem display_injOn : Set.InjOn display {ip | ip.WellFormed} := by
  intro ip h ip' h' hsame
  have hread := parse_display h
  rw [hsame, parse_display h'] at hread
  exact (Option.some.inj hread).symm

end Foundation.IpAddr
