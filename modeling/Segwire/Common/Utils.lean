import Segwire.Common.Error
import Segwire.Foundation.Except
import Segwire.Foundation.Text

/-!
# Validation functions

The textual checks that configurations, namespace operations and interface
operations share. Every regular expression of the source is anchored at both
ends, so each is read here as a condition on the characters of the text or on its
parts between separators.

## Main definitions

* `validateInterfaceName`, `validateNamespaceName`, `validateNamespacePrefix`
* `validateIpAddress`, `validateCidr`, `validateDomainName`

## Main results

* `ReferenceFree` and the lemmas `ReferenceFree.of_validate…` — what passes a check
  contains no `$`
-/

namespace Segwire.Common

open Foundation Foundation.Text

/-- The class `[a-zA-Z0-9-]`. -/
def isNameChar (c : Char) : Bool := c.isAlphanum || c == '-'

/-- The checks that interface names, namespace names and prefixes share: not
empty, at most `maxLen` bytes, and matched by `pattern`. -/
def validateName (pattern : List Char → Bool) (maxLen : Nat)
    (emptyMsg lengthMsg patternMsg : String)
    (name : String) : SegwireResult Unit :=
  if name = "" then .error (.validation emptyMsg)
  else if maxLen < byteLen name then .error (.validation lengthMsg)
  else if !pattern name.toList then .error (.validation patternMsg)
  else .ok ()

/-- `^[a-zA-Z0-9_-]+$` -/
def interfacePattern (s : List Char) : Bool := !s.isEmpty && s.all fun c => isNameChar c || c == '_'

/-- `^[a-zA-Z][a-zA-Z0-9-]*$` -/
def namespacePattern : List Char → Bool
  | [] => false
  | c :: rest => c.isAlpha && rest.all isNameChar

/-- Validate network interface name format. -/
def validateInterfaceName : String → SegwireResult Unit :=
  validateName interfacePattern 15
    "Interface name cannot be empty"
    "Interface name cannot exceed 15 characters"
    "Interface name contains invalid characters"

/-- Validate namespace name format. -/
def validateNamespaceName : String → SegwireResult Unit :=
  validateName namespacePattern 63
    "Namespace name cannot be empty"
    "Namespace name cannot exceed 63 characters"
    "Namespace name must start with a letter and contain only alphanumeric characters and hyphens"

/-- Validate namespace prefix format. -/
def validateNamespacePrefix : String → SegwireResult Unit :=
  validateName namespacePattern 32
    "Namespace prefix cannot be empty"
    "Namespace prefix cannot exceed 32 characters"
    "Namespace prefix must start with a letter and contain only alphanumeric characters and hyphens"

/-- The first digit of every block of decimal digits in Unicode. -/
def decimalZeros : List Nat :=
  [0x30, 0x660, 0x6f0, 0x7c0, 0x966, 0x9e6, 0xa66, 0xae6, 0xb66, 0xbe6, 0xc66, 0xce6, 0xd66, 0xde6,
   0xe50, 0xed0, 0xf20, 0x1040, 0x1090, 0x17e0, 0x1810, 0x1946, 0x19d0, 0x1a80, 0x1a90, 0x1b50,
   0x1bb0, 0x1c40, 0x1c50, 0xa620, 0xa8d0, 0xa900, 0xa9d0, 0xa9f0, 0xaa50, 0xabf0, 0xff10, 0x104a0,
   0x10d30, 0x10d40, 0x11066, 0x110f0, 0x11136, 0x111d0, 0x112f0, 0x11450, 0x114d0, 0x11650,
   0x116c0, 0x116d0, 0x116da, 0x11730, 0x118e0, 0x11950, 0x11bf0, 0x11c50, 0x11d50, 0x11da0,
   0x11f50, 0x16130, 0x16a60, 0x16ac0, 0x16b50, 0x16d70, 0x1ccf0, 0x1d7ce, 0x1d7d8, 0x1d7e2,
   0x1d7ec, 0x1d7f6, 0x1e140, 0x1e2f0, 0x1e4f0, 0x1e5f1, 0x1e950, 0x1fbf0]

/-- The class `\d`, which covers the decimal digits of every script. -/
def isDecimalDigit (c : Char) : Bool :=
  decimalZeros.any fun first => decide (first ≤ c.toNat ∧ c.toNat < first + 10)

/-- The class `[0-9a-fA-F]`. -/
def isHexDigit (c : Char) : Bool :=
  c.isDigit || decide ('a' ≤ c ∧ c ≤ 'f') || decide ('A' ≤ c ∧ c ≤ 'F')

/-- `^(\d{1,3}\.){3}\d{1,3}$` -/
def ipv4Pattern (s : List Char) : Bool :=
  let octets := s.splitOn '.'
  octets.length == 4 && octets.all fun octet =>
    decide (1 ≤ octet.length ∧ octet.length ≤ 3) && octet.all isDecimalDigit

/-- `^([0-9a-fA-F]{0,4}:){2,7}[0-9a-fA-F]{0,4}$` -/
def ipv6Pattern (s : List Char) : Bool :=
  let groups := s.splitOn ':'
  decide (3 ≤ groups.length ∧ groups.length ≤ 8) && groups.all fun group =>
    decide (group.length ≤ 4) && group.all isHexDigit

/-- Validate IP address format (basic validation). -/
def validateIpAddress (ip : String) : SegwireResult Unit :=
  if ipv4Pattern ip.toList then
    -- the pattern admits digits of any script, the parser of `u8` only ASCII ones
    forM (ip.toList.splitOn '.') fun octet =>
      match parseU8 octet with
      | some _ => .ok ()
      | none => .error (.validation ("Invalid IP address: " ++ ip))
  else if ipv6Pattern ip.toList then .ok ()
  else .error (.validation ("Invalid IP address format: " ++ ip))

/-- Validate CIDR notation (IP/prefix). -/
def validateCidr (cidr : String) : SegwireResult Unit :=
  match cidr.toList.splitOn '/' with
  | [ip, pfx] => do
    validateIpAddress (String.ofList ip)
    match parseU8 pfx with
    | none => .error (.validation "Invalid prefix length in CIDR")
    | some prefixLen =>
      -- whatever is not of the IPv4 form counts as IPv6
      let maxPrefix := if ipv4Pattern ip then 32 else 128
      if maxPrefix < prefixLen then
        .error (.validation ("Prefix length cannot exceed " ++ toString maxPrefix ++
          " for this IP version"))
      else .ok ()
  | _ => .error (.validation "CIDR notation must contain exactly one '/' character")

/-- `[a-zA-Z0-9]([a-zA-Z0-9-]*[a-zA-Z0-9])?` -/
def labelPattern (label : List Char) : Bool :=
  label.all isNameChar && label.head?.any Char.isAlphanum && label.getLast?.any Char.isAlphanum

/-- `domain.strip_suffix('.').unwrap_or(domain)` -/
def stripTrailingDot (domain : List Char) : List Char :=
  if domain.getLast? = some '.' then domain.dropLast else domain

/-- Validate domain name format. -/
def validateDomainName (domain : String) : SegwireResult Unit :=
  if domain = "" then .error (.validation "Domain name cannot be empty")
  else if 253 < byteLen domain then .error (.validation "Domain name cannot exceed 253 characters")
  else
    let labels := (stripTrailingDot domain.toList).splitOn '.'
    if !labels.all labelPattern then .error (.validation ("Invalid domain name format: " ++ domain))
    else
      forM labels fun label =>
        if 63 < byteLen (String.ofList label) then
          .error (.validation "Domain label cannot exceed 63 characters")
        else .ok ()

example : validateCidr "10.0.0.2/24" = .ok () := by decide
example : validateIpAddress "fd00::1" = .ok () := by decide
example : validateDomainName "corp.example.com." = .ok () := by decide

/-! ### What passes a check contains no reference -/

/-- No reference `${…}` starts in the text. -/
def ReferenceFree (s : String) : Prop := '$' ∉ s.toList

instance : DecidablePred ReferenceFree := fun s => inferInstanceAs (Decidable ('$' ∉ s.toList))

theorem validateName_eq_ok_iff {pattern : List Char → Bool} {maxLen : Nat}
    {emptyMsg lengthMsg patternMsg name : String} :
    validateName pattern maxLen emptyMsg lengthMsg patternMsg name = .ok () ↔
      name ≠ "" ∧ byteLen name ≤ maxLen ∧ pattern name.toList = true := by
  unfold validateName
  split_ifs with hempty hlength hpattern
  · simp [hempty]
  · simp [hlength]
  · simp at hpattern
    simp [hpattern]
  · simp at hpattern hlength
    simp [hempty, hlength, hpattern]

theorem notMem_of_namespacePattern {s : List Char} (h : namespacePattern s = true) {c : Char}
    (hc : isNameChar c = false) : c ∉ s := by
  intro hmem
  unfold namespacePattern at h
  split at h
  · cases h
  · next first rest =>
    rw [Bool.and_eq_true, List.all_eq_true] at h
    have hname : isNameChar c = true := by
      rcases List.mem_cons.mp hmem with rfl | hrest
      · simp [isNameChar, Char.isAlphanum, h.1]
      · exact h.2 c hrest
    rw [hname] at hc
    cases hc

theorem ReferenceFree.of_namespacePattern {s : String} (h : namespacePattern s.toList = true) :
    ReferenceFree s :=
  notMem_of_namespacePattern h (by decide)

theorem ReferenceFree.of_validateNamespaceName {s : String} (h : validateNamespaceName s = .ok ()) :
    ReferenceFree s :=
  .of_namespacePattern (validateName_eq_ok_iff.mp h).2.2

theorem ReferenceFree.of_validateInterfaceName {s : String} (h : validateInterfaceName s = .ok ()) :
    ReferenceFree s := by
  intro hmem
  have hpattern := (validateName_eq_ok_iff.mp h).2.2
  rw [interfacePattern, Bool.and_eq_true, List.all_eq_true] at hpattern
  exact absurd (hpattern.2 _ hmem) (by decide)

theorem dollar_notMem_of_parseU8 {s : List Char} {n : Nat} (h : parseU8 s = some n) : '$' ∉ s :=
  fun hmem => (eq_plus_or_isDigit_of_parseUnsigned h hmem).elim (by decide) (by decide)

/-- The characters of an accepted address. -/
theorem mem_of_validateIpAddress {s : String} (h : validateIpAddress s = .ok ()) {c : Char}
    (hc : c ∈ s.toList) : c ∈ ['.', ':', '+'] ∨ isHexDigit c = true := by
  by_cases hdot : c = '.'
  · exact .inl (by simp [hdot])
  by_cases hcolon : c = ':'
  · exact .inl (by simp [hcolon])
  unfold validateIpAddress at h
  split_ifs at h with hv4 hv6
  · obtain ⟨octet, hoctet, hmem⟩ := exists_mem_splitOn '.' hc hdot
    have hparse := Except.forM_eq_ok_iff.mp h octet hoctet
    split at hparse
    · rename_i n hn
      rcases eq_plus_or_isDigit_of_parseUnsigned hn hmem with rfl | hdigit
      · exact .inl (by simp)
      · exact .inr (by simp [isHexDigit, hdigit])
    · cases hparse
  · obtain ⟨group, hgroup, hmem⟩ := exists_mem_splitOn ':' hc hcolon
    simp only [ipv6Pattern, Bool.and_eq_true, List.all_eq_true] at hv6
    exact .inr ((hv6.2 group hgroup).2 _ hmem)

theorem ReferenceFree.of_validateIpAddress {s : String} (h : validateIpAddress s = .ok ()) :
    ReferenceFree s := fun hmem =>
  (mem_of_validateIpAddress h hmem).elim (by decide) (by decide)

/-- The parts of an accepted CIDR. -/
theorem validateCidr_eq_ok {s : String} (h : validateCidr s = .ok ()) :
    ∃ ip pfx prefixLen, s.toList.splitOn '/' = [ip, pfx] ∧
      validateIpAddress (String.ofList ip) = .ok () ∧ parseU8 pfx = some prefixLen ∧
      prefixLen ≤ if ipv4Pattern ip then 32 else 128 := by
  unfold validateCidr at h
  split at h
  · rename_i ip pfx hsplit
    obtain ⟨hip, h⟩ := Except.check_bind_eq_ok_iff.mp h
    split at h
    · cases h
    · rename_i prefixLen hlen
      refine ⟨ip, pfx, prefixLen, hsplit, hip, hlen, ?_⟩
      by_contra hmax
      dsimp only at h
      rw [if_pos (not_le.mp hmax)] at h
      cases h
  · cases h

theorem ReferenceFree.of_validateCidr {s : String} (h : validateCidr s = .ok ()) :
    ReferenceFree s := by
  intro hmem
  obtain ⟨ip, pfx, prefixLen, hsplit, hip, hlen, -⟩ := validateCidr_eq_ok h
  obtain ⟨part, hpart, hdollar⟩ := exists_mem_splitOn '/' hmem (by decide)
  rw [hsplit, List.mem_pair] at hpart
  rcases hpart with rfl | rfl
  · exact ReferenceFree.of_validateIpAddress hip (by simpa using hdollar)
  · exact dollar_notMem_of_parseU8 hlen hdollar

/-- The characters of an accepted domain name. -/
theorem mem_of_validateDomainName {s : String} (h : validateDomainName s = .ok ()) {c : Char}
    (hc : c ∈ s.toList) : c = '.' ∨ isNameChar c = true := by
  by_cases hdot : c = '.'
  · exact .inl hdot
  -- the character is not the trailing dot
  have hstripped : c ∈ stripTrailingDot s.toList := by
    unfold stripTrailingDot
    split_ifs with htrailing
    · obtain ⟨front, hfront⟩ := List.getLast?_eq_some_iff.mp htrailing
      rw [hfront] at hc ⊢
      simpa [hdot] using hc
    · exact hc
  obtain ⟨label, hlabel, hmem⟩ := exists_mem_splitOn '.' hstripped hdot
  unfold validateDomainName at h
  split_ifs at h with hempty hlength
  dsimp only at h
  split_ifs at h with hlabels
  rw [Bool.not_eq_true', Bool.not_eq_false, List.all_eq_true] at hlabels
  have hpattern := hlabels label hlabel
  simp only [labelPattern, Bool.and_eq_true, List.all_eq_true] at hpattern
  exact .inr (hpattern.1.1 c hmem)

theorem ReferenceFree.of_validateDomainName {s : String} (h : validateDomainName s = .ok ()) :
    ReferenceFree s := fun hmem =>
  (mem_of_validateDomainName h hmem).elim (by decide) (by decide)

end Segwire.Common
