import Segwire.Foundation.IpAddrGrammar

/-!
# Socket addresses

Rust's `std::net::SocketAddr`: an IP address with a port. An IPv6 address stands in brackets
and may carry a scope; there are no host names.

## Main definitions

* `SocketAddr`, `SocketAddr.parse` — `str::parse::<SocketAddr>()`
* `IsSocketHost`, `IsPort` — the two sides of the last colon

## Main results

* `SocketAddr.parse_isSome_iff` — the texts that are socket addresses
-/

namespace Foundation

open IpAddr

/-- `std::net::SocketAddr`. The scope of an IPv4 address is 0. -/
structure SocketAddr where
  ip : IpAddr
  scopeId : Nat
  port : Nat
  deriving DecidableEq, Repr

namespace SocketAddr

/-- A decimal number of any number of digits, at most `limit`. -/
def readDecimal (limit : Nat) : Reader Nat := fun input =>
  readNumber 10 input.length limit true input

/-- `read_port` -/
def readPort : Reader Nat := fun input =>
  (readGivenChar ':' input).bind fun (_, rest) => readDecimal 65535 rest

/-- `read_scope_id` -/
def readScopeId : Reader Nat := fun input =>
  (readGivenChar '%' input).bind fun (_, rest) => readDecimal 4294967295 rest

/-- `read_socket_addr_v4` -/
def readSocketAddrV4 : Reader SocketAddr := fun input =>
  (readIpv4 input).bind fun (octets, rest) =>
    (readPort rest).map fun (port, rest) => (⟨.v4 octets, 0, port⟩, rest)

/-- `read_socket_addr_v6` -/
def readSocketAddrV6 : Reader SocketAddr := fun input =>
  (readGivenChar '[' input).bind fun (_, rest) =>
    (readIpv6 rest).bind fun (groups, rest) =>
      -- without a scope, nothing is consumed
      let (scopeId, rest) := (readScopeId rest).getD (0, rest)
      (readGivenChar ']' rest).bind fun (_, rest) =>
        (readPort rest).map fun (port, rest) => (⟨.v6 groups, scopeId, port⟩, rest)

/-- `s.parse::<SocketAddr>()` -/
def parse (s : List Char) : Option SocketAddr :=
  match (readSocketAddrV4 s).or (readSocketAddrV6 s) with
  | some (addr, []) => some addr
  | _ => none

example : parse "[fe80::1%3]:51820".toList =
    some ⟨.v6 [65152, 0, 0, 0, 0, 0, 0, 1], 3, 51820⟩ := by decide

/-! ### The grammar -/

/-- A decimal number, at most `limit`. -/
abbrev IsDecimal (limit : Nat) (digits : List Char) : Prop :=
  IsNumber 10 digits.length limit true digits

/-- A decimal number of 16 bits. -/
abbrev IsPort (digits : List Char) : Prop := IsDecimal 65535 digits

/-- Nothing, or a percent sign and a number of 32 bits. -/
inductive IsScope : List Char → Prop
  | none : IsScope []
  | some {digits : List Char} (h : IsDecimal 4294967295 digits) : IsScope ('%' :: digits)

/-- An IPv4 address, or an IPv6 address in brackets. -/
inductive IsSocketHost : List Char → Prop
  | v4 {host : List Char} (h : IsIpv4 host) : IsSocketHost host
  | v6 {address scope : List Char} (h : IsIpv6 address) (hscope : IsScope scope) :
      IsSocketHost ('[' :: (address ++ (scope ++ [']'])))

variable {input rest : List Char} {limit n : Nat}

theorem readDecimal_eq_some_iff :
    readDecimal limit input = some (n, rest) ↔
      ∃ digits, IsDecimal limit digits ∧ Stops 10 rest ∧ input = digits ++ rest ∧
        n = valueFrom 10 0 digits := by
  rw [readDecimal, readNumber_eq_some_iff (by omega)]
  constructor
  · rintro ⟨digits, h, hrest⟩
    exact ⟨digits, ⟨h.digit, h.ne_nil, le_rfl, h.value_le, h.plain⟩, hrest⟩
  · rintro ⟨digits, h, hrest, rfl, hvalue⟩
    exact ⟨digits, ⟨h.digit, h.ne_nil, by simp, h.value_le, h.plain⟩, hrest, rfl, hvalue⟩

theorem readPort_eq_some_iff :
    readPort input = some (n, rest) ↔
      ∃ digits, IsPort digits ∧ Stops 10 rest ∧ input = ':' :: (digits ++ rest) ∧
        n = valueFrom 10 0 digits := by
  rw [readPort, Option.bind_eq_some_iff]
  constructor
  · rintro ⟨⟨u, after⟩, hcolon, hread⟩
    obtain ⟨digits, hdigits, hrest, rfl, hvalue⟩ := readDecimal_eq_some_iff.mp hread
    exact ⟨digits, hdigits, hrest, readGivenChar_eq_some_iff.mp hcolon, hvalue⟩
  · rintro ⟨digits, hdigits, hrest, rfl, hvalue⟩
    exact ⟨((), digits ++ rest), readGivenChar_eq_some_iff.mpr rfl,
      readDecimal_eq_some_iff.mpr ⟨digits, hdigits, hrest, rfl, hvalue⟩⟩

theorem readSocketAddrV4_eq_some {addr : SocketAddr}
    (h : readSocketAddrV4 input = some (addr, [])) :
    ∃ host port, IsSocketHost host ∧ IsPort port ∧ input = host ++ ':' :: port := by
  obtain ⟨⟨octets, after⟩, hip, hread⟩ := Option.bind_eq_some_iff.mp h
  obtain ⟨⟨n, rest⟩, hport, heq⟩ := Option.map_eq_some_iff.mp hread
  obtain ⟨-, rfl⟩ := Prod.mk.inj heq
  obtain ⟨host, hhost, -, rfl, -⟩ := exists_isIpv4_of_readIpv4 hip
  obtain ⟨port, hdigits, -, rfl, -⟩ := readPort_eq_some_iff.mp hport
  exact ⟨host, port, .v4 hhost, hdigits, by rw [List.append_nil]⟩

/-- A scope is read if there is one. -/
theorem exists_isScope (input : List Char) :
    ∃ scope, IsScope scope ∧ input = scope ++ ((readScopeId input).getD (0, input)).2 := by
  cases hread : readScopeId input with
  | none => exact ⟨[], .none, rfl⟩
  | some read =>
    obtain ⟨⟨u, after⟩, hpercent, hdecimal⟩ := Option.bind_eq_some_iff.mp hread
    obtain ⟨digits, hdigits, -, rfl, -⟩ := readDecimal_eq_some_iff.mp hdecimal
    exact ⟨'%' :: digits, .some hdigits, readGivenChar_eq_some_iff.mp hpercent⟩

theorem readSocketAddrV6_eq_some {addr : SocketAddr}
    (h : readSocketAddrV6 input = some (addr, [])) :
    ∃ host port, IsSocketHost host ∧ IsPort port ∧ input = host ++ ':' :: port := by
  obtain ⟨⟨u, rest₁⟩, hopen, h₁⟩ := Option.bind_eq_some_iff.mp h
  obtain ⟨⟨groups, rest₂⟩, hip, h₂⟩ := Option.bind_eq_some_iff.mp h₁
  obtain ⟨⟨v, rest₃⟩, hclose, h₃⟩ := Option.bind_eq_some_iff.mp h₂
  obtain ⟨⟨n, rest₄⟩, hport, heq⟩ := Option.map_eq_some_iff.mp h₃
  obtain ⟨-, rfl⟩ := Prod.mk.inj heq
  obtain rfl := readGivenChar_eq_some_iff.mp hopen
  obtain ⟨address, haddress, hinput⟩ := exists_isIpv6_of_readIpv6 hip
  obtain ⟨scope, hscope, hrest⟩ := exists_isScope rest₂
  obtain ⟨port, hdigits, -, rfl, -⟩ := readPort_eq_some_iff.mp hport
  have hafter : ((readScopeId rest₂).getD (0, rest₂)).2 = ']' :: ':' :: (port ++ []) :=
    readGivenChar_eq_some_iff.mp hclose
  refine ⟨_, port, .v6 haddress hscope, hdigits, ?_⟩
  rw [hinput, hrest, hafter]
  simp

theorem ends_of_scope {scope : List Char} (h : IsScope scope) (tail : List Char) :
    Ends (scope ++ ']' :: tail) := by
  have hends {c : Char} (hc : toDigit 16 c = none) (hother : c ≠ '.' ∧ c ≠ ':')
      (after : List Char) : Ends (c :: after) := by
    refine ⟨stops_cons hc after, by simp [hother.1], fun tail htail => ?_⟩
    exact absurd (List.cons.inj htail).1 hother.2
  cases h with
  | none => exact hends (by decide) (by decide) tail
  | some => exact hends (by decide) (by decide) _

theorem readScopeId_of_scope {scope : List Char} (h : IsScope scope) (tail : List Char) :
    ((readScopeId (scope ++ ']' :: tail)).getD (0, scope ++ ']' :: tail)).2 = ']' :: tail := by
  cases h with
  | none => rfl
  | @some digits h =>
    have hread : readDecimal 4294967295 (digits ++ ']' :: tail) =
        some (valueFrom 10 0 digits, ']' :: tail) :=
      readDecimal_eq_some_iff.mpr ⟨digits, h, stops_cons (by decide) tail, rfl, rfl⟩
    rw [List.cons_append, readScopeId, readGivenChar, if_pos rfl, Option.bind_some]
    dsimp only
    rw [hread]
    rfl

theorem parse_eq_some_iff {s : List Char} {addr : SocketAddr} :
    parse s = some addr ↔ (readSocketAddrV4 s).or (readSocketAddrV6 s) = some (addr, []) := by
  unfold parse
  split
  · next addr' hread =>
    rw [hread]
    simp
  · next hother =>
    constructor
    · intro h
      cases h
    · intro h
      exact absurd h (hother addr)

/-- A socket address is a host and a port, with a colon between them. -/
theorem parse_isSome_iff {s : List Char} :
    (parse s).isSome = true ↔
      ∃ host port, IsSocketHost host ∧ IsPort port ∧ s = host ++ ':' :: port := by
  rw [Option.isSome_iff_exists]
  simp only [parse_eq_some_iff, Option.or_eq_some_iff]
  constructor
  · rintro ⟨addr, hread | ⟨-, hread⟩⟩
    · exact readSocketAddrV4_eq_some hread
    · exact readSocketAddrV6_eq_some hread
  · rintro ⟨host, port, hhost, hport, rfl⟩
    have hread : readPort (':' :: port) = some (valueFrom 10 0 port, []) :=
      readPort_eq_some_iff.mpr
        ⟨port, hport, stops_anti (by omega) ends_nil.stops, by rw [List.append_nil], rfl⟩
    cases hhost with
    | v4 hhost =>
      obtain ⟨octets, -, hip⟩ := exists_readIpv4 hhost (stops_cons (c := ':') (by decide) port)
      refine ⟨⟨.v4 octets, 0, valueFrom 10 0 port⟩, .inl ?_⟩
      rw [readSocketAddrV4, hip, Option.bind_some]
      dsimp only
      rw [hread]
      rfl
    | @v6 address scope haddress hscope =>
      have hbracket : readIpv4 ('[' :: (address ++ (scope ++ [']'])) ++ ':' :: port) = none :=
        readIpv4_eq_none [] (by simp) (stops_cons (by decide) _) (by simp)
      obtain ⟨groups, hip⟩ :=
        exists_readIpv6 haddress (ends_of_scope hscope (':' :: port))
      have hshape : '[' :: (address ++ (scope ++ [']'])) ++ ':' :: port =
          '[' :: (address ++ (scope ++ ']' :: ':' :: port)) := by simp
      let scopeId := ((readScopeId (scope ++ ']' :: ':' :: port)).getD
        (0, scope ++ ']' :: ':' :: port)).1
      refine ⟨⟨.v6 groups, scopeId, valueFrom 10 0 port⟩, .inr ⟨?_, ?_⟩⟩
      · rw [readSocketAddrV4, hbracket]
        rfl
      · rw [hshape, readSocketAddrV6, readGivenChar, if_pos rfl, Option.bind_some]
        dsimp only
        rw [hip, Option.bind_some]
        dsimp only
        rw [readScopeId_of_scope hscope, readGivenChar, if_pos rfl, Option.bind_some]
        dsimp only
        rw [hread]
        rfl

end SocketAddr

end Foundation
