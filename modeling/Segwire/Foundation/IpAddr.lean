import Segwire.Foundation.Text

/-!
# IP addresses

Rust's `std::net::IpAddr` and its textual grammar. The parser follows the
standard library's: each reader consumes a prefix of the input or fails, and an
address must consume all of it.

## Main definitions

* `IpAddr` — an IPv4 or IPv6 address as its octets or 16-bit groups
* `IpAddr.parse` — `str::parse::<IpAddr>()`
-/

namespace Foundation

/-- `std::net::IpAddr` -/
inductive IpAddr
  | v4 (octets : List Nat)
  | v6 (groups : List Nat)
  deriving DecidableEq, Repr

namespace IpAddr

/-- A reader takes a prefix of the input. -/
abbrev Reader (α : Type) := List Char → Option (α × List Char)

/-- The value of a hexadecimal digit. -/
def hexDigit (c : Char) : Option Nat :=
  if '0' ≤ c ∧ c ≤ '9' then some (c.toNat - '0'.toNat)
  else if 'a' ≤ c ∧ c ≤ 'f' then some (c.toNat - 'a'.toNat + 10)
  else if 'A' ≤ c ∧ c ≤ 'F' then some (c.toNat - 'A'.toNat + 10)
  else none

/-- `c.to_digit(radix)` for the radixes 10 and 16. -/
def toDigit (radix : Nat) (c : Char) : Option Nat := (hexDigit c).filter (· < radix)

/-- The loop of `read_number`: digits are consumed as long as there are any, and
the number fails when it has too many digits or leaves the integer type. -/
def readDigits (radix maxDigits limit : Nat) : Nat → Nat → Reader (Nat × Nat)
  | value, count, [] => some ((value, count), [])
  | value, count, c :: rest =>
    match toDigit radix c with
    | none => some ((value, count), c :: rest)
    | some digit =>
      let value := value * radix + digit
      if limit < value ∨ maxDigits < count + 1 then none
      else readDigits radix maxDigits limit value (count + 1) rest

/-- `read_number` with a bound on the number of digits. -/
def readNumber (radix maxDigits limit : Nat) (allowZeroPrefix : Bool) : Reader Nat := fun input =>
  match readDigits radix maxDigits limit 0 0 input with
  | none => none
  | some ((value, count), rest) =>
    if count = 0 then none
    -- an octet may not be written with a leading zero
    else if !allowZeroPrefix ∧ input.head? = some '0' ∧ 1 < count then none
    else some (value, rest)

/-- `read_given_char` -/
def readGivenChar (c : Char) : Reader Unit
  | c' :: rest => if c' = c then some ((), rest) else none
  | [] => none

/-- `read_separator`: the separator stands before every item but the first. -/
def readSeparator {α : Type} (sep : Char) (index : Nat) (reader : Reader α) : Reader α :=
  fun input =>
    if 0 < index then (readGivenChar sep input).bind fun (_, rest) => reader rest
    else reader input

/-- The loop of `read_ipv4_addr` over the remaining groups. -/
def readOctets : Nat → Nat → Reader (List Nat)
  | 0, _, input => some ([], input)
  | remaining + 1, index, input =>
    (readSeparator '.' index (readNumber 10 3 255 false) input).bind fun (octet, rest) =>
      (readOctets remaining (index + 1) rest).map fun (octets, rest) => (octet :: octets, rest)

/-- `read_ipv4_addr` -/
def readIpv4 : Reader (List Nat) := readOctets 4 0

/-- The two groups that an embedded IPv4 address fills. -/
def embedded : List Nat → List Nat
  | [a, b, c, d] => [a * 256 + b, c * 256 + d]
  | _ => []

/-- `read_groups`: at most `remaining` further groups from index `index` on, and
whether the last two of them came from an embedded IPv4 address. -/
def readGroups : Nat → Nat → List Char → List Nat × Bool × List Char
  | 0, _, input => ([], false, input)
  | remaining + 1, index, input =>
    -- an embedded IPv4 address takes the place of two groups
    match (if 0 < remaining then readSeparator ':' index readIpv4 input else none) with
    | some (octets, rest) => (embedded octets, true, rest)
    | none =>
      match readSeparator ':' index (readNumber 16 4 65535 true) input with
      | none => ([], false, input)
      | some (group, rest) =>
        let (groups, ipv4, rest) := readGroups remaining (index + 1) rest
        (group :: groups, ipv4, rest)

/-- `read_ipv6_addr` -/
def readIpv6 : Reader (List Nat) := fun input =>
  let (head, headIpv4, rest) := readGroups 8 0 input
  if head.length = 8 then some (head, rest)
  -- nothing may follow an embedded IPv4 address
  else if headIpv4 then none
  else
    (readGivenChar ':' rest).bind fun (_, rest) =>
      (readGivenChar ':' rest).map fun (_, rest) =>
        -- `::` stands for at least one group of zeros
        let (tail, _, rest) := readGroups (8 - (head.length + 1)) 0 rest
        (head ++ List.replicate (8 - head.length - tail.length) 0 ++ tail, rest)

/-- `read_ip_addr` -/
def readIp : Reader IpAddr := fun input =>
  match readIpv4 input with
  | some (octets, rest) => some (.v4 octets, rest)
  | none => (readIpv6 input).map fun (groups, rest) => (.v6 groups, rest)

/-- `s.parse::<IpAddr>()` -/
def parse (s : List Char) : Option IpAddr :=
  match readIp s with
  | some (addr, []) => some addr
  | _ => none

example : parse "fd00::2".toList = some (.v6 [64768, 0, 0, 0, 0, 0, 0, 2]) := by decide

end IpAddr

end Foundation
