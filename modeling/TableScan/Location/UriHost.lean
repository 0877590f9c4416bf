import TableScan.Location.Domain
import TableScan.Text.Utf8

/-!
# Hosts

The host of a URI: an address in brackets, an address of four numbers, or a domain. Only the domain
`localhost` and the absent host are this host. What ends in a number is an address, or a failed
attempt at one.
-/

namespace TableScan.UriHost

open Text (hexDigit?)

/-- Why the host of a URI is no host. -/
inductive Fault where
  | emptyHost
  | domain
  | ipv4Address
  | ipv6Address
  deriving DecidableEq, Repr

def Fault.message : Fault → String
  | emptyHost => "empty host"
  | domain => "invalid international domain name"
  | ipv4Address => "invalid IPv4 address"
  | ipv6Address => "invalid IPv6 address"

/-- The bytes of a text in which `%` and two hexadecimal digits stand for a byte. A `%` without
them stands for itself. -/
def percentDecode : List Char → List UInt8
  | '%' :: a :: b :: rest =>
    match hexDigit? a, hexDigit? b with
    | some x, some y => UInt8.ofNat (16 * x + y) :: percentDecode rest
    | _, _ => String.utf8EncodeChar '%' ++ percentDecode (a :: b :: rest)
  | c :: rest => String.utf8EncodeChar c ++ percentDecode rest
  | [] => []

/-! ### Addresses -/

/-- The value of a number of an IPv4 address: decimal, octal after `0`, hexadecimal after `0x`.
An absent numeral after the mark counts as zero. -/
def ipv4Number? (s : List Char) : Option Nat :=
  match s with
  | [] => none
  | '0' :: 'x' :: rest => Text.digitsValue? 16 0 rest
  | '0' :: 'X' :: rest => Text.digitsValue? 16 0 rest
  | '0' :: c :: rest => Text.digitsValue? 8 0 (c :: rest)
  | s => Text.digitsValue? 10 0 s

/-- The labels between the dots, less an empty one at the end. -/
def labels (host : List Char) : List (List Char) :=
  let all := Text.pieces '.' host
  match all.getLast? with
  | some [] => if all.length = 1 then all else all.dropLast
  | _ => all

/-- Whether a host is an IPv4 address or a failed attempt at one. -/
def endsInNumber (host : List Char) : Bool :=
  match Text.pieces '.' host with
  | [[]] => false
  | _ =>
    match (labels host).getLast? with
    | some last => (last ≠ [] && last.all Char.isDigit) || (ipv4Number? last).isSome
    | none => false

/-- Whether a host that ends in a number is an IPv4 address. -/
def isIpv4 (host : List Char) : Bool :=
  let parts := labels host
  match parts.mapM ipv4Number? with
  | none => false
  | some numbers =>
    numbers.length ≤ 4 && numbers.dropLast.all (· ≤ 255) &&
      numbers.getLastD 0 < Nat.pow 256 (5 - numbers.length)

/-- A dotted quadruple without leading zeros, as the tail of an IPv6 address. -/
def isPlainIpv4 (s : List Char) : Bool :=
  let parts := Text.pieces '.' s
  parts.length = 4 && parts.all fun p =>
    p ≠ [] && p.all Char.isDigit && (p.length = 1 || p.head? ≠ some '0') && p.length ≤ 3 &&
      (String.ofList p).toNat?.getD 256 ≤ 255

/-- The number of 16-bit pieces of a group list, if each group is well formed. -/
def ipv6Pieces? (s : List Char) : Option Nat :=
  if s = [] then some 0 else
  let groups := Text.pieces ':' s
  let isGroup (g : List Char) := g ≠ [] && g.length ≤ 4 && g.all fun c => (hexDigit? c).isSome
  match groups.getLast? with
  | some last =>
    if groups.dropLast.all isGroup then
      if isGroup last then some groups.length
      else if isPlainIpv4 last then some (groups.length + 1)
      else none
    else none
  | none => none

/-- Whether the text between brackets is an IPv6 address: eight pieces, or fewer and one `::`. -/
def isIpv6 (s : List Char) : Bool :=
  match Text.afterFirst? [':', ':'] s with
  | none => ipv6Pieces? s = some 8
  | some right =>
    let left := s.take (s.length - right.length - 2)
    match ipv6Pieces? left, ipv6Pieces? right with
    | some a, some b => a + b ≤ 7 && !left.contains '.'
    | _, _ => false

/-! ### This host -/

/-- Whether the host text is absent or names this host; a fault if it names none. -/
def isLocal (host : List Char) : Except Fault Bool :=
  match host with
  | [] => .ok true
  | '[' :: rest =>
    if rest.getLast? = some ']' && isIpv6 rest.dropLast then .ok false else .error .ipv6Address
  | host =>
    match Text.Utf8.decode (percentDecode host) with
    | .error _ => .error .domain
    | .ok decoded =>
      match Domain.canonical? decoded with
      | none => .error .domain
      | some [] => .error .emptyHost
      | some domain =>
        if endsInNumber domain then
          if isIpv4 domain then .ok false else .error .ipv4Address
        else .ok (domain = "localhost".toList)

end TableScan.UriHost
