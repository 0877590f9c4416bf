/-!
# Numerals

Natural numbers written in a base up to sixteen, optionally after a `+`.
-/

namespace TableScan.Text

def hexDigit? (c : Char) : Option Nat :=
  if '0' ≤ c ∧ c ≤ '9' then some (c.toNat - 48)
  else if 'a' ≤ c ∧ c ≤ 'f' then some (c.toNat - 87)
  else if 'A' ≤ c ∧ c ≤ 'F' then some (c.toNat - 55)
  else none

/-- The value of a digit of a base up to sixteen. -/
def digit? (base : Nat) (c : Char) : Option Nat := (hexDigit? c).filter (· < base)

/-- The value of a list of digits, most significant first, after the digits of value `acc`. -/
def digitsValue? (base acc : Nat) : List Char → Option Nat
  | [] => some acc
  | c :: l => (digit? base c).bind fun d => digitsValue? base (acc * base + d) l

/-- The value of a numeral with at least one digit, if it is at most `bound`. -/
def numeral? (base bound : Nat) (s : List Char) : Option Nat :=
  let digits := match s with
    | '+' :: rest => rest
    | s => s
  if digits = [] then none else (digitsValue? base 0 digits).filter (· ≤ bound)

def maxWord64 : Nat := 0xFFFFFFFFFFFFFFFF

def maxWord32 : Nat := 0xFFFFFFFF

/-- A decimal numeral of 64 bits. -/
def natural64? (s : String) : Option Nat := numeral? 10 maxWord64 s.toList

end TableScan.Text
