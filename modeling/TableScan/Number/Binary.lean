/-!
# Binary floating-point numbers

A format of `precision` bits keeps numbers `m · 2^e` with `m < 2^precision` and an exponent from
`minExponent` on, up to a largest one. `Binary.ofRatio` rounds an exact quotient to the nearest
number of a format, a tie to the even mantissa.
-/

namespace TableScan.Number

structure BinaryFormat where
  /-- The bits of a mantissa. -/
  precision : Nat
  /-- The exponent of the smallest numbers. -/
  minExponent : Int
  /-- The exponent of the largest numbers. -/
  maxExponent : Int
  deriving DecidableEq, Repr

namespace BinaryFormat

def binary16 : BinaryFormat := ⟨11, -24, 5⟩
def binary32 : BinaryFormat := ⟨24, -149, 104⟩
def binary64 : BinaryFormat := ⟨53, -1074, 971⟩

end BinaryFormat

/-- A floating-point datum: not a number, an infinity, or `± mantissa · 2^exponent`. -/
inductive Binary where
  | nan
  | infinite (negative : Bool)
  | finite (negative : Bool) (mantissa : Nat) (exponent : Int)
  deriving DecidableEq, Repr

/-- The quotient rounded to the nearest natural number, a tie to the even one. -/
def roundedQuotient (num den : Nat) : Nat :=
  let q := num / den
  let r := num % den
  if 2 * r < den then q
  else if den < 2 * r then q + 1
  else if q % 2 = 0 then q else q + 1

/-- `num / den · 2^-e` as a quotient of natural numbers. -/
def scaled (num den : Nat) (e : Int) : Nat × Nat :=
  if e < 0 then (num * Nat.pow 2 (-e).toNat, den) else (num, den * Nat.pow 2 e.toNat)

def bitLength (n : Nat) : Nat := if n = 0 then 0 else n.log2 + 1

namespace Binary

/-- The number of a format nearest to `num / den`; too large a number is infinite. -/
def ofRatio (f : BinaryFormat) (negative : Bool) (num den : Nat) : Binary :=
  if num = 0 then finite negative 0 f.minExponent
  else
    -- the exponent at which the quotient has `precision` bits, or one bit more
    let guess : Int := (bitLength num : Int) - bitLength den - f.precision
    let round (e : Int) : Nat :=
      let (n, d) := scaled num den e
      roundedQuotient n d
    let exact (e : Int) : Bool :=
      let (n, d) := scaled num den e
      n / d < Nat.pow 2 f.precision
    let e := max f.minExponent (if exact guess then guess else guess + 1)
    let m := round e
    let (m, e) := if m = Nat.pow 2 f.precision then (m / 2, e + 1) else (m, e)
    if f.maxExponent < e then infinite negative else finite negative m e

/-- The number of a format nearest to `± digits · 10^exponent`. -/
def ofDecimal (f : BinaryFormat) (negative : Bool) (digits : Nat) (exponent : Int) : Binary :=
  if exponent < 0 then ofRatio f negative digits (Nat.pow 10 (-exponent).toNat)
  else ofRatio f negative (digits * Nat.pow 10 exponent.toNat) 1

end Binary

example : Binary.ofDecimal .binary64 false 1 (-1) = .finite false 7205759403792794 (-56) := by
  decide

end TableScan.Number
