import TableScan.Number.Binary

/-!
# Shortest decimals

The decimal with the fewest digits that reads back as a given binary number, and of several such
the one nearest to it. A real number reads back as `m · 2^e` if it lies in the interval between
the midpoints to the neighbours, ends included iff `m` is even. The digits are found in exact
arithmetic: for each number of places, only the two neighbours of the value on that decimal grid
can lie in the interval.
-/

namespace TableScan.Number

/-- The decimal `digits · 10^exponent`. -/
structure Decimal where
  digits : Nat
  exponent : Int
  deriving DecidableEq, Repr

/-- The interval of quotients `· / scale` that read back as a binary number. -/
structure Reading where
  low : Nat
  value : Nat
  high : Nat
  scale : Nat
  /-- The ends belong to the interval. -/
  closed : Bool

namespace Reading

/-- The interval of `m · 2^e` in a format. Below a power of two the gap is half as wide. -/
def ofBinary (f : BinaryFormat) (m : Nat) (e : Int) : Reading :=
  let narrow := m = Nat.pow 2 (f.precision - 1) && f.minExponent < e
  let unit := if 0 ≤ e then Nat.pow 2 e.toNat else 1
  { low := if narrow then (4 * m - 1) * unit else (4 * m - 2) * unit
    value := 4 * m * unit
    high := (4 * m + 2) * unit
    scale := 4 * (if e < 0 then Nat.pow 2 (-e).toNat else 1)
    closed := m % 2 = 0 }

/-- Whether `d · 10^k` lies in the interval. -/
def contains (r : Reading) (d : Nat) (k : Int) : Bool :=
  let x := d * r.scale * (if 0 ≤ k then Nat.pow 10 k.toNat else 1)
  let y := if k < 0 then Nat.pow 10 (-k).toNat else 1
  if r.closed then r.low * y ≤ x && x ≤ r.high * y else r.low * y < x && x < r.high * y

/-- The value less than or equal to the number on the grid of multiples of `10^k`. -/
def below (r : Reading) (k : Int) : Nat :=
  if 0 ≤ k then r.value / (r.scale * Nat.pow 10 k.toNat)
  else r.value * Nat.pow 10 (-k).toNat / r.scale

/-- Twice the distance from the grid point below to the value, compared with the grid's step:
which of the two neighbours is nearer, with a tie to the even one. -/
def prefersBelow (r : Reading) (k : Int) : Bool :=
  let d := r.below k
  let (v, step) :=
    if 0 ≤ k then (r.value, r.scale * Nat.pow 10 k.toNat)
    else (r.value * Nat.pow 10 (-k).toNat, r.scale)
  let rest := v - d * step
  2 * rest < step || (2 * rest = step && d % 2 = 0)

/-- The best multiple of `10^k` in the interval, if it holds one. -/
def atGrid? (r : Reading) (k : Int) : Option Decimal :=
  let d := r.below k
  match r.contains d k, r.contains (d + 1) k with
  | true, true => some ⟨if r.prefersBelow k then d else d + 1, k⟩
  | true, false => some ⟨d, k⟩
  | false, true => some ⟨d + 1, k⟩
  | false, false => none

/-- The first grid with a hit, from `10^k` on and through at most `tries` finer ones. -/
def search (r : Reading) (k : Int) : Nat → Decimal
  | 0 => ⟨r.below k, k⟩
  | tries + 1 => (r.atGrid? k).getD (r.search (k - 1) tries)

end Reading

def decimalLength (n : Nat) : Nat := (Nat.toDigits 10 n).length

def Decimal.normal (d : Decimal) : Decimal :=
  go d.digits d.exponent (decimalLength d.digits)
where
  /-- Strips at most `fuel` zeros. -/
  go (digits : Nat) (exponent : Int) : Nat → Decimal
    | 0 => ⟨digits, exponent⟩
    | fuel + 1 =>
      if digits ≠ 0 && digits % 10 = 0 then go (digits / 10) (exponent + 1) fuel
      else ⟨digits, exponent⟩

/-- The shortest decimal that reads back as `m · 2^e`. -/
def shortest (f : BinaryFormat) (m : Nat) (e : Int) : Decimal :=
  let r := Reading.ofBinary f m e
  -- the coarsest grid worth a try has the value's own order of magnitude
  let whole := r.value / r.scale
  let magnitude : Int :=
    if whole ≠ 0 then decimalLength whole else -(decimalLength (r.scale / r.value) : Int) + 1
  (r.search magnitude 25).normal

/-- How the text of a floating-point number is laid out. The point stands after `point` digits of
the shortest decimal. -/
structure FloatText where
  /-- The least `point` written positionally. -/
  minPoint : Int
  /-- The greatest `point` written positionally. -/
  maxPoint : Int
  /-- Whole numbers end in `.0`. -/
  keepsFraction : Bool
  deriving DecidableEq, Repr

namespace FloatText

/-- Positional text of digits with the point after `point` of them. -/
def positional (t : FloatText) (digits : List Char) (point : Int) : List Char :=
  let n : Int := digits.length
  if point ≤ 0 then '0' :: '.' :: (List.replicate (-point).toNat '0' ++ digits)
  else if point < n then digits.take point.toNat ++ '.' :: digits.drop point.toNat
  else
    digits ++ List.replicate (point - n).toNat '0' ++ (if t.keepsFraction then ['.', '0'] else [])

/-- Scientific text: one digit, the others after a point, and the exponent after `e`. -/
def scientific (digits : List Char) (exponent : Int) : List Char :=
  let mantissa := match digits with
    | [] => []
    | [d] => [d]
    | d :: ds => d :: '.' :: ds
  mantissa ++ 'e' :: (toString exponent).toList

def render (t : FloatText) (f : BinaryFormat) : Binary → String
  | .nan => "NaN"
  | .infinite negative => if negative then "-inf" else "inf"
  | .finite negative m e =>
    let body :=
      if m = 0 then '0' :: (if t.keepsFraction then ['.', '0'] else [])
      else
        let d := shortest f m e
        let digits := Nat.toDigits 10 d.digits
        let point := (digits.length : Int) + d.exponent
        if t.minPoint ≤ point && point ≤ t.maxPoint then t.positional digits point
        else scientific digits (point - 1)
    String.ofList (if negative then '-' :: body else body)

end FloatText

end TableScan.Number
