import TableScan.Document
import TableScan.Document.Tag
import TableScan.Text.Pieces

/-!
# Values of scalars

What a scalar stands for. Without quotes it is a null, a truth value, a number, or else its own
text; with quotes it is its text. A standard tag decides the type, and the scalar must be of it.
-/

namespace TableScan.Document

/-! ### Words -/

def isNullWord (s : String) : Bool := ["~", "null", "Null", "NULL"].contains s

def boolean?OfWord (s : String) : Option Bool :=
  if ["true", "True", "TRUE"].contains s then some true
  else if ["false", "False", "FALSE"].contains s then some false
  else none

/-! ### Integers -/

def unsignedPart (s : List Char) : List Char :=
  match s with
  | '+' :: rest => rest
  | '-' :: rest => rest
  | s => s

/-- Several digits of which the first is zero; they are text. -/
def isPaddedNumeral (s : List Char) : Bool :=
  match s with
  | '0' :: c :: rest => (c :: rest).all Char.isDigit
  | _ => false

/-- The value of a numeral without a sign, in the base its mark names. -/
def unsigned? (s : List Char) : Option Nat :=
  match s with
  | '0' :: 'x' :: c :: digits => Text.digitsValue? 16 0 (c :: digits)
  | '0' :: 'o' :: c :: digits => Text.digitsValue? 8 0 (c :: digits)
  | '0' :: 'b' :: c :: digits => Text.digitsValue? 2 0 (c :: digits)
  | [] => none
  | digits => if isPaddedNumeral digits then none else Text.digitsValue? 10 0 digits

/-- What an integer is taken as. -/
inductive IntegerText where
  | integer (n : Int)
  /-- An integer of more than 64 bits, which is refused. -/
  | tooWide
  /-- An integer of more than 128 bits, or no integer at all. -/
  | none

def integerText (s : List Char) : IntegerText :=
  match s.head?, unsigned? (unsignedPart s) with
  | some '-', some n =>
    if n ≤ 0x8000000000000000 then .integer (-n)
    else if n ≤ 0x80000000000000000000000000000000 then .tooWide
    else .none
  | _, some n =>
    if n ≤ Text.maxWord64 then .integer n
    else if n ≤ 0xFFFFFFFFFFFFFFFFFFFFFFFFFFFFFFFF then .tooWide
    else .none
  | _, Option.none => .none

/-! ### Reals -/

/-- A decimal number without a sign: its digits and the power of ten that they count. There is at
least one digit, perhaps a point, and perhaps an exponent. -/
def decimal? (s : List Char) : Option (Nat × Int) := do
  let (mantissa, exponent) ← match Text.cutAtFirst? 'e' (s.map Char.toLower) with
    | none => some (s, (0 : Int))
    | some (mantissa, exponent) => do
      let digits := unsignedPart exponent
      guard (digits ≠ [])
      let n ← Text.digitsValue? 10 0 digits
      some (mantissa, if exponent.head? = some '-' then -(n : Int) else n)
  let (whole, part) := (Text.cutAtFirst? '.' mantissa).getD (mantissa, [])
  guard (whole ++ part ≠ [])
  return (← Text.digitsValue? 10 0 (whole ++ part), exponent - part.length)

/-- The places of a number in front of the point, or behind it, at which it is taken as infinite or
as zero before it is computed. -/
def farthestPlace : Int := 400

def nearestReal (negative : Bool) (digits : Nat) (exponent : Int) : Number.Binary :=
  let place : Int := (Nat.toDigits 10 digits).length + exponent
  if digits = 0 ∨ place < -farthestPlace then .ofRatio .binary64 negative 0 1
  else if farthestPlace < place then .infinite negative
  else .ofDecimal .binary64 negative digits exponent

/-- The real number that a scalar spells. A decimal that is too great for any spells none. -/
def real?OfText (s : List Char) : Option Number.Binary :=
  let negative := s.head? = some '-'
  let digits := unsignedPart s
  if [".inf", ".Inf", ".INF"].contains (String.ofList digits) then some (.infinite negative)
  else if [".nan", ".NaN", ".NAN"].contains (String.ofList s) then some .nan
  else do
    let (digits, exponent) ← decimal? digits
    match nearestReal negative digits exponent with
    | .finite negative m e => some (.finite negative m e)
    | _ => none

/-! ### Scalars -/

/-- What a plain scalar stands for, unless it is an integer that is too wide. -/
def ofPlain? (s : List Char) : Option Document :=
  let word := String.ofList s
  if s = [] ∨ isNullWord word then some null
  else
    match boolean?OfWord word, integerText s with
    | some b, _ => some (boolean b)
    | none, .integer n => some (integer n)
    | none, .tooWide => none
    | none, .none =>
      match if isPaddedNumeral (unsignedPart s) then none else real?OfText s with
      | some x => some (real x)
      | none => some (text word)

def ofScalar? (tag : Option Tag) (isPlain : Bool) (s : List Char) : Option Document :=
  let word := String.ofList s
  let bare := if isPlain then ofPlain? s else some (text word)
  match tag with
  | none => bare
  | some .unreadable => bare
  | some (.own name) => if name = "" then none else bare.map (tagged (Tag.bareName name))
  | some .boolean => (boolean?OfWord word).map boolean
  | some .integer =>
    match integerText s with
    | .integer n => some (integer n)
    | _ => none
  | some .real => (real?OfText s).map real
  | some .null => if isNullWord word then some null else none
  | some .other => some (text word)

end TableScan.Document
