/-!
# Calendar dates

The proleptic Gregorian calendar, counted in days since 1970-01-01. The calendar repeats every 400
years of 146097 days; a year is taken to begin in March, so that a leap day is its last day.
-/

namespace TableScan.Calendar

structure Date where
  year : Int
  month : Nat
  day : Nat
  deriving DecidableEq, Repr

namespace Date

/-- The date `days` days after 1970-01-01. -/
def ofDays (days : Int) : Date :=
  -- days since 0000-03-01, cut into eras of 400 years
  let z := days + 719468
  let era := z.fdiv 146097
  let dayOfEra := (z.fmod 146097).toNat
  let yearOfEra := (dayOfEra - dayOfEra / 1460 + dayOfEra / 36524 - dayOfEra / 146096) / 365
  let dayOfYear := dayOfEra - (365 * yearOfEra + yearOfEra / 4 - yearOfEra / 100)
  -- months from March on have 153 days in each five
  let shifted := (5 * dayOfYear + 2) / 153
  let day := dayOfYear - (153 * shifted + 2) / 5 + 1
  let month := if shifted < 10 then shifted + 3 else shifted - 9
  let year := era * 400 + yearOfEra
  { year := if month ≤ 2 then year + 1 else year, month, day }

def isShowable (d : Date) : Bool := -262143 ≤ d.year && d.year ≤ 262142

/-- A number with zeros in front up to the width. -/
def padded (width n : Nat) : String :=
  let digits := Nat.toDigits 10 n
  String.ofList (List.replicate (width - digits.length) '0' ++ digits)

/-- Four digits; years outside of them have a sign. -/
def yearText (year : Int) : String :=
  if 0 ≤ year ∧ year ≤ 9999 then padded 4 year.toNat
  else (if year < 0 then "-" else "+") ++ padded 4 year.natAbs

def text (d : Date) : String := yearText d.year ++ "-" ++ padded 2 d.month ++ "-" ++ padded 2 d.day

end Date

example : (Date.ofDays 11016).text = "2000-02-29" := by decide
example : (Date.ofDays (-719529)).text = "-0001-12-31" := by decide

end TableScan.Calendar
