import TableScan.Calendar.Clock

/-!
# Lengths of time

A duration is a number of units of time, and an interval also has months and days of its own, which
are not all of one length. A duration is written in seconds, `PT1.5S`; an interval by those of its
parts that are not zero.
-/

namespace TableScan.Calendar

/-- A point and the digits of a fraction up to the last that is not zero, or nothing if all are. -/
def shortFractionText (nanoseconds : Nat) : String :=
  let digits := (Date.padded 9 nanoseconds).toList
  match (digits.reverse.dropWhile (· = '0')).reverse with
  | [] => ""
  | kept => String.ofList ('.' :: kept)

/-- A duration of `count` units; the sign stands in front of everything. -/
def durationText (unit : TimeUnit) (count : Int) : String :=
  if count = 0 then "P0D"
  else
    let seconds := count.natAbs / unit.perSecond
    let nanoseconds := count.natAbs % unit.perSecond * unit.nanoseconds
    (if count < 0 then "-PT" else "PT") ++ toString seconds ++ shortFractionText nanoseconds ++ "S"

/-- An interval of months. The years are rounded down, so the months after them have no sign. -/
def yearMonthText (months : Int) : String :=
  toString (months.fdiv 12) ++ " years " ++ toString (months.fmod 12) ++ " mons"

def partOf (n : Int) (name : String) : List String :=
  if n = 0 then [] else [toString n ++ " " ++ name]

/-- Hours, minutes and seconds of a number of units. Each of them has the sign of the whole, and the
seconds have `places` decimal places. -/
def clockParts (unit : TimeUnit) (places : Nat) (count : Int) : List String :=
  let seconds := count.tdiv unit.perSecond
  let rest := (count.tmod unit.perSecond).natAbs
  let last := (seconds.tmod 60).natAbs
  let sign := if count < 0 then "-" else ""
  partOf (seconds.tdiv 3600) "hours" ++ partOf ((seconds.tdiv 60).tmod 60) "mins" ++
    if last = 0 ∧ rest = 0 then []
    else [sign ++ toString last ++ "." ++ Date.padded places rest ++ " secs"]

def dayTimeText (days milliseconds : Int) : String :=
  " ".intercalate (partOf days "days" ++ clockParts .millisecond 3 milliseconds)

def monthDayNanoText (months days nanoseconds : Int) : String :=
  " ".intercalate
    (partOf months "mons" ++ partOf days "days" ++ clockParts .nanosecond 9 nanoseconds)

example : durationText .millisecond (-1500) = "-PT1.5S" := by decide +kernel
example : yearMonthText (-13) = "-2 years 11 mons" := by decide +kernel
example : dayTimeText 0 (-61500) = "-1 mins -1.500 secs" := by decide +kernel

end TableScan.Calendar
