import TableScan.Calendar.Date

/-!
# Times of day and instants

A time of day is a number of nanoseconds since midnight, and an instant a number of nanoseconds
since 1970-01-01 00:00. Fractions of a second are written with three, six or nine digits, the
fewest that show them, or not at all.
-/

namespace TableScan.Calendar

inductive TimeUnit where
  | second
  | millisecond
  | microsecond
  | nanosecond
  deriving DecidableEq, Repr

namespace TimeUnit

def nanoseconds : TimeUnit → Nat
  | second => 1000000000
  | millisecond => 1000000
  | microsecond => 1000
  | nanosecond => 1

def perSecond : TimeUnit → Nat
  | second => 1
  | millisecond => 1000
  | microsecond => 1000000
  | nanosecond => 1000000000

def name : TimeUnit → String
  | second => "Second"
  | millisecond => "Millisecond"
  | microsecond => "Microsecond"
  | nanosecond => "Nanosecond"

end TimeUnit

/-- A point and the fraction of a second, or nothing if there is none. -/
def fractionText (nanoseconds : Nat) : String :=
  if nanoseconds = 0 then ""
  else if nanoseconds % 1000000 = 0 then "." ++ Date.padded 3 (nanoseconds / 1000000)
  else if nanoseconds % 1000 = 0 then "." ++ Date.padded 6 (nanoseconds / 1000)
  else "." ++ Date.padded 9 nanoseconds

def clockText (seconds nanoseconds : Nat) : String :=
  Date.padded 2 (seconds / 3600) ++ ":" ++ Date.padded 2 (seconds / 60 % 60) ++ ":" ++
    Date.padded 2 (seconds % 60) ++ fractionText nanoseconds

/-- A time of day in `count` units since midnight. The seconds and the nanoseconds are words of 32
bits; a count they cannot hold, or one beyond the day, has no text. -/
def timeText? (unit : TimeUnit) (count : Int) : Option String :=
  let seconds := ((count.tdiv unit.perSecond).emod 0x100000000).toNat
  let fraction := ((count.tmod unit.perSecond * unit.nanoseconds).emod 0x100000000).toNat
  if seconds < 86400 && fraction < 1000000000 then some (clockText seconds fraction) else none

/-- An instant as days since 1970-01-01, seconds of the day, and nanoseconds of the second. -/
structure Instant where
  days : Int
  seconds : Nat
  nanoseconds : Nat
  deriving DecidableEq, Repr

namespace Instant

/-- The instant `count` units after 1970-01-01 00:00, `offset` seconds ahead of it on the clock. -/
def ofCount (unit : TimeUnit) (count offset : Int) : Instant :=
  let seconds := count.fdiv unit.perSecond + offset
  { days := seconds.fdiv 86400
    seconds := (seconds.fmod 86400).toNat
    nanoseconds := (count.fmod unit.perSecond).toNat * unit.nanoseconds }

def date (i : Instant) : Date := Date.ofDays i.days

def text (between : String) (i : Instant) : String :=
  i.date.text ++ between ++ clockText i.seconds i.nanoseconds

end Instant

/-- An instant in `count` units, shown `offset` seconds ahead. An instant whose own year cannot be
shown has no text. -/
def instantText? (unit : TimeUnit) (between : String) (offset count : Int) : Option String :=
  if (Instant.ofCount unit count 0).date.isShowable then
    some ((Instant.ofCount unit count offset).text between)
  else none

end TableScan.Calendar
