import TableScan.Calendar.Span
import TableScan.Columnar.Fault
import TableScan.Columnar.Type
import TableScan.Json
import TableScan.Number.Shortest

/-!
# Cells of columnar files

A cell is shown by its type. Text is shown as it is and a map as a JSON object; everything else has
a display form, in which a null inside a list, a struct or a map is empty. A value that cannot be
shown ends the text of its cell with an error notice.
-/

namespace TableScan.Columnar

open Calendar (TimeUnit Zone)

/-- A value of a column. Dates, times, instants, durations and decimals are kept as the integers
that count them. -/
inductive Cell where
  | null
  | boolean (b : Bool)
  | integer (n : Int)
  | float (x : Number.Binary)
  | text (s : String)
  | bytes (l : List UInt8)
  | list (items : List Cell)
  | record (fields : List Cell)
  /-- An interval, with the smallest units that its kind counts. -/
  | span (months days units : Int)
  | map (entries : List (Cell × Cell))
  /-- The value that a dictionary has for the code kept in the column. -/
  | coded (value : Cell)

/-- Display text, whole or cut off by a value that cannot be shown. -/
inductive Display where
  | whole (text : String)
  | cut (text : String)
  deriving DecidableEq, Repr

namespace Display

def text : Display → String
  | whole s => s
  | cut s => s

/-- Text after text; nothing follows a cut. -/
def append : Display → Display → Display
  | whole s, whole t => whole (s ++ t)
  | whole s, cut t => cut (s ++ t)
  | cut s, _ => cut s

instance : Append Display := ⟨append⟩

def commaSeparated : List Display → Display
  | [] => whole ""
  | [d] => d
  | d :: e :: ds => d ++ whole ", " ++ commaSeparated (e :: ds)

def enclosed (opening closing : String) (ds : List Display) : Display :=
  whole opening ++ commaSeparated ds ++ whole closing

def failure (n : Int) (target typeText : String) : Display :=
  cut (s!"ERROR: Cast error: Failed to convert {n} to {target} for {typeText}")

end Display

/-- Half-precision numbers are shown positionally, without a fraction if they have none. -/
def float16Text : Number.FloatText := ⟨-1000, 1000, false⟩

/-- Single-precision numbers are positional from `0.000001` on and below `10^13`. -/
def float32Text : Number.FloatText := ⟨-5, 13, true⟩

/-- Double-precision numbers are positional from `0.00001` on and below `10^16`. -/
def float64Text : Number.FloatText := ⟨-4, 16, true⟩

/-- The text of a floating-point number. A half-precision number is shown as the single-precision
number that it also is. -/
def floatText (width : FloatWidth) (x : Number.Binary) : String :=
  match width with
  | .w16 => float16Text.render .binary32 (single x)
  | .w32 => float32Text.render .binary32 x
  | .w64 => float64Text.render .binary64 x
where
  single : Number.Binary → Number.Binary
    | .finite negative m e =>
      if 0 ≤ e then Number.Binary.ofRatio .binary32 negative (m * Nat.pow 2 e.toNat) 1
      else Number.Binary.ofRatio .binary32 negative m (Nat.pow 2 (-e).toNat)
    | x => x

/-- The digits of an unscaled decimal with its point, at most `precision` of them. -/
def decimalText (precision : Nat) (scale unscaled : Int) : String :=
  let sign := if unscaled < 0 then ['-'] else []
  let digits := Nat.toDigits 10 unscaled.natAbs
  let kept := digits.take precision
  let places := scale.toNat
  String.ofList <|
    if scale = 0 then sign ++ kept
    else if scale < 0 then sign ++ kept ++ List.replicate (-scale).toNat '0'
    else if places < digits.length then
      sign ++ kept.take (kept.length - places) ++ '.' :: kept.drop (kept.length - places)
    else sign ++ '0' :: '.' :: (List.replicate (places - digits.length) '0' ++ digits)

def hexText (l : List UInt8) : String :=
  String.ofList (l.flatMap fun b => [hexChar (b.toNat / 16), hexChar (b.toNat % 16)])
where
  hexChar (n : Nat) : Char := if n < 10 then Char.ofNat (48 + n) else Char.ofNat (87 + n)

def timestampTypeText (unit : TimeUnit) (zone : Option Zone) : String :=
  let zoneText := match zone with
    | none => "None"
    | some z => applied "Some" ("\"" ++ z.name ++ "\"")
  applied "Timestamp" (unit.name ++ ", " ++ zoneText)

def timeTypeText (width : TimeWidth) (unit : TimeUnit) : String :=
  match width with
  | .w32 => applied "Time32" unit.name
  | .w64 => applied "Time64" unit.name

def Display.ofText? (text? : Option String) (n : Int) (target typeText : String) : Display :=
  match text? with
  | some s => .whole s
  | none => .failure n target typeText

/-- The seconds by which the clock of a timestamp column is ahead of universal time, `count` units
after 1970-01-01 00:00. -/
def clockShift (unit : TimeUnit) (zone : Option Zone) (count : Int) : Int :=
  match zone.bind Zone.ahead? with
  | some ahead => ahead (count.fdiv unit.perSecond)
  | none => 0

mutual

def display : ColumnType → Cell → Display
  | .null, _ => .whole ""
  | _, .null => .whole ""
  | .boolean, .boolean b => .whole (if b then "true" else "false")
  | .integer _, .integer n => .whole (toString n)
  | .float width, .float x => .whole (floatText width x)
  | .text, .text s => .whole s
  | .textView, .text s => .whole s
  | .binary, .bytes l => .whole (hexText l)
  | .date32, .integer n =>
    let date := Calendar.Date.ofDays n
    .ofText? (if date.isShowable then some date.text else none) n "temporal" "Date32"
  | .date64, .integer n =>
    .ofText? (Calendar.instantText? .millisecond "T" 0 n) n "temporal" "Date64"
  | .timestamp unit zone, .integer n =>
    .ofText? (Calendar.instantText? unit " " (clockShift unit zone n) n) n "datetime"
      (timestampTypeText unit zone)
  | .time width unit, .integer n =>
    .ofText? (Calendar.timeText? unit n) n "temporal" (timeTypeText width unit)
  | .duration unit, .integer n => .whole (Calendar.durationText unit n)
  | .interval .yearMonth, .span months _ _ => .whole (Calendar.yearMonthText months)
  | .interval .dayTime, .span _ days units => .whole (Calendar.dayTimeText days units)
  | .interval .monthDayNano, .span months days units =>
    .whole (Calendar.monthDayNanoText months days units)
  | .decimal precision scale, .integer n => .whole (decimalText precision scale n)
  | .list item, .list cells => .enclosed "[" "]" (cells.map (display item))
  | .struct fields, .record cells => .enclosed "\x7b" "\x7d" (displayFields fields cells)
  | .map (.struct ((_, key) :: (_, value) :: _)), .map entries =>
    .enclosed "\x7b" "\x7d"
      (entries.map fun (k, v) => display key k ++ .whole ": " ++ display value v)
  | .dictionary _ value, .coded cell => display value cell
  | _, _ => .whole ""

def displayFields : List (String × ColumnType) → List Cell → List Display
  | (name, type) :: fields, cell :: cells =>
    (.whole (name ++ ": ") ++ display type cell) :: displayFields fields cells
  | _, _ => []

end

mutual

/-- The first zone inside a type that names no zone. -/
def unknownZone? : ColumnType → Option String
  | .timestamp _ (some zone) => if zone.ahead?.isSome then none else some zone.name
  | .list item => unknownZone? item
  | .struct fields => unknownZoneOf? fields
  | .map entries => unknownZone? entries
  | .dictionary _ value => unknownZone? value
  | _ => none

def unknownZoneOf? : List (String × ColumnType) → Option String
  | [] => none
  | (_, type) :: fields => (unknownZone? type).or (unknownZoneOf? fields)

end

/-- The display text of a cell, if every zone of its type is known. -/
def displayText (type : ColumnType) (cell : Cell) : Except Fault String :=
  match unknownZone? type with
  | some zone => .error (.unknownZone zone)
  | none => .ok (display type cell).text

/-- A JSON value as the text of a cell: a null has none and a string is its own. -/
def textOfJson : Json → Option String
  | .null => none
  | .text s => some s
  | .object members => some (Json.object members).render

/-- A cell as JSON: a null is null, a map is an object with the texts of its keys, the last entry
of a key standing, and everything else is a string. A column of the null type has no mark for its
nulls, so they are empty strings. -/
def toJson : ColumnType → Cell → Except Fault Json
  | .null, _ => .ok (.text "")
  | _, .null => .ok .null
  | .text, .text s => .ok (.text s)
  | .map (.struct ((_, key) :: (_, value) :: _)), .map entries => do
    let members ← entries.foldlM (fun members (k, v) => do
      let k ← toJson key k
      let v ← toJson value v
      return SortedMap.insert ((textOfJson k).getD "") v members) []
    return .object members
  | type, cell => (displayText type cell).map .text

/-- The text of a cell, or nothing for a null. -/
def cellText (type : ColumnType) (cell : Cell) : Except Fault (Option String) :=
  (toJson type cell).map textOfJson

end TableScan.Columnar
