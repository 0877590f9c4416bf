import TableScan.Calendar.Clock
import TableScan.Calendar.Zone
import TableScan.Number.Binary
import TableScan.Schema

/-!
# Column types

The types of columnar files and the names Hive gives them. Signed and unsigned integers of one
width share a name, as do lists of every layout; a dictionary is named for its values.
-/

namespace TableScan.Columnar

open Calendar (TimeUnit Zone)

inductive IntegerWidth where
  | w8
  | w16
  | w32
  | w64
  deriving DecidableEq, Repr

inductive FloatWidth where
  | w16
  | w32
  | w64
  deriving DecidableEq, Repr

/-- The widths of the numbers that count a time of day, in bits. -/
inductive TimeWidth where
  | w32
  | w64
  deriving DecidableEq, Repr

inductive IntervalKind where
  | yearMonth
  | dayTime
  | monthDayNano
  deriving DecidableEq, Repr

inductive ColumnType where
  /-- Nothing but nulls, kept without a mark for them. -/
  | null
  | boolean
  | integer (width : IntegerWidth)
  | float (width : FloatWidth)
  | text
  /-- Text kept as slices of shared buffers. -/
  | textView
  | binary
  /-- Days since 1970-01-01. -/
  | date32
  /-- Milliseconds since 1970-01-01. -/
  | date64
  /-- An instant, shown on the clock of a zone if there is one. -/
  | timestamp (unit : TimeUnit) (zone : Option Zone)
  | time (width : TimeWidth) (unit : TimeUnit)
  | duration (unit : TimeUnit)
  | interval (kind : IntervalKind)
  | decimal (precision : Nat) (scale : Int)
  | list (item : ColumnType)
  | struct (fields : List (String × ColumnType))
  /-- A map, by the type of its entries. -/
  | map (entries : ColumnType)
  | dictionary (key value : ColumnType)

namespace ColumnType

def mapOf (key value : ColumnType) : ColumnType := map (struct [("keys", key), ("values", value)])

end ColumnType

def unitName : TimeUnit → String
  | .second => "second"
  | .millisecond => "millisecond"
  | .microsecond => "microsecond"
  | .nanosecond => "nanosecond"

def IntervalKind.name : IntervalKind → String
  | yearMonth => "yearmonth"
  | dayTime => "daytime"
  | monthDayNano => "monthdaynano"

def IntegerWidth.name : IntegerWidth → String
  | w8 => "tinyint"
  | w16 => "smallint"
  | w32 => "int"
  | w64 => "bigint"

def FloatWidth.name : FloatWidth → String
  | w16 => "float"
  | w32 => "float"
  | w64 => "double"

def bracketed (head inner : String) : String := head ++ "<" ++ inner ++ ">"

def applied (head inner : String) : String := head ++ "(" ++ inner ++ ")"

mutual

def ColumnType.typeName : ColumnType → String
  | .null => "void"
  | .boolean => "boolean"
  | .integer width => width.name
  | .float width => width.name
  | .text => "string"
  | .textView => "string"
  | .binary => "binary"
  | .date32 => "date"
  | .date64 => "date"
  | .timestamp _ _ => "timestamp"
  | .time .w32 unit => applied "time32" (unitName unit)
  | .time .w64 unit => applied "time64" (unitName unit)
  | .duration unit => applied "duration" (unitName unit)
  | .interval kind => applied "interval" kind.name
  | .decimal precision scale => applied "decimal" (toString precision ++ "," ++ toString scale)
  | .list item => bracketed "array" item.typeName
  | .struct fields => bracketed "struct" (",".intercalate (fieldNames fields))
  | .map (.struct [(_, key), (_, value)]) =>
    bracketed "map" (key.typeName ++ "," ++ value.typeName)
  | .map entries => bracketed "map" entries.typeName
  | .dictionary _ value => value.typeName

def fieldNames : List (String × ColumnType) → List String
  | [] => []
  | (name, type) :: fields => (name ++ ":" ++ type.typeName) :: fieldNames fields

end

abbrev Schema := List (String × ColumnType)

def physicalFields (schema : Schema) : List PhysicalField :=
  schema.map fun (name, type) => { name, typeName := type.typeName }

end TableScan.Columnar
