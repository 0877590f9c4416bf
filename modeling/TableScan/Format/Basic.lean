import TableScan.Text.Blank

/-!
# Storage formats

The three formats a table's files can have. Text files can be read from the middle, so one file
may be cut into byte ranges; columnar files carry a schema of their own and are read whole.
-/

namespace TableScan

inductive Encoding where
  | orc
  | parquet
  deriving DecidableEq, Repr

inductive Format where
  | text
  | columnar (encoding : Encoding)
  deriving DecidableEq, Repr

def Encoding.name : Encoding → String
  | orc => "orc"
  | parquet => "parquet"

namespace Format

def name : Format → String
  | text => "text"
  | columnar e => e.name

/-- Whether one file may be cut into byte ranges that are read on their own. -/
def isSplittable : Format → Bool
  | text => true
  | columnar _ => false

/-- Whether files carry their own schema. -/
def isColumnar : Format → Bool
  | text => false
  | columnar _ => true

/-- A name as formats are looked up: without blank ends, ASCII letters in lower case. -/
def normalName (s : String) : String := (Text.trimmed s).map Char.toLower

def ofNormalName? (s : String) : Option Format :=
  if s = "text" || s = "textfile" then some text
  else if s = "orc" then some (columnar .orc)
  else if s = "parquet" then some (columnar .parquet)
  else none

end Format

end TableScan
