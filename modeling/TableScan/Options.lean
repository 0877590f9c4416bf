import TableScan.Document
import TableScan.Text.Blank
import TableScan.Text.Pieces

/-!
# Read options

Which files of a location take part, how text files are cut, and how text becomes cells. Options
come from a document or from environment variables; a variable that cannot be read leaves its
option as it is.
-/

namespace TableScan

structure Options where
  /-- Sub-directories of the location are descended into. -/
  recursive : Bool := true
  /-- Shorter files are placeholders and take no part. -/
  minEligibleBytes : Nat := 1
  /-- Files with a path component that begins with `_` or `.` take part too. -/
  includeHidden : Bool := false
  /-- The suffixes of the files that take part; none stands for all files. -/
  extensions : List String := []
  /-- Longer text files are cut into ranges of this length. -/
  maxSplitBytes : Option Nat := none
  /-- The rows of a decoded columnar batch. -/
  batchSize : Nat := 1024
  /-- The bytes a text split keeps in memory. -/
  readBufferBytes : Nat := 65536
  /-- The text of a null in a text file. -/
  nullMarker : Option String := some "\\N"
  /-- Blanks around text cells are dropped. -/
  trimFields : Bool := false
  deriving DecidableEq, Repr

namespace Options

def fieldNames : List String :=
  ["recursive", "min_eligible_bytes", "include_hidden", "extensions", "max_split_bytes",
    "batch_size", "read_buffer_bytes", "null_marker", "trim_fields"]

/-- The options a document gives; fields it does not give have their defaults. -/
def ofDocument? (d : Document) : Option Options := do
  let base : Options := {}
  let r ← d.record? fieldNames
  return {
    recursive := ← r.fieldD 0 (·.boolean?) base.recursive
    minEligibleBytes := ← r.fieldD 1 (·.natural64?) base.minEligibleBytes
    includeHidden := ← r.fieldD 2 (·.boolean?) base.includeHidden
    extensions := ← r.fieldD 3 (·.list? (·.text?)) base.extensions
    maxSplitBytes := ← r.fieldD 4 (·.optional? (·.natural64?)) base.maxSplitBytes
    batchSize := ← r.fieldD 5 (·.natural64?) base.batchSize
    readBufferBytes := ← r.fieldD 6 (·.natural64?) base.readBufferBytes
    nullMarker := ← r.fieldD 7 (·.optional? (·.text?)) base.nullMarker
    trimFields := ← r.fieldD 8 (·.boolean?) base.trimFields }

/-- Exactly `true` and `false`. -/
def boolean? (s : String) : Option Bool :=
  if s = "true" then some true else if s = "false" then some false else none

/-- The suffixes of a comma-separated list, without blanks around them and without empty ones. -/
def suffixes (s : String) : List String :=
  ((Text.pieces ',' s.toList).map Text.trim).filterMap fun p =>
    if p = [] then none else some (String.ofList p)

def variableStart : String := "TABLESTREAM_"

def variableNames : List String :=
  fieldNames.map fun name => variableStart ++ name.toUpper

def ofEnvironment (vars : List (String × String)) : Options :=
  let base : Options := {}
  let var (name : String) : Option String := vars.lookup (variableStart ++ name)
  let get {α : Type} (name : String) (read : String → Option α) (default : α) : α :=
    ((var name).bind read).getD default
  { recursive := get "RECURSIVE" boolean? base.recursive
    minEligibleBytes := get "MIN_ELIGIBLE_BYTES" Text.natural64? base.minEligibleBytes
    includeHidden := get "INCLUDE_HIDDEN" boolean? base.includeHidden
    extensions := get "EXTENSIONS" (fun s => some (suffixes s)) base.extensions
    maxSplitBytes := get "MAX_SPLIT_BYTES" (fun s => (Text.natural64? s).map some)
      base.maxSplitBytes
    batchSize := get "BATCH_SIZE" Text.natural64? base.batchSize
    readBufferBytes := get "READ_BUFFER_BYTES" Text.natural64? base.readBufferBytes
    nullMarker := get "NULL_MARKER" (fun s => some (some s)) base.nullMarker
    trimFields := get "TRIM_FIELDS" boolean? base.trimFields }

end Options

end TableScan
