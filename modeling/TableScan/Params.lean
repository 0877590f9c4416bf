import TableScan.Options
import TableScan.Schema
import TableScan.SortedMap

/-!
# Table parameters

What a caller says about a table: where it is, its columns, how its text is delimited, which
columns are wanted, and under whose name it is read.
-/

namespace TableScan

/-- Settings that describe a principal, such as its name and key file. Empty stands for the
current principal. -/
abbrev Credentials := SortedMap String

structure Params where
  /-- The root of the data: a file or a directory. -/
  location : String := ""
  dataColumns : List String := []
  partitionColumns : List String := []
  /-- The spelling of the delimiter of text cells. -/
  fieldDelimiter : Option String := none
  /-- The stored columns of a text table, as a struct descriptor. -/
  schemaDescriptor : Option String := none
  /-- The logical columns of a row; absent stands for all. -/
  projection : Option (List Nat) := none
  credentials : Credentials := []
  options : Options := {}
  deriving DecidableEq, Repr

namespace Params

def schema (p : Params) : LogicalSchema :=
  { dataColumns := p.dataColumns, partitionColumns := p.partitionColumns }

def projectedNames (p : Params) : List String := p.schema.projectedNames p.projection

def fieldNames : List String :=
  ["location", "data_columns", "partition_columns", "field_delimiter", "schema_descriptor",
    "projection", "identity", "options"]

/-- The parameters a document gives; fields it does not give have their defaults. -/
def ofDocument? (d : Document) : Option Params := do
  let r ← d.record? fieldNames
  return {
    location := ← r.fieldD 0 (·.text?) ""
    dataColumns := ← r.fieldD 1 (·.list? (·.text?)) []
    partitionColumns := ← r.fieldD 2 (·.list? (·.text?)) []
    fieldDelimiter := ← r.fieldD 3 (·.optional? (·.text?)) none
    schemaDescriptor := ← r.fieldD 4 (·.optional? (·.text?)) none
    projection := ← r.fieldD 5 (·.optional? (·.list? (·.natural64?))) none
    credentials := SortedMap.ofList (← r.fieldD 6 (·.texts?) [])
    options := ← r.fieldD 7 Options.ofDocument? {} }

end Params

end TableScan
