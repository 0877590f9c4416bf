import TableScan.Json
import TableScan.Scan

/-!
# Rows as text

Each row is one line, in one of two forms: its cells with tabs between them and `\N` for a null, as
they are and without any quoting, or a JSON object with a member for each column.
-/

namespace TableScan

inductive RowFormat where
  | tabs
  | json
  deriving DecidableEq, Repr

namespace Report

/-- The text of a null between tabs. -/
def nullText : String := "\\N"

/-- A row with tabs between its cells. A row of which nothing would show is a pair of quotes, so
that it does not look like no row at all. -/
def tabbed (row : Row) : String :=
  let line := "\t".intercalate (row.map (·.getD nullText))
  if line = "" then "\"\"" else line

/-- The keys of the columns. A name that has occurred before is replaced by one that tells the
column's place. -/
def jsonKeys (names : List String) : List String :=
  names.mapIdx fun i name => if (names.take i).contains name then s!"_col{i}" else name

def jsonRow (keys : List String) (row : Row) : Json :=
  .object (SortedMap.ofList ((keys.zip row).map fun (key, cell) =>
    (key, cell.elim .null .text)))

def line (form : RowFormat) (names : List String) (row : Row) : String :=
  match form with
  | .tabs => tabbed row ++ "\n"
  | .json => (jsonRow (jsonKeys names) row).render ++ "\n"

def lines (form : RowFormat) (names : List String) (rows : List Row) : String :=
  String.join (rows.map (line form names))

def columnLines (fields : List PhysicalField) : String :=
  String.join (fields.map fun f => f.name ++ "\t" ++ f.typeName ++ "\n")

end Report

end TableScan
