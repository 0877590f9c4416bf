import TableScan.Document.Parse
import TableScan.Params

/-!
# Table files

A table described in a file: its format and its parameters, as one record. If the file has no
options the table is read with the options of the environment. Values have no tags, except that
those of the whole, of the names and of the format do not count.
-/

namespace TableScan

/-- A table as a file, or a caller's own words, describe it. -/
structure TableFile where
  /-- The tag of the format. -/
  format : Option String := none
  params : Params := {}
  deriving DecidableEq, Repr

namespace TableFile

def ofEnvironment (vars : List (String × String)) : TableFile :=
  { params := { options := .ofEnvironment vars } }

def formatName : String := "format"

/-- The entries of a document that describes a table. An empty document describes nothing. -/
def entries? (d : Document) : Option (List (Document × Document)) :=
  match d.untagged with
  | .mapping entries => some entries
  | .null => some []
  | _ => none

/-- The entries by their names, if they have names only. -/
def named? (entries : List (Document × Document)) : Option (List (String × Document)) :=
  entries.mapM fun (k, v) => do return (← k.untagged.text?, v)

/-- Whether a document has options of its own. -/
def hasOptions (entries : List (Document × Document)) : Bool :=
  entries.any fun e => e.1.text? = some "options"

/-- The format among entries, which is named at most once. Only a null without a tag is an absent
one. -/
def format? (entries : List (String × Document)) : Option (Option String) :=
  match (entries.filter (·.1 = formatName)).map (·.2) with
  | [] => some none
  | [d] => d.optional? (·.untagged.text?)
  | _ => none

def ofDocument? (vars : List (String × String)) (d : Document) : Option TableFile := do
  let entries ← entries? d
  let named ← named? entries
  let others := named.filter (·.1 ≠ formatName)
  guard (others.all fun e => !e.2.hasTag)
  let format ← format? named
  let params ← Params.ofDocument? (.mapping (others.map fun e => (.text e.1, e.2)))
  let options := if hasOptions entries then params.options else .ofEnvironment vars
  return { format, params := { params with options } }

def parse? (vars : List (String × String)) (s : String) : Option TableFile := do
  ofDocument? vars (← Document.parse? s)

end TableFile

end TableScan
