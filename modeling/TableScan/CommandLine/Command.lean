import TableScan.CommandLine.Options
import TableScan.Report
import TableScan.Text.Numeral

/-!
# Commands

The two commands: `read` prints the rows of a table, and `columns` lists the columns of a table of
columnar files.
-/

namespace TableScan.CommandLine

/-- What `read` is told. What is given here stands above what the table file says. -/
structure ReadCommand where
  tableFile : Option String := none
  location : Option String := none
  format : Option String := none
  delimiter : Option String := none
  projection : Option (List Nat) := none
  form : RowFormat := .tabs
  /-- The number of rows to print at most. -/
  limit : Option Nat := none
  deriving DecidableEq, Repr

structure ColumnsCommand where
  format : String
  location : String
  /-- The columns are printed as one struct descriptor. -/
  asDescriptor : Bool
  deriving DecidableEq, Repr

inductive Command where
  | read (c : ReadCommand)
  | columns (c : ColumnsCommand)
  deriving DecidableEq, Repr

def readForms : List OptionForm :=
  [{ name := "table", letter := some 't' }, { name := "location" }, { name := "format" },
    { name := "delimiter" }, { name := "project" }, { name := "output" }, { name := "limit" }]

def columnsForms : List OptionForm :=
  [{ name := "format" }, { name := "location" }, { name := "descriptor", takesValue := false }]

def orUsage {α : Type} : Option α → Except Refusal α
  | some a => .ok a
  | none => .error .usage

def readGiven {α : Type} (read : String → Option α) : Option String → Except Refusal (Option α)
  | none => .ok none
  | some s => (orUsage (read s)).map some

/-- Exactly `tsv` and `json`. -/
def rowFormat? (s : String) : Option RowFormat :=
  if s = "tsv" then some .tabs else if s = "json" then some .json else none

/-- Column indices with commas between them. -/
def indices? (s : String) : Option (List Nat) :=
  (Text.pieces ',' s.toList).mapM fun p => Text.numeral? 10 Text.maxWord64 p

/-- A path; the empty text is none. -/
def path? (s : String) : Option String := if s = "" then none else some s

def orHelp {α : Type} (c : Choice) (command : α) : Except Refusal α :=
  if c.asksHelp then .error .help else .ok command

def parseRead (words : List String) : Except Refusal ReadCommand := do
  let c ← given readForms words
  let projects ← orUsage ((c.valuesOf "project").mapM indices?)
  orHelp c {
    tableFile := ← readGiven path? (← c.once "table")
    location := ← c.once "location"
    format := ← c.once "format"
    delimiter := ← c.once "delimiter"
    projection := if projects = [] then none else some projects.flatten
    form := (← readGiven rowFormat? (← c.once "output")).getD .tabs
    limit := ← readGiven Text.natural64? (← c.once "limit") }

/-- The command `columns` with the words after it. Help is given also if an option is missing. -/
def parseColumns (words : List String) : Except Refusal ColumnsCommand := do
  let c ← given columnsForms words
  let format ← c.once "format"
  let location ← c.once "location"
  let descriptor ← c.once "descriptor"
  orHelp c ()
  return {
    format := ← orUsage format
    location := ← orUsage location
    asDescriptor := descriptor.isSome }

def topics : List String := ["read", "columns", "help"]

def parse (words : List String) : Except Refusal Command :=
  match words with
  | "read" :: words => (parseRead words).map .read
  | "columns" :: words => (parseColumns words).map .columns
  | ["help"] => .error .help
  | ["help", topic] => .error (if topics.contains topic then .help else .usage)
  | word :: _ =>
    match markOf [] word with
    | .ok .help => .error .help
    | _ => .error .usage
  | [] => .error .usage

end TableScan.CommandLine
