import TableScan.ColumnList
import TableScan.CommandLine.Command
import TableScan.FileSystem.Host
import TableScan.Session
import TableScan.TableFile

/-!
# Running a command

A command is run on the host's files and the variables of the environment, under the principal of
the process, and leaves an exit code and the texts of its two output streams. Rows that were read
before a failure are printed all the same.
-/

namespace TableScan.CommandLine

structure Outcome where
  exitCode : Nat
  output : String
  errors : String
  deriving DecidableEq, Repr

/-- Why a command fails. -/
inductive Failure where
  | error (e : Error)
  /-- The table file cannot be read. -/
  | io (e : IoError)
  /-- The table file describes no table. -/
  | malformedTableFile
  | formatRequired
  | locationRequired

namespace Failure

def message : Failure → String
  | error e => e.message
  | io e => e.message
  | malformedTableFile => "the table file does not describe a table"
  | formatRequired =>
    let quote := String.singleton (Char.ofNat 0x60)
    "table format is required (--format or " ++ quote ++ "format:" ++ quote ++
      " in the descriptor)"
  | locationRequired =>
    let quote := String.singleton (Char.ofNat 0x60)
    "table location is required (--location or " ++ quote ++ "location:" ++ quote ++
      " in the descriptor)"

def causes : Failure → List String
  | error e => e.causes
  | _ => []

def report (f : Failure) : String :=
  "Error: " ++ f.message ++ "\n" ++
    String.join (f.causes.map fun c => "  caused by: " ++ c ++ "\n")

end Failure

def lifted {α : Type} : Except Error α → Except Failure α
  | .ok a => .ok a
  | .error e => .error (.error e)

def Outcome.of (output : String) (failure : Option Failure) : Outcome :=
  match failure with
  | none => { exitCode := 0, output, errors := "" }
  | some f => { exitCode := 1, output, errors := f.report }

def readText (host : Host) (path : String) : Except IoError String := do
  let (_, there) ← host.find (Text.bytesOf path)
  let handle := Host.handleOf there.node
  let (bytes, _) := File.ByteReader.readToEnd 65536 (File.Cursor.ofHandle handle 0)
  match Text.ofBytes? (← bytes) with
  | some text => return text
  | none => throw .notUtf8

/-- The table that the table file describes, or the environment if none is named. -/
def loadTable (host : Host) (vars : List (String × String)) (tableFile : Option String) :
    Except Failure TableFile :=
  match tableFile with
  | none => .ok (.ofEnvironment vars)
  | some path =>
    match readText host path with
    | .error e => .error (.io e)
    | .ok text =>
      match TableFile.parse? vars text with
      | some t => .ok t
      | none => .error .malformedTableFile

/-- The table as the command has it: what the command says stands above the table file. -/
def overridden (c : ReadCommand) (t : TableFile) : TableFile :=
  { format := c.format.or t.format
    params :=
      { t.params with
        location := c.location.getD t.params.location
        fieldDelimiter := c.delimiter.or t.params.fieldDelimiter
        projection := c.projection.or t.params.projection } }

/-- The format and the parameters of the table to be read. -/
def resolveTable (host : Host) (vars : List (String × String)) (c : ReadCommand) :
    Except Failure (String × Params) := do
  let t := overridden c (← loadTable host vars c.tableFile)
  match t.format with
  | none => throw .formatRequired
  | some format =>
    if t.params.location = "" then throw .locationRequired
    return (format, t.params)

def openTable (host : Host) (vars : List (String × String)) (c : ReadCommand) :
    Except Failure (List String × Session) := do
  let (format, params) ← resolveTable host vars c
  lifted (Location.checkServed params.location)
  let session ← lifted (openSession format params host.fileSystem .current)
  return (params.projectedNames, session)

/-- The location that a command will go to, as far as `host` holds the table file. -/
def placeOf (host : Host) (vars : List (String × String)) : Command → Option String
  | .columns c => some (Location.normalized c.location)
  | .read c =>
    match resolveTable host vars c with
    | .ok (_, params) => some params.location
    | .error _ => none

/-- Prints the rows of a table. The session is closed whatever became of the rows, and a failure to
close it is told before theirs. -/
def runRead (host : Host) (vars : List (String × String)) (c : ReadCommand) : Outcome :=
  match openTable host vars c with
  | .error f => .of "" (some f)
  | .ok (names, session) =>
    let (rows, failure, session) := session.drain host.fileSystem c.limit
    let text := Report.lines c.form names rows
    match session.close.1 with
    | .error e => .of text (some (.error e))
    | .ok _ => .of text (failure.map .error)

def findColumns (host : Host) (vars : List (String × String)) (c : ColumnsCommand) :
    Except Error (List PhysicalField) := do
  let format ← Format.parse c.format
  Location.checkServed c.location
  (columnList format host.fileSystem c.location (.ofEnvironment vars) .current).1

def runColumns (host : Host) (vars : List (String × String)) (c : ColumnsCommand) : Outcome :=
  match findColumns host vars c with
  | .error e => .of "" (some (.error e))
  | .ok fields =>
    .of (if c.asDescriptor then Descriptor.render fields ++ "\n" else Report.columnLines fields)
      none

def usage : String :=
  "Usage: tablescan read [-t|--table FILE] [--location PLACE] [--format FORMAT]\n" ++
    "         [--delimiter TEXT] [--project INDICES] [--output tsv|json] [--limit ROWS]\n" ++
    "       tablescan columns --format FORMAT --location PLACE [--descriptor]\n"

def runCommand (host : Host) (vars : List (String × String)) : Command → Outcome
  | .read c => runRead host vars c
  | .columns c => runColumns host vars c

def run (host : Host) (vars : List (String × String)) (words : List String) : Outcome :=
  match parse words with
  | .ok command => runCommand host vars command
  | .error .help => { exitCode := 0, output := usage, errors := "" }
  | .error .usage => { exitCode := 2, output := "", errors := usage }

end TableScan.CommandLine
