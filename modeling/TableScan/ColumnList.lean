import TableScan.Enumeration
import TableScan.Impersonation
import TableScan.Location
import TableScan.Reader

/-!
# Columns of a location

The stored columns of a table of columnar files: those of the first of its files that has any.
-/

namespace TableScan

/-- The columns of the first file that has any. A file that does not open ends the search. -/
def firstColumns (format : Format) (fs : FileSystem) (batchSize : Nat) :
    List FileStatus → Except Error (Option (List PhysicalField))
  | [] => .ok none
  | file :: files => do
    let cursor ← openColumnar format fs (.wholeFile file.path file.length) batchSize
    if cursor.physicalSchema.isEmpty then firstColumns format fs batchSize files
    else return some cursor.physicalSchema

def columnsAt (format : Format) (fs : FileSystem) (location : String) (options : Options) :
    Except Error (List PhysicalField) := do
  let files ← eligibleFiles fs location options
  match ← firstColumns format fs (max options.batchSize 1) files with
  | some columns => return columns
  | none => throw (.config (.noReadableSchema format location))

/-- The columns of a location, looked up as one call of an identity. A template at the end of the
location is left out. Text files have no columns to list, and no call is made for them. -/
def columnList (format : Format) (fs : FileSystem) (location : String) (options : Options)
    (imp : Impersonation) : Except Error (List PhysicalField) × Impersonation :=
  if format.isColumnar then
    let location := Location.normalized location
    let (result, _, imp) := imp.runPhase .configuration "columnList" location
      (fun () => (columnsAt format fs location options, ())) ()
    (result, imp)
  else (.error (.config (.noColumnListing format)), imp)

end TableScan
