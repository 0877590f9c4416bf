/-!
# Failures of columnar data

What goes wrong between a decoded file and the text of a cell: a batch that could not be computed,
or a time zone that names no zone.
-/

namespace TableScan.Columnar

inductive Fault where
  | compute (message : String)
  /-- The zone of a timestamp column names no zone. -/
  | unknownZone (name : String)
  deriving DecidableEq, Repr

def Fault.message : Fault → String
  | compute m => s!"Compute error: {m}"
  | unknownZone z => s!"Parser error: Invalid timezone \"{z}\": failed to parse timezone"

end TableScan.Columnar
