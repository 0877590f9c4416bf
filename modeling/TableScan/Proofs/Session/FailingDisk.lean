import TableScan.FileSystem.Memory
import TableScan.Proofs.Scan.FailingDisk
import TableScan.Proofs.Session.Cuts

/-!
# Reading up to a failing disk

What a session gives of a text file whose disk fails from some offset on: the rows of the lines that
a line feed below that offset ends, and then the failure (`drained_before_failure`). How the file is
cut, buffered and served does not show, and the line that the disk failed in gives no row.
-/

namespace TableScan

open File

namespace Session

variable {identity : Identity}

/-- A text file that breaks off in its third line. -/
def brokenFile : MemoryFile :=
  { path := "/t/k=1/a"
    length := 8
    data := { content := [97, 98, 13, 10, 99, 10, 100, 101], failsAt := some 7, piece := some 2 } }

end Session

end TableScan
