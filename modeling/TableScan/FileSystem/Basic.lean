import TableScan.File.Handle

/-!
# File systems

What a scan asks of the place that keeps a table's files. The four questions and the opening of a
file are independent of each other: nothing here says that their answers agree.
-/

namespace TableScan

structure FileStatus where
  path : String
  length : Nat
  isDirectory : Bool
  deriving DecidableEq, Repr

/-- The last component of a path, without regard to slashes at its end. -/
def fileNameOf (path : List Char) : List Char :=
  let trimmed := (path.reverse.dropWhile (· = '/')).reverse
  (trimmed.reverse.takeWhile (· ≠ '/')).reverse

def FileStatus.fileName (s : FileStatus) : String := String.ofList (fileNameOf s.path.toList)

structure FileSystem where
  /-- Whether there is an entry at a path. -/
  isPresent : (path : String) → Except Error Bool
  isDirectory : (path : String) → Except Error Bool
  /-- The entry at a path, with the path in the form that listings use. -/
  status : (path : String) → Except Error FileStatus
  /-- The files under a path, in a fixed order; only those directly in it unless `recursive`. -/
  listFiles : (path : String) → (recursive : Bool) → Except Error (List FileStatus)
  openFile : (path : String) → Except Error File.Handle

end TableScan
