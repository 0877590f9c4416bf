import TableScan.FileSystem.Basic
import TableScan.Format.Basic
import TableScan.Options
import TableScan.Split

/-!
# The files and splits of a table

Which files of a location take part, and the splits they are read in. A location that is a file is
read as it is; of a directory the eligible files are read, in the order of its listing. Nothing to
read is an error, so an enumeration that succeeds is never empty.
-/

namespace TableScan

/-- A path is hidden if one of its components begins with `_` or `.`. -/
def isHidden (relative : List Char) : Bool :=
  (Text.pieces '/' relative).any fun component =>
    component.head? = some '_' || component.head? = some '.'

/-- The path of a file below a root, or the file's name if it is not below the root. Slashes at
the end of the root, and repeated slashes after it, do not count. -/
def relativeTo (root path : List Char) : List Char :=
  let root := (root.reverse.dropWhile (· = '/')).reverse
  if root.isPrefixOf path then
    match path.drop root.length with
    | '/' :: rest => rest.dropWhile (· = '/')
    | _ => fileNameOf path
  else fileNameOf path

/-- A path has one of the suffixes that take part; if none is named, all do. -/
def hasSuffix (suffixes : List String) (path : String) : Bool :=
  suffixes.isEmpty || suffixes.any fun s => s.toList.isSuffixOf path.toList

def isEligible (root : String) (file : FileStatus) (options : Options) : Bool :=
  !file.isDirectory && options.minEligibleBytes ≤ file.length &&
    (options.includeHidden || !isHidden (relativeTo root.toList file.path.toList)) &&
    hasSuffix options.extensions file.path

/-- The files that take part in a scan of a location, in the order they are read. -/
def eligibleFiles (fs : FileSystem) (location : String) (options : Options) :
    Except Error (List FileStatus) := do
  if !(← fs.isPresent location) then
    throw (.config (.noSuchLocation location))
  let root ← fs.status location
  if !(← fs.isDirectory location) then
    return [root]
  -- listed paths have the form of the root's own path, however the location was spelled
  let listed ← fs.listFiles location options.recursive
  let files := listed.filter (isEligible root.path · options)
  if files.isEmpty then
    throw (.config (.noReadableFiles location listed.length))
  return files

/-- The splits of one file: ranges of text if a limit is set, and otherwise the whole file. -/
def splitsOf (format : Format) (options : Options) (file : FileStatus) : List Split :=
  match options.maxSplitBytes with
  | some limit =>
    -- that there is room for the ranges is taken for granted here
    if format.isSplittable then Split.ranges file.path file.length limit
    else [.wholeFile file.path file.length]
  | none => [.wholeFile file.path file.length]

def enumerateSplits (fs : FileSystem) (location : String) (format : Format) (options : Options) :
    Except Error (List Split) := do
  let files ← eligibleFiles fs location options
  return files.flatMap (splitsOf format options)

end TableScan
