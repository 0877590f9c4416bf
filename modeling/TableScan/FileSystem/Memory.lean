import TableScan.Error
import TableScan.File.Stored
import TableScan.FileSystem.Basic

/-!
# File systems kept in memory

A list of files by path, listed in that order. A directory is a path that is declared as one or
that some file lies below. Each kind of request can be made to fail, and the length that a listing
gives need not be the length of the content.
-/

namespace TableScan

inductive FileRequest where
  | presence
  | kind
  | status
  | listing
  | opening
  deriving DecidableEq, Repr

def FileRequest.name : FileRequest → String
  | presence => "exists"
  | kind => "is_directory"
  | status => "status"
  | listing => "list"
  | opening => "open"

structure MemoryFile where
  path : String
  data : File.Stored
  /-- The length that status and listings give. -/
  length : Nat
  /-- The words in which opening the file fails. -/
  openFailure : Option String := none

structure MemoryStore where
  files : List MemoryFile
  directories : List String := []
  /-- The requests that fail, with the words they fail in. -/
  failures : List (FileRequest × String) := []

namespace MemoryFile

def status (f : MemoryFile) : FileStatus :=
  { path := f.path, length := f.length, isDirectory := false }

def below? (f : MemoryFile) (directory : String) : Option (List Char) :=
  let start := directory.toList ++ ['/']
  if start.isPrefixOf f.path.toList then some (f.path.toList.drop start.length) else none

end MemoryFile

namespace MemoryStore

def trimmed (path : String) : String :=
  String.ofList (path.toList.reverse.dropWhile (· = '/')).reverse

def file? (m : MemoryStore) (path : String) : Option MemoryFile := m.files.find? (·.path = path)

def isDirectory (m : MemoryStore) (path : String) : Bool :=
  m.directories.contains path || m.files.any fun f => (f.below? path).isSome

/-- The files below a directory; only those directly in it unless `recursive`. -/
def listFiles (m : MemoryStore) (directory : String) (recursive : Bool) : List FileStatus :=
  m.files.filterMap fun f =>
    (f.below? directory).bind fun rest =>
      if recursive || !rest.contains '/' then some f.status else none

def failure (request : FileRequest) (path words : String) : Error :=
  .fs request.name path (.other words)

def check (m : MemoryStore) (request : FileRequest) (path : String) : Except Error Unit :=
  match m.failures.lookup request with
  | some words => .error (failure request path words)
  | none => .ok ()

def status (m : MemoryStore) (path : String) : Except Error FileStatus :=
  match m.file? (trimmed path) with
  | some f => .ok f.status
  | none =>
    if m.isDirectory (trimmed path) then
      .ok { path := trimmed path, length := 0, isDirectory := true }
    else .error (failure .status path "no such file")

/-- Opens the file at a path, spelled as it is listed. -/
def openFile (m : MemoryStore) (path : String) : Except Error File.Handle :=
  match m.file? path with
  | none => .error (failure .opening path "no such file")
  | some f =>
    match f.openFailure with
    | some words => .error (failure .opening path words)
    | none => .ok f.data.handle

def fileSystem (m : MemoryStore) : FileSystem where
  isPresent path := do
    m.check .presence path
    return (m.file? (trimmed path)).isSome || m.isDirectory (trimmed path)
  isDirectory path := do
    m.check .kind path
    return m.isDirectory (trimmed path)
  status path := do
    m.check .status path
    m.status path
  listFiles path recursive := do
    m.check .listing path
    return m.listFiles (trimmed path) recursive
  openFile path := do
    m.check .opening path
    m.openFile path

end MemoryStore

end TableScan
