import TableScan.Error
import TableScan.File.Stored
import TableScan.FileSystem.Basic
import TableScan.Location

/-!
# The host's file system

The files of the host as a tree of directories, files and symbolic links. A path is followed
component by component, through at most forty links; names are bytes and need not be text. A
listing visits the entries of each directory in the order of their names, whatever order the host
keeps them in, and goes through links to directories as if they were directories.
-/

namespace TableScan.Host

abbrev Name := List UInt8

inductive Node where
  | file (data : File.Stored)
  | directory (entries : List (Name × Node))
  | link (target : List UInt8)

def slash : UInt8 := 47

/-- The names `.` and the empty one, both of which stand for the directory they are met in. -/
def isHere (name : Name) : Bool := name = [] || name = [46]

/-- The name `..`, which stands for the directory around the one it is met in. -/
def isAbove (name : Name) : Bool := name = [46, 46]

namespace Node

def isDirectory : Node → Bool
  | directory _ => true
  | _ => false

/-- The length of a file; nothing is said of the length of a directory. -/
def length : Node → Nat
  | file data => data.content.length
  | _ => 0

/-- The tree in which a path leads to `leaf`. Directories on the way are made where they are
missing. -/
def insertAt (leaf : Node) : List Name → Node → Node
  | [], _ => leaf
  | name :: rest, node =>
    let entries := match node with
      | directory entries => entries
      | _ => []
    let old := (entries.lookup name).getD (directory [])
    directory (entries.filter (·.1 ≠ name) ++ [(name, insertAt leaf rest old)])

end Node

/-- A place in a tree: a node, and the directories around it from the innermost on. -/
structure Position where
  node : Node
  above : List Node

/-- The directory around a place; the root is around itself. -/
def Position.parent (p : Position) : Position :=
  match p.above with
  | [] => p
  | node :: above => { node, above }

/-- Where a path begins: at the root if it is absolute, and otherwise at `here`. -/
def origin (root : Node) (here : Position) (path : List UInt8) : Position :=
  if path.head? = some slash then { node := root, above := [] } else here

/-- The number of bytes that no path reaches. -/
def pathLimit : Nat := 4096

/-- The number of bytes that a name has at most. -/
def nameLimit : Nat := 255

/-- The number of links that a path leads through at most. -/
def linkLimit : Nat := 40

/-- Follows a path through at most `links` links. Gives the place it leads to, and the number of
links that may still be followed. -/
def walk (root : Node) (links : Nat) (here : Position) :
    List Name → Except OsError (Nat × Position)
  | [] => .ok (links, here)
  | name :: rest =>
    match here.node with
    | .directory entries =>
      if isHere name then walk root links here rest
      else if isAbove name then walk root links here.parent rest
      else if nameLimit < name.length then .error .nameTooLong
      else
        match entries.lookup name with
        | none => .error .noEntry
        | some (.link target) =>
          match links with
          | 0 => .error .tooManyLinks
          | links + 1 =>
            walk root links (origin root here target) (Text.pieces slash target ++ rest)
        | some node => walk root links { node, above := here.node :: here.above } rest
    | _ => .error .notDirectory
termination_by names => (links, names.length)

theorem links_walk_le {root : Node} {links links' : Nat} {here there : Position}
    {names : List Name} (h : walk root links here names = .ok (links', there)) :
    links' ≤ links := by
  fun_induction walk root links here names with
  | case1 => simp_all
  | case2 _ _ _ _ _ _ _ ih => exact ih h
  | case3 _ _ _ _ _ _ _ _ ih => exact ih h
  | case4 => simp_all
  | case5 => simp_all
  | case6 => simp_all
  | case7 _ _ _ _ _ _ _ _ _ _ links ih => exact Nat.le_succ_of_le (ih h)
  | case8 _ _ _ _ _ _ _ _ _ _ _ _ ih => exact ih h
  | case9 => simp_all

/-- The concatenation of the lists that a function gives for the items of a list, up to the first
failure. -/
def concatMap {α β ε : Type} (f : α → Except ε (List β)) : List α → Except ε (List β)
  | [] => .ok []
  | a :: l => do
    let first ← f a
    let rest ← concatMap f l
    return first ++ rest

def join (path : List UInt8) (name : Name) : List UInt8 :=
  if path = [] ∨ path.getLast? = some slash then path ++ name else path ++ slash :: name

/-- Entries in the order of their names, byte by byte. -/
def byName (entries : List (Name × Node)) : List (Name × Node) :=
  entries.mergeSort fun a b => a.1 ≤ b.1

theorem sizeOf_of_mem_byName {entries : List (Name × Node)} {e : Name × Node}
    (h : e ∈ byName entries) : sizeOf e.2 < sizeOf entries := by
  have hm := List.sizeOf_lt_of_mem (List.mem_mergeSort.1 h)
  obtain ⟨name, node⟩ := e
  simp only [Prod.mk.sizeOf_spec] at hm ⊢
  omega

def statusOf (path : List UInt8) (node : Node) : FileStatus :=
  { path := Text.ofBytesLossy path, length := node.length, isDirectory := node.isDirectory }

/-- The files below a directory, which is reached by `path` with `links` links to spare. -/
def listing (root : Node) (recursive : Bool) (links : Nat) (path : List UInt8) (here : Position) :
    Except OsError (List FileStatus) :=
  match _hn : here.node with
  | .directory entries =>
    concatMap (fun ⟨(name, node), _hm⟩ =>
      let below := join path name
      if pathLimit ≤ below.length then .error .nameTooLong
      else
        match node with
        | .file data => .ok [statusOf below (.file data)]
        | .directory children =>
          if recursive then
            listing root recursive links below
              { node := .directory children, above := here.node :: here.above }
          else .ok []
        | .link target =>
          match links with
          | 0 => .error .tooManyLinks
          | links + 1 =>
            match _hw : walk root links (origin root here target) (Text.pieces slash target) with
            | .error e => .error e
            | .ok (links', there) =>
              if there.node.isDirectory then
                if recursive then listing root recursive links' below there else .ok []
              else .ok [statusOf below there.node])
      (byName entries).attach
  | _ => .ok []
termination_by (links, sizeOf here.node)
decreasing_by
  · have hs := sizeOf_of_mem_byName _hm
    simp only [_hn, Node.directory.sizeOf_spec] at hs ⊢
    exact Prod.Lex.right _ (by omega)
  · have := links_walk_le _hw
    exact Prod.Lex.left _ _ (by omega)

end Host

structure Host where
  root : Host.Node
  here : Host.Position

namespace Host

def find (h : Host) (path : List UInt8) : Except IoError (Nat × Position) :=
  if path.contains 0 then .error .zeroInName
  else if path = [] then .error (.os .noEntry)
  else if pathLimit ≤ path.length then .error (.os .nameTooLong)
  else
    match walk h.root linkLimit (origin h.root h.here path) (Text.pieces slash path) with
    | .ok found => .ok found
    | .error e => .error (.os e)

/-- The files below a path; the path itself if it leads to a file. -/
def listFiles (h : Host) (path : List UInt8) (recursive : Bool) :
    Except IoError (List FileStatus) :=
  match h.find path with
  | .error e => .error e
  | .ok (links, there) =>
    if there.node.isDirectory then
      match listing h.root recursive links path there with
      | .ok files => .ok files
      | .error e => .error (.os e)
    else .ok [statusOf path there.node]

/-- The largest offset the host can position a file at. -/
def maxHostOffset : Nat := 0x7FFFFFFFFFFFFFFF

/-- An open node. A directory can be opened, but not read. -/
def handleOf (node : Node) : File.Handle :=
  match node with
  | .file data =>
    { size := data.content.length
      readAt := fun _ offset count =>
        if maxHostOffset < offset then .error (.os .invalidArgument)
        else data.readAt offset count
      decode := data.decode }
  | _ =>
    { size := node.length
      readAt := fun _ offset _ =>
        if maxHostOffset < offset then .error (.os .invalidArgument)
        else .error (.os .isDirectory)
      decode := fun _ _ => none }

def reported {α : Type} (op path : String) : Except IoError α → Except Error α
  | .ok a => .ok a
  | .error e => .error (.fs op path e)

def fileSystem (h : Host) : FileSystem where
  isPresent path := do
    let p ← Location.hostPath path
    match h.find p with
    | .ok _ => return true
    | .error (.os .noEntry) => return false
    | .error e => throw (.fs "exists" path e)
  isDirectory path := do
    let p ← Location.hostPath path
    match h.find p with
    | .ok (_, there) => return there.node.isDirectory
    | .error _ => return false
  status path := do
    let p ← Location.hostPath path
    let (_, there) ← reported "status" path (h.find p)
    return statusOf p there.node
  listFiles path recursive := do
    let p ← Location.hostPath path
    reported "list" path (h.listFiles p recursive)
  openFile path := do
    let p ← Location.hostPath path
    let (_, there) ← reported "open" path (h.find p)
    return handleOf there.node

end Host

end TableScan
