import TableScan.Document.Name
import TableScan.Text.Utf8

/-!
# Tags

What the type that a writer gives to a value means: a private name, one of the standard types of
scalars, or a type that is not known. What handles stand for is told above the document.
-/

namespace TableScan.Document

/-- The type that is given to a value. -/
inductive Tag where
  /-- A name of the writer's own. -/
  | own (name : String)
  | boolean
  | integer
  | real
  | null
  /-- A type that is not known; its scalars are texts. -/
  | other
  /-- A name of the writer's own that is not text; it has no effect. -/
  | unreadable
  deriving DecidableEq, Repr

namespace Tag

def standard : List UInt8 := Text.bytesOf "tag:yaml.org,2002:"

def ofBytes (bytes : List UInt8) : Tag :=
  match bytes with
  | 33 :: name =>
    match Text.ofBytes? name with
    | some name => own name
    | none => unreadable
  | _ =>
    if bytes = standard ++ Text.bytesOf "bool" then boolean
    else if bytes = standard ++ Text.bytesOf "int" then integer
    else if bytes = standard ++ Text.bytesOf "float" then real
    else if bytes = standard ++ Text.bytesOf "null" then null
    else other

/-- The name by which a private tag is known. A mark at its head does not count. -/
def bareName (name : String) : String :=
  match name.toList with
  | '!' :: c :: rest => String.ofList (c :: rest)
  | _ => name

end Tag

/-! ### Handles -/

/-- What handles stand for. -/
abbrev Shorthands := List (List Char × List UInt8)

namespace Shorthands

/-- What handles stand for unless a document says otherwise. -/
def usual : Shorthands := [(['!'], asciiBytes ['!']), (['!', '!'], Tag.standard)]

def tag? (s : Shorthands) (name : TagName) : Option Tag :=
  if name.handle = [] then some (.ofBytes name.suffix)
  else (s.lookup name.handle).map fun start => .ofBytes (start ++ name.suffix)

/-- What handles stand for under directives. A handle is explained at most once, and the version is
told at most once; it is 1.1 or 1.2. -/
def ofDirectives? (ds : List Directive) : Option Shorthands :=
  let versions := ds.filterMap fun
    | .version major minor => some (major, minor)
    | .shorthand _ _ => none
  let given := ds.filterMap fun
    | .shorthand handle start => some (handle, start)
    | .version _ _ => none
  if versions.length ≤ 1 ∧ (versions.all fun v => v = (1, 1) || v = (1, 2)) ∧
      (given.map (·.1)).Nodup then
    some (given ++ usual)
  else none

end Shorthands

end TableScan.Document
