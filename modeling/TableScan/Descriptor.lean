import TableScan.Schema
import TableScan.Text.Blank
import TableScan.Text.Pieces

/-!
# Struct descriptors

The text form of a list of fields, `struct<id:bigint,tags:map<string,int>>`. Only its top level is
cut into fields; what stands inside brackets or quotes belongs to the field around it. Reading is
lenient: an entry that is not a name, a colon and a type is left out and disturbs no other.
-/

namespace TableScan.Descriptor

/-- Where a scan of a descriptor stands: how many brackets are open, and inside which quote. -/
structure Nesting where
  depth : Nat := 0
  quote : Option Char := none
  deriving DecidableEq, Repr

namespace Nesting

def isTop (n : Nesting) : Bool := n.depth = 0 && n.quote.isNone

def isQuote (c : Char) : Bool := c = '\'' || c = '"' || c.toNat = 0x60

def isOpening (c : Char) : Bool := c = '<' || c = '(' || c = '['

def isClosing (c : Char) : Bool := c = '>' || c = ')' || c = ']'

/-- Where the scan stands after `c`. A quote ends only at its own kind, brackets inside quotes do
not count, and a closing bracket at the top is ignored. -/
def after (n : Nesting) (c : Char) : Nesting :=
  match n.quote with
  | some q => if c = q then { n with quote := none } else n
  | none =>
    if isQuote c then { n with quote := some c }
    else if isOpening c then { n with depth := n.depth + 1 }
    else if isClosing c then { n with depth := n.depth - 1 }
    else n

end Nesting

/-- Whether `c`, met in state `n`, is a separator to cut at: `sep` at the top level, and neither a
quote nor a bracket. -/
def cutsAt (sep : Char) (n : Nesting) (c : Char) : Bool :=
  c = sep && n.isTop && !Nesting.isQuote c && !Nesting.isOpening c && !Nesting.isClosing c

/-- The pieces of a text between its separators at the top level, for a scan that stands at `n`. -/
def rawPieces (sep : Char) (n : Nesting) : List Char → List (List Char)
  | [] => [[]]
  | c :: l =>
    if cutsAt sep n c then [] :: rawPieces sep n l
    else (rawPieces sep (n.after c) l).modifyHead (c :: ·)

/-- The trimmed pieces of a text between its separators at the top level. -/
def topLevelPieces (sep : Char) (s : List Char) : List (List Char) :=
  (rawPieces sep {} s).map Text.trim

/-- The body of a descriptor: the text from the first `<` to the last `>`, or the trimmed text if
they do not stand in this order. -/
def body (descriptor : List Char) : List Char :=
  let s := Text.trim descriptor
  match Text.cutAtFirst? '<' s with
  | some (_, inner) =>
    match Text.cutAtLast? '>' inner with
    | some (inside, _) => inside
    | none => s
  | none => s

/-- The field that an entry declares, if it is a name, a colon and a type. -/
def field? (entry : List Char) : Option PhysicalField :=
  match topLevelPieces ':' entry with
  | [name, type] =>
    if name = [] ∨ type = [] then none
    else some { name := String.ofList name, typeName := String.ofList type }
  | _ => none

def fieldsOfBody (body : List Char) : List PhysicalField :=
  if body = [] then [] else (topLevelPieces ',' body).filterMap field?

def fields (descriptor : String) : List PhysicalField := fieldsOfBody (body descriptor.toList)

def render (fields : List PhysicalField) : String :=
  "struct<" ++ ",".intercalate (fields.map fun f => f.name ++ ":" ++ f.typeName) ++ ">"

def split (s : String) (sep : Char) : List String :=
  (topLevelPieces sep s.toList).map String.ofList

end TableScan.Descriptor
