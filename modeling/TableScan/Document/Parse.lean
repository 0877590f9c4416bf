import TableScan.Document.Lexer
import TableScan.Document.Node
import TableScan.Document.Same
import TableScan.Document.Scalar

/-!
# Documents in YAML

The value of a document: scalars by their texts and tags, references by what they refer to. The
number of references that are followed is bounded in terms of the size of the document, so that a
small text cannot stand for a huge value.
-/

namespace TableScan.Document

namespace Node

mutual

/-- The nodes with an anchor, in the order in which they begin. -/
def anchored : Node → List (Nat × Node)
  | scalar a t p s => (a.map fun n => (n, scalar a t p s)).toList
  | sequence a t items => (a.map fun n => (n, sequence a t items)).toList ++ allAnchored items
  | mapping a t entries =>
    (a.map fun n => (n, mapping a t entries)).toList ++ allEntriesAnchored entries
  | reference _ => []

def allAnchored : List Node → List (Nat × Node)
  | [] => []
  | n :: rest => n.anchored ++ allAnchored rest

def allEntriesAnchored : List (Node × Node) → List (Nat × Node)
  | [] => []
  | (k, v) :: rest => k.anchored ++ v.anchored ++ allEntriesAnchored rest

end

mutual

/-- The size of a node: one for what has no parts, and two for a collection. -/
def size : Node → Nat
  | scalar _ _ _ _ => 1
  | sequence _ _ items => 2 + totalSize items
  | mapping _ _ entries => 2 + totalEntrySize entries
  | reference _ => 1

def totalSize : List Node → Nat
  | [] => 0
  | n :: rest => n.size + totalSize rest

def totalEntrySize : List (Node × Node) → Nat
  | [] => 0
  | (k, v) :: rest => k.size + v.size + totalEntrySize rest

end

end Node

abbrev Following := StateT Nat Option

/-- How many references may be followed for each unit of the size of a document. -/
def referencesPerSize : Nat := 100

/-- The node that a node stands for: of the nodes with the number that it refers to, the last
one. -/
def target (anchored : List (Nat × Node)) : Node → Following Node
  | .reference n => do
    match ← get with
    | 0 => failure
    | left + 1 =>
      set left
      match anchored.reverse.lookup n with
      | some node => return node
      | none => failure
  | node => return node

/-- The collection with the tag that it has. Only names of the writer's own count. -/
def withTag? (tag : Option Tag) (d : Document) : Option Document :=
  match tag with
  | some (.own name) => if name = "" then none else some (tagged (Tag.bareName name) d)
  | _ => some d

/-- The mapping of entries, if no key is said twice. -/
def ofEntries? (entries : List (Document × Document)) : Option Document :=
  (entries.foldlM (fun l e => addEntry? l e.1 e.2) []).map mapping

/-- The value of a node, in which at most `depth` collections are nested. -/
def ofNode? (anchored : List (Nat × Node)) : (depth : Nat) → Node → Following Document
  | depth, node => do
    match ← target anchored node, depth with
    | .scalar _ tag isPlain s, _ => ofScalar? tag isPlain s
    | .sequence _ tag items, depth + 1 => do
      withTag? tag (sequence (← items.mapM (ofNode? anchored depth)))
    | .mapping _ tag entries, depth + 1 => do
      let entries ← entries.mapM fun e => do
        return (← ofNode? anchored depth e.1, ← ofNode? anchored depth e.2)
      withTag? tag (← ofEntries? entries)
    | _, _ => failure

def parse? (s : String) : Option Document := do
  let node ← Node.ofTokens? (← Token.ofText? s.toList)
  (ofNode? node.anchored Node.depthLimit node).run' (referencesPerSize * node.size)

end TableScan.Document
