import TableScan.Document

/-!
# Sameness of keys

A mapping has each key once. Keys are the same if they have the same content: numbers by their
value within their kind, sequences by their items in order, and mappings by their entries in any
order.
-/

namespace TableScan.Document

/-- Whether two numbers are the same: not a number is the same as itself, and the two zeros are
one. -/
def sameReal : Number.Binary → Number.Binary → Bool
  | .finite _ 0 _, .finite _ 0 _ => true
  | a, b => a = b

mutual

def same : Document → Document → Bool
  | null, null => true
  | boolean a, boolean b => a = b
  | integer a, integer b => a = b
  | real a, real b => sameReal a b
  | text a, text b => a = b
  | sequence a, sequence b => sameItems a b
  | mapping a, mapping b => a.length = b.length && sameEntries a b
  | tagged s a, tagged t b => s = t && same a b
  | _, _ => false

def sameItems : List Document → List Document → Bool
  | [], [] => true
  | a :: as, b :: bs => same a b && sameItems as bs
  | _, _ => false

/-- Whether each of the entries is among others. -/
def sameEntries : List (Document × Document) → List (Document × Document) → Bool
  | [], _ => true
  | (k, v) :: rest, others =>
    others.any (fun e => same k e.1 && same v e.2) && sameEntries rest others

end

def addEntry? (entries : List (Document × Document)) (key value : Document) :
    Option (List (Document × Document)) :=
  if entries.any fun e => same key e.1 then none else some (entries ++ [(key, value)])

end TableScan.Document
