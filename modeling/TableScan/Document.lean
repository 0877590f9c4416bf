import TableScan.Number.Binary
import TableScan.Text.Numeral

/-!
# Documents

Structured data as a descriptor file or a caller gives it: scalars, sequences and mappings. The
readers below take a document apart by type and answer nothing for a document of another shape. A
record is given as a mapping from its fields, by name or by place, or as a sequence of its first
fields in order.
-/

namespace TableScan

inductive Document where
  | null
  | boolean (b : Bool)
  | integer (n : Int)
  /-- A number that is not written as an integer. -/
  | real (x : Number.Binary)
  | text (s : String)
  | sequence (items : List Document)
  | mapping (entries : List (Document × Document))
  /-- A value to which its writer gave a type of a private name. -/
  | tagged (tag : String) (value : Document)

namespace Document

/-! ### Types -/

def boolean? : Document → Option Bool
  | boolean b => some b
  | _ => none

def text? : Document → Option String
  | text s => some s
  | _ => none

def natural64? : Document → Option Nat
  | integer (.ofNat n) => if n ≤ Text.maxWord64 then some n else none
  | _ => none

def list? {α : Type} (read : Document → Option α) : Document → Option (List α)
  | sequence items => items.mapM read
  | _ => none

def optional? {α : Type} (read : Document → Option α) : Document → Option (Option α)
  | null => some none
  | d => (read d).map some

def texts? : Document → Option (List (String × String))
  | mapping entries => entries.mapM fun (k, v) => do return (← k.text?, ← v.text?)
  | _ => none

def untagged : Document → Document
  | tagged _ d => d.untagged
  | d => d

mutual

/-- Whether a part of the document has a tag. -/
def hasTag : Document → Bool
  | tagged _ _ => true
  | sequence items => anyHasTag items
  | mapping entries => anyEntryHasTag entries
  | _ => false

def anyHasTag : List Document → Bool
  | [] => false
  | d :: rest => d.hasTag || anyHasTag rest

def anyEntryHasTag : List (Document × Document) → Bool
  | [] => false
  | (k, v) :: rest => k.hasTag || v.hasTag || anyEntryHasTag rest

end

/-! ### Records -/

structure Record where
  values : List (Option Document)

/-- The field that a key names, by its name or by its place. A key may name a field that is not
known; other keys are no names. -/
def place? (names : List String) : Document → Option (Option Nat)
  | text s => some (names.idxOf? s)
  | integer (.ofNat n) => some (if n < names.length then some n else none)
  | _ => none

/-- The record of fields with these names that a document gives. No field is given twice. -/
def record? (names : List String) : Document → Option Record
  | sequence items =>
    if items.length ≤ names.length then
      some ⟨items.map some ++ List.replicate (names.length - items.length) none⟩
    else none
  | mapping entries => do
    let places ← entries.mapM fun e => place? names e.1
    let given := (places.zip entries).filterMap fun (p, e) => p.map (·, e.2)
    guard (given.map (·.1)).Nodup
    return ⟨(List.range names.length).map (given.lookup ·)⟩
  | _ => none

def Record.field? (r : Record) (place : Nat) : Option Document := r.values[place]?.join

def Record.fieldD {α : Type} (r : Record) (place : Nat) (read : Document → Option α)
    (default : α) : Option α :=
  match r.field? place with
  | some v => read v
  | none => some default

end Document

end TableScan
