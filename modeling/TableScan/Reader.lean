import TableScan.Columnar.Cursor
import TableScan.Reader.Settings

/-!
# Split readers

A reader of one split, whatever its format: it is opened before the first record, steps from
record to record, and gives the text of each cell of the current one.
-/

namespace TableScan

inductive SplitReader where
  | text (r : TextReader)
  | columnar (c : Columnar.Cursor)

def openColumnar (format : Format) (fs : FileSystem) (split : Split) (batchSize : Nat) :
    Except Error Columnar.Cursor :=
  match format with
  | .text => .error (.config .noEmbeddedSchema)
  | .columnar encoding => do
    let handle ← fs.openFile split.path
    match handle.decode encoding batchSize with
    | some source => .ok (.ofSource split.path source)
    | none => .error (.read "open" split.path .decoder)

namespace SplitReader

def openSplit (format : Format) (fs : FileSystem) (split : Split) (settings : ReaderSettings) :
    Except Error SplitReader :=
  match format with
  | .text => (TextReader.openSplit fs split settings.text settings.textSchema).map text
  | .columnar _ => (openColumnar format fs split settings.batchSize).map columnar

def advance : SplitReader → Except Error Bool × SplitReader
  | text r => r.advance.map id text
  | columnar c => c.advance.map id columnar

def left : SplitReader → Nat
  | text r => r.left
  | columnar c => c.left

theorem left_advance {reader reader' : SplitReader} (h : reader.advance = (.ok true, reader')) :
    reader'.left < reader.left := by
  cases reader with
  | text r =>
    simp only [advance, Prod.map, id, Prod.mk.injEq] at h
    obtain ⟨h₁, rfl⟩ := h
    exact TextReader.left_advance (Prod.ext h₁ rfl)
  | columnar c =>
    simp only [advance, Prod.map, id, Prod.mk.injEq] at h
    obtain ⟨h₁, rfl⟩ := h
    exact Columnar.Cursor.left_advance (Prod.ext h₁ rfl)

def physicalSchema : SplitReader → List PhysicalField
  | text r => r.schema
  | columnar c => c.physicalSchema

/-- The text of column `i` of the current record; absent for a null and beyond the last column. -/
def fieldValue (reader : SplitReader) (i : Nat) : Except Error (Option String) :=
  match reader with
  | text r => .ok (r.fieldValue i)
  | columnar c => c.fieldValue i

def path : SplitReader → String
  | text r => r.path
  | columnar c => c.path

end SplitReader

end TableScan
