import TableScan.Columnar.Cursor

/-!
# Images of columnar files

What a columnar file holds, apart from the bytes that spell it: an image is decoded by the decoder
of its own encoding, in batches of any size, and refused by every other.
-/

namespace TableScan.Columnar

structure Image where
  encoding : Encoding
  schema : Schema
  rows : List CellRow

/-- A list in pieces of `size` items, the last one possibly shorter. -/
def piecesOf {α : Type} (size : Nat) (l : List α) : List (List α) :=
  match l with
  | [] => []
  | a :: l => (a :: l.take (size - 1)) :: piecesOf size (l.drop (size - 1))
termination_by l.length
decreasing_by
  simp only [List.length_drop, List.length_cons]
  omega

/-- The image as a decoder gives it. -/
def Image.source (image : Image) (batchSize : Nat) : Source :=
  { schema := image.schema, batches := (piecesOf batchSize image.rows).map .ok }

end TableScan.Columnar
