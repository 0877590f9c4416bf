import TableScan.Columnar.Cell
import TableScan.Error

/-!
# Rows of batches

A decoded file is its columns and a list of batches of rows, each of which may instead be a
failure. `Cursor` steps through the rows one by one; where the batches are cut does not show, and
a failed batch is reported once and then passed over.
-/

namespace TableScan.Columnar

abbrev CellRow := List Cell

/-- A decoded file. -/
structure Source where
  schema : Schema
  batches : List (Except Fault (List CellRow))

structure Cursor where
  path : String
  schema : Schema
  /-- The batches not yet begun. -/
  pending : List (Except Fault (List CellRow))
  /-- The current row and those after it in its batch; empty if there is no current row. -/
  current : List CellRow

namespace Cursor

def ofSource (path : String) (s : Source) : Cursor :=
  { path, schema := s.schema, pending := s.batches, current := [] }

/-- The first batch that has rows or is a failure, and the batches after it. -/
def nextBatch : List (Except Fault (List CellRow)) →
    Option (Except Fault (List CellRow)) × List (Except Fault (List CellRow))
  | [] => (none, [])
  | .ok [] :: rest => nextBatch rest
  | batch :: rest => (some batch, rest)

/-- Steps onto the next row; `false` if there is none. -/
def advance (c : Cursor) : Except Error Bool × Cursor :=
  match c.current with
  | _ :: row :: rows => (.ok true, { c with current := row :: rows })
  | _ =>
    match nextBatch c.pending with
    | (none, pending) => (.ok false, { c with pending, current := [] })
    | (some (.ok rows), pending) => (.ok true, { c with pending, current := rows })
    | (some (.error fault), pending) =>
      (.error (.read "next" c.path (.columnar fault)), { c with pending, current := [] })

def batchesLeft : List (Except Fault (List CellRow)) → Nat
  | [] => 0
  | .ok rows :: rest => rows.length + 1 + batchesLeft rest
  | .error _ :: rest => 1 + batchesLeft rest

def left (c : Cursor) : Nat := c.current.length + batchesLeft c.pending

theorem batchesLeft_nextBatch {batches rest : List (Except Fault (List CellRow))}
    {rows : List CellRow} (h : nextBatch batches = (some (.ok rows), rest)) :
    rows.length + 1 + batchesLeft rest ≤ batchesLeft batches := by
  fun_induction nextBatch batches with
  | case1 => simp at h
  | case2 tail ih =>
    have := ih h
    simp only [batchesLeft, List.length_nil]
    omega
  | case3 => simp_all [batchesLeft]

theorem left_advance {c c' : Cursor} (h : c.advance = (.ok true, c')) : c'.left < c.left := by
  unfold advance at h
  split at h
  · rename_i hc
    simp only [Prod.mk.injEq, true_and] at h
    subst h
    simp only [left, hc, List.length_cons]
    omega
  · split at h
    · simp at h
    · rename_i hb
      have := batchesLeft_nextBatch hb
      simp only [Prod.mk.injEq, true_and] at h
      subst h
      simp only [left]
      omega
    · simp at h

theorem ne_nil_of_nextBatch {batches rest : List (Except Fault (List CellRow))}
    {rows : List CellRow} (h : nextBatch batches = (some (.ok rows), rest)) : rows ≠ [] := by
  fun_induction nextBatch batches with
  | case1 => cases h
  | case2 tail ih => exact ih h
  | case3 batch tail hne =>
    cases h
    rintro rfl
    exact hne rfl

theorem current_ne_nil {c c' : Cursor} (h : c.advance = (.ok true, c')) :
    c'.current ≠ [] := by
  unfold advance at h
  split at h
  · cases h
    exact List.cons_ne_nil _ _
  · split at h
    · cases h
    · rename_i hb
      cases h
      exact ne_nil_of_nextBatch hb
    · cases h

def physicalSchema (c : Cursor) : List PhysicalField := physicalFields c.schema

/-- The text of column `i` of the current row; null beyond the last column. -/
def fieldValue (c : Cursor) (i : Nat) : Except Error (Option String) :=
  match c.current with
  | [] => .error (.state (.noCurrentRow c.path))
  | row :: _ =>
    match c.schema[i]? with
    | none => .ok none
    | some (_, type) =>
      match cellText type (row[i]?.getD .null) with
      | .ok value => .ok value
      | .error fault => .error (.read "readNext" c.path (.columnar fault))

end Cursor

end TableScan.Columnar
