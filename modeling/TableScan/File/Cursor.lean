import TableScan.File.ByteReader
import TableScan.File.Handle

/-!
# Cursors

A position in an open file, moved by reads and by seeks. A position may lie beyond the end of the
file, where reads give nothing; it never lies before the first byte or beyond the largest offset.
-/

namespace TableScan.File

inductive Seek where
  | fromStart (offset : Nat)
  | fromEnd (delta : Int)
  | fromHere (delta : Int)
  deriving DecidableEq, Repr

structure Cursor where
  handle : Handle
  offset : Nat
  /-- The number of requests made so far. -/
  requests : Nat

namespace Cursor

def ofHandle (handle : Handle) (offset : Nat) : Cursor := { handle, offset, requests := 0 }

/-- Reads at the position and moves past what was given. -/
def read (c : Cursor) (count : Nat) : Except IoError (List UInt8) × Cursor :=
  match c.handle.readAt c.requests c.offset count with
  | .ok bytes =>
    let given := bytes.take (min count (maxOffset - c.offset))
    (.ok given, { c with offset := c.offset + given.length, requests := c.requests + 1 })
  | .error e => (.error e, { c with requests := c.requests + 1 })

instance : ByteReader Cursor where
  read := read
  left c := maxOffset - c.offset
  left_read {c c' count bytes} h := by
    unfold read at h
    split at h
    · simp only [Prod.mk.injEq, Except.ok.injEq] at h
      obtain ⟨rfl, rfl⟩ := h
      simp only [List.length_take]
      omega
    · simp at h

def target (c : Cursor) : Seek → Int
  | .fromStart offset => offset
  | .fromEnd delta => c.handle.size + delta
  | .fromHere delta => c.offset + delta

/-- Moves to the target, or stays if it is no offset. -/
def seek (c : Cursor) (s : Seek) : Except IoError Nat × Cursor :=
  let t := c.target s
  if 0 ≤ t ∧ t ≤ maxOffset then (.ok t.toNat, { c with offset := t.toNat })
  else (.error .seekBeforeStart, c)

end Cursor

/-- A buffered reader of the file from an offset on. -/
def Handle.readerAt (h : Handle) (offset : Nat) : Buffered Cursor :=
  .ofSource 8192 (.ofHandle h offset)

end TableScan.File
