import TableScan.Columnar.Cursor

/-!
# File handles

An open file, seen through positioned reads. A handle may give fewer bytes than it is asked for,
and may give a different number at each request, so every request carries its ordinal. What a
decoder of columnar files makes of the file is part of the handle, since the byte layouts of the
encodings are the decoders' own.
-/

namespace TableScan.File

def maxOffset : Nat := 0xFFFFFFFFFFFFFFFF

structure Handle where
  size : Nat
  /-- The bytes given at the `nth` request, at most `count` of them from `offset` on. No bytes are
  given at the end of the file. -/
  readAt : (nth offset count : Nat) → Except IoError (List UInt8)
  /-- What the decoder of an encoding makes of the file, in batches of at most `batchSize` rows,
  or `none` if it refuses. -/
  decode : (encoding : Encoding) → (batchSize : Nat) → Option Columnar.Source

namespace Handle

/-- A handle serves some content: asked for bytes below the end it gives at least one and at most
as many as asked, the content's own, and beyond the end it gives none. -/
def Serves (h : Handle) (content : List UInt8) : Prop :=
  ∀ nth offset count, ∃ k,
    h.readAt nth offset count = .ok ((content.drop offset).take k) ∧ k ≤ count ∧
      (offset < content.length → 0 < count → 0 < k)

/-- The `length` bytes from `offset` on, after `found` of them have been read by requests before. -/
def chunkFrom (h : Handle) (nth offset length found : Nat) : Except IoError (List UInt8) :=
  if length ≤ found then .ok []
  else
    match h.readAt nth (offset + found) (length - found) with
    | .error e => .error e
    | .ok [] => .error (.unexpectedEnd length offset found)
    | .ok (b :: bytes) =>
      let more := (b :: bytes).take (length - found)
      (h.chunkFrom (nth + 1) offset length (found + more.length)).map (more ++ ·)
termination_by length - found
decreasing_by
  simp only [List.length_take, List.length_cons]
  omega

/-- The `length` bytes from `offset` on, by as many requests as it takes. -/
def chunk (h : Handle) (offset length : Nat) : Except IoError (List UInt8) :=
  h.chunkFrom 0 offset length 0

end Handle

end TableScan.File
