import TableScan.Columnar.Image
import TableScan.File.Handle

/-!
# Stored files

The content of a file, kept in memory, and how it is served: whole or in small pieces, and up to
its end or only up to a place from which on the disk fails.
-/

namespace TableScan.File

structure Stored where
  content : List UInt8
  /-- What decoders of columnar files make of the file; nothing for any other file. -/
  image : Option Columnar.Image := none
  /-- Requests from this offset on fail, and no request reaches beyond it. -/
  failsAt : Option Nat := none
  /-- The bytes given at one request at most. -/
  piece : Option Nat := none

namespace Stored

def readAt (s : Stored) (offset count : Nat) : Except IoError (List UInt8) :=
  let count := match s.piece with
    | some limit => min limit count
    | none => count
  match s.failsAt with
  | none => .ok ((s.content.drop offset).take count)
  | some bad =>
    if bad ≤ offset then .error (.other "disk failure")
    else .ok (((s.content.take bad).drop offset).take count)

/-- The rows of the file for the decoder of its own encoding, if it can be read throughout. -/
def decode (s : Stored) (encoding : Encoding) (batchSize : Nat) : Option Columnar.Source :=
  match s.image, s.failsAt with
  | some image, none =>
    if image.encoding = encoding ∧ s.piece ≠ some 0 then some (image.source batchSize) else none
  | _, _ => none

def handle (s : Stored) : Handle :=
  { size := s.content.length, readAt := fun _ => s.readAt, decode := s.decode }

theorem piece_le {s : Stored} (pos : s.piece ≠ some 0) (count : Nat) :
    (match s.piece with | some limit => min limit count | none => count) ≤ count ∧
      (0 < count → 0 < match s.piece with | some limit => min limit count | none => count) := by
  cases hp : s.piece with
  | none => exact ⟨Nat.le_refl _, id⟩
  | some limit =>
    have : limit ≠ 0 := fun h => pos (by rw [hp, h])
    exact ⟨Nat.min_le_right _ _, fun hc => by dsimp only; omega⟩

/-- A file that does not fail, in pieces of at least one byte, serves its content. -/
theorem serves_handle {s : Stored} (ok : s.failsAt = none) (pos : s.piece ≠ some 0) :
    s.handle.Serves s.content := by
  intro nth offset count
  obtain ⟨hle, hpos⟩ := piece_le pos count
  refine ⟨_, ?_, hle, fun _ => hpos⟩
  simp only [handle, readAt, ok]

end Stored

end TableScan.File
