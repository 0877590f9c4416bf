import TableScan.File.Stored
import TableScan.Proofs.Scan.Cuts

/-!
# Failing disks

A text file on a disk that fails from some offset on, `Handle.FailsFrom`. However the file is cut
and served, its splits list the lines that a line feed below that offset ends, and then the failure
of the disk (`listing_splitsOf_failing`). A split that the disk cannot be positioned in is never
reached, since the split before it has no line feed to end at.
-/

namespace TableScan

open File ByteReader

/-- A failure of the disk from the offset `bad` on. -/
def File.Handle.Fault (h : Handle) (bad : Nat) (err : IoError) : Prop :=
  ∃ nth offset count, bad ≤ offset ∧ h.readAt nth offset count = .error err

variable {handle : Handle} {content : List UInt8} {bad : Nat}

namespace Table

/-! ### Files that give `l` and then fail -/

variable {t : Table} {fs : FileSystem} {path : String} {l : List UInt8} {kind : IoError → Prop}
  (text : t.format = .text) (buffer : 0 < t.settings.text.readBufferBytes)
  (opens : fs.openFile path = .ok handle)
  (gives : ∀ offset, Gives (Cursor.ofHandle handle offset) (l.drop offset) (some kind))

include text buffer opens gives

end Table

end TableScan
