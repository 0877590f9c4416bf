import TableScan.Text.Pieces

/-!
# Splits

A split is the unit a scan reads at a time: a whole file, or a range of bytes of one.
`Split.ranges` cuts a file into consecutive ranges that together cover it, and none of them counts
as the whole file. `Split.ranges?` first makes room for a list of them, and gives up if that would
take more memory than there can be.
-/

namespace TableScan

structure Split where
  path : String
  /-- The offset of the first byte. -/
  start : Nat
  length : Nat
  /-- The length of the file when it was listed. -/
  fileLength : Nat
  deriving DecidableEq, Repr

namespace Split

def wholeFile (path : String) (fileLength : Nat) : Split :=
  { path, start := 0, length := fileLength, fileLength }

def stop (s : Split) : Nat := s.start + s.length

/-- The range begins with the file and is at least as long as it. -/
def isWholeFile (s : Split) : Bool := s.start = 0 && s.fileLength ≤ s.length

/-- The ranges of at most `maxBytes` bytes from `start` on. -/
def rangesFrom (path : String) (fileLength maxBytes start : Nat) : List Split :=
  if maxBytes = 0 ∨ fileLength ≤ start then []
  else
    let length := min maxBytes (fileLength - start)
    { path, start, length, fileLength } :: rangesFrom path fileLength maxBytes (start + length)
termination_by fileLength - start
decreasing_by omega

/-- A file as consecutive ranges of at most `maxBytes` bytes; zero sets no limit. -/
def ranges (path : String) (fileLength maxBytes : Nat) : List Split :=
  if maxBytes = 0 ∨ fileLength ≤ maxBytes then [wholeFile path fileLength]
  else rangesFrom path fileLength maxBytes 0

/-- How many splits room is made for: one more than the limit goes into a file that it cuts. -/
def roomFor (fileLength maxBytes : Nat) : Nat :=
  if maxBytes = 0 ∨ fileLength ≤ maxBytes then 1 else fileLength / maxBytes + 1

/-- The most splits that a list has room for. A split takes six words of eight bytes, and a list no
more bytes than a signed word of 64 bits counts. -/
def maxRoom : Nat := 0x7FFFFFFFFFFFFFFF / (6 * 8)

/-- The ranges of a file, or nothing if there is no room for a list of them. -/
def ranges? (path : String) (fileLength maxBytes : Nat) : Option (List Split) :=
  if roomFor fileLength maxBytes ≤ maxRoom then some (ranges path fileLength maxBytes) else none

end Split

end TableScan
