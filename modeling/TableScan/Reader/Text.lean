import TableScan.File.LineRange
import TableScan.FileSystem.Basic
import TableScan.Reader.Delimiter
import TableScan.Split
import TableScan.Text.Blank

/-!
# Text splits

Each line of a text split is one record and its cells are the texts between delimiters, without
any quoting. A blank line is a record of one empty cell. A line feed, or a carriage return and a
line feed, ends a line.
-/

namespace TableScan

structure TextSettings where
  delimiter : Delimiter := .controlA
  /-- The cell that stands for a null. -/
  nullMarker : Option String := some "\\N"
  /-- Blanks around cells are dropped. -/
  trim : Bool := false
  /-- The bytes kept in memory at a time. -/
  readBufferBytes : Nat := 65536
  deriving DecidableEq, Repr

/-- A line without its end: one line feed, and one carriage return before it or at the end. -/
def withoutLineEnd (line : List UInt8) : List UInt8 :=
  let line := if line.getLast? = some 10 then line.dropLast else line
  if line.getLast? = some 13 then line.dropLast else line

def tokens (delimiter : Delimiter) (line : List Char) : List (List Char) :=
  Text.pieces delimiter.char line

/-- A token as a cell: trimmed if blanks are dropped, and null if it is the marker. -/
def TextSettings.cell (settings : TextSettings) (token : List Char) : Option String :=
  let token := String.ofList (if settings.trim then Text.trim token else token)
  if settings.nullMarker = some token then none else some token

structure TextReader where
  path : String
  settings : TextSettings
  /-- The declared columns; text carries no schema of its own. -/
  schema : List PhysicalField
  lines : File.Buffered File.LineRange
  /-- The cells of the current record; none if there is no current record. -/
  record : List (List Char)

namespace TextReader

def openSplit (fs : FileSystem) (split : Split) (settings : TextSettings)
    (schema : List PhysicalField) : Except Error TextReader := do
  let handle ← fs.openFile split.path
  let stop := if split.isWholeFile then File.maxOffset else split.stop
  match File.LineRange.ofCursor (.ofHandle handle 0) split.start stop settings.readBufferBytes with
  | .error e => .error (.fs "seek" split.path e)
  | .ok range =>
    .ok
      { path := split.path
        settings, schema
        lines := .ofSource settings.readBufferBytes range
        record := [] }

def advance (r : TextReader) : Except Error Bool × TextReader :=
  match r.lines.takeLine with
  | (.error e, lines) => (.error (.read "next" r.path (.io e)), { r with lines, record := [] })
  | (.ok [], lines) => (.ok false, { r with lines, record := [] })
  | (.ok (b :: line), lines) =>
    match Text.Utf8.decode (withoutLineEnd (b :: line)) with
    | .error fault => (.error (.read "next" r.path (.utf8 fault)), { r with lines, record := [] })
    | .ok text => (.ok true, { r with lines, record := tokens r.settings.delimiter text })

def left (r : TextReader) : Nat := r.lines.left

theorem left_advance {r r' : TextReader} (h : r.advance = (.ok true, r')) : r'.left < r.left := by
  unfold advance at h
  split at h
  · simp at h
  · simp at h
  · rename_i b line lines hl
    have := File.Buffered.left_takeLine hl
    simp only [List.length_cons] at this
    split at h
    · simp at h
    · simp only [Prod.mk.injEq, true_and] at h
      subst h
      simp only [left]
      omega

/-- Cell `i` of the current record; null beyond the last cell. -/
def fieldValue (r : TextReader) (i : Nat) : Option String :=
  (r.record[i]?).bind r.settings.cell

end TextReader

end TableScan
