import TableScan.FileSystem.Memory
import TableScan.Proofs.Outcome
import TableScan.Proofs.Scan.TextListing
import TableScan.Proofs.Text.Utf8
import TableScan.Reader.Settings

/-!
# Reading undoes writing

The text file of some rows has a line for each of them: the texts of the cells with the delimiter
between them, the marker for a null, and a line feed with or without a carriage return before it. As
long as no cell holds a delimiter or a line end, or is taken for another by the settings, a reader
of the whole file gives the rows as they were (`reading_undoes_writing`).
-/

namespace TableScan

open File

inductive LineEnd where
  | lineFeed
  | returnLineFeed
  deriving DecidableEq, Repr

def LineEnd.bytes : LineEnd → List UInt8
  | lineFeed => [10]
  | returnLineFeed => [13, 10]

namespace TextSettings

/-- A text that stands in a line as it is: without a delimiter or a line end, and without blanks at
its ends if these are dropped. -/
def Plain (settings : TextSettings) (text : String) : Prop :=
  settings.delimiter.char ∉ text.toList ∧ '\n' ∉ text.toList ∧ '\r' ∉ text.toList ∧
    (settings.trim = true → Text.trim text.toList = text.toList)

/-- The marker stands in a line as it is. -/
def PlainMarker (settings : TextSettings) : Prop := ∀ m ∈ settings.nullMarker, settings.Plain m

/-- A cell that can be told from all others: a null if there is a marker for it, or a plain text
other than the marker. -/
def CanWrite (settings : TextSettings) : Option String → Prop
  | none => settings.nullMarker.isSome
  | some text => settings.Plain text ∧ settings.nullMarker ≠ some text

instance (settings : TextSettings) (text : String) : Decidable (settings.Plain text) :=
  inferInstanceAs (Decidable (_ ∧ _))

instance (settings : TextSettings) : Decidable settings.PlainMarker :=
  inferInstanceAs (Decidable (∀ m ∈ settings.nullMarker, settings.Plain m))

instance (settings : TextSettings) : (cell : Option String) → Decidable (settings.CanWrite cell)
  | none => inferInstanceAs (Decidable (_ = _))
  | some _ => inferInstanceAs (Decidable (_ ∧ _))

def written (settings : TextSettings) : Option String → String
  | none => settings.nullMarker.getD ""
  | some text => text

def lineText (settings : TextSettings) (row : Row) : List Char :=
  Text.joined settings.delimiter.char (row.map fun cell => (settings.written cell).toList)

def lineOf (settings : TextSettings) (row : Row) (lineEnd : LineEnd) : List UInt8 :=
  Text.encode (settings.lineText row) ++ lineEnd.bytes

/-- The file of some rows, each with the end of its line. -/
def fileOf (settings : TextSettings) (rows : List (Row × LineEnd)) : List UInt8 :=
  rows.flatMap fun (row, lineEnd) => settings.lineOf row lineEnd

end TextSettings

/-- The rows of a reader from the next one on, of `width` cells each. -/
def TextReader.readAll (width : Nat) (r : TextReader) : Except Error (List Row) :=
  match _h : r.advance with
  | (.ok true, r') => (r'.readAll width).map ((List.range width).map r'.fieldValue :: ·)
  | (.ok false, _) => .ok []
  | (.error e, _) => .error e
termination_by r.left
decreasing_by exact left_advance _h

/-! ### Lines -/

theorem Delimiter.char_ne (d : Delimiter) : d.char ≠ '\n' ∧ d.char ≠ '\r' := by
  have hall : ∀ n < 0x80, n ≠ 10 → n ≠ 13 → Char.ofNat n ≠ '\n' ∧ Char.ofNat n ≠ '\r' := by
    decide
  exact hall d.byte.toNat (UInt8.lt_iff_toNat_lt.1 d.isAscii)
    (fun h => d.notLineFeed (UInt8.toNat_inj.1 h)) fun h => d.notReturn (UInt8.toNat_inj.1 h)

theorem withoutLineEnd_append {body : List UInt8} (h : 13 ∉ body) (lineEnd : LineEnd) :
    withoutLineEnd (body ++ lineEnd.bytes) = body := by
  have hlast : body.getLast? ≠ some 13 := fun hl => h (List.mem_of_getLast? hl)
  cases lineEnd with
  | lineFeed => simp [withoutLineEnd, LineEnd.bytes, hlast]
  | returnLineFeed =>
    -- the line feed goes first, and then the carriage return before it
    have hsplit : body ++ LineEnd.returnLineFeed.bytes = (body ++ [13]) ++ [10] := by
      rw [List.append_assoc]
      rfl
    rw [hsplit]
    simp [withoutLineEnd, -List.append_assoc]

theorem lineLength_append_lineEnd {body : List UInt8} (h : lineFeed ∉ body) (lineEnd : LineEnd)
    (rest : List UInt8) :
    lineLength (body ++ lineEnd.bytes ++ rest) = (body ++ lineEnd.bytes).length := by
  rw [List.append_assoc, lineLength_append_of_not_mem _ h, List.length_append]
  cases lineEnd <;> rfl

namespace TextSettings

variable {settings : TextSettings} {row : Row}

theorem plain_written (marker : settings.PlainMarker) {cell : Option String}
    (h : settings.CanWrite cell) : settings.Plain (settings.written cell) := by
  cases cell with
  | some text => exact h.1
  | none =>
    obtain ⟨m, hm⟩ := Option.isSome_iff_exists.1 h
    rw [written, hm]
    exact marker m hm

theorem cell_written (marker : settings.PlainMarker) {cell : Option String}
    (h : settings.CanWrite cell) :
    settings.cell (settings.written cell).toList = cell := by
  obtain ⟨-, -, -, htrim⟩ := plain_written marker h
  -- with or without trimming, the text itself is compared with the marker
  have htoken : (if settings.trim then Text.trim (settings.written cell).toList
      else (settings.written cell).toList) = (settings.written cell).toList := by
    split
    · rename_i ht
      exact htrim ht
    · rfl
  simp only [TextSettings.cell, htoken, String.ofList_toList]
  cases cell with
  | some text => exact if_neg h.2
  | none =>
    obtain ⟨m, hm⟩ := Option.isSome_iff_exists.1 h
    rw [written, hm]
    exact if_pos rfl

section Lines

variable (plain : ∀ cell ∈ row, settings.Plain (settings.written cell))
include plain

theorem not_mem_encode_lineText :
    lineFeed ∉ Text.encode (settings.lineText row) ∧
      13 ∉ Text.encode (settings.lineText row) := by
  -- a byte of a line end could only come from that character itself
  have hchar : ∀ c ∈ settings.lineText row, c ≠ '\n' ∧ c ≠ '\r' := by
    intro c hc
    obtain rfl | ⟨_, htext, hc⟩ := Text.mem_of_mem_joined hc
    · exact settings.delimiter.char_ne
    · obtain ⟨cell, hcell, rfl⟩ := List.mem_map.1 htext
      obtain ⟨-, hfeed, hreturn, -⟩ := plain cell hcell
      exact ⟨fun h => hfeed (h ▸ hc), fun h => hreturn (h ▸ hc)⟩
  exact ⟨fun h => (hchar _ (Text.mem_of_mem_encode (by decide) h)).1 rfl,
    fun h => (hchar _ (Text.mem_of_mem_encode (by decide) h)).2 rfl⟩

theorem decode_lineOf (lineEnd : LineEnd) :
    Text.Utf8.decode (withoutLineEnd (settings.lineOf row lineEnd)) =
      .ok (settings.lineText row) := by
  rw [lineOf, withoutLineEnd_append (not_mem_encode_lineText plain).2, Text.Utf8.decode_encode]

theorem takeLine_lineOf {b : Buffered LineRange} {lineEnd : LineEnd} {more : List UInt8}
    (h : b.Holds (settings.lineOf row lineEnd ++ more) none) :
    ∃ rest, b.takeLine = (.ok (settings.lineOf row lineEnd), rest) ∧ rest.Holds more none := by
  have hlength : lineLength (settings.lineOf row lineEnd ++ more) =
      (settings.lineOf row lineEnd).length :=
    lineLength_append_lineEnd (not_mem_encode_lineText plain).1 lineEnd more
  obtain ⟨hline, hrest⟩ := h.takeLine
  have hfirst := hline.eq_of_none
  rw [hlength, List.take_left] at hfirst
  rw [hlength, List.drop_left] at hrest
  exact ⟨_, Prod.ext hfirst rfl, hrest⟩

theorem tokens_lineText (hrow : row ≠ []) :
    tokens settings.delimiter (settings.lineText row) =
      row.map fun cell => (settings.written cell).toList := by
  refine Text.pieces_joined (by simpa using hrow) fun text htext => ?_
  obtain ⟨cell, hcell, rfl⟩ := List.mem_map.1 htext
  exact (plain cell hcell).1

end Lines

end TextSettings

/-! ### Files -/

namespace TextReader

variable {r : TextReader} {settings : TextSettings} {width : Nat}

theorem readAll_of_takeLine {line : List UInt8} {rest : Buffered LineRange} {text : List Char}
    (h : r.lines.takeLine = (.ok line, rest)) (hne : line ≠ [])
    (hd : Text.Utf8.decode (withoutLineEnd line) = .ok text) :
    let r' := { r with lines := rest, record := tokens r.settings.delimiter text }
    r.readAll width = (r'.readAll width).map ((List.range width).map r'.fieldValue :: ·) := by
  intro r'
  obtain ⟨b, line, rfl⟩ := List.exists_cons_of_ne_nil hne
  have ha : r.advance = (.ok true, r') := by
    simp only [advance, h, hd, r']
  rw [readAll]
  split <;> simp_all

theorem readAll_of_takeLine_nil {rest : Buffered LineRange}
    (h : r.lines.takeLine = (.ok [], rest)) : r.readAll width = .ok [] := by
  have ha : r.advance = (.ok false, { r with lines := rest, record := [] }) := by
    simp only [advance, h]
  rw [readAll]
  split <;> simp_all

theorem map_fieldValue {row : Row} (hrow : row ≠ [])
    (marker : r.settings.PlainMarker)
    (cells : ∀ cell ∈ row, r.settings.CanWrite cell)
    (hrecord : r.record = tokens r.settings.delimiter (r.settings.lineText row)) :
    (List.range row.length).map r.fieldValue = row := by
  have plain := fun cell hcell => TextSettings.plain_written marker (cells cell hcell)
  rw [TextSettings.tokens_lineText plain hrow] at hrecord
  refine List.ext_getElem (by simp) fun i hi _ => ?_
  simp only [List.length_map, List.length_range] at hi
  rw [List.getElem_map, List.getElem_range, fieldValue, hrecord, List.getElem?_map,
    List.getElem?_eq_getElem hi, Option.map_some, Option.bind_some]
  exact TextSettings.cell_written marker (cells _ (List.getElem_mem hi))

/-- A reader that holds the file of some rows gives these rows. -/
theorem readAll_fileOf (width_pos : 0 < width)
    (marker : r.settings.PlainMarker)
    {rows : List (Row × LineEnd)} (widths : ∀ row ∈ rows, row.1.length = width)
    (cells : ∀ row ∈ rows, ∀ cell ∈ row.1, r.settings.CanWrite cell)
    (h : r.lines.Holds (r.settings.fileOf rows) none) :
    r.readAll width = .ok (rows.map (·.1)) := by
  -- on the rows: the reader holds the line of the first one, and then the file of the others
  induction rows generalizing r with
  | nil =>
    obtain ⟨hline, -⟩ := h.takeLine
    exact readAll_of_takeLine_nil (Prod.ext hline.eq_of_none rfl)
  | cons row rows ih =>
    obtain ⟨row, lineEnd⟩ := row
    have hwidth : row.length = width := widths _ List.mem_cons_self
    have hcells : ∀ cell ∈ row, r.settings.CanWrite cell := cells _ List.mem_cons_self
    have plain := fun cell hcell => TextSettings.plain_written marker (hcells cell hcell)
    obtain ⟨rest, hline, hrest⟩ := TextSettings.takeLine_lineOf plain h
    have hne : r.settings.lineOf row lineEnd ≠ [] := by
      cases lineEnd <;> simp [TextSettings.lineOf, LineEnd.bytes]
    have hrow : row ≠ [] := List.ne_nil_of_length_pos (hwidth ▸ width_pos)
    obtain ⟨next, hnext⟩ : ∃ next : TextReader, next =
        { r with
          lines := rest
          record := tokens r.settings.delimiter (r.settings.lineText row) } := ⟨_, rfl⟩
    have hcurrent : (List.range row.length).map next.fieldValue = row := by
      subst hnext
      exact map_fieldValue hrow marker hcells rfl
    have hothers : next.readAll width = .ok (rows.map (·.1)) := by
      subst hnext
      exact ih marker (fun row hrow => widths row (List.mem_cons_of_mem _ hrow))
        (fun row hrow => cells row (List.mem_cons_of_mem _ hrow)) hrest
    rw [readAll_of_takeLine hline hne (TextSettings.decode_lineOf plain lineEnd), ← hnext, hothers,
      ← hwidth, hcurrent]
    rfl

/-- A text file that was written from some rows is read as these rows, through whatever buffer and
in whatever pieces. -/
theorem reading_undoes_writing (fs : FileSystem) {p : Params} {settings : TextSettings}
    (hs : ReaderSettings.textOfParams p = .ok settings)
    (marker : settings.PlainMarker) {width : Nat}
    (width_pos : 0 < width) {rows : List (Row × LineEnd)}
    (widths : ∀ row ∈ rows, row.1.length = width)
    (cells : ∀ row ∈ rows, ∀ cell ∈ row.1, settings.CanWrite cell) {path : String}
    {handle : Handle} (opens : fs.openFile path = .ok handle)
    (serves : handle.Serves (settings.fileOf rows))
    (fits : (settings.fileOf rows).length ≤ maxOffset) (listed : Nat)
    (schema : List PhysicalField) :
    ∃ r, openSplit fs (.wholeFile path listed) settings schema = .ok r ∧
      r.readAll width = .ok (rows.map (·.1)) := by
  have buffer : 0 < settings.readBufferBytes := by
    obtain ⟨d, -, hd⟩ := bind_eq_ok hs
    cases hd
    exact Nat.lt_of_lt_of_le Nat.one_pos (Nat.le_max_right ..)
  have hpath : fs.openFile (Split.wholeFile path listed).path = .ok handle := opens
  obtain ⟨r, hopen, -, rfl, hholds⟩ :=
    openSplit_holds schema buffer hpath serves fits (Nat.zero_le _)
  have hlines : linesWithin (r.settings.fileOf rows) (Split.wholeFile path listed).start
      (Split.wholeFile path listed).readStop = File.lines (r.settings.fileOf rows) := by
    rw [Split.readStop_wholeFile]
    exact linesWithin_zero fits (by decide)
  rw [hlines, flatten_lines] at hholds
  exact ⟨r, hopen, readAll_fileOf width_pos marker widths cells hholds⟩

/-- Cells between tabs, with nothing for a null, and blanks dropped. -/
def sparseParams : Params :=
  { fieldDelimiter := some "\\t"
    options := { nullMarker := some "", trimFields := true, readBufferBytes := 0 } }

def sparseSettings : TextSettings :=
  { delimiter := { byte := 9 }, nullMarker := some "", trim := true, readBufferBytes := 1 }

/-- Rows with nulls at either end and nothing but nulls. -/
def sparseRows : List (Row × LineEnd) :=
  [([some "é", none], .returnLineFeed), ([none, none], .lineFeed),
    ([none, some "a b"], .returnLineFeed)]

def sparseFile : MemoryStore :=
  { files :=
      [{ path := "/t/a", length := 0
         data := { content := sparseSettings.fileOf sparseRows, piece := some 1 } }] }

theorem reading_undoes_writing_of_sparse_rows :
    sparseSettings.fileOf sparseRows =
        [0xC3, 0xA9, 9, 13, 10, 9, 10, 9, 97, 32, 98, 13, 10] ∧
      ∃ r, openSplit sparseFile.fileSystem (.wholeFile "/t/a" 13) sparseSettings [] = .ok r ∧
        r.readAll 2 = .ok [[some "é", none], [none, none], [none, some "a b"]] := by
  have hs : ReaderSettings.textOfParams sparseParams = .ok sparseSettings :=
    eq_ok_of_toOption (by decide +kernel)
  have widths : ∀ row ∈ sparseRows, row.1.length = 2 := by decide
  exact ⟨by decide +kernel, reading_undoes_writing sparseFile.fileSystem hs (by decide +kernel)
    Nat.two_pos widths (by decide +kernel) rfl (Stored.serves_handle rfl (by decide))
    (by decide +kernel) 13 []⟩

end TextReader

end TableScan
