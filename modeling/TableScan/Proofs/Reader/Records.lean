import TableScan.Proofs.Reader.RoundTrip
import TableScan.Proofs.Text.Slices

/-!
# Records of text

A reader of a whole text file answers for each line of it in turn (`record_for_each_line`). The
line without its end is the record if it is text, told by its cells and by where they stand among
its bytes (`ShowsLine`), and otherwise reading it fails. Neither the buffer nor the pieces that the
file is served in matter.
-/

namespace TableScan

open File

/-! ### Lines without their ends -/

/-- What is read of a line: a line feed at its end is left out, and a carriage return directly
before that. A line that no line feed ends is read whole. -/
def lineBody (line : List UInt8) : List UInt8 :=
  if line.getLast? = some lineFeed then Text.withoutLast 13 line.dropLast else line

theorem withoutLineEnd_eq (line : List UInt8) :
    withoutLineEnd line = Text.withoutLast 13 (Text.withoutLast lineFeed line) := rfl

theorem withoutLineEnd_eq_lineBody {content line : List UInt8} (h : line ∈ lines content)
    (noReturn : content.getLast? ≠ some 13) : withoutLineEnd line = lineBody line := by
  rw [withoutLineEnd_eq, lineBody]
  by_cases hfeed : line.getLast? = some lineFeed
  · rw [if_pos hfeed, Text.withoutLast_of_eq hfeed]
  · have hlast := (getLast?_of_mem_lines h).resolve_left hfeed
    rw [if_neg hfeed, Text.withoutLast_of_ne hfeed, Text.withoutLast_of_ne (hlast ▸ noReturn)]

/-! ### Lines as cells -/

/-- Cells and their values stand for a line: they are the texts between the delimiters, the ranges
of bytes between the delimiters hold them, and a value is the text of its cell, without blanks
around it if these are dropped, unless this is the marker. -/
structure ShowsLine (settings : TextSettings) (line : List Char) (cells : List (List Char))
    (value : Nat → Option String) : Prop where
  ne_nil : cells ≠ []
  delimited : ∀ cell ∈ cells, settings.delimiter.char ∉ cell
  joined : Text.joined settings.delimiter.char cells = line
  length_ranges :
    (Text.byteRanges settings.delimiter.byte (Text.encode line)).length = cells.length
  slices : ∀ (i : Nat) cell range, cells[i]? = some cell →
    (Text.byteRanges settings.delimiter.byte (Text.encode line))[i]? = some range →
    Text.Slices line cell range
  value_eq : ∀ (i : Nat) cell text, cells[i]? = some cell →
    String.ofList (if settings.trim then Text.trim cell else cell) = text →
    value i = if settings.nullMarker = some text then none else some text
  value_of_le : ∀ i, cells.length ≤ i → value i = none

theorem showsLine_tokens (settings : TextSettings) (line : List Char) :
    ShowsLine settings line (tokens settings.delimiter line)
      fun i => (tokens settings.delimiter line)[i]?.bind settings.cell := by
  have ascii : settings.delimiter.byte.toNat < 0x80 :=
    UInt8.lt_iff_toNat_lt.1 settings.delimiter.isAscii
  obtain ⟨hlength, hslices⟩ := Text.slices_byteRanges ascii line
  refine ⟨Text.pieces_ne_nil settings.delimiter.char line,
    fun _ h => Text.not_mem_of_mem_pieces h, Text.joined_pieces .., hlength, hslices, ?_, ?_⟩
  · rintro i cell _ hcell rfl
    simp only [hcell, Option.bind_some, TextSettings.cell]
  · intro i h
    simp only [List.getElem?_eq_none h, Option.bind_none]

/-! ### Readers -/

theorem ReaderSettings.buffer_pos {p : Params} {settings : TextSettings}
    (hs : textOfParams p = .ok settings) : 0 < settings.readBufferBytes := by
  obtain ⟨d, -, hd⟩ := bind_eq_ok hs
  cases hd
  exact Nat.lt_of_lt_of_le Nat.one_pos (Nat.le_max_right ..)

namespace TextReader

variable {r : TextReader} {path : String} {settings : TextSettings}

def after (r : TextReader) (n : Nat) : TextReader := n.repeat (·.advance.2) r

/-- A reader of the file at `path` stands before some lines. -/
structure StandsBefore (r : TextReader) (path : String) (settings : TextSettings)
    (ls : List (List UInt8)) : Prop where
  path_eq : r.path = path
  settings_eq : r.settings = settings
  holds : ∃ l, r.lines.Holds l none ∧ File.lines l = ls

/-- A step onto a line makes it the record if it is text, and fails if it is not. -/
structure StepsOnto (r : TextReader) (path : String) (settings : TextSettings)
    (line : List UInt8) : Prop where
  record : ∀ text, Text.Utf8.decode (withoutLineEnd line) = .ok text →
    r.advance.1 = .ok true ∧ r.advance.2.record = tokens settings.delimiter text
  failure : ∀ fault, Text.Utf8.decode (withoutLineEnd line) = .error fault →
    r.advance.1 = .error (.read "next" path (.utf8 fault))

theorem StandsBefore.advance_nil (h : r.StandsBefore path settings []) :
    r.advance.1 = .ok false ∧ r.advance.2.StandsBefore path settings [] := by
  obtain ⟨rfl, rfl, l, hholds, hl⟩ := h
  obtain rfl : l = [] := by
    rw [← flatten_lines l, hl, List.flatten_nil]
  obtain ⟨hline, hrest⟩ := hholds.takeLine
  have ha : r.advance = (.ok false, { r with lines := r.lines.takeLine.2, record := [] }) := by
    have ht : r.lines.takeLine = (.ok [], r.lines.takeLine.2) := Prod.ext hline.eq_of_none rfl
    rw [advance, ht]
  rw [ha]
  exact ⟨rfl, rfl, rfl, [], hrest, hl⟩

theorem advance_of_takeLine {line : List UInt8} {rest : Buffered LineRange}
    (h : r.lines.takeLine = (.ok line, rest)) (hne : line ≠ []) :
    r.advance = match Text.Utf8.decode (withoutLineEnd line) with
      | .ok text =>
        (.ok true, { r with lines := rest, record := tokens r.settings.delimiter text })
      | .error fault =>
        (.error (.read "next" r.path (.utf8 fault)), { r with lines := rest, record := [] }) := by
  obtain ⟨b, line, rfl⟩ := List.exists_cons_of_ne_nil hne
  simp only [advance, h]
  cases Text.Utf8.decode (withoutLineEnd (b :: line)) <;> rfl

theorem StandsBefore.advance_cons {line : List UInt8} {ls : List (List UInt8)}
    (h : r.StandsBefore path settings (line :: ls)) :
    r.StepsOnto path settings line ∧ r.advance.2.StandsBefore path settings ls := by
  obtain ⟨rfl, rfl, l, hholds, hl⟩ := h
  have hne : l ≠ [] := by
    rintro rfl
    cases hl
  rw [lines_eq_cons hne, List.cons.injEq] at hl
  obtain ⟨rfl, hmore⟩ := hl
  obtain ⟨hline, hrest⟩ := hholds.takeLine
  have ha := advance_of_takeLine (Prod.ext hline.eq_of_none rfl) (take_lineLength_ne_nil hne)
  refine ⟨⟨fun text hd => ?_, fun fault hd => ?_⟩, ?_⟩
  · rw [ha, hd]
    exact ⟨rfl, rfl⟩
  · rw [ha, hd]
  · rw [ha]
    split <;> exact ⟨rfl, rfl, _, hrest, hmore⟩

theorem StandsBefore.after {ls : List (List UInt8)} (h : r.StandsBefore path settings ls)
    (n : Nat) : (r.after n).StandsBefore path settings (ls.drop n) := by
  induction n with
  | zero => exact h
  | succ n ih =>
    have hafter : r.after (n + 1) = (r.after n).advance.2 := rfl
    rw [hafter, ← List.tail_drop]
    cases hls : ls.drop n with
    | nil => exact (hls ▸ ih).advance_nil.2
    | cons line more => exact (hls ▸ ih).advance_cons.2

theorem StandsBefore.stepsOnto {ls : List (List UInt8)} {line : List UInt8} {n : Nat}
    (h : r.StandsBefore path settings ls) (hline : ls[n]? = some line) :
    (r.after n).StepsOnto path settings line := by
  have hdrop : ls.drop n = line :: ls.drop (n + 1) := by
    obtain ⟨hlt, rfl⟩ := List.getElem?_eq_some_iff.1 hline
    exact List.drop_eq_getElem_cons hlt
  exact (hdrop ▸ h.after n).advance_cons.1

theorem showsLine_record (hsettings : r.settings = settings) {line : List Char}
    (hrecord : r.record = tokens settings.delimiter line) :
    ShowsLine settings line r.record r.fieldValue := by
  have hvalue : r.fieldValue =
      fun i => (tokens settings.delimiter line)[i]?.bind settings.cell := by
    funext i
    rw [fieldValue, hrecord, hsettings]
  rw [hvalue, hrecord]
  exact showsLine_tokens settings line

/-- A whole text file opens to a reader that stands before all of its lines. -/
theorem openSplit_standsBefore {fs : FileSystem} {split : Split}
    (whole : split.isWholeFile = true) (schema : List PhysicalField)
    (buffer : 0 < settings.readBufferBytes) {handle : Handle}
    (opens : fs.openFile split.path = .ok handle) {content : List UInt8}
    (serves : handle.Serves content) (fits : content.length ≤ maxOffset) :
    ∃ r, openSplit fs split settings schema = .ok r ∧
      r.StandsBefore split.path settings (File.lines content) := by
  have hstart : split.start = 0 := by
    simp only [Split.isWholeFile, Bool.and_eq_true, decide_eq_true_eq] at whole
    exact whole.1
  have hstop : split.readStop = maxOffset := if_pos whole
  obtain ⟨r, hopen, hpath, hsettings, hholds⟩ :=
    openSplit_holds schema buffer opens serves fits (by omega)
  have hlines : linesWithin content split.start split.readStop = File.lines content := by
    rw [hstart, hstop]
    exact linesWithin_zero fits (by decide)
  rw [hlines, flatten_lines] at hholds
  exact ⟨r, hopen, hpath, hsettings, content, hholds, rfl⟩

/-- A reader of a whole text file gives one record for each of its lines, as long as these are
text, through whatever buffer and in whatever pieces. There are as many lines as line feeds, and
one more if the file goes on after the last of these. -/
theorem record_for_each_line (fs : FileSystem) {p : Params} {settings : TextSettings}
    (hs : ReaderSettings.textOfParams p = .ok settings) {split : Split}
    (whole : split.isWholeFile = true) {handle : Handle}
    (opens : fs.openFile split.path = .ok handle) {content : List UInt8}
    (serves : handle.Serves content) (fits : content.length ≤ maxOffset)
    (noReturn : content.getLast? ≠ some 13) (schema : List PhysicalField) :
    (File.lines content).length = content.count lineFeed +
        (if content = [] ∨ content.getLast? = some lineFeed then 0 else 1) ∧
      ∃ r, openSplit fs split settings schema = .ok r ∧
        (∀ n chunk, (File.lines content)[n]? = some chunk →
          (∀ line, Text.encode line = lineBody chunk →
            (r.after n).advance.1 = .ok true ∧
              ShowsLine settings line (r.after (n + 1)).record (r.after (n + 1)).fieldValue) ∧
          ((¬ ∃ line, Text.encode line = lineBody chunk) →
            ∃ fault,
              (r.after n).advance.1 = .error (.read "next" split.path (.utf8 fault)))) ∧
        ∀ n, (File.lines content).length ≤ n → (r.after n).advance.1 = .ok false := by
  obtain ⟨r, hopen, hbefore⟩ := openSplit_standsBefore whole schema
    (ReaderSettings.buffer_pos hs) opens serves fits
  refine ⟨length_lines content, r, hopen, fun n chunk hchunk => ?_, fun n hn => ?_⟩
  · have hstep := hbefore.stepsOnto hchunk
    have hbody : withoutLineEnd chunk = lineBody chunk :=
      withoutLineEnd_eq_lineBody (List.mem_of_getElem? hchunk) noReturn
    constructor
    · intro line hline
      have hd : Text.Utf8.decode (withoutLineEnd chunk) = .ok line :=
        Text.Utf8.decode_eq_ok_iff.2 (hline.trans hbody.symm)
      obtain ⟨hanswer, hrecord⟩ := hstep.record line hd
      exact ⟨hanswer, showsLine_record (hbefore.after (n + 1)).settings_eq hrecord⟩
    · intro hnone
      cases hd : Text.Utf8.decode (withoutLineEnd chunk) with
      | ok line => exact absurd ⟨line, (Text.Utf8.decode_eq_ok_iff.1 hd).trans hbody⟩ hnone
      | error fault => exact ⟨fault, hstep.failure fault hd⟩
  · have hafter := hbefore.after n
    rw [List.drop_eq_nil_of_le hn] at hafter
    exact hafter.advance_nil.1

/-- Two ended lines and a last one that is not. The second is not text. -/
def brokenContent : List UInt8 := [97, 9, 13, 10, 255, 10, 195, 169]

def brokenFile : MemoryStore :=
  { files :=
      [{ path := "/t/a", length := 0, data := { content := brokenContent, piece := some 1 } }] }

theorem record_for_each_line_of_broken_line :
    ∃ r, openSplit brokenFile.fileSystem (.wholeFile "/t/a" 8) sparseSettings [] = .ok r ∧
      (r.after 0).advance.1 = .ok true ∧
      ShowsLine sparseSettings ['a', '\t'] (r.after 1).record (r.after 1).fieldValue ∧
      (∃ fault, (r.after 1).advance.1 = .error (.read "next" "/t/a" (.utf8 fault))) ∧
      (r.after 2).advance.1 = .ok true ∧
      ShowsLine sparseSettings ['é'] (r.after 3).record (r.after 3).fieldValue ∧
      (r.after 3).advance.1 = .ok false := by
  have hs : ReaderSettings.textOfParams sparseParams = .ok sparseSettings :=
    eq_ok_of_toOption (by decide +kernel)
  have hbroken : ¬ ∃ line, Text.encode line = lineBody [255, 10] := by
    rintro ⟨line, hline⟩
    cases Text.Utf8.decode_eq_ok_iff.2 hline
  have whole : (Split.wholeFile "/t/a" 8).isWholeFile = true := rfl
  obtain ⟨-, r, hopen, hlines, hend⟩ := record_for_each_line brokenFile.fileSystem hs whole rfl
    (Stored.serves_handle rfl (by decide)) (by decide) (by decide) []
  obtain ⟨hfirst, hcells⟩ := (hlines 0 [97, 9, 13, 10] rfl).1 ['a', '\t'] rfl
  obtain ⟨hlast, hlastCells⟩ := (hlines 2 [195, 169] rfl).1 ['é'] rfl
  exact ⟨r, hopen, hfirst, hcells, (hlines 1 [255, 10] rfl).2 hbroken, hlast, hlastCells,
    hend 3 (by decide)⟩

end TextReader

end TableScan
