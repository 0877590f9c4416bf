import TableScan.Proofs.File.EndedLines
import TableScan.Proofs.File.RangeWindow
import TableScan.Proofs.Scan.Listing

/-!
# Listings of text

What the lines of a text file amount to as a listing: one record for each line, up to the first one
that is not text. The listing of a split is that of the lines that begin in its range
(`splitListing_text`), whatever buffers and pieces they were read through.
-/

namespace TableScan

open File

/-- The record of a line of the file at `path`. -/
def textRecord (path : String) (settings : TextSettings) (text : List Char) : Record where
  path
  cells i := .ok ((tokens settings.delimiter text)[i]?.bind settings.cell)

def lineListing (path : String) (settings : TextSettings) (line : List UInt8) : Listing :=
  match Text.Utf8.decode (withoutLineEnd line) with
  | .ok text => { records := [textRecord path settings text], failure := none }
  | .error fault => { records := [], failure := some ⟨path, .read "next" path (.utf8 fault)⟩ }

/-- The listing of some lines, each with the path of its file. -/
def textListing (settings : TextSettings) : List (String × List UInt8) → Listing
  | [] => { records := [], failure := none }
  | (path, line) :: more => lineListing path settings line ++ textListing settings more

theorem textListing_append (settings : TextSettings) (a b : List (String × List UInt8)) :
    textListing settings (a ++ b) = textListing settings a ++ textListing settings b := by
  induction a with
  | nil => rfl
  | cons line a ih => rw [List.cons_append, textListing, textListing, ih, Listing.append_assoc]

variable {settings : TextSettings} {path : String} {line : List UInt8}
  {ls : List (String × List UInt8)}

theorem textListing_of_ok {text : List Char}
    (h : Text.Utf8.decode (withoutLineEnd line) = .ok text) :
    textListing settings ((path, line) :: ls) =
      .cons (textRecord path settings text) (textListing settings ls) := by
  rw [textListing, lineListing, h]
  rfl

theorem textListing_eq {path : String} {ls : List (List UInt8)} {texts : List (List Char)}
    (h : ls.map (fun line => Text.Utf8.decode (withoutLineEnd line)) = texts.map .ok) :
    textListing settings (ls.map (path, ·)) =
      { records := texts.map (textRecord path settings), failure := none } := by
  induction ls generalizing texts with
  | nil =>
    obtain rfl : texts = [] := List.map_eq_nil_iff.1 h.symm
    rfl
  | cons line ls ih =>
    obtain ⟨text, texts, rfl, htext, htexts⟩ := List.map_eq_cons_iff.1 h.symm
    rw [List.map_cons, textListing_of_ok htext.symm, ih htexts.symm]
    rfl

theorem SplitReader.listing_of_takeLine {r : TextReader} {line : List UInt8}
    {rest : Buffered LineRange} (h : r.lines.takeLine = (.ok line, rest)) (hne : line ≠ []) :
    ∃ record, (SplitReader.text r).listing r.path = lineListing r.path r.settings line ++
      (SplitReader.text { r with lines := rest, record }).listing r.path := by
  obtain ⟨b, line, rfl⟩ := List.exists_cons_of_ne_nil hne
  cases hd : Text.Utf8.decode (withoutLineEnd (b :: line)) with
  | ok text =>
    have ha : (SplitReader.text r).advance = (.ok true, .text
        { r with lines := rest, record := tokens r.settings.delimiter text }) := by
      simp only [advance, TextReader.advance, h, hd, Prod.map, id]
    refine ⟨tokens r.settings.delimiter text, ?_⟩
    rw [listing_of_advance_true ha, lineListing, hd]
    rfl
  | error fault =>
    have ha : (SplitReader.text r).advance = (.error (.read "next" r.path (.utf8 fault)),
        .text { r with lines := rest, record := [] }) := by
      simp only [advance, TextReader.advance, h, hd, Prod.map, id]
    refine ⟨[], ?_⟩
    rw [listing_of_advance_error ha, lineListing, hd]
    rfl

/-- A reader of text gives the listing of the lines that it holds. -/
theorem SplitReader.listing_text {r : TextReader} {l : List UInt8} (h : r.lines.Holds l none) :
    (SplitReader.text r).listing r.path = textListing r.settings ((lines l).map (r.path, ·)) := by
  induction l using lineInduction generalizing r with
  | nil =>
    obtain ⟨hline, -⟩ := h.takeLine
    rcases ht : r.lines.takeLine with ⟨result, rest⟩
    rw [ht] at hline
    obtain rfl : result = .ok [] := hline.eq_of_none
    have ha : (SplitReader.text r).advance =
        (.ok false, .text { r with lines := rest, record := [] }) := by
      simp only [advance, TextReader.advance, ht, Prod.map, id]
    exact listing_of_advance_false ha
  | line l hl ih =>
    obtain ⟨hline, hrest⟩ := h.takeLine
    rcases ht : r.lines.takeLine with ⟨result, rest⟩
    rw [ht] at hline hrest
    obtain rfl := hline.eq_of_none
    obtain ⟨record, hlisting⟩ := listing_of_takeLine ht (take_lineLength_ne_nil hl)
    rw [hlisting, ih (r := { r with lines := rest, record }) hrest, lines_eq_cons hl,
      List.map_cons, textListing]

/-- Where reading a split stops. -/
def Split.readStop (split : Split) : Nat :=
  if split.isWholeFile then maxOffset else split.stop

variable {fs : FileSystem} {split : Split} {handle : Handle} {content : List UInt8}

theorem Split.readStop_wholeFile (path : String) (fileLength : Nat) :
    (wholeFile path fileLength).readStop = maxOffset :=
  if_pos (by simp [isWholeFile, wholeFile])

theorem Split.readStop_of_lt {split : Split} (h : split.length < split.fileLength) :
    split.readStop = split.stop := by
  refine if_neg ?_
  simp only [isWholeFile, Bool.and_eq_true, decide_eq_true_eq, not_and]
  omega

theorem Split.start_le_readStop {split : Split} (begins : split.start ≤ maxOffset) :
    split.start ≤ split.readStop := by
  unfold readStop
  split
  · exact begins
  · exact Nat.le_add_right ..

/-- A split of text opens to a reader that holds the lines that begin in it. They end as the file
does, unless a line feed at the end of the split or behind it comes first. -/
theorem TextReader.openSplit_holds_of_gives {e : Ending} (schema : List PhysicalField)
    (buffer : 0 < settings.readBufferBytes) (opens : fs.openFile split.path = .ok handle)
    (gives : ByteReader.Gives (Cursor.ofHandle handle split.start) (content.drop split.start) e)
    (begins : split.start ≤ maxOffset)
    (first : split.start = 0 ∨ lineFeed ∈ content.drop split.start ∨ e = none) :
    ∃ r, openSplit fs split settings schema = .ok r ∧ r.path = split.path ∧
      r.settings = settings ∧
      r.lines.Holds (linesWithin content split.start split.readStop).flatten
        (if lineFeed ∈ content.drop split.readStop then none else e) := by
  obtain ⟨range, hopen, hgives⟩ := LineRange.ofCursor_gives (c := .ofHandle handle 0)
    settings.readBufferBytes (Split.start_le_readStop begins) begins gives first
  rw [Split.readStop] at hopen
  simp only [openSplit, opens, bind, Except.bind, hopen]
  exact ⟨_, rfl, rfl, rfl, Buffered.holds_ofSource buffer hgives⟩

theorem TextReader.openSplit_holds (schema : List PhysicalField)
    (buffer : 0 < settings.readBufferBytes) (opens : fs.openFile split.path = .ok handle)
    (serves : handle.Serves content) (fits : content.length ≤ maxOffset)
    (begins : split.start ≤ maxOffset) :
    ∃ r, openSplit fs split settings schema = .ok r ∧ r.path = split.path ∧
      r.settings = settings ∧
      r.lines.Holds (linesWithin content split.start split.readStop).flatten none := by
  obtain ⟨r, hopen, hpath, hsettings, hholds⟩ := openSplit_holds_of_gives schema buffer opens
    (Cursor.gives (c := .ofHandle handle split.start) serves fits) begins (.inr (.inr rfl))
  rw [ite_self] at hholds
  exact ⟨r, hopen, hpath, hsettings, hholds⟩

/-- A split of text gives the listing of the lines that begin in it. -/
theorem Table.splitListing_text {t : Table} (split : Split) (text : t.format = .text)
    (buffer : 0 < t.settings.text.readBufferBytes)
    (opens : fs.openFile split.path = .ok handle) (serves : handle.Serves content)
    (fits : content.length ≤ maxOffset) (begins : split.start ≤ maxOffset) :
    t.splitListing fs split = textListing t.settings.text
      ((linesWithin content split.start split.readStop).map (split.path, ·)) := by
  obtain ⟨r, hreader, hpath, hsettings, hholds⟩ :=
    TextReader.openSplit_holds t.settings.textSchema buffer opens serves fits begins
  have hlisting := SplitReader.listing_text hholds
  rw [lines_flatten_linesWithin, hpath, hsettings] at hlisting
  simp only [splitListing, SplitReader.openSplit, text, hreader, Except.map, hlisting]

end TableScan
