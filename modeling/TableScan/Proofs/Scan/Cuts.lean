import TableScan.Proofs.Scan.Enumeration
import TableScan.Proofs.Scan.TextListing

/-!
# Cuts of text files

However a text file is cut into ranges, the listings of the ranges make up the listing of its lines
(`listing_splitsOf`): a range leaves off where the next one takes up, and what a cut goes through
belongs to the range before it.
-/

namespace TableScan

open File

/-- What each file opens to: its content, or a failure. -/
abbrev Contents := String → Except Error (List UInt8)

/-- A listed file opens to its content, which is served without fail and is no longer than listed,
or it fails to open. -/
def FileSystem.Keeps (fs : FileSystem) (stored : Contents) (file : FileStatus) : Prop :=
  match stored file.path with
  | .ok content =>
    content.length ≤ file.length ∧ file.length ≤ maxOffset ∧
      ∃ handle, fs.openFile file.path = .ok handle ∧ handle.Serves content
  | .error e => fs.openFile file.path = .error e

def fileListing (settings : TextSettings) (stored : Contents) (file : FileStatus) : Listing :=
  match stored file.path with
  | .ok content => textListing settings ((lines content).map (file.path, ·))
  | .error e => { records := [], failure := some ⟨file.path, e⟩ }

/-- What configuring a scan of text files answers: their listing fails, or there are none, or the
first does not open, or all is well. -/
def configured (stored : Contents) : Except Error (List FileStatus) → Except Error Unit
  | .error e => .error e
  | .ok [] => .error (.state (.splitOutOfRange 0 0))
  | .ok (file :: _) => (stored file.path).map fun _ => ()

namespace Table

variable {t : Table} {fs : FileSystem}

theorem listing_rangesFrom {path : String} {handle : Handle} {content : List UInt8}
    {fileLength maxBytes start : Nat} (text : t.format = .text)
    (buffer : 0 < t.settings.text.readBufferBytes) (opens : fs.openFile path = .ok handle)
    (serves : handle.Serves content) (listed : content.length ≤ fileLength)
    (fits : fileLength ≤ maxOffset) (positive : 0 < maxBytes) (cut : maxBytes < fileLength) :
    t.listing fs (Split.rangesFrom path fileLength maxBytes start) =
      textListing t.settings.text
        ((lines (content.drop (firstWithin content start))).map (path, ·)) := by
  fun_induction Split.rangesFrom path fileLength maxBytes start with
  | case1 start h =>
    rw [drop_firstWithin (by omega)]
    rfl
  | case2 start h length ih =>
    have hpos : 0 < length := by omega
    have hstop : Split.readStop ⟨path, start, length, fileLength⟩ = start + length :=
      Split.readStop_of_lt (by dsimp only; omega)
    have hsplit := splitListing_text ⟨path, start, length, fileLength⟩ text buffer opens serves
      (Nat.le_trans listed fits) (by dsimp only; omega)
    rw [listing, ih, hsplit, hstop, ← textListing_append, ← List.map_append,
      linesWithin_append content (Nat.le_add_right ..) (by omega)]

theorem listing_wholeFile {path : String} {handle : Handle} {content : List UInt8}
    (fileLength : Nat) (text : t.format = .text) (buffer : 0 < t.settings.text.readBufferBytes)
    (opens : fs.openFile path = .ok handle) (serves : handle.Serves content)
    (fits : content.length ≤ maxOffset) :
    t.listing fs [.wholeFile path fileLength] =
      textListing t.settings.text ((lines content).map (path, ·)) := by
  have hsplit := splitListing_text (.wholeFile path fileLength) text buffer opens serves fits
    (Nat.zero_le _)
  have hlines := linesWithin_zero fits (show 0 < maxOffset by decide)
  rw [listing, listing, Listing.append_nil, hsplit, Split.readStop_wholeFile]
  exact congrArg (fun ls => textListing t.settings.text (ls.map (path, ·))) hlines

theorem exists_splitsOf (format : Format) (options : Options) (file : FileStatus) :
    ∃ split rest, splitsOf format options file = split :: rest ∧ split.path = file.path ∧
      split.start = 0 := by
  unfold splitsOf
  split
  · split
    · unfold Split.ranges
      split
      · exact ⟨_, _, rfl, rfl, rfl⟩
      · rw [Split.rangesFrom, if_neg (by omega)]
        exact ⟨_, _, rfl, rfl, rfl⟩
    · exact ⟨_, _, rfl, rfl, rfl⟩
  · exact ⟨_, _, rfl, rfl, rfl⟩

/-- The splits of a text file, however it is cut, give the listing of its lines. -/
theorem listing_splitsOf {stored : Contents} {file : FileStatus} (text : t.format = .text)
    (buffer : 0 < t.settings.text.readBufferBytes) (keeps : fs.Keeps stored file)
    (options : Options) :
    t.listing fs (splitsOf .text options file) = fileListing t.settings.text stored file := by
  unfold FileSystem.Keeps at keeps
  unfold fileListing
  split at keeps
  · rename_i content hstored
    obtain ⟨listed, fits, handle, opens, serves⟩ := keeps
    have hwhole := listing_wholeFile file.length text buffer opens serves
      (Nat.le_trans listed fits)
    unfold splitsOf
    split
    · simp only [Format.isSplittable, ↓reduceIte, Split.ranges]
      split
      · exact hwhole
      · exact listing_rangesFrom text buffer opens serves listed fits (by omega) (by omega)
    · exact hwhole
  · rename_i e hstored
    obtain ⟨split, rest, hsplits, hpath, -⟩ := exists_splitsOf .text options file
    have hopen : SplitReader.openSplit t.format fs split t.settings = .error e := by
      simp only [SplitReader.openSplit, text, TextReader.openSplit, hpath, keeps, bind, Except.bind,
        Except.map]
    rw [hsplits, listing, splitListing, hopen, hpath]
    exact Listing.failed_append ..

end Table

end TableScan
