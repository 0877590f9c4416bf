import Mathlib.Data.List.Forall2
import TableScan.Proofs.Reader.Records
import TableScan.Proofs.Scan.Cuts

/-!
# Line ends of text

The lines of a text file, each with its end put back, are the file again (`MadeOf`), but for one
byte: a carriage return at the very end of the file is left out with no line feed behind it
(`lines_are_kept_but_for_last_return`).
-/

namespace TableScan

open File

/-- Some content is made of lines, each with a line feed behind it that may come after a carriage
return, or with nothing behind it if it is the last. -/
inductive MadeOf : List (List Char) → List UInt8 → Prop where
  | nothing : MadeOf [] []
  | last (line : List Char) : MadeOf [line] (Text.encode line)
  | ended {ls : List (List Char)} {content : List UInt8} (line : List Char) (lineEnd : LineEnd) :
      MadeOf ls content → MadeOf (line :: ls) (Text.encode line ++ lineEnd.bytes ++ content)

/-- A record stands for a line. -/
def Record.Shows (settings : TextSettings) (line : List Char) (record : Record) : Prop :=
  ∃ cells value, ShowsLine settings line cells value ∧ ∀ i, record.cells i = .ok (value i)

theorem shows_textRecord (path : String) (settings : TextSettings) (line : List Char) :
    (textRecord path settings line).Shows settings line :=
  ⟨_, _, showsLine_tokens settings line, fun _ => rfl⟩

/-! ### Lines and their ends -/

theorem lineFeed_not_mem_encode {line : List Char} (h : '\n' ∉ line) :
    lineFeed ∉ Text.encode line :=
  fun hm => h (Text.mem_of_mem_encode (by decide) hm)

theorem withoutLineEnd_ended {line : List Char} :
    withoutLineEnd (Text.encode line ++ [lineFeed]) = Text.encode (Text.withoutLast '\r' line) := by
  rw [withoutLineEnd_eq, Text.withoutLast_concat]
  exact Text.withoutLast_encode (by decide) line

theorem withoutLineEnd_last {line : List Char} (h : '\n' ∉ line) :
    withoutLineEnd (Text.encode line) = Text.encode (Text.withoutLast '\r' line) := by
  have hlast : (Text.encode line).getLast? ≠ some lineFeed :=
    fun hl => lineFeed_not_mem_encode h (List.mem_of_getLast? hl)
  rw [withoutLineEnd_eq, Text.withoutLast_of_ne hlast]
  exact Text.withoutLast_encode (by decide) line

theorem MadeOf.ended_line {ls : List (List Char)} {content : List UInt8} (line : List Char)
    (h : MadeOf ls content) :
    MadeOf (Text.withoutLast '\r' line :: ls) (Text.encode line ++ lineFeed :: content) := by
  by_cases hlast : line.getLast? = some '\r'
  · obtain ⟨init, rfl⟩ := List.getLast?_eq_some_iff.1 hlast
    have hbytes : Text.encode (init ++ ['\r']) ++ lineFeed :: content =
        Text.encode init ++ LineEnd.returnLineFeed.bytes ++ content := by
      rw [Text.encode_append, List.append_assoc, List.append_assoc]
      rfl
    rw [Text.withoutLast_concat, hbytes]
    exact h.ended init .returnLineFeed
  · have hbytes : Text.encode line ++ lineFeed :: content =
        Text.encode line ++ LineEnd.lineFeed.bytes ++ content := by
      rw [List.append_assoc]
      rfl
    rw [Text.withoutLast_of_ne hlast, hbytes]
    exact h.ended line .lineFeed

theorem MadeOf.singleton {line : List Char} {content : List UInt8} (h : MadeOf [line] content) :
    content = Text.encode line ∨
      ∃ lineEnd : LineEnd, content = Text.encode line ++ lineEnd.bytes := by
  cases h with
  | last => exact .inl rfl
  | ended _ lineEnd h =>
    cases h
    exact .inr ⟨lineEnd, List.append_nil _⟩

/-- The lines that are read of a text: none has a line feed, and with their ends they make up the
text but for a carriage return at its end. -/
theorem exists_lines_madeOf (content : List Char) :
    ∃ ls : List (List Char),
      (lines (Text.encode content)).map (fun line => Text.Utf8.decode (withoutLineEnd line)) =
          ls.map .ok ∧
        (∀ line ∈ ls, '\n' ∉ line) ∧
        MadeOf ls (Text.withoutLast 13 (Text.encode content)) := by
  have hkept : ∀ line : List Char, '\n' ∉ line → '\n' ∉ Text.withoutLast '\r' line := by
    intro line h
    unfold Text.withoutLast
    split
    · exact fun hm => h (List.dropLast_subset _ hm)
    · exact h
  induction content using Text.pieceInduction '\n' with
  | last line h =>
    by_cases hnil : line = []
    · subst hnil
      exact ⟨[], rfl, nofun, .nothing⟩
    · refine ⟨[Text.withoutLast '\r' line], ?_, by simpa using hkept line h, ?_⟩
      · rw [lines_of_not_mem (Text.encode_ne_nil hnil) (lineFeed_not_mem_encode h)]
        simp only [List.map_cons, List.map_nil, withoutLineEnd_last h, Text.Utf8.decode_encode]
      · have hbytes : Text.withoutLast 13 (Text.encode line) =
            Text.encode (Text.withoutLast '\r' line) := Text.withoutLast_encode (by decide) line
        rw [hbytes]
        exact .last _
  | more line content h ih =>
    obtain ⟨ls, hdecode, hfree, hmade⟩ := ih
    have hbytes : Text.encode (line ++ '\n' :: content) =
        Text.encode line ++ lineFeed :: Text.encode content := by
      rw [Text.encode_append]
      rfl
    refine ⟨Text.withoutLast '\r' line :: ls, ?_, ?_, ?_⟩
    · rw [hbytes, lines_append_cons (lineFeed_not_mem_encode h), List.map_cons, hdecode,
        withoutLineEnd_ended, Text.Utf8.decode_encode, List.map_cons]
    · exact List.forall_mem_cons.2 ⟨hkept line h, hfree⟩
    · rw [hbytes, Text.withoutLast_append_cons (by decide)]
      exact hmade.ended_line line

namespace Table

theorem of_ofParams_text {p : Params} {t : Table} (h : ofParams .text p = .ok t) :
    t.format = .text ∧ ReaderSettings.textOfParams p = .ok t.settings.text := by
  obtain ⟨hformat, -, hsettings⟩ := of_ofParams h
  obtain ⟨text, htext, hok⟩ := bind_eq_ok hsettings
  rw [← Except.ok.inj hok]
  exact ⟨hformat, htext⟩

/-- A text file that is read through whatever cuts, buffers and pieces gives a record for each of
its lines. The lines with their ends are the file again, but for a carriage return at its end. -/
theorem lines_are_kept_but_for_last_return {p : Params} {t : Table}
    (ht : ofParams .text p = .ok t) {fs : FileSystem} {stored : Contents} {file : FileStatus}
    (keeps : fs.Keeps stored file) {content : List Char}
    (stores : stored file.path = .ok (Text.encode content)) :
    (t.listing fs (splitsOf .text p.options file)).failure = none ∧
      ∃ ls, List.Forall₂ (Record.Shows t.settings.text) ls
          (t.listing fs (splitsOf .text p.options file)).records ∧
        (∀ line ∈ ls, '\n' ∉ line) ∧
        MadeOf ls (Text.withoutLast 13 (Text.encode content)) := by
  obtain ⟨text, hs⟩ := of_ofParams_text ht
  obtain ⟨ls, hdecode, hfree, hmade⟩ := exists_lines_madeOf content
  have hlisting := listing_splitsOf text (ReaderSettings.buffer_pos hs) keeps p.options
  rw [fileListing, stores] at hlisting
  simp only [textListing_eq hdecode] at hlisting
  rw [hlisting]
  refine ⟨rfl, ls, ?_, hfree, hmade⟩
  rw [List.forall₂_map_right_iff, List.forall₂_same]
  exact fun line _ => shows_textRecord ..

/-- Two columns with a comma between them, cut after every second byte. -/
def commaParams : Params :=
  { location := "/t", dataColumns := ["x", "y"], fieldDelimiter := some ","
    options := { maxSplitBytes := some 2, readBufferBytes := 0 } }

def commaTable : Table where
  format := .text
  params := commaParams
  settings :=
    { text := { delimiter := { byte := 44 }, readBufferBytes := 1 }
      batchSize := 1024
      textSchema :=
        [{ name := "x", typeName := "string" }, { name := "y", typeName := "string" }] }

/-- One line, with a carriage return and no line feed at its end. -/
def returnText : List Char := ['a', ',', 'b', '\r']

def returnStore : MemoryStore :=
  { files :=
      [{ path := "/t/a", length := 4, data := { content := Text.encode returnText } }] }

def returnFile : FileStatus := { path := "/t/a", length := 4, isDirectory := false }

theorem ofParams_commaParams : ofParams .text commaParams = .ok commaTable :=
  eq_ok_of_toOption (by decide +kernel)

theorem keeps_returnFile :
    returnStore.fileSystem.Keeps (fun _ => .ok (Text.encode returnText)) returnFile :=
  ⟨show (Text.encode returnText).length ≤ 4 by decide, show 4 ≤ maxOffset by decide, _, by rfl,
    Stored.serves_handle rfl (show (none : Option Nat) ≠ some 0 by decide)⟩

theorem lines_are_kept_but_for_last_return_of_return_at_end :
    (commaTable.listing returnStore.fileSystem
        (splitsOf .text commaParams.options returnFile)).failure = none ∧
      ∃ ls, List.Forall₂ (Record.Shows commaTable.settings.text) ls
          (commaTable.listing returnStore.fileSystem
            (splitsOf .text commaParams.options returnFile)).records ∧
        (∀ line ∈ ls, '\n' ∉ line) ∧ MadeOf ls [97, 44, 98] :=
  lines_are_kept_but_for_last_return ofParams_commaParams keeps_returnFile rfl

/-- The carriage return of that file is lost: no lines that its records stand for make it up. -/
theorem last_return_is_lost :
    ofParams .text commaParams = .ok commaTable ∧
      ¬ ∃ ls, List.Forall₂ (Record.Shows commaTable.settings.text) ls
          (commaTable.listing returnStore.fileSystem
            (splitsOf .text commaParams.options returnFile)).records ∧
        MadeOf ls (Text.encode returnText) := by
  have hlisting := listing_splitsOf rfl (by decide) keeps_returnFile commaParams.options
    (t := commaTable)
  have hdecode : (lines (Text.encode returnText)).map
      (fun line => Text.Utf8.decode (withoutLineEnd line)) = [['a', ',', 'b']].map .ok := by
    rfl
  simp only [fileListing, textListing_eq hdecode] at hlisting
  rw [hlisting]
  refine ⟨ofParams_commaParams, ?_⟩
  rintro ⟨ls, hshows, hmade⟩
  simp only [List.map_cons, List.map_nil, List.forall₂_cons_right_iff,
    List.forall₂_nil_right_iff] at hshows
  obtain ⟨line, _, ⟨cells, value, hline, hcells⟩, rfl, rfl⟩ := hshows
  obtain hbytes | ⟨lineEnd, hbytes⟩ := hmade.singleton
  · obtain rfl : returnText = line := Text.encode_injective hbytes
    -- the second cell of such a line has the carriage return, and that of the record has not
    have hpieces : cells = [['a'], ['b', '\r']] := by
      rw [← Text.pieces_joined hline.ne_nil hline.delimited, hline.joined]
      rfl
    have hvalue := hline.value_eq 1 ['b', '\r'] "b\r" (by rw [hpieces]; rfl) rfl
    have hcell : value 1 = some "b" := (Except.ok.inj (hcells 1)).symm
    rw [hcell] at hvalue
    exact absurd hvalue (by decide)
  · have hlast : (Text.encode returnText).getLast? = some 10 := by
      rw [hbytes]
      cases lineEnd <;> simp [LineEnd.bytes]
    exact absurd hlast (by decide)

end Table

end TableScan
