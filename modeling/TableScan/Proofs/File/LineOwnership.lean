import TableScan.File.Stored
import TableScan.Proofs.File.RangeWindow

/-!
# The lines that a range owns

Reads of a range, of whatever sizes, together hand on the lines that begin in it (`On.reads`), and
the range ends where the next one begins (`firstWithin_add_length`), so over consecutive ranges no
byte is lost or read twice.
-/

namespace TableScan.File

/-- Reads one after the other, each of at most the bytes asked for. -/
def ByteReader.reads {σ : Type} [ByteReader σ] (s : σ) :
    List Nat → List (Except IoError (List UInt8)) × σ
  | [] => ([], s)
  | count :: counts =>
    let (result, s) := read s count
    let (results, s) := reads s counts
    (result :: results, s)

namespace LineRange

variable {content : List UInt8} {r : LineRange}

/-- A read of a file that does not fail hands on a piece of what is pending, and nothing only when
nothing is pending. -/
theorem On.read_ok (h : r.On content none) (count : Nat) :
    ∃ bytes r', r.read count = (.ok bytes, r') ∧ r'.On content none ∧
      r.pending content = bytes ++ r'.pending content ∧
      r'.position = r.position + bytes.length ∧
      (0 < count → (bytes = [] ↔ r.pending content = [])) := by
  by_cases hc : count = 0
  · subst hc
    exact ⟨[], r, by simp [LineRange.read], h, rfl, rfl, fun h0 => absurd h0 (by omega)⟩
  · obtain ⟨hg, hon, -, hpos⟩ := h.read (Nat.pos_of_ne_zero hc)
    have hends : r.ends content none = none := by simp [ends]
    rw [hends] at hg
    obtain ⟨bytes, hr, hp, -, hempty⟩ := hg.ok
    refine ⟨bytes, (r.read count).2, Prod.ext hr rfl, hon, hp, ?_, fun _ => hempty⟩
    rw [hp, List.length_append] at hpos
    omega

theorem pending_prefix : r.pending content <+: content.drop r.position := by
  unfold pending
  split
  · exact List.nil_prefix
  · exact List.take_prefix ..

/-- Reads of a file that does not fail hand on a part of what is pending, and all of it once a read
of some bytes has handed on none. -/
theorem On.reads (h : r.On content none) (counts : List Nat) :
    ∃ (pieces : List (List UInt8)) (r' : LineRange),
      ByteReader.reads r counts = (pieces.map .ok, r') ∧ r'.On content none ∧
      r.pending content = pieces.flatten ++ r'.pending content ∧
      r'.position = r.position + pieces.flatten.length ∧
      ∀ i count : Nat, counts[i]? = some count → 0 < count → pieces[i]? = some [] →
        r'.pending content = [] := by
  induction counts generalizing r with
  | nil => exact ⟨[], r, rfl, h, rfl, rfl, by simp⟩
  | cons count counts ih =>
    obtain ⟨bytes, r₁, hr, h1, hp, hpos, hempty⟩ := h.read_ok count
    obtain ⟨pieces, r₂, hrs, h2, hp2, hpos2, hlast⟩ := ih h1
    refine ⟨bytes :: pieces, r₂, ?_, h2, ?_, ?_, ?_⟩
    · have : ByteReader.read r count = (.ok bytes, r₁) := hr
      simp only [ByteReader.reads, this, hrs, List.map_cons]
    · rw [hp, hp2, List.flatten_cons, List.append_assoc]
    · rw [hpos2, hpos, List.flatten_cons, List.length_append, Nat.add_assoc]
    · intro i c hi hc hb
      cases i with
      | zero =>
        simp only [List.getElem?_cons_zero, Option.some.injEq] at hi hb
        subst hi
        have hnone := (hempty hc).1 hb
        rw [hp, hp2, List.append_eq_nil_iff, List.append_eq_nil_iff] at hnone
        exact hnone.2.2
      | succ i => exact hlast i c hi hc hb

/-- A range ends at the first line behind `stop`, where the next range begins. -/
theorem firstWithin_add_length {start stop : Nat} (h : start ≤ stop) (h0 : 0 < stop)
    (hstop : stop ≤ content.length) :
    firstWithin content start + (linesWithin content start stop).flatten.length =
      firstWithin content stop := by
  have happend := congrArg (List.length ∘ List.flatten) (linesWithin_append content h h0)
  simp only [Function.comp_apply, List.flatten_append, List.length_append, flatten_lines,
    List.length_drop] at happend
  have := firstWithin_le (Nat.le_trans h hstop)
  have := firstWithin_le hstop
  omega

/-- A reader of a range hands on the lines that begin in it, whatever the sizes of its reads and of
the pieces it is served. Its position is the offset of the next byte. Once a read of some bytes has
handed on none, nothing more comes, and the range after it begins where it ended. -/
theorem reads_hand_on_lines_of_range {c : Cursor} (serves : c.handle.Serves content)
    (fits : content.length ≤ maxOffset) {start : Nat} (hstart : start ≤ maxOffset)
    (stop capacity : Nat) :
    ∃ r, ofCursor c start stop capacity = .ok r ∧
      ∀ counts, ∃ (pieces : List (List UInt8)) (r' : LineRange),
        ByteReader.reads r counts = (pieces.map .ok, r') ∧
        pieces.flatten <+: (linesWithin content start stop).flatten ∧
        r'.position = r.position + pieces.flatten.length ∧
        (linesWithin content start stop).flatten.drop pieces.flatten.length <+:
          content.drop r'.position ∧
        (∀ count, 0 < count → ((r'.read count).1 = .ok [] ↔
          pieces.flatten = (linesWithin content start stop).flatten)) ∧
        (∀ i count : Nat, counts[i]? = some count → 0 < count → pieces[i]? = some [] →
          pieces.flatten = (linesWithin content start stop).flatten ∧
          (∀ count, (r'.read count).1 = .ok []) ∧
          (start ≤ stop → 0 < stop → stop ≤ content.length →
            ∀ c' : Cursor, c'.handle.Serves content → ∀ stop' capacity',
              ∃ next, ofCursor c' stop stop' capacity' = .ok next ∧
                r'.position = next.position)) := by
  obtain ⟨r, hopen, hon, -, hfirst, hall⟩ := ofCursor_on (c := c) stop capacity hstart
    (Cursor.gives serves fits) (.inr (.inr rfl))
  refine ⟨r, hopen, fun counts => ?_⟩
  obtain ⟨pieces, r', hreads, hon', hp, hpos, hlast⟩ := hon.reads counts
  rw [hall] at hp
  have hover : pieces.flatten = (linesWithin content start stop).flatten ↔
      r'.pending content = [] := by
    rw [hp, List.self_eq_append_right]
  refine ⟨pieces, r', hreads, ⟨_, hp.symm⟩, hpos, ?_, fun count hc => ?_,
    fun i count hi hc hb => ?_⟩
  · rw [hp, List.drop_left]
    exact pending_prefix
  · obtain ⟨bytes, _, hr, -, -, -, hempty⟩ := hon'.read_ok count
    rw [hr, hover, ← hempty hc, Except.ok.injEq]
  · have hnone := hlast i count hi hc hb
    refine ⟨hover.2 hnone, fun count => ?_, fun h h0 hle c' serves' stop' capacity' => ?_⟩
    · obtain ⟨bytes, _, hr, -, hp', -, -⟩ := hon'.read_ok count
      rw [hnone] at hp'
      rw [hr, (List.append_eq_nil_iff.1 hp'.symm).1]
    · obtain ⟨next, hnext, -, -, hbegin, -⟩ := ofCursor_on (c := c') stop' capacity'
        (Nat.le_trans hle fits) (Cursor.gives serves' fits) (.inr (.inr rfl))
      refine ⟨next, hnext, ?_⟩
      rw [hpos, hfirst, hover.2 hnone, firstWithin_add_length h h0 hle, hbegin]

/-- The lines of "ab", "cd" and "ef" that begin behind offset 0 and up to offset 6, from a file that
is served byte by byte. -/
theorem reads_hand_on_lines_of_range_served_by_bytes :
    let file : Stored := { content := [97, 98, 10, 99, 100, 10, 101, 102, 10], piece := some 1 }
    (linesWithin file.content 1 6).flatten = [99, 100, 10, 101, 102, 10] ∧
      ∃ r, ofCursor (.ofHandle file.handle 0) 1 6 2 = .ok r ∧
        ∃ (pieces : List (List UInt8)) (r' : LineRange),
          ByteReader.reads r [4, 0, 1] = (pieces.map .ok, r') ∧
          pieces.flatten <+: [99, 100, 10, 101, 102, 10] := by
  intro file
  have hlines : (linesWithin file.content 1 6).flatten = [99, 100, 10, 101, 102, 10] := by decide
  obtain ⟨r, hopen, hreads⟩ := reads_hand_on_lines_of_range (c := .ofHandle file.handle 0)
    (Stored.serves_handle (s := file) rfl (by decide)) (by decide)
    (show 1 ≤ maxOffset by decide) 6 2
  obtain ⟨pieces, r', hr, hprefix, -⟩ := hreads [4, 0, 1]
  exact ⟨hlines, r, hopen, pieces, r', hr, hlines ▸ hprefix⟩

end LineRange

end TableScan.File
