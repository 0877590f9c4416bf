import TableScan.File.Cursor
import TableScan.Proofs.File.Lines

/-!
# Sources as streams

`Gives s l e` says what a source `s` still has to give: the bytes `l`, in pieces of any size, and
then its end or, for good, failures of a kind, as `e` tells. A cursor on a file that serves its
content gives the content from its offset on. A buffer over a source holds (`Buffered.Holds`) the
bytes in it and those that its source gives; filling it, taking from it and reading lines off it
are told by that alone, however the pieces were cut.
-/

namespace TableScan.File

/-- How the bytes of a source end: with the source, or with failures of a kind. -/
abbrev Ending := Option (IoError → Prop)

/-- What a read reports when all bytes have been given. -/
inductive Ending.Reports : Ending → Except IoError (List UInt8) → Prop where
  | atEnd : Reports none (.ok [])
  | failure {kind : IoError → Prop} {err : IoError} : kind err → Reports (some kind) (.error err)

/-- A read of at most `count` bytes that takes `l` to `rest`: it gives at least one byte while
there are some, and reports the ending after the last. -/
inductive Gave (count : Nat) (e : Ending) :
    (l : List UInt8) → Except IoError (List UInt8) → (rest : List UInt8) → Prop where
  | bytes {bytes rest : List UInt8} : bytes ≠ [] → bytes.length ≤ count →
      Gave count e (bytes ++ rest) (.ok bytes) rest
  | ended {r : Except IoError (List UInt8)} : e.Reports r → Gave count e [] r []

theorem Gave.take {count n : Nat} {e : Ending} {l : List UInt8} (hl : l ≠ []) (hn : 0 < n)
    (hc : n ≤ count) : Gave count e l (.ok (l.take n)) (l.drop n) := by
  have hgave : Gave count e (l.take n ++ l.drop n) (.ok (l.take n)) (l.drop n) := by
    refine .bytes ?_ (by simp only [List.length_take]; omega)
    rw [ne_eq, List.take_eq_nil_iff]
    exact not_or.2 ⟨by omega, hl⟩
  rwa [List.take_append_drop] at hgave

theorem Gave.ok {count : Nat} {l rest : List UInt8} {r : Except IoError (List UInt8)}
    (h : Gave count none l r rest) :
    ∃ bytes, r = .ok bytes ∧ l = bytes ++ rest ∧ bytes.length ≤ count ∧ (bytes = [] ↔ l = []) := by
  cases h with
  | @bytes bytes _ hne hle => exact ⟨bytes, rfl, rfl, hle, by simp [hne]⟩
  | ended hr =>
    cases hr
    exact ⟨[], rfl, rfl, Nat.zero_le _, Iff.rfl⟩

namespace ByteReader

variable {σ : Type} [ByteReader σ]

/-- Reads keep a relation between a source and what it still has to give. -/
def Faithful (R : σ → List UInt8 → Ending → Prop) : Prop :=
  ∀ {s l e count}, R s l e → 0 < count →
    ∃ rest, Gave count e l (read s count).1 rest ∧ R (read s count).2 rest e

/-- The source gives the bytes `l`, and then ends as `e` tells. -/
def Gives (s : σ) (l : List UInt8) (e : Ending) : Prop := ∃ R, Faithful R ∧ R s l e

theorem Gives.read {s : σ} {l : List UInt8} {e : Ending} {count : Nat} (h : Gives s l e)
    (hc : 0 < count) :
    ∃ rest, Gave count e l (read s count).1 rest ∧ Gives (read s count).2 rest e := by
  obtain ⟨R, hR, h⟩ := h
  obtain ⟨rest, hg, h'⟩ := hR h hc
  exact ⟨rest, hg, R, @hR, h'⟩

end ByteReader

open ByteReader

/-! ### Cursors -/

section

variable {c : Cursor} {content : List UInt8} {count k : Nat}

theorem Cursor.read_of_readAt (fits : content.length ≤ maxOffset) (hk : k ≤ count)
    (h : c.handle.readAt c.requests c.offset count = .ok ((content.drop c.offset).take k)) :
    c.read count = (.ok ((content.drop c.offset).take k),
      { c with offset := c.offset + ((content.drop c.offset).take k).length
               requests := c.requests + 1 }) := by
  have hgiven : ((content.drop c.offset).take k).take (min count (maxOffset - c.offset)) =
      (content.drop c.offset).take k := by
    refine List.take_of_length_le ?_
    simp only [List.length_take, List.length_drop]
    omega
  simp only [Cursor.read, h, hgiven]

theorem Cursor.read_eq (fits : content.length ≤ maxOffset) (hk : k ≤ count)
    (h : c.handle.readAt c.requests c.offset count = .ok ((content.drop c.offset).take k)) :
    (read c count).1 = .ok ((content.drop c.offset).take k) ∧
      (read c count).2.handle = c.handle ∧
      content.drop (read c count).2.offset = (content.drop c.offset).drop k := by
  rw [Cursor.read_of_readAt fits hk h]
  refine ⟨rfl, rfl, ?_⟩
  rw [← List.drop_drop, List.length_take]
  by_cases hn : k ≤ (content.drop c.offset).length
  · rw [Nat.min_eq_left hn]
  · rw [Nat.min_eq_right (by omega), List.drop_length, List.drop_of_length_le (by omega)]

end

def Cursor.On (content : List UInt8) (c : Cursor) (l : List UInt8) (e : Ending) : Prop :=
  c.handle.Serves content ∧ l = content.drop c.offset ∧ e = none

theorem Cursor.faithful_on {content : List UInt8} (fits : content.length ≤ maxOffset) :
    Faithful (Cursor.On content) := by
  intro c l e count h hc
  obtain ⟨hs, rfl, rfl⟩ := h
  obtain ⟨k, hr, hk, hpos⟩ := hs c.requests c.offset count
  obtain ⟨hgiven, hhandle, hrest⟩ := Cursor.read_eq fits hk hr
  have hread : ByteReader.read c count = c.read count := rfl
  rw [hread, hgiven]
  refine ⟨(content.drop c.offset).drop k, ?_, hhandle ▸ hs, hrest.symm, rfl⟩
  by_cases hl : c.offset < content.length
  · exact .take (by rw [ne_eq, List.drop_eq_nil_iff]; omega) (hpos hl hc) hk
  · rw [List.drop_eq_nil_of_le (by omega), List.take_nil, List.drop_nil]
    exact .ended .atEnd

theorem Cursor.gives {c : Cursor} {content : List UInt8} (serves : c.handle.Serves content)
    (fits : content.length ≤ maxOffset) : Gives c (content.drop c.offset) none :=
  ⟨_, Cursor.faithful_on fits, serves, rfl, rfl⟩

/-! ### Buffers -/

/-- What reading the first line of `l` reports: the line, if a line feed or the end of the source
ends it, and otherwise the failure that came before its end. -/
inductive LineOf (l : List UInt8) (e : Ending) : Except IoError (List UInt8) → Prop where
  | ended : lineFeed ∈ l → LineOf l e (.ok (l.take (lineLength l)))
  | last {r : Except IoError (List UInt8)} : lineFeed ∉ l → e.Reports r →
      LineOf l e (r.map fun _ => l)

theorem LineOf.eq_of_mem {l : List UInt8} {e : Ending} {r : Except IoError (List UInt8)}
    (h : LineOf l e r) (hm : lineFeed ∈ l) : r = .ok (l.take (lineLength l)) := by
  cases h with
  | ended => rfl
  | last hl => exact absurd hm hl

theorem LineOf.eq_of_none {l : List UInt8} {r : Except IoError (List UInt8)}
    (h : LineOf l none r) : r = .ok (l.take (lineLength l)) := by
  cases h with
  | ended => rfl
  | last hl hr =>
    cases hr
    rw [lineLength_of_not_mem hl, List.take_length]
    rfl

theorem LineOf.eq_error {l : List UInt8} {kind : IoError → Prop}
    {r : Except IoError (List UInt8)} (h : LineOf l (some kind) r) (hl : lineFeed ∉ l) :
    ∃ err, r = .error err ∧ kind err := by
  cases h with
  | ended hm => exact absurd hm hl
  | last _ hr =>
    cases hr with
    | failure hk => exact ⟨_, rfl, hk⟩

/-- Bytes without a line feed begin the line that goes on after them. -/
theorem LineOf.append {a l : List UInt8} {e : Ending} {r : Except IoError (List UInt8)}
    (h : LineOf l e r) (ha : lineFeed ∉ a) : LineOf (a ++ l) e (r.map (a ++ ·)) := by
  cases h with
  | ended hm =>
    have hline := LineOf.ended (e := e) (List.mem_append_right a hm)
    rwa [lineLength_append_of_not_mem _ ha, List.take_length_add_append] at hline
  | @last r hl hr =>
    have hline := LineOf.last (l := a ++ l) (by simp [ha, hl]) hr
    cases r <;> exact hline

namespace Buffered

variable {σ : Type} [ByteReader σ] {b : Buffered σ} {l : List UInt8} {e : Ending}

/-- The bytes of a buffer and those its source still gives are `l`, and then comes `e`. -/
def Holds (b : Buffered σ) (l : List UInt8) (e : Ending) : Prop :=
  0 < b.capacity ∧ ∃ rest, l = b.buffer ++ rest ∧ Gives b.source rest e

theorem holds_ofSource {capacity : Nat} {s : σ} (hc : 0 < capacity) (h : Gives s l e) :
    (ofSource capacity s).Holds l e := ⟨hc, l, rfl, h⟩

theorem Holds.drop (h : b.Holds l e) {n : Nat} (hn : n ≤ b.buffer.length) :
    { b with buffer := b.buffer.drop n }.Holds (l.drop n) e := by
  obtain ⟨hc, rest, rfl, hg⟩ := h
  exact ⟨hc, rest, List.drop_append_of_le_length hn, hg⟩

theorem Holds.take_eq (h : b.Holds l e) {n : Nat} (hn : n ≤ b.buffer.length) :
    b.buffer.take n = l.take n := by
  obtain ⟨-, rest, rfl, -⟩ := h
  rw [List.take_append_of_le_length hn]

theorem Holds.length_le (h : b.Holds l e) : b.buffer.length ≤ l.length := by
  obtain ⟨-, rest, rfl, -⟩ := h
  simp

/-- Filling a buffer keeps what it holds. It leaves some bytes in the buffer, or there are none
and the ending is reported. -/
theorem Holds.fill (h : b.Holds l e) :
    b.fill.2.Holds l e ∧
      (b.fill.1 = .ok () ∧ b.fill.2.buffer ≠ [] ∨
        l = [] ∧ b.fill.2.buffer = [] ∧ ∃ r, e.Reports r ∧ b.fill.1 = r.map fun _ => ()) := by
  obtain ⟨hc, rest, rfl, hg⟩ := h
  unfold Buffered.fill
  split
  · rename_i hb
    exact ⟨⟨hc, rest, rfl, hg⟩, .inl ⟨rfl, by simp [hb]⟩⟩
  · rename_i hb
    obtain ⟨rest', hgave, hg'⟩ := hg.read hc
    rcases hr : ByteReader.read b.source b.capacity with ⟨r, s'⟩
    rw [hr] at hgave hg'
    cases hgave with
    | bytes hne hlen => exact ⟨⟨hc, rest', by simp [hb], hg'⟩, .inl ⟨rfl, hne⟩⟩
    | ended hr =>
      have hnone : b.buffer ++ [] = [] := by rw [hb, List.append_nil]
      rw [hnone]
      cases hr with
      | atEnd => exact ⟨⟨hc, [], rfl, hg'⟩, .inr ⟨rfl, rfl, _, .atEnd, rfl⟩⟩
      | failure hk =>
        exact ⟨⟨hc, [], hnone.symm, hg'⟩, .inr ⟨rfl, hb, _, .failure hk, rfl⟩⟩

theorem Holds.line_append {start rest : List UInt8} {result : Except IoError (List UInt8)}
    (hm : lineFeed ∉ start)
    (h : LineOf rest e result ∧ b.Holds (rest.drop (lineLength rest)) e) :
    LineOf (start ++ rest) e (result.map (start ++ ·)) ∧
      b.Holds ((start ++ rest).drop (lineLength (start ++ rest))) e := by
  obtain ⟨hline, hholds⟩ := h
  rw [lineLength_append_of_not_mem _ hm, List.drop_length_add_append]
  exact ⟨hline.append hm, hholds⟩

/-- Reading a line gives the bytes through the line feed, or up to the end of the source, and keeps
what comes after them. -/
theorem Holds.takeLine (h : b.Holds l e) :
    LineOf l e b.takeLine.1 ∧ b.takeLine.2.Holds (l.drop (lineLength l)) e := by
  obtain ⟨hc, rest, rfl, hg⟩ := h
  fun_induction Buffered.takeLine b generalizing rest with
  | case1 b line more hcut =>
    obtain ⟨hm, heq⟩ | ⟨-, heq⟩ := cutAfterLineFeed_eq b.buffer
    · rw [heq, Prod.mk.injEq, Option.some.injEq] at hcut
      obtain ⟨rfl, rfl⟩ := hcut
      have hle := lineLength_le b.buffer
      have hline := LineOf.ended (e := e) (List.mem_append_left rest hm)
      rw [lineLength_append_of_mem rest hm, List.take_append_of_le_length hle] at hline
      rw [lineLength_append_of_mem rest hm]
      exact ⟨hline, hc, rest, List.drop_append_of_le_length hle, hg⟩
    · simp [heq] at hcut
  | case2 b start hcut err source hr =>
    obtain ⟨hm, rfl⟩ := of_cutAfterLineFeed_eq_none hcut
    obtain ⟨rest', hgave, hg'⟩ := hg.read hc
    rw [hr] at hgave hg'
    cases hgave with
    | ended he =>
      cases he with
      | @failure kind _ hk =>
        have hline : LineOf [] (some kind) (.error err) ∧
            Holds { b with source, buffer := [] } [] (some kind) :=
          ⟨.last List.not_mem_nil (.failure hk), hc, [], rfl, hg'⟩
        exact Holds.line_append hm hline
  | case3 b start hcut source hr =>
    obtain ⟨hm, rfl⟩ := of_cutAfterLineFeed_eq_none hcut
    obtain ⟨rest', hgave, hg'⟩ := hg.read hc
    rw [hr] at hgave hg'
    cases hgave with
    | bytes hne => exact absurd rfl hne
    | ended he =>
      cases he with
      | atEnd =>
        have hline : LineOf [] none (.ok []) ∧ Holds { b with source, buffer := [] } [] none :=
          ⟨.last List.not_mem_nil .atEnd, hc, [], rfl, hg'⟩
        have := Holds.line_append hm hline
        simpa only [Except.map, List.append_nil] using this
  | case4 b start hcut c bytes source hr more b₁ ht ih =>
    obtain ⟨hm, rfl⟩ := of_cutAfterLineFeed_eq_none hcut
    obtain ⟨rest', hgave, hg'⟩ := hg.read hc
    rw [hr] at hgave hg'
    cases hgave with
    | bytes =>
      have hline := ih hc rest' hg'
      rw [ht] at hline
      exact Holds.line_append hm hline
    | ended he => cases he
  | case5 b start hcut c bytes source hr err b₁ ht ih =>
    obtain ⟨hm, rfl⟩ := of_cutAfterLineFeed_eq_none hcut
    obtain ⟨rest', hgave, hg'⟩ := hg.read hc
    rw [hr] at hgave hg'
    cases hgave with
    | bytes =>
      have hline := ih hc rest' hg'
      rw [ht] at hline
      exact Holds.line_append hm hline
    | ended he => cases he

end Buffered

end TableScan.File
