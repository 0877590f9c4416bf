import TableScan.Proofs.File.LineOwnership

/-!
# Chunks

A chunk is read by as many requests as it takes. How many bytes each of them is given does not
show: the chunk is the file's content between two offsets, or the file ends inside it
(`chunk_eq`). No request goes beyond the file or, for a chunk that begins there, beyond its first
byte, so what a handle would do past the largest offset never matters. A buffered reader that
begins where the chunk does gives the same bytes (`gives_readerAt`).
-/

namespace TableScan.File

open ByteReader

variable {h : Handle} {content : List UInt8} {nth offset length found : Nat}

namespace Handle

/-- A handle serves some content at all offsets there are. What it does past the largest offset is
left open. -/
def ServesInReach (h : Handle) (content : List UInt8) : Prop :=
  ∀ nth offset count, offset ≤ maxOffset → ∃ k,
    h.readAt nth offset count = .ok ((content.drop offset).take k) ∧ k ≤ count ∧
      (offset < content.length → 0 < count → 0 < k)

theorem Serves.inReach (serves : h.Serves content) : h.ServesInReach content :=
  fun nth offset count _ => serves nth offset count

theorem chunkFrom_eq (serves : h.ServesInReach content) (fits : content.length ≤ maxOffset)
    (inReach : offset ≤ maxOffset) (within : found = 0 ∨ offset + found ≤ content.length) :
    h.chunkFrom nth offset length found =
      if length ≤ found ∨ offset + length ≤ content.length then
        .ok ((content.drop (offset + found)).take (length - found))
      else .error (.unexpectedEnd length offset (content.length - offset)) := by
  fun_induction h.chunkFrom nth offset length found with
  | case1 nth found done =>
    rw [if_pos (.inl done), Nat.sub_eq_zero_of_le done, List.take_zero]
  | case2 nth found more e hread =>
    obtain ⟨k, hserved, -, -⟩ := serves nth (offset + found) (length - found) (by omega)
    rw [hserved] at hread
    cases hread
  | case3 nth found more hread =>
    obtain ⟨k, hserved, -, hpos⟩ := serves nth (offset + found) (length - found) (by omega)
    rw [hserved, Except.ok.injEq, List.take_eq_nil_iff, List.drop_eq_nil_iff] at hread
    have hend : content.length ≤ offset + found := by
      rcases hread with hk | hend
      · omega
      · exact hend
    rw [if_neg (by omega)]
    congr
    omega
  | case4 nth found more b bytes hread given ih =>
    obtain ⟨k, hserved, -, -⟩ := serves nth (offset + found) (length - found) (by omega)
    rw [hserved, Except.ok.injEq] at hread
    -- the bytes given begin what is left of the content
    have hprefix : given <+: content.drop (offset + found) :=
      (List.take_prefix ..).trans (hread ▸ List.take_prefix ..)
    have hle := hprefix.length_le
    have hgiven := List.prefix_iff_eq_take.1 hprefix
    have hlength : given.length = min (length - found) (bytes.length + 1) := List.length_take
    rw [List.length_drop] at hle
    rw [ih (.inr (by omega))]
    by_cases hends : offset + length ≤ content.length
    · have hrest : length - found = given.length + (length - (found + given.length)) := by omega
      rw [if_pos (.inr hends), if_pos (.inr hends), hrest, List.take_add, ← hgiven,
        List.drop_drop, Nat.add_assoc]
      rfl
    · rw [if_neg (by omega), if_neg (by omega)]
      rfl

theorem chunk_eq (serves : h.ServesInReach content) (fits : content.length ≤ maxOffset)
    (inReach : offset ≤ maxOffset) (length : Nat) :
    h.chunk offset length =
      if length = 0 ∨ offset + length ≤ content.length then
        .ok ((content.drop offset).take length)
      else .error (.unexpectedEnd length offset (content.length - offset)) := by
  have hchunk : h.chunkFrom 0 offset length 0 = _ := chunkFrom_eq serves fits inReach (.inl rfl)
  rw [chunk, hchunk]
  simp only [Nat.le_zero_eq, Nat.add_zero, Nat.sub_zero]

end Handle

/-! ### Reading the same bytes through a buffer -/

theorem Buffered.faithful_holds {σ : Type} [ByteReader σ] : Faithful (@Buffered.Holds σ _) := by
  intro b l e count holds positive
  obtain ⟨hfilled, hcases⟩ := holds.fill
  show ∃ rest, Gave count e l (b.read count).1 rest ∧ (b.read count).2.Holds rest e
  unfold Buffered.read
  rcases hfill : b.fill with ⟨r, filled⟩
  rw [hfill] at hfilled hcases
  rcases hcases with ⟨rfl, hne⟩ | ⟨rfl, hnone, r, hreports, rfl⟩
  · have hpos : 0 < filled.buffer.length := List.length_pos_iff.2 hne
    have hle : filled.buffer.length ≤ l.length := hfilled.length_le
    have hmin := Nat.min_le_right count filled.buffer.length
    have hgave : Gave count e l _ _ := .take (List.length_pos_iff.1 (Nat.lt_of_lt_of_le hpos hle))
      (Nat.lt_min.2 ⟨positive, hpos⟩) (Nat.min_le_left ..)
    have hdrop := hfilled.drop hmin
    rw [← hfilled.take_eq hmin, ← List.take_eq_take_min] at hgave
    rw [← List.drop_eq_drop_min] at hdrop
    exact ⟨_, hgave, hdrop⟩
  · cases hreports with
    | atEnd =>
      have htake : filled.buffer.take count = [] := List.take_eq_nil_iff.2 (.inr hnone)
      have hdrop := hfilled.drop (Nat.min_le_right count filled.buffer.length)
      rw [← List.drop_eq_drop_min, List.drop_nil] at hdrop
      refine ⟨[], ?_, hdrop⟩
      show Gave count none [] (.ok (filled.buffer.take count)) []
      rw [htake]
      exact .ended .atEnd
    | failure hkind => exact ⟨[], .ended (.failure hkind), hfilled⟩

namespace ByteReader

variable {σ : Type} [ByteReader σ] {s : σ} {l : List UInt8} {count : Nat}

theorem Gives.read_ok (gives : Gives s l none) (positive : 0 < count) :
    ∃ bytes rest s', ByteReader.read s count = (.ok bytes, s') ∧ l = bytes ++ rest ∧
      bytes.length ≤ count ∧ (bytes = [] → l = []) ∧ Gives s' rest none := by
  obtain ⟨rest, hgave, hrest⟩ := gives.read positive
  obtain ⟨bytes, hread, hl, hle, hempty⟩ := hgave.ok
  exact ⟨bytes, rest, (ByteReader.read s count).2, Prod.ext hread rfl, hl, hle, hempty.1, hrest⟩

/-- Reading until enough bytes are there gives the first bytes of a source. -/
theorem Gives.readUpTo (gives : Gives s l none) (count : Nat) :
    (ByteReader.readUpTo count s).1 = .ok (l.take count) := by
  fun_induction ByteReader.readUpTo count s generalizing l with
  | case1 s => rfl
  | case2 count s more e s' hread =>
    obtain ⟨bytes, rest, next, hok, -⟩ := gives.read_ok (Nat.pos_of_ne_zero more)
    rw [hread] at hok
    cases hok
  | case3 count s more s' hread =>
    obtain ⟨bytes, rest, next, hok, -, -, hempty, -⟩ := gives.read_ok (Nat.pos_of_ne_zero more)
    rw [hread] at hok
    cases hok
    rw [hempty rfl, List.take_nil]
  | case4 count s more b bytes s' hread later s'' hlater ih =>
    obtain ⟨_, rest, next, hok, rfl, hle, -, hrest⟩ := gives.read_ok (Nat.pos_of_ne_zero more)
    rw [hread] at hok
    cases hok
    have hmore := ih hrest
    rw [hlater, Except.ok.injEq] at hmore
    rw [hmore, List.take_append, List.take_of_length_le hle]
    rfl
  | case5 count s more b bytes s' hread e s'' hlater ih =>
    obtain ⟨_, rest, next, hok, -, -, -, hrest⟩ := gives.read_ok (Nat.pos_of_ne_zero more)
    rw [hread] at hok
    cases hok
    have hmore := ih hrest
    rw [hlater] at hmore
    cases hmore

/-- Reads of a source that does not fail, of some bytes each, give its bytes one piece after the
other. They are all given once a read has given none, and one has if there are more reads than
bytes. -/
theorem Gives.reads_through {counts : List Nat} (positive : ∀ count ∈ counts, 0 < count)
    (gives : Gives s l none) :
    ∃ (pieces : List (List UInt8)) (s' : σ),
      ByteReader.reads s counts = (pieces.map .ok, s') ∧ pieces.flatten <+: l ∧
      ([] ∈ pieces → pieces.flatten = l) ∧ (l.length < counts.length → [] ∈ pieces) := by
  induction counts generalizing s l with
  | nil => exact ⟨[], s, rfl, List.nil_prefix, by simp, by simp⟩
  | cons count counts ih =>
    rw [List.forall_mem_cons] at positive
    obtain ⟨bytes, rest, s₁, hread, rfl, -, hempty, hrest⟩ := gives.read_ok positive.1
    obtain ⟨pieces, s₂, hreads, hprefix, hall, hmany⟩ := ih positive.2 hrest
    have hbytes : bytes ++ pieces.flatten <+: bytes ++ rest :=
      (List.prefix_append_right_inj bytes).2 hprefix
    refine ⟨bytes :: pieces, s₂, ?_, hbytes, fun hnone => ?_, fun hlength => ?_⟩
    · simp only [ByteReader.reads, hread, hreads, List.map_cons]
    · obtain hnone | hnone := List.mem_cons.1 hnone
      · rw [hempty hnone.symm] at hbytes ⊢
        exact List.prefix_nil.1 hbytes
      · rw [List.flatten_cons, hall hnone]
    · cases bytes with
      | nil => exact List.mem_cons_self
      | cons b bytes =>
        rw [List.length_append, List.length_cons, List.length_cons] at hlength
        exact List.mem_cons_of_mem _ (hmany (by omega))

theorem Gives.reads {counts : List Nat} (positive : ∀ count ∈ counts, 0 < count)
    (gives : Gives s l none) :
    ∃ (pieces : List (List UInt8)) (s' : σ),
      ByteReader.reads s counts = (pieces.map .ok, s') ∧ pieces.flatten <+: l := by
  obtain ⟨pieces, s', hreads, hprefix, -⟩ := gives.reads_through positive
  exact ⟨pieces, s', hreads, hprefix⟩

end ByteReader

theorem Handle.gives_readerAt (serves : h.Serves content) (fits : content.length ≤ maxOffset)
    (offset : Nat) : Gives (h.readerAt offset) (content.drop offset) none :=
  ⟨_, Buffered.faithful_holds, Buffered.holds_ofSource (by decide) (Cursor.gives serves fits)⟩

namespace Handle

/-- A chunk that lies within the file is what the file's content has there, however few bytes each
request is given, and a reader that begins where it does reads the same bytes. If the file ends
inside a chunk, the error says how many of its bytes there are. It makes no difference what the
handle would do past the largest offset, since it is not asked for anything there. The memory for a
chunk is taken to be there, whatever `length` is. -/
theorem chunk_is_exact (serves : h.Serves content) (fits : content.length ≤ maxOffset)
    (inReach : offset ≤ maxOffset) (length : Nat) :
    (h.chunk offset length =
      if length = 0 ∨ offset + length ≤ content.length then
        .ok ((content.drop offset).take length)
      else .error (.unexpectedEnd length offset (content.length - offset))) ∧
      (∀ h' : Handle, h'.ServesInReach content → h'.chunk offset length = h.chunk offset length) ∧
      ∀ bytes, h.chunk offset length = .ok bytes →
        (readUpTo length (h.readerAt offset)).1 = .ok bytes ∧
          ∀ counts, (∀ count ∈ counts, 0 < count) →
            ∃ (pieces : List (List UInt8)) (s : Buffered Cursor),
              reads (h.readerAt offset) counts = (pieces.map .ok, s) ∧
                (length ≤ pieces.flatten.length → pieces.flatten.take length = bytes) := by
  have hchunk := chunk_eq serves.inReach fits inReach length
  refine ⟨hchunk, fun h' serves' => ?_, fun bytes hbytes => ?_⟩
  · rw [hchunk, chunk_eq serves' fits inReach length]
  · have hgives := gives_readerAt serves fits offset
    have hslice : (content.drop offset).take length = bytes := by
      rw [hchunk] at hbytes
      split at hbytes
      · exact Except.ok.inj hbytes
      · cases hbytes
    refine ⟨by rw [hgives.readUpTo, hslice], fun counts positive => ?_⟩
    obtain ⟨pieces, s, hreads, rest, hrest⟩ := hgives.reads positive
    refine ⟨pieces, s, hreads, fun enough => ?_⟩
    rw [← hslice, ← hrest, List.take_append_of_le_length enough]

/-- Chunks of ten bytes that are served two at a time. -/
theorem chunk_is_exact_of_digits_served_in_pairs :
    let file : Stored := { content := [48, 49, 50, 51, 52, 53, 54, 55, 56, 57], piece := some 2 }
    file.handle.Serves file.content ∧ file.content.length ≤ maxOffset ∧ 8 ≤ maxOffset ∧
      file.handle.chunk 3 5 = .ok [51, 52, 53, 54, 55] ∧
      (readUpTo 5 (file.handle.readerAt 3)).1 = .ok [51, 52, 53, 54, 55] ∧
      file.handle.chunk 8 5 = .error (.unexpectedEnd 5 8 2) ∧
      file.handle.chunk maxOffset 1 = .error (.unexpectedEnd 1 maxOffset 0) ∧
      file.handle.chunk maxOffset 0 = .ok [] := by
  intro file
  have serves : file.handle.Serves file.content := Stored.serves_handle rfl (by decide)
  have fits : file.content.length ≤ maxOffset := by decide
  have hchunk {offset : Nat} (inReach : offset ≤ maxOffset) (length : Nat) :=
    chunk_is_exact serves fits inReach length
  obtain ⟨hwithin, -, hreader⟩ := hchunk (show 3 ≤ maxOffset by decide) 5
  obtain ⟨hshort, -⟩ := hchunk (show 8 ≤ maxOffset by decide) 5
  obtain ⟨hbeyond, -⟩ := hchunk (Nat.le_refl maxOffset) 1
  obtain ⟨hnone, -⟩ := hchunk (Nat.le_refl maxOffset) 0
  have hdigits : file.handle.chunk 3 5 = .ok [51, 52, 53, 54, 55] := hwithin.trans rfl
  rw [if_neg (by decide), Nat.sub_eq_zero_of_le fits] at hbeyond
  rw [if_pos (.inl rfl), List.take_zero] at hnone
  exact ⟨serves, fits, by decide, hdigits, (hreader _ hdigits).1, hshort.trans rfl,
    hbeyond, hnone⟩

end Handle

end TableScan.File
