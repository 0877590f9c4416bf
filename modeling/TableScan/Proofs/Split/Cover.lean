import Mathlib.Algebra.Order.Floor.Div
import TableScan.Proofs.Scan.TextListing
import TableScan.Proofs.Split.Ranges

/-!
# Ranges that cover a file

A file longer than the limit is cut into as many ranges as it takes, and they cover it
(`Cover`): they follow one another from its first byte to its last, and none of them counts as the
whole file, so none is read beyond its end. A file that would be cut into more ranges than there is
room for is given up before it is cut (`ranges?_eq_none_iff`).

Lengths and offsets are words of 64 bits, and `wordSpans?` is the same cut in their arithmetic. No
start, length or end exceeds the length of the file. The number of ranges that room is made for may
exceed it, by one, and wrap around; but then there is no room for so many anyway (`room_iff`). So
the two cuts agree (`map_wordSpans?`).
-/

namespace TableScan.Split

variable {path : String} {fileLength limit start : Nat} {splits : List Split}

/-- The splits are ranges of at most `limit` bytes that cover a file from its first byte on. -/
structure Cover (path : String) (fileLength limit : Nat) (splits : List Split) : Prop where
  count : splits.length = fileLength ⌈/⌉ limit
  two_le : 2 ≤ splits.length
  first : splits.head?.map Split.start = some 0
  next : splits.IsChain fun s t => t.start = s.stop
  last : splits.getLast?.map Split.stop = some fileLength
  ofFile : ∀ s ∈ splits, s.path = path ∧ s.fileLength = fileLength
  sized : ∀ s ∈ splits, 1 ≤ s.length ∧ s.length ≤ limit
  full : ∀ s ∈ splits.dropLast, s.length = limit
  proper : ∀ s ∈ splits, s.isWholeFile = false ∧ s.readStop = s.stop

/-! ### What a tiling comes to -/

namespace Tiles

theorem head? (h : Tiles path fileLength limit start splits) :
    splits.head?.map Split.start = some start := by
  cases h <;> rfl

theorem getLast? (h : Tiles path fileLength limit start splits) :
    splits.getLast?.map Split.stop = some fileLength := by
  induction h with
  | last _ _ ends => exact congrArg some ends
  | next _ tiles ih =>
    obtain ⟨s, rest, rfl⟩ := List.exists_cons_of_ne_nil tiles.ne_nil
    rw [List.getLast?_cons_cons, ih]

theorem isChain (h : Tiles path fileLength limit start splits) :
    splits.IsChain fun s t => t.start = s.stop := by
  induction h with
  | last => exact .singleton _
  | next _ tiles ih =>
    obtain ⟨s, rest, rfl⟩ := List.exists_cons_of_ne_nil tiles.ne_nil
    exact List.isChain_cons_cons.2 ⟨Option.some.inj tiles.head?, ih⟩

theorem forall_mem (h : Tiles path fileLength limit start splits) (positive : 0 < limit) :
    ∀ s ∈ splits, s.path = path ∧ s.fileLength = fileLength ∧ 1 ≤ s.length ∧ s.length ≤ limit ∧
      s.stop ≤ fileLength := by
  induction h with
  | last hpos within ends =>
    intro s hs
    rw [List.mem_singleton.1 hs]
    exact ⟨rfl, rfl, hpos, within, Nat.le_of_eq ends⟩
  | next more _ ih =>
    intro s hs
    obtain rfl | hs := List.mem_cons.1 hs
    · exact ⟨rfl, rfl, positive, Nat.le_refl _, Nat.le_of_lt more⟩
    · exact ih s hs

theorem length_of_mem_dropLast (h : Tiles path fileLength limit start splits) :
    ∀ s ∈ splits.dropLast, s.length = limit := by
  induction h with
  | last => exact fun s hs => absurd hs List.not_mem_nil
  | next _ tiles ih =>
    rw [List.dropLast_cons_of_ne_nil tiles.ne_nil]
    intro s hs
    obtain rfl | hs := List.mem_cons.1 hs
    · rfl
    · exact ih s hs

theorem length_eq (h : Tiles path fileLength limit start splits) (positive : 0 < limit) :
    splits.length = (fileLength - start) ⌈/⌉ limit := by
  rw [Nat.ceilDiv_eq_add_pred_div]
  induction h with
  | @last start length hpos within ends =>
    have hone : fileLength - start + limit - 1 = (length - 1) + limit := by omega
    rw [hone, Nat.add_div_right _ positive, Nat.div_eq_of_lt (by omega)]
    rfl
  | @next start rest more _ ih =>
    have hstep : fileLength - start + limit - 1 =
        (fileLength - (start + limit) + limit - 1) + limit := by omega
    rw [hstep, Nat.add_div_right _ positive, ← ih]
    rfl

theorem cover (h : Tiles path fileLength limit 0 splits) (positive : 0 < limit)
    (cut : limit < fileLength) : Cover path fileLength limit splits where
  count := h.length_eq positive
  two_le := h.two_le_length (by omega)
  first := h.head?
  next := h.isChain
  last := h.getLast?
  ofFile s hs := ⟨(h.forall_mem positive s hs).1, (h.forall_mem positive s hs).2.1⟩
  sized s hs := ⟨(h.forall_mem positive s hs).2.2.1, (h.forall_mem positive s hs).2.2.2.1⟩
  full := h.length_of_mem_dropLast
  proper s hs := by
    obtain ⟨-, hlength, -, hle, -⟩ := h.forall_mem positive s hs
    have hshort : s.length < s.fileLength := by omega
    refine ⟨?_, readStop_of_lt hshort⟩
    simp only [isWholeFile, Bool.and_eq_false_iff, decide_eq_false_iff_not]
    omega

end Tiles

/-- A file is one split, or it is longer than a limit that is set and its ranges tile it. -/
theorem ranges_cases (path : String) (fileLength limit : Nat) :
    ((limit = 0 ∨ fileLength ≤ limit) ∧
        ranges path fileLength limit = [wholeFile path fileLength]) ∨
      0 < limit ∧ limit < fileLength ∧
        Tiles path fileLength limit 0 (ranges path fileLength limit) := by
  by_cases hwhole : limit = 0 ∨ fileLength ≤ limit
  · exact .inl ⟨hwhole, if_pos hwhole⟩
  · have hranges : ranges path fileLength limit = rangesFrom path fileLength limit 0 :=
      if_neg hwhole
    rw [hranges]
    exact .inr ⟨by omega, by omega, tiles_rangesFrom (by omega) (by omega)⟩

theorem stop_le_of_mem_ranges {s : Split} (h : s ∈ ranges path fileLength limit) :
    s.stop ≤ fileLength := by
  obtain ⟨-, hranges⟩ | ⟨positive, -, htiles⟩ := ranges_cases path fileLength limit
  · rw [hranges, List.mem_singleton] at h
    rw [h]
    exact Nat.le_of_eq (Nat.zero_add _)
  · exact (htiles.forall_mem positive s h).2.2.2.2

/-! ### Room -/

theorem eq_ranges_of_ranges? (h : ranges? path fileLength limit = some splits) :
    splits = ranges path fileLength limit := by
  unfold ranges? at h
  split at h
  · exact (Option.some.inj h).symm
  · cases h

theorem ranges?_of_whole (h : limit = 0 ∨ fileLength ≤ limit) :
    ranges? path fileLength limit = some [wholeFile path fileLength] := by
  rw [ranges?, roomFor, if_pos h, if_pos (by decide), ranges, if_pos h]

theorem ranges?_of_cut (h : ¬ (limit = 0 ∨ fileLength ≤ limit)) :
    ranges? path fileLength limit =
      if maxRoom < fileLength / limit + 1 then none
      else some (rangesFrom path fileLength limit 0) := by
  rw [ranges?, roomFor, if_neg h, ranges, if_neg h]
  by_cases hroom : maxRoom < fileLength / limit + 1
  · rw [if_pos hroom, if_neg (Nat.not_le.2 hroom)]
  · rw [if_neg hroom, if_pos (Nat.not_lt.1 hroom)]

theorem ranges?_eq_none_iff : ranges? path fileLength limit = none ↔
    0 < limit ∧ limit < fileLength ∧ maxRoom < fileLength / limit + 1 := by
  by_cases h : limit = 0 ∨ fileLength ≤ limit
  · rw [ranges?_of_whole h]
    simp only [reduceCtorEq, false_iff]
    omega
  · rw [ranges?_of_cut h, ite_eq_left_iff]
    simp only [reduceCtorEq, imp_false, Decidable.not_not]
    omega

/-! ### Words -/

section Words

variable {fileLength limit start : UInt64}

theorem toNat_spanLength (h : start ≤ fileLength) :
    (min limit (fileLength - start)).toNat =
      min limit.toNat (fileLength.toNat - start.toNat) := by
  rw [← UInt64.toNat_sub_of_le _ _ h]
  show (if limit ≤ fileLength - start then limit else fileLength - start).toNat = _
  split
  · rename_i hle
    exact (Nat.min_eq_left (UInt64.le_iff_toNat_le.1 hle)).symm
  · rename_i hle
    rw [UInt64.le_iff_toNat_le] at hle
    exact (Nat.min_eq_right (by omega)).symm

theorem toNat_spanStop (h : start ≤ fileLength) :
    (start + min limit (fileLength - start)).toNat =
      start.toNat + min limit.toNat (fileLength.toNat - start.toNat) := by
  have hle := UInt64.le_iff_toNat_le.1 h
  have hword := fileLength.toNat_lt
  rw [UInt64.toNat_add, toNat_spanLength h, Nat.mod_eq_of_lt (by omega)]

def wordSpansFrom (fileLength limit start : UInt64) : List (UInt64 × UInt64) :=
  if limit = 0 ∨ fileLength ≤ start then []
  else
    let length := min limit (fileLength - start)
    (start, length) :: wordSpansFrom fileLength limit (start + length)
termination_by fileLength.toNat - start.toNat
decreasing_by
  rename_i h
  rw [not_or, UInt64.le_iff_toNat_le, ← UInt64.toNat_inj, UInt64.toNat_zero] at h
  rw [toNat_spanStop (UInt64.le_iff_toNat_le.2 (by omega))]
  omega

/-- The start and the length of each range of a file, in words, or nothing if there is no room for
them. The sum that room is made for is zero if it wraps around. -/
def wordSpans? (fileLength limit : UInt64) : Option (List (UInt64 × UInt64)) :=
  if limit = 0 ∨ fileLength ≤ limit then some [(0, fileLength)]
  else
    let count := fileLength / limit + 1
    if count = 0 ∨ maxRoom < count.toNat then none else some (wordSpansFrom fileLength limit 0)

def ofSpan (path : String) (fileLength : UInt64) (span : UInt64 × UInt64) : Split :=
  { path, start := span.1.toNat, length := span.2.toNat, fileLength := fileLength.toNat }

theorem map_wordSpansFrom (path : String) (fileLength limit start : UInt64) :
    (wordSpansFrom fileLength limit start).map (ofSpan path fileLength) =
      rangesFrom path fileLength.toNat limit.toNat start.toNat := by
  fun_induction wordSpansFrom fileLength limit start with
  | case1 start h =>
    rw [rangesFrom, if_pos, List.map_nil]
    rwa [UInt64.le_iff_toNat_le, ← UInt64.toNat_inj] at h
  | case2 start h length ih =>
    rw [not_or, UInt64.le_iff_toNat_le, ← UInt64.toNat_inj, UInt64.toNat_zero] at h
    have hstart : start ≤ fileLength := UInt64.le_iff_toNat_le.2 (by omega)
    have hlength : length.toNat = min limit.toNat (fileLength.toNat - start.toNat) :=
      toNat_spanLength hstart
    have hstop : (start + length).toNat = start.toNat + length.toNat := by
      rw [hlength]
      exact toNat_spanStop hstart
    have hranges : rangesFrom path fileLength.toNat limit.toNat start.toNat = _ :=
      rangesFrom_of_lt (Nat.pos_of_ne_zero h.1) (Nat.lt_of_not_le h.2)
    rw [List.map_cons, ih, hstop, hranges, ← hlength]
    rfl

theorem toNat_room (fileLength limit : UInt64) :
    (fileLength / limit + 1).toNat = (fileLength.toNat / limit.toNat + 1) % 2 ^ 64 := by
  rw [UInt64.toNat_add, UInt64.toNat_div]
  rfl

theorem room_iff (fileLength limit : UInt64) :
    fileLength / limit + 1 = 0 ∨ maxRoom < (fileLength / limit + 1).toNat ↔
      maxRoom < fileLength.toNat / limit.toNat + 1 := by
  have hquotient : fileLength.toNat / limit.toNat < 2 ^ 64 :=
    Nat.lt_of_le_of_lt (Nat.div_le_self _ _) fileLength.toNat_lt
  rw [← UInt64.toNat_inj, UInt64.toNat_zero, toNat_room, maxRoom]
  generalize fileLength.toNat / limit.toNat = quotient at hquotient ⊢
  omega

theorem map_wordSpans? (path : String) (fileLength limit : UInt64) :
    (wordSpans? fileLength limit).map (List.map (ofSpan path fileLength)) =
      ranges? path fileLength.toNat limit.toNat := by
  have hwhole : (limit = 0 ∨ fileLength ≤ limit) ↔
      (limit.toNat = 0 ∨ fileLength.toNat ≤ limit.toNat) := by
    rw [UInt64.le_iff_toNat_le, ← UInt64.toNat_inj, UInt64.toNat_zero]
  by_cases h : limit = 0 ∨ fileLength ≤ limit
  · rw [wordSpans?, if_pos h, ranges?_of_whole (hwhole.1 h)]
    rfl
  · rw [wordSpans?, if_neg h, ranges?_of_cut (mt hwhole.2 h)]
    by_cases hroom : maxRoom < fileLength.toNat / limit.toNat + 1
    · rw [if_pos ((room_iff fileLength limit).2 hroom), if_pos hroom]
      rfl
    · rw [if_neg (mt (room_iff fileLength limit).1 hroom), if_neg hroom]
      exact congrArg some (map_wordSpansFrom path fileLength limit 0)

theorem toNat_add_of_mem_wordSpans? {spans : List (UInt64 × UInt64)}
    (h : wordSpans? fileLength limit = some spans) :
    ∀ span ∈ spans, (span.1 + span.2).toNat = span.1.toNat + span.2.toNat := by
  intro span hspan
  have hranges := map_wordSpans? "" fileLength limit
  rw [h, Option.map_some] at hranges
  have hmem := List.mem_map_of_mem (f := ofSpan "" fileLength) hspan
  rw [eq_ranges_of_ranges? hranges.symm] at hmem
  have hstop : span.1.toNat + span.2.toNat ≤ fileLength.toNat := stop_le_of_mem_ranges hmem
  rw [UInt64.toNat_add, Nat.mod_eq_of_lt (Nat.lt_of_le_of_lt hstop fileLength.toNat_lt)]

/-- Where a list is given, the sum that room is made for does not wrap around. -/
theorem toNat_room_of_wordSpans? {spans : List (UInt64 × UInt64)}
    (h : wordSpans? fileLength limit = some spans) (cut : ¬ (limit = 0 ∨ fileLength ≤ limit)) :
    (fileLength / limit + 1).toNat = fileLength.toNat / limit.toNat + 1 := by
  rw [wordSpans?, if_neg cut] at h
  have hroom : ¬ maxRoom < fileLength.toNat / limit.toNat + 1 := by
    rw [← room_iff]
    intro hnone
    rw [if_pos hnone] at h
    cases h
  rw [toNat_room]
  apply Nat.mod_eq_of_lt
  unfold maxRoom at hroom
  omega

end Words

/-- A file is given up if it would be cut into more ranges than there is room for. Otherwise a file
that no limit cuts is one split, and any other file is covered by ranges that stay within it, none
of which is read to the end of the file. In words of 64 bits the cut is the same, and of the ranges
that are given none wraps around. -/
theorem ranges_cover_file (path : String) (fileLength limit : Nat) :
    (ranges? path fileLength limit = none ↔
      0 < limit ∧ limit < fileLength ∧ maxRoom < fileLength / limit + 1) ∧
    (∀ splits, ranges? path fileLength limit = some splits →
      splits = ranges path fileLength limit ∧ splits ≠ [] ∧
      (limit = 0 ∨ fileLength ≤ limit → splits = [wholeFile path fileLength]) ∧
      (0 < limit → limit < fileLength → Cover path fileLength limit splits) ∧
      ∀ s ∈ splits,
        s.start ≤ fileLength ∧ s.start + s.length ≤ fileLength ∧ s.stop ≤ fileLength) ∧
    ∀ fileLength limit : UInt64,
      (wordSpans? fileLength limit).map (List.map (ofSpan path fileLength)) =
          ranges? path fileLength.toNat limit.toNat ∧
        ∀ spans, wordSpans? fileLength limit = some spans →
          (∀ span ∈ spans, (span.1 + span.2).toNat = span.1.toNat + span.2.toNat) ∧
          (¬ (limit = 0 ∨ fileLength ≤ limit) →
            (fileLength / limit + 1).toNat = fileLength.toNat / limit.toNat + 1) := by
  refine ⟨ranges?_eq_none_iff, fun splits h => ?_, fun fileLength limit =>
    ⟨map_wordSpans? path fileLength limit, fun spans h =>
      ⟨toNat_add_of_mem_wordSpans? h, toNat_room_of_wordSpans? h⟩⟩⟩
  obtain rfl := eq_ranges_of_ranges? h
  refine ⟨rfl, ?_, fun hwhole => if_pos hwhole, fun positive cut => ?_, fun s hs => ?_⟩
  · obtain ⟨-, hranges⟩ | ⟨-, -, htiles⟩ := ranges_cases path fileLength limit
    · rw [hranges]
      exact List.cons_ne_nil _ _
    · exact htiles.ne_nil
  · obtain ⟨hwhole, -⟩ | ⟨-, -, htiles⟩ := ranges_cases path fileLength limit
    · omega
    · exact htiles.cover positive cut
  · have hstop := stop_le_of_mem_ranges hs
    exact ⟨Nat.le_trans (Nat.le_add_right _ _) hstop, hstop, hstop⟩

/-- The longest file there can be, cut in two. -/
theorem ranges_cover_file_of_longest_length :
    let splits := ranges "/t/a" 18446744073709551615 9223372036854775808
    ranges? "/t/a" 18446744073709551615 9223372036854775808 = some splits ∧
      0 < 9223372036854775808 ∧ 9223372036854775808 < 18446744073709551615 ∧
      splits =
        [⟨"/t/a", 0, 9223372036854775808, 18446744073709551615⟩,
          ⟨"/t/a", 9223372036854775808, 9223372036854775807, 18446744073709551615⟩] ∧
      Cover "/t/a" 18446744073709551615 9223372036854775808 splits ∧
      ranges? "/t/a" 8 8 = some [wholeFile "/t/a" 8] := by
  intro splits
  have hsome : ranges? "/t/a" 18446744073709551615 9223372036854775808 = some splits :=
    if_pos (by decide)
  have hshort : ranges? "/t/a" 8 8 = some (ranges "/t/a" 8 8) := if_pos (by decide)
  obtain ⟨-, hlong, -⟩ := ranges_cover_file "/t/a" 18446744073709551615 9223372036854775808
  obtain ⟨-, -, -, hcover, -⟩ := hlong splits hsome
  obtain ⟨-, hsmall, -⟩ := ranges_cover_file "/t/a" 8 8
  obtain ⟨-, -, hwhole, -, -⟩ := hsmall _ hshort
  refine ⟨hsome, by decide, by decide, ?_, hcover (by decide) (by decide), ?_⟩
  · have hsplits : splits = rangesFrom "/t/a" 18446744073709551615 9223372036854775808 0 :=
      if_neg (by decide)
    rw [hsplits, rangesFrom_of_lt (by decide) (by decide), rangesFrom_of_lt (by decide) (by decide),
      rangesFrom_of_le (by decide)]
    rfl
  · rw [hshort, hwhole (.inr (by decide))]

/-- The same file in ranges of two bytes, and in ranges of one byte, for which the sum that room is
made for wraps around. -/
theorem longest_file_is_given_up :
    ranges? "/t/a" 18446744073709551615 2 = none ∧
      ranges? "/t/a" 18446744073709551615 1 = none ∧
      (18446744073709551615 : UInt64) / 1 + 1 = 0 :=
  ⟨if_neg (by decide), if_neg (by decide), by decide⟩

end TableScan.Split
