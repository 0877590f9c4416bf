import TableScan.Split

/-!
# Ranges of a file

`Tiles` says what consecutive ranges of a file are: each takes up where the one before it leaves
off, all but the last are as long as the limit allows, and the last ends with the file. There is
one way to do that, and `Split.rangesFrom` does it (`tiles_iff`).
-/

namespace TableScan.Split

/-- The splits are the ranges of a file from `start` on. -/
inductive Tiles (path : String) (fileLength limit : Nat) : (start : Nat) → List Split → Prop where
  | last {start length : Nat} : 0 < length → length ≤ limit → start + length = fileLength →
      Tiles path fileLength limit start [{ path, start, length, fileLength }]
  | next {start : Nat} {rest : List Split} : start + limit < fileLength →
      Tiles path fileLength limit (start + limit) rest →
      Tiles path fileLength limit start ({ path, start, length := limit, fileLength } :: rest)

variable {path : String} {fileLength limit start : Nat} {splits : List Split}

theorem Tiles.ne_nil (h : Tiles path fileLength limit start splits) : splits ≠ [] := by
  cases h <;> exact List.cons_ne_nil _ _

theorem Tiles.two_le_length (h : Tiles path fileLength limit start splits)
    (cut : start + limit < fileLength) : 2 ≤ splits.length := by
  cases h with
  | last positive within ends => omega
  | next more rest =>
    have := List.length_pos_iff.2 rest.ne_nil
    rw [List.length_cons]
    omega

theorem rangesFrom_of_le (h : fileLength ≤ start) : rangesFrom path fileLength limit start = [] := by
  rw [rangesFrom, if_pos (.inr h)]

theorem rangesFrom_of_lt (positive : 0 < limit) (h : start < fileLength) :
    rangesFrom path fileLength limit start =
      { path, start, length := min limit (fileLength - start), fileLength } ::
        rangesFrom path fileLength limit (start + min limit (fileLength - start)) := by
  rw [rangesFrom, if_neg (by omega)]

theorem tiles_rangesFrom (positive : 0 < limit) (h : start < fileLength) :
    Tiles path fileLength limit start (rangesFrom path fileLength limit start) := by
  fun_induction rangesFrom path fileLength limit start with
  | case1 start hstop => omega
  | case2 start hstop length ih =>
    by_cases hmore : start + limit < fileLength
    · have hlength : length = limit := by omega
      rw [hlength] at ih ⊢
      exact .next hmore (ih hmore)
    · have hends : fileLength ≤ start + length := by omega
      rw [rangesFrom_of_le hends]
      exact .last (by omega) (by omega) (by omega)

theorem Tiles.eq_rangesFrom (positive : 0 < limit) (h : Tiles path fileLength limit start splits) :
    splits = rangesFrom path fileLength limit start := by
  induction h with
  | @last start length hpos within ends =>
    have hlength : min limit (fileLength - start) = length := by omega
    rw [rangesFrom_of_lt positive (by omega), hlength, rangesFrom_of_le (by omega)]
  | @next start rest more _ ih =>
    have hlength : min limit (fileLength - start) = limit := by omega
    rw [rangesFrom_of_lt positive (by omega), hlength, ← ih]

theorem tiles_iff (positive : 0 < limit) (h : start < fileLength) :
    Tiles path fileLength limit start splits ↔ splits = rangesFrom path fileLength limit start := by
  refine ⟨Tiles.eq_rangesFrom positive, ?_⟩
  rintro rfl
  exact tiles_rangesFrom positive h

end TableScan.Split
