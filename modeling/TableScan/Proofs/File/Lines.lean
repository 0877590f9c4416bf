import TableScan.File.ByteReader
import TableScan.Text.Pieces

/-!
# Lines of bytes

`lines` cuts bytes after every line feed, and `placed` puts to each line the offset of its first
byte. `lineLength l` is the number of bytes through the first line feed of `l`, so that
`boundary l p` is the first place at which a line of `l` begins that is behind `p`, or else the
end. A window between two boundaries is made of whole lines (`lines_split_boundary`), and the lines
that begin in a range are the window between its two boundaries (`linesWithin_eq`). The lines of a
range and those behind it are the lines from its start on (`linesWithin_append`).
-/

namespace TableScan.File

/-- The bytes through the first line feed, or all of them if there is none. -/
def lineLength : List UInt8 → Nat
  | [] => 0
  | b :: l => if b = lineFeed then 1 else lineLength l + 1

/-- The lines of bytes, each with the line feed that ends it; the last one may have none. -/
def lines : List UInt8 → List (List UInt8)
  | [] => []
  | b :: l =>
    if b = lineFeed then [b] :: lines l
    else
      match lines l with
      | [] => [[b]]
      | line :: more => (b :: line) :: more

/-- Lines with the offsets of their first bytes; the first line begins at `offset`. -/
def placed (offset : Nat) : List (List UInt8) → List (Nat × List UInt8)
  | [] => []
  | line :: more => (offset, line) :: placed (offset + line.length) more

/-- Where the line that goes through `p` ends: just past the first line feed at `p` or later. -/
def boundary (l : List UInt8) (p : Nat) : Nat := p + lineLength (l.drop p)

/-- The lines that begin at `stop` or before, and behind `start` unless that is zero. -/
def linesWithin (content : List UInt8) (start stop : Nat) : List (List UInt8) :=
  ((placed 0 (lines content)).filter fun (first, _) =>
    first ≤ stop ∧ (start = 0 ∨ start < first)).map (·.2)

/-! ### The first line -/

@[simp] theorem lineLength_nil : lineLength [] = 0 := rfl

theorem lineLength_le (l : List UInt8) : lineLength l ≤ l.length := by
  induction l with
  | nil => simp
  | cons b l ih =>
    unfold lineLength
    split
    · simp
    · simpa using ih

theorem lineLength_pos {l : List UInt8} (h : l ≠ []) : 0 < lineLength l := by
  cases l with
  | nil => exact absurd rfl h
  | cons b l => unfold lineLength; split <;> omega

theorem take_lineLength_ne_nil {l : List UInt8} (h : l ≠ []) : l.take (lineLength l) ≠ [] := by
  rw [ne_eq, List.take_eq_nil_iff]
  exact not_or.2 ⟨Nat.ne_of_gt (lineLength_pos h), h⟩

theorem lineLength_of_not_mem {l : List UInt8} (h : lineFeed ∉ l) : lineLength l = l.length := by
  induction l with
  | nil => rfl
  | cons b l ih =>
    simp only [List.mem_cons, not_or] at h
    rw [lineLength, if_neg (Ne.symm h.1), ih h.2, List.length_cons]

theorem lineLength_append_of_mem {a : List UInt8} (b : List UInt8) (h : lineFeed ∈ a) :
    lineLength (a ++ b) = lineLength a := by
  induction a with
  | nil => simp at h
  | cons c a ih =>
    by_cases hc : c = lineFeed
    · simp [lineLength, hc]
    · have : lineFeed ∈ a := (List.mem_cons.1 h).resolve_left (Ne.symm hc)
      simp [lineLength, hc, ih this]

theorem lineLength_append_of_not_mem {a : List UInt8} (b : List UInt8) (h : lineFeed ∉ a) :
    lineLength (a ++ b) = a.length + lineLength b := by
  induction a with
  | nil => simp
  | cons c a ih =>
    simp only [List.mem_cons, not_or] at h
    rw [List.cons_append, lineLength, if_neg (Ne.symm h.1), ih h.2, List.length_cons]
    omega

theorem cutAfterLineFeed_eq (l : List UInt8) :
    lineFeed ∈ l ∧ cutAfterLineFeed l = (l.take (lineLength l), some (l.drop (lineLength l))) ∨
      lineFeed ∉ l ∧ cutAfterLineFeed l = (l, none) := by
  induction l with
  | nil => simp [cutAfterLineFeed]
  | cons b l ih =>
    by_cases hb : b = lineFeed
    · simp [cutAfterLineFeed, lineLength, hb]
    · obtain ⟨hm, hc⟩ | ⟨hm, hc⟩ := ih
      · simp [cutAfterLineFeed, lineLength, hb, hm, hc]
      · simp [cutAfterLineFeed, hb, Ne.symm hb, hm, hc]

theorem of_cutAfterLineFeed_eq_none {l start : List UInt8}
    (h : cutAfterLineFeed l = (start, none)) : lineFeed ∉ l ∧ start = l := by
  obtain ⟨-, heq⟩ | ⟨hm, heq⟩ := cutAfterLineFeed_eq l
  · simp [heq] at h
  · rw [heq, Prod.mk.injEq] at h
    exact ⟨hm, h.1.symm⟩

theorem lines_eq_cons {l : List UInt8} (h : l ≠ []) :
    lines l = l.take (lineLength l) :: lines (l.drop (lineLength l)) := by
  induction l with
  | nil => exact absurd rfl h
  | cons b l ih =>
    by_cases hb : b = lineFeed
    · simp [lines, lineLength, hb]
    · by_cases hl : l = []
      · subst hl; simp [lines, lineLength, hb]
      · simp [lines, lineLength, hb, ih hl]

theorem flatten_lines (l : List UInt8) : (lines l).flatten = l := by
  induction l with
  | nil => rfl
  | cons b l ih =>
    unfold lines
    split
    · simp [ih]
    · split
      · rename_i hl
        rw [hl, List.flatten_nil] at ih
        simp [← ih]
      · rename_i line more hl
        rw [hl] at ih
        simpa using ih

theorem lines_of_not_mem {l : List UInt8} (h : l ≠ []) (hm : lineFeed ∉ l) : lines l = [l] := by
  rw [lines_eq_cons h, lineLength_of_not_mem hm, List.take_length, List.drop_length]
  rfl

theorem lines_append_cons {a : List UInt8} (h : lineFeed ∉ a) (l : List UInt8) :
    lines (a ++ lineFeed :: l) = (a ++ [lineFeed]) :: lines l := by
  have hlength : lineLength (a ++ lineFeed :: l) = (a ++ [lineFeed]).length := by
    rw [lineLength_append_of_not_mem _ h, List.length_append]
    rfl
  have happend : a ++ lineFeed :: l = (a ++ [lineFeed]) ++ l := by simp
  rw [lines_eq_cons (by simp), hlength, happend, List.take_left, List.drop_left]

/-- There are as many lines as line feeds, and one more if bytes come after the last of these. -/
theorem length_lines (l : List UInt8) :
    (lines l).length =
      l.count lineFeed + if l = [] ∨ l.getLast? = some lineFeed then 0 else 1 := by
  induction l using Text.pieceInduction lineFeed with
  | last l hl =>
    by_cases hnil : l = []
    · simp [hnil, lines]
    · have hlast : l.getLast? ≠ some lineFeed := fun h => hl (List.mem_of_getLast? h)
      rw [lines_of_not_mem hnil hl, List.count_eq_zero_of_not_mem hl, if_neg (by simp [hnil, hlast])]
      rfl
  | more a l ha ih =>
    have hlast : (a ++ lineFeed :: l = [] ∨ (a ++ lineFeed :: l).getLast? = some lineFeed) ↔
        (l = [] ∨ l.getLast? = some lineFeed) := by
      cases l with
      | nil => simp
      | cons b l => simp [List.getLast?_cons_cons]
    rw [lines_append_cons ha, List.length_cons, ih, List.count_append, List.count_cons_self,
      List.count_eq_zero_of_not_mem ha]
    simp only [hlast]
    omega

theorem getLast?_of_mem_lines {l line : List UInt8} (h : line ∈ lines l) :
    line.getLast? = some lineFeed ∨ line.getLast? = l.getLast? := by
  induction l using Text.pieceInduction lineFeed with
  | last l hl =>
    by_cases hnil : l = []
    · subst hnil
      cases h
    · rw [lines_of_not_mem hnil hl, List.mem_singleton] at h
      exact .inr (congrArg _ h)
  | more a l ha ih =>
    rw [lines_append_cons ha, List.mem_cons] at h
    obtain rfl | h := h
    · exact .inl (by simp)
    · have hl : l ≠ [] := by
        rintro rfl
        cases h
      have hlast : (a ++ lineFeed :: l).getLast? = l.getLast? := by
        rw [List.getLast?_append, List.getLast?_cons_of_ne_nil hl,
          List.getLast?_eq_some_getLast hl, Option.some_or]
      rw [hlast]
      exact ih h

theorem lineLength_take {l : List UInt8} {n : Nat} (h : lineLength l ≤ n) :
    lineLength (l.take n) = lineLength l := by
  induction l generalizing n with
  | nil => simp
  | cons b l ih =>
    cases n with
    | zero => exact absurd h (Nat.not_le_of_lt (lineLength_pos (by simp)))
    | succ n =>
      by_cases hb : b = lineFeed
      · simp [lineLength, hb]
      · simp only [lineLength, hb, ↓reduceIte, Nat.add_le_add_iff_right] at h
        simp [lineLength, hb, ih h]

theorem not_mem_take_of_lt {l : List UInt8} {n : Nat} (h : n < lineLength l) :
    lineFeed ∉ l.take n := by
  intro hm
  have := lineLength_take (l := l.take n) (n := n)
    (Nat.le_trans (lineLength_le _) (List.length_take_le ..))
  have hlen := lineLength_append_of_mem (l.drop n) hm
  rw [List.take_append_drop] at hlen
  have := lineLength_le (l.take n)
  simp only [List.length_take] at this
  omega

theorem lineLength_eq_add {l : List UInt8} {n : Nat} (hn : n ≤ l.length)
    (h : lineFeed ∉ l.take n) : lineLength l = n + lineLength (l.drop n) := by
  have := lineLength_append_of_not_mem (l.drop n) h
  rwa [List.take_append_drop, List.length_take, Nat.min_eq_left hn] at this

/-- Lists of bytes taken line by line. -/
theorem lineInduction {P : List UInt8 → Prop} (nil : P [])
    (line : ∀ l, l ≠ [] → P (l.drop (lineLength l)) → P l) (l : List UInt8) : P l := by
  by_cases h : l = []
  · exact h ▸ nil
  · exact line l h (lineInduction nil line (l.drop (lineLength l)))
termination_by l.length
decreasing_by
  have := lineLength_pos h
  have := List.length_pos_iff.2 h
  simp only [List.length_drop]
  omega

/-! ### Boundaries -/

theorem boundary_zero (l : List UInt8) : boundary l 0 = lineLength l := by simp [boundary]

theorem boundary_le {l : List UInt8} {p : Nat} (h : p ≤ l.length) : boundary l p ≤ l.length := by
  have := lineLength_le (l.drop p)
  simp only [List.length_drop] at this
  unfold boundary
  omega

theorem le_boundary (l : List UInt8) (p : Nat) : p ≤ boundary l p := Nat.le_add_right ..

theorem add_boundary_drop {l : List UInt8} {a p : Nat} (h : a ≤ p) :
    a + boundary (l.drop a) (p - a) = boundary l p := by
  unfold boundary
  rw [List.drop_drop, Nat.add_sub_cancel' h]
  omega

theorem boundary_eq_of_lt {l : List UInt8} {p q : Nat} (hpq : p ≤ q) (hq : q < boundary l p) :
    boundary l q = boundary l p := by
  unfold boundary at hq ⊢
  have hlen := lineLength_le (l.drop p)
  have := lineLength_eq_add (l := l.drop p) (n := q - p) (by omega)
    (not_mem_take_of_lt (by omega))
  rw [List.drop_drop, Nat.add_sub_cancel' hpq] at this
  omega

theorem lines_take {l : List UInt8} (hl : l ≠ []) {n : Nat} (hn : lineLength l ≤ n) :
    lines (l.take n) =
      l.take (lineLength l) :: lines ((l.drop (lineLength l)).take (n - lineLength l)) := by
  have hpos := lineLength_pos hl
  have hne : l.take n ≠ [] := by
    simp only [ne_eq, List.take_eq_nil_iff, hl, or_false]
    omega
  rw [lines_eq_cons hne, lineLength_take hn, List.take_take, Nat.min_eq_left hn, List.drop_take]

/-- The first boundary is the end of the first line, and the others are those of the rest. -/
theorem boundary_cases (l : List UInt8) (p : Nat) :
    p < lineLength l ∧ boundary l p = lineLength l ∨
      lineLength l ≤ p ∧
        boundary l p = lineLength l + boundary (l.drop (lineLength l)) (p - lineLength l) := by
  by_cases hp : p < lineLength l
  · left
    refine ⟨hp, ?_⟩
    rw [boundary_eq_of_lt (Nat.zero_le p) (by rwa [boundary_zero]), boundary_zero]
  · right
    exact ⟨Nat.le_of_not_lt hp, (add_boundary_drop (Nat.le_of_not_lt hp)).symm⟩

/-- A boundary cuts no line. -/
theorem lines_split_boundary (l : List UInt8) (p : Nat) :
    lines l = lines (l.take (boundary l p)) ++ lines (l.drop (boundary l p)) := by
  induction l using lineInduction generalizing p with
  | nil => simp [lines]
  | line l hl ih =>
    obtain ⟨_, hb⟩ | ⟨_, hb⟩ := boundary_cases l p
    · rw [hb, lines_take hl (Nat.le_refl _), lines_eq_cons hl]
      simp [lines]
    · rw [hb, lines_take hl (by omega), Nat.add_sub_cancel_left, ← List.drop_drop,
        lines_eq_cons hl, ih (p - lineLength l)]
      rfl

/-! ### Lines of a range -/

theorem filter_le_placed (l : List UInt8) (offset stop : Nat) :
    ((placed offset (lines l)).filter fun (first, _) => first ≤ stop).map (·.2) =
      if offset ≤ stop then lines (l.take (boundary l (stop - offset))) else [] := by
  induction l using lineInduction generalizing offset with
  | nil => simp [lines, placed]
  | line l hl ih =>
    have hlen := lineLength_le l
    rw [lines_eq_cons hl, placed, List.length_take, Nat.min_eq_left hlen]
    by_cases ho : offset ≤ stop
    · rw [List.filter_cons_of_pos (by simpa using ho), List.map_cons, ih, if_pos ho]
      obtain ⟨hp, hb⟩ | ⟨hp, hb⟩ := boundary_cases l (stop - offset)
      · rw [if_neg (by omega), hb, lines_take hl (Nat.le_refl _)]
        simp [lines]
      · rw [if_pos (by omega), hb, lines_take hl (by omega), Nat.add_sub_cancel_left,
          Nat.sub_sub]
    · rw [List.filter_cons_of_neg (by simpa using ho), ih, if_neg (by omega), if_neg ho]

theorem filter_lt_placed (l : List UInt8) (offset start : Nat) :
    ((placed offset (lines l)).filter fun (first, _) => start < first) =
      if start < offset then placed offset (lines l)
      else placed (offset + boundary l (start - offset))
        (lines (l.drop (boundary l (start - offset)))) := by
  induction l using lineInduction generalizing offset with
  | nil => simp [lines, placed]
  | line l hl ih =>
    have hlen := lineLength_le l
    rw [lines_eq_cons hl, placed, List.length_take, Nat.min_eq_left hlen]
    by_cases ho : start < offset
    · rw [List.filter_cons_of_pos (by simpa using ho), ih, if_pos ho, if_pos (by omega)]
    · rw [List.filter_cons_of_neg (by simpa using ho), ih, if_neg ho]
      obtain ⟨hp, hb⟩ | ⟨hp, hb⟩ := boundary_cases l (start - offset)
      · rw [if_pos (by omega), hb]
      · rw [if_neg (by omega), hb, Nat.sub_sub, Nat.add_assoc, List.drop_drop]

/-- Where the lines of a range begin: at the boundary behind `start`, unless that is zero. -/
def firstWithin (content : List UInt8) (start : Nat) : Nat :=
  if start = 0 then 0 else boundary content start

/-- The lines of a range are those of a window between two boundaries. -/
theorem linesWithin_eq (content : List UInt8) (start stop : Nat) :
    linesWithin content start stop =
      if firstWithin content start ≤ stop then
        lines ((content.drop (firstWithin content start)).take
          (boundary (content.drop (firstWithin content start))
            (stop - firstWithin content start)))
      else [] := by
  unfold linesWithin firstWithin
  by_cases hs : start = 0
  · simpa [hs] using filter_le_placed content 0 stop
  · have := filter_lt_placed content 0 start
    simp only [Nat.not_lt_zero, ↓reduceIte, Nat.zero_add, Nat.sub_zero] at this
    simp only [hs, false_or, Bool.decide_and, ↓reduceIte]
    rw [← filter_le_placed, ← this, List.filter_filter]

theorem lines_flatten_linesWithin (content : List UInt8) (start stop : Nat) :
    lines (linesWithin content start stop).flatten = linesWithin content start stop := by
  rw [linesWithin_eq]
  split
  · rw [flatten_lines]
  · rfl

theorem firstWithin_le {content : List UInt8} {start : Nat} (h : start ≤ content.length) :
    firstWithin content start ≤ content.length := by
  unfold firstWithin
  split
  · exact Nat.zero_le _
  · exact boundary_le h

theorem drop_firstWithin {content : List UInt8} {start : Nat} (h : content.length ≤ start) :
    content.drop (firstWithin content start) = [] := by
  have hle : start ≤ firstWithin content start := by
    unfold firstWithin
    split
    · omega
    · exact le_boundary ..
  exact List.drop_eq_nil_of_le (Nat.le_trans h hle)

/-- The lines of a range, and then the lines from its end on. -/
theorem linesWithin_append (content : List UInt8) {start stop : Nat} (h : start ≤ stop)
    (h0 : 0 < stop) :
    linesWithin content start stop ++ lines (content.drop (firstWithin content stop)) =
      lines (content.drop (firstWithin content start)) := by
  have hnext : firstWithin content stop = boundary content stop := if_neg (by omega)
  rw [linesWithin_eq]
  by_cases hle : firstWithin content start ≤ stop
  · rw [if_pos hle, hnext, ← add_boundary_drop hle, ← List.drop_drop, ← lines_split_boundary]
  · have hs : start ≠ 0 := by
      rintro rfl
      exact hle (Nat.zero_le _)
    have hfirst : firstWithin content start = boundary content start := if_neg hs
    rw [if_neg hle, hnext, hfirst, boundary_eq_of_lt h (by omega), List.nil_append]

theorem linesWithin_zero {content : List UInt8} {stop : Nat} (h : content.length ≤ stop)
    (h0 : 0 < stop) : linesWithin content 0 stop = lines content := by
  have happend := linesWithin_append content (Nat.zero_le stop) h0
  rwa [drop_firstWithin h, lines, List.append_nil] at happend

end TableScan.File
