import TableScan.File.LineRange
import TableScan.Proofs.File.Stream

/-!
# Byte ranges as windows

`LineRange.pending` is what a reader of a range still has to hand on, as a window of the file's
content. A fresh reader's window is made of the lines that `linesWithin` lists (`ofCursor_on`), and
a read takes a piece off the front of it (`On.read`).
-/

namespace TableScan.File

theorem drop_eq_append (l : List UInt8) (n p : Nat) :
    l.drop p = (l.take n).drop p ++ (l.drop n).drop (p - (l.take n).length) := by
  rw [← List.drop_append, List.take_append_drop]

/-- A boundary is the same place when it is looked for behind a cut that it does not precede. -/
theorem boundary_eq_add {l : List UInt8} {n p : Nat} (hn : n ≤ l.length)
    (h : lineFeed ∉ (l.take n).drop p) : boundary l p = n + boundary (l.drop n) (p - n) := by
  unfold boundary
  rw [drop_eq_append l n p, lineLength_append_of_not_mem _ h, List.length_drop, List.length_take,
    Nat.min_eq_left hn]
  omega

theorem boundary_take {l : List UInt8} {n p : Nat} (h : lineFeed ∈ (l.take n).drop p) :
    boundary (l.take n) p = boundary l p := by
  unfold boundary
  rw [drop_eq_append l n p, lineLength_append_of_mem _ h]

namespace LineRange

theorem lengthThroughLineFeed?_eq (skip : Nat) (l : List UInt8) :
    lengthThroughLineFeed? skip l =
      if lineFeed ∈ l.drop skip then some (boundary l skip) else none := by
  have key : ∀ l : List UInt8, l.findIdx? (· = lineFeed) =
      if lineFeed ∈ l then some (lineLength l - 1) else none := by
    intro l
    induction l with
    | nil => rfl
    | cons b l ih =>
      rw [List.findIdx?_cons, ih]
      by_cases hb : b = lineFeed
      · simp [lineLength, hb]
      · by_cases hm : lineFeed ∈ l
        · have := lineLength_pos (List.ne_nil_of_mem hm)
          simp [lineLength, hb, hm]
          omega
        · simp [hb, hm, Ne.symm hb]
  unfold lengthThroughLineFeed? boundary
  rw [key]
  by_cases hm : lineFeed ∈ l.drop skip
  · have := lineLength_pos (List.ne_nil_of_mem hm)
    rw [if_pos hm, if_pos hm]
    simp only [Option.map_some, Option.some.injEq]
    omega
  · rw [if_neg hm, if_neg hm]
    rfl

/-- The bytes that a range of a file still has to hand on. -/
def pending (content : List UInt8) (r : LineRange) : List UInt8 :=
  if r.done then []
  else (content.drop r.position).take (boundary (content.drop r.position) (r.stop - r.position))

/-- How they end: with the range at a line feed, or else as the file does. -/
def ends (content : List UInt8) (e : Ending) (r : LineRange) : Ending :=
  if r.done ∨ lineFeed ∈ (content.drop r.position).drop (r.stop - r.position) then none else e

def On (content : List UInt8) (e : Ending) (r : LineRange) : Prop :=
  r.input.Holds (content.drop r.position) e

variable {content : List UInt8} {e : Ending} {r : LineRange} {count : Nat}

theorem pending_advance (input : Buffered Cursor) {n : Nat} (hd : r.done = false)
    (hn : n ≤ (content.drop r.position).length)
    (hm : lineFeed ∉ ((content.drop r.position).take n).drop (r.stop - r.position)) :
    r.pending content = (content.drop r.position).take n ++
        { r with input, position := r.position + n, done := false }.pending content ∧
      { r with input, position := r.position + n, done := false }.ends content e =
        r.ends content e := by
  have hskip : r.stop - (r.position + n) = r.stop - r.position - n := by omega
  constructor
  · simp only [pending, hd, Bool.false_eq_true, ↓reduceIte]
    rw [boundary_eq_add hn hm, List.take_add, List.drop_drop, hskip]
  · have hsplit := drop_eq_append (content.drop r.position) n (r.stop - r.position)
    rw [List.length_take, Nat.min_eq_left hn] at hsplit
    have hmem : lineFeed ∈ (content.drop r.position).drop (r.stop - r.position) ↔
        lineFeed ∈ ((content.drop r.position).drop n).drop (r.stop - r.position - n) := by
      rw [hsplit, List.mem_append, or_iff_right hm]
    simp only [ends, hd, Bool.false_eq_true, false_or, hskip, ← List.drop_drop, hmem]

theorem pending_last {n : Nat} (hd : r.done = false)
    (hm : lineFeed ∈ ((content.drop r.position).take n).drop (r.stop - r.position)) :
    r.pending content = (content.drop r.position).take (r.pending content).length ∧
      (r.pending content).length =
        boundary ((content.drop r.position).take n) (r.stop - r.position) ∧
      0 < (r.pending content).length ∧ (r.pending content).length ≤ n ∧
      r.ends content e = none := by
  obtain ⟨m, hbound⟩ : ∃ m, m = boundary ((content.drop r.position).take n)
    (r.stop - r.position) := ⟨_, rfl⟩
  have hskip : r.stop - r.position ≤ ((content.drop r.position).take n).length := by
    have := List.length_pos_iff.2 (List.ne_nil_of_mem hm)
    rw [List.length_drop] at this
    omega
  have hle := boundary_le hskip
  have hpos := lineLength_pos (List.ne_nil_of_mem hm)
  have hwindow : r.pending content = (content.drop r.position).take m := by
    simp only [pending, hd, Bool.false_eq_true, ↓reduceIte, ← boundary_take hm, hbound]
  have hlen : (r.pending content).length = m := by
    rw [hwindow, List.length_take]
    rw [List.length_take] at hle
    omega
  refine ⟨by rw [hlen, hwindow], hlen.trans hbound, ?_, ?_, ?_⟩
  · unfold boundary at hbound
    omega
  · rw [List.length_take] at hle
    omega
  · refine if_pos (.inr ?_)
    rw [drop_eq_append _ n]
    exact List.mem_append_left _ hm

/-- A read takes a piece off the front of what is pending, and moves the position past it. -/
theorem On.read (h : r.On content e) (hc : 0 < count) :
    Gave count (r.ends content e) (r.pending content) (r.read count).1
        ((r.read count).2.pending content) ∧
      (r.read count).2.On content e ∧
      (r.read count).2.ends content e = r.ends content e ∧
      (r.read count).2.position + ((r.read count).2.pending content).length =
        r.position + (r.pending content).length := by
  unfold LineRange.read
  cases hd : r.done with
  | true =>
    simp only [true_or, ↓reduceIte, and_self, and_true]
    refine ⟨?_, h⟩
    rw [pending, if_pos hd, ends, if_pos (.inl hd)]
    exact .ended .atEnd
  | false =>
    rw [if_neg (by simp; omega)]
    obtain ⟨hin, hcases⟩ := Buffered.Holds.fill h
    rcases hf : r.input.fill with ⟨result, input⟩
    simp only [hf] at hin hcases
    obtain ⟨rfl, hne⟩ | ⟨hl, hb, report, hreport, rfl⟩ := hcases
    · simp only [if_neg hne]
      -- a read hands on at most `n` bytes, all of them in the buffer
      obtain ⟨n, hn⟩ : ∃ n, n = min count input.buffer.length := ⟨_, rfl⟩
      have hpos : 0 < n := by
        have := List.length_pos_iff.2 hne
        omega
      have hlen : n ≤ (content.drop r.position).length := by
        have := hin.length_le
        omega
      have htake : input.buffer.take count = (content.drop r.position).take n := by
        rw [← hin.take_eq (by omega), hn]
        simp
      rw [htake, lengthThroughLineFeed?_eq]
      by_cases hm : lineFeed ∈ ((content.drop r.position).take n).drop (r.stop - r.position)
      · obtain ⟨hwindow, hbound, hpos, hle, hends⟩ := pending_last (e := e) hd hm
        simp only [if_pos hm, Option.getD_some, Option.isSome_some, ← hbound,
          List.take_take, Nat.min_eq_left hle, ← hwindow]
        refine ⟨?_, ?_, ?_, ?_⟩
        · have hgave : Gave count (r.ends content e) (r.pending content) _ _ :=
            .take (List.ne_nil_of_length_pos hpos) hpos (by omega)
          rw [List.take_length, List.drop_length] at hgave
          simpa only [pending, ↓reduceIte] using hgave
        · simpa only [On, ← List.drop_drop] using hin.drop (by omega)
        · rw [hends]
          exact if_pos (.inl rfl)
        · simp [pending]
      · obtain ⟨hwindow, hends⟩ := pending_advance (e := e)
          { input with buffer := input.buffer.drop n } hd hlen hm
        have hgiven : ((content.drop r.position).take n).length = n := by
          rw [List.length_take, Nat.min_eq_left hlen]
        simp only [if_neg hm, Option.getD_none, List.take_length, Option.isSome_none]
        rw [hgiven, hwindow, ← hends]
        refine ⟨.bytes ?_ (by omega), ?_, rfl, ?_⟩
        · exact List.ne_nil_of_length_pos (by omega)
        · simpa only [On, ← List.drop_drop] using hin.drop (by omega)
        · rw [List.length_append, hgiven, Nat.add_assoc]
    · have hp : r.pending content = [] := by simp [pending, hl]
      cases hreport with
      | atEnd =>
        simp only [Except.map, hb, ↓reduceIte]
        refine ⟨?_, hin, ?_, ?_⟩
        · rw [hp, show r.ends content none = none by simp [ends]]
          exact .ended .atEnd
        · simp [ends]
        · rw [hp]
          rfl
      | failure hk =>
        simp only [Except.map]
        refine ⟨?_, hin, ?_, ?_⟩
        · rw [hp, ends, if_neg (by simp [hd, hl])]
          simp only [pending, hl, List.take_nil, ite_self]
          exact .ended (.failure hk)
        · simp only [ends, hd]
        · simp only [pending, hd]

theorem On.gives (h : r.On content e) :
    ByteReader.Gives r (r.pending content) (r.ends content e) := by
  refine ⟨fun r' l e' => r'.On content e ∧ l = r'.pending content ∧ e' = r'.ends content e,
    ?_, h, rfl, rfl⟩
  rintro r' l e' count ⟨h', rfl, rfl⟩ hc
  obtain ⟨hg, hon, hends, -⟩ := h'.read hc
  exact ⟨_, hg, hon, rfl, hends.symm⟩

theorem ofCursor_on {c : Cursor} {start : Nat} (stop capacity : Nat) (hs : start ≤ maxOffset)
    (h : ByteReader.Gives { c with offset := start } (content.drop start) e)
    (hl : start = 0 ∨ lineFeed ∈ content.drop start ∨ e = none) :
    ∃ r, ofCursor c start stop capacity = .ok r ∧ r.On content e ∧ r.stop = stop ∧
      r.position = firstWithin content start ∧
      r.pending content = (linesWithin content start stop).flatten := by
  have hseek : c.seek (.fromStart start) = (.ok start, { c with offset := start }) := by
    simp [Cursor.seek, Cursor.target, hs]
  have hinput := Buffered.holds_ofSource (show 0 < max capacity 1 by omega) h
  unfold ofCursor
  simp only [hseek]
  by_cases h0 : start = 0
  · subst h0
    refine ⟨_, rfl, hinput, rfl, rfl, ?_⟩
    rw [linesWithin_eq]
    simp [pending, firstWithin, flatten_lines]
  · obtain ⟨htake, hholds⟩ := hinput.takeLine
    have hfirst : start + ((content.drop start).take (lineLength (content.drop start))).length =
        firstWithin content start := by
      rw [firstWithin, if_neg h0, List.length_take, Nat.min_eq_left (lineLength_le _)]
      rfl
    rcases ht : (Buffered.ofSource (max capacity 1) { c with offset := start }).takeLine with
      ⟨result, input⟩
    simp only [ht] at htake hholds
    obtain rfl : result = .ok ((content.drop start).take (lineLength (content.drop start))) := by
      obtain h | h | rfl := hl
      · exact absurd h h0
      · exact htake.eq_of_mem h
      · exact htake.eq_of_none
    simp only [if_neg h0, ht]
    refine ⟨_, rfl, ?_, rfl, hfirst, ?_⟩
    · have hb : firstWithin content start = start + lineLength (content.drop start) := by
        simp [firstWithin, h0, boundary]
      simp only [On, hfirst]
      rwa [hb, ← List.drop_drop]
    · rw [linesWithin_eq]
      simp only [pending, hfirst, decide_eq_true_eq]
      by_cases hle : firstWithin content start ≤ stop
      · rw [if_neg (by omega), if_pos hle, flatten_lines]
      · rw [if_pos (by omega), if_neg hle, List.flatten_nil]

theorem done_ofCursor {c : Cursor} {start stop capacity : Nat}
    (h : ofCursor c start stop capacity = .ok r) : r.done = decide (r.stop < r.position) := by
  unfold ofCursor at h
  split at h
  · cases h
  · dsimp only at h
    split at h
    · cases h
      rfl
    · split at h
      · cases h
      · cases h
        rfl

theorem ends_ofCursor {c : Cursor} {start stop capacity : Nat}
    (h : ofCursor c start stop capacity = .ok r) (hstop : r.stop = stop)
    (hfirst : r.position = firstWithin content start) (hs : start ≤ stop)
    (hl : start = 0 ∨ lineFeed ∈ content.drop start) :
    r.ends content e = if lineFeed ∈ content.drop stop then none else e := by
  rw [ends, done_ofCursor h, hstop, hfirst]
  by_cases hle : firstWithin content start ≤ stop
  · rw [List.drop_drop, Nat.add_sub_cancel' hle]
    simp only [decide_eq_true_eq, Nat.not_lt.2 hle, false_or]
  · have h0 : start ≠ 0 := by
      rintro rfl
      exact hle (Nat.zero_le _)
    -- the line that goes through `start` goes through `stop`
    have hthrough : stop - start < lineLength (content.drop start) := by
      rw [firstWithin, if_neg h0, boundary] at hle
      omega
    have hm := hl.resolve_left h0
    rw [← List.take_append_drop (stop - start) (content.drop start), List.mem_append,
      or_iff_right (not_mem_take_of_lt hthrough), List.drop_drop, Nat.add_sub_cancel' hs] at hm
    rw [if_pos (.inl (by simpa using hle)), if_pos hm]

/-- A reader of a range gives its lines. They end with a line feed at `stop` or behind it, or else
as the file does. -/
theorem ofCursor_gives {c : Cursor} {start stop : Nat} (capacity : Nat) (hs : start ≤ stop)
    (hmax : start ≤ maxOffset)
    (h : ByteReader.Gives { c with offset := start } (content.drop start) e)
    (hl : start = 0 ∨ lineFeed ∈ content.drop start ∨ e = none) :
    ∃ r, ofCursor c start stop capacity = .ok r ∧
      ByteReader.Gives r (linesWithin content start stop).flatten
        (if lineFeed ∈ content.drop stop then none else e) := by
  obtain ⟨r, hopen, hon, hstop, hfirst, hall⟩ := ofCursor_on stop capacity hmax h hl
  have hgives := hon.gives
  rw [hall] at hgives
  refine ⟨r, hopen, ?_⟩
  obtain hl | hl | rfl := hl
  · rwa [ends_ofCursor hopen hstop hfirst hs (.inl hl)] at hgives
  · rwa [ends_ofCursor hopen hstop hfirst hs (.inr hl)] at hgives
  · simpa only [ends, ite_self] using hgives

end LineRange

end TableScan.File
