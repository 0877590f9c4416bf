import Mathlib.Data.List.Basic
import Mathlib.Data.List.TakeWhile
import TableScan.Descriptor

/-!
# Scans of descriptors

A descriptor is cut at the separators of its top level, by a scan that keeps count of brackets and
quotes. Cutting loses nothing but the separators (`joined_rawPieces`), and it leaves texts that no
scan cuts again, of which all but the last bring a scan back to the top level (`WholePieces`,
`wholePieces_rawPieces`). Texts of that kind are what comes out if they are joined and cut
(`rawPieces_joined`). Blanks do not count in a scan, so trimming a text changes neither where it is
cut nor where the scan stands after it (`IsUncut.trim`, `foldl_after_trim`).
-/

namespace TableScan

namespace Text

/-- Text without blanks at its ends. -/
def IsTrimmed (s : List Char) : Prop :=
  (∀ c ∈ s.head?, isBlank c = false) ∧ ∀ c ∈ s.getLast?, isBlank c = false

variable {s v w : List Char}

theorem dropWhile_isBlank_eq_self_iff :
    s.dropWhile isBlank = s ↔ ∀ c ∈ s.head?, isBlank c = false := by
  cases s with
  | nil => simp
  | cons c s =>
    rw [List.dropWhile_eq_self_iff]
    simp

theorem trimEnd_eq_self_iff : trimEnd s = s ↔ ∀ c ∈ s.getLast?, isBlank c = false := by
  rw [trimEnd, List.reverse_eq_iff, dropWhile_isBlank_eq_self_iff, List.head?_reverse]

theorem length_trimEnd_le (s : List Char) : (trimEnd s).length ≤ s.length := by
  rw [trimEnd, List.length_reverse]
  exact (List.dropWhile_suffix _).length_le.trans_eq List.length_reverse

theorem trim_eq_self_iff : trim s = s ↔ IsTrimmed s := by
  rw [trim, IsTrimmed, ← dropWhile_isBlank_eq_self_iff, ← trimEnd_eq_self_iff, trimStart]
  constructor
  · intro h
    -- Neither of the two trimmings makes a text longer.
    have hlength : s.length ≤ (s.dropWhile isBlank).length :=
      (congrArg List.length h).symm.trans_le (length_trimEnd_le _)
    have hstart : s.dropWhile isBlank = s := (List.dropWhile_suffix _).eq_of_length_le hlength
    exact ⟨hstart, by rwa [hstart] at h⟩
  · rintro ⟨hstart, hend⟩
    rw [hstart, hend]

theorem IsTrimmed.append_append (hv : IsTrimmed v) (hw : IsTrimmed w) (hv₀ : v ≠ []) (hw₀ : w ≠ [])
    (m : List Char) : IsTrimmed (v ++ m ++ w) := by
  obtain ⟨a, v, rfl⟩ := List.exists_cons_of_ne_nil hv₀
  refine ⟨fun c hc => hv.1 c (by simpa using hc), fun c hc => hw.2 c ?_⟩
  rwa [List.getLast?_append_of_ne_nil _ hw₀] at hc

theorem exists_trimStart (s : List Char) :
    ∃ blanks, (∀ c ∈ blanks, isBlank c = true) ∧ s = blanks ++ trimStart s :=
  ⟨s.takeWhile isBlank, fun _ hc => List.mem_takeWhile_imp hc,
    List.takeWhile_append_dropWhile.symm⟩

theorem exists_trimEnd (s : List Char) :
    ∃ blanks, (∀ c ∈ blanks, isBlank c = true) ∧ s = trimEnd s ++ blanks := by
  obtain ⟨blanks, hblank, hs⟩ := exists_trimStart s.reverse
  refine ⟨blanks.reverse, fun c hc => hblank c (List.mem_reverse.1 hc), ?_⟩
  rw [trimEnd, ← List.reverse_append, ← trimStart, ← hs, List.reverse_reverse]

theorem exists_trim (s : List Char) :
    ∃ before after, (∀ c ∈ before, isBlank c = true) ∧ (∀ c ∈ after, isBlank c = true) ∧
      s = before ++ (trim s ++ after) := by
  obtain ⟨before, hbefore, hs⟩ := exists_trimStart s
  obtain ⟨after, hafter, hstart⟩ := exists_trimEnd (trimStart s)
  refine ⟨before, after, hbefore, hafter, ?_⟩
  rw [trim, ← hstart, ← hs]

theorem isBlank_of_mem_head?_dropWhile (s : List Char) :
    ∀ c ∈ (s.dropWhile isBlank).head?, isBlank c = false := by
  intro c hc
  have hfirst := List.head?_dropWhile_not isBlank s
  rwa [Option.mem_def.1 hc] at hfirst

theorem isTrimmed_trim (s : List Char) : IsTrimmed (trim s) := by
  constructor
  · intro c hc
    obtain ⟨blanks, -, hs⟩ := exists_trimEnd (trimStart s)
    apply isBlank_of_mem_head?_dropWhile s
    rw [← trimStart, hs, List.head?_append, show (trimEnd (trimStart s)).head? = some c from hc]
    rfl
  · intro c hc
    rw [trim, trimEnd, List.getLast?_reverse] at hc
    exact isBlank_of_mem_head?_dropWhile (trimStart s).reverse c hc

end Text

namespace Descriptor

/-! ### Texts without cuts -/

variable {sep c o : Char} {n : Nesting} {v w : List Char} {ps : List (List Char)}

/-- A scan that starts at `n` does not cut the text. -/
def IsUncut (sep : Char) (n : Nesting) (w : List Char) : Prop := rawPieces sep n w = [w]

theorem rawPieces_of_not_cutsAt (h : cutsAt sep n c = false) (w : List Char) :
    rawPieces sep n (c :: w) = (rawPieces sep (n.after c) w).modifyHead (c :: ·) := by
  rw [rawPieces, if_neg (Bool.eq_false_iff.1 h)]

theorem rawPieces_of_cutsAt (h : cutsAt sep n c = true) (w : List Char) :
    rawPieces sep n (c :: w) = [] :: rawPieces sep n w := by
  rw [rawPieces, if_pos h]

theorem isUncut_nil : IsUncut sep n [] := rfl

theorem isUncut_cons :
    IsUncut sep n (c :: w) ↔ cutsAt sep n c = false ∧ IsUncut sep (n.after c) w := by
  unfold IsUncut
  cases h : cutsAt sep n c with
  | true => simp [rawPieces_of_cutsAt h]
  | false =>
    rw [rawPieces_of_not_cutsAt h]
    cases rawPieces sep (n.after c) w <;> simp

theorem isUncut_append :
    IsUncut sep n (v ++ w) ↔ IsUncut sep n v ∧ IsUncut sep (v.foldl Nesting.after n) w := by
  induction v generalizing n with
  | nil => simp [isUncut_nil]
  | cons c v ih => rw [List.cons_append, isUncut_cons, isUncut_cons, ih, and_assoc, List.foldl_cons]

/-- After a text that is not cut, a scan goes on from where it stands. -/
theorem rawPieces_append (h : IsUncut sep n v) (w : List Char) :
    rawPieces sep n (v ++ w) = (rawPieces sep (v.foldl Nesting.after n) w).modifyHead (v ++ ·) := by
  induction v generalizing n with
  | nil => exact (congrFun List.modifyHead_id _).symm
  | cons c v ih =>
    obtain ⟨hc, hv⟩ := isUncut_cons.1 h
    rw [List.cons_append, rawPieces_of_not_cutsAt hc, ih hv]
    simp [Function.comp_def]

theorem of_cutsAt (h : cutsAt sep n c = true) : c = sep ∧ n = {} := by
  obtain ⟨depth, quote⟩ := n
  simp only [cutsAt, Nesting.isTop, Bool.and_eq_true, decide_eq_true_eq, Option.isNone_iff_eq_none]
    at h
  obtain ⟨⟨⟨⟨rfl, rfl, rfl⟩, -⟩, -⟩, -⟩ := h
  exact ⟨rfl, rfl⟩

theorem rawPieces_ne_nil (sep : Char) (n : Nesting) (s : List Char) : rawPieces sep n s ≠ [] := by
  cases s with
  | nil => exact List.cons_ne_nil [] []
  | cons c s =>
    cases h : cutsAt sep n c with
    | true => simp [rawPieces_of_cutsAt h]
    | false => simpa [rawPieces_of_not_cutsAt h] using rawPieces_ne_nil sep (n.after c) s

/-- Cutting loses nothing but the separators. -/
theorem joined_rawPieces (sep : Char) (n : Nesting) (s : List Char) :
    Text.joined sep (rawPieces sep n s) = s := by
  induction s generalizing n with
  | nil => rfl
  | cons c s ih =>
    cases h : cutsAt sep n c with
    | true =>
      obtain ⟨p, ps, hp⟩ := List.exists_cons_of_ne_nil (rawPieces_ne_nil sep n s)
      rw [rawPieces_of_cutsAt h, hp, Text.joined, ← hp, ih, (of_cutsAt h).1, List.nil_append]
    | false =>
      obtain ⟨p, ps, hp⟩ := List.exists_cons_of_ne_nil (rawPieces_ne_nil sep (n.after c) s)
      have hrest := ih (n.after c)
      rw [rawPieces_of_not_cutsAt h, hp]
      rw [hp] at hrest
      cases ps with
      | nil => exact congrArg (c :: ·) hrest
      | cons q ps => exact congrArg (c :: ·) hrest

/-- Texts that no scan cuts, of which all but the last bring it back to the top level. The first is
met at `n` and the others at the top level. -/
inductive WholePieces (sep : Char) : Nesting → List (List Char) → Prop where
  | nil {n : Nesting} : WholePieces sep n []
  | cons {n : Nesting} {w : List Char} {ps : List (List Char)} :
      IsUncut sep n w → (ps ≠ [] → w.foldl Nesting.after n = {}) → WholePieces sep {} ps →
      WholePieces sep n (w :: ps)

/-- What comes out of the cutting is not cut again. -/
theorem wholePieces_rawPieces (sep : Char) (n : Nesting) (s : List Char) :
    WholePieces sep n (rawPieces sep n s) := by
  induction s generalizing n with
  | nil => exact .cons isUncut_nil (fun h => absurd rfl h) .nil
  | cons c s ih =>
    cases h : cutsAt sep n c with
    | true =>
      obtain ⟨-, rfl⟩ := of_cutsAt h
      rw [rawPieces_of_cutsAt h]
      exact .cons isUncut_nil (fun _ => rfl) (ih {})
    | false =>
      rw [rawPieces_of_not_cutsAt h]
      have hrest := ih (n.after c)
      generalize rawPieces sep (n.after c) s = ps at hrest
      cases hrest with
      | nil => exact .nil
      | cons huncut hreturns hrest => exact .cons (isUncut_cons.2 ⟨h, huncut⟩) hreturns hrest

/-- Whole pieces come out of the cutting as they were. -/
theorem rawPieces_joined (hsep : cutsAt sep {} sep = true) (hne : ps ≠ [])
    (h : WholePieces sep n ps) : rawPieces sep n (Text.joined sep ps) = ps := by
  induction h with
  | nil => exact absurd rfl hne
  | @cons n w ps huncut hreturns _ ih =>
    cases ps with
    | nil => exact huncut
    | cons q ps =>
      have hq := List.cons_ne_nil q ps
      rw [Text.joined, rawPieces_append huncut, hreturns hq, rawPieces_of_cutsAt hsep, ih hq]
      simp

theorem topLevelPieces_joined (hsep : cutsAt sep {} sep = true) (hne : ps ≠ [])
    (h : WholePieces sep {} ps) (trimmed : ∀ p ∈ ps, Text.IsTrimmed p) :
    topLevelPieces sep (Text.joined sep ps) = ps := by
  rw [topLevelPieces, rawPieces_joined hsep hne h]
  exact (List.map_congr_left fun p hp => Text.trim_eq_self_iff.2 (trimmed p hp)).trans
    (List.map_id ps)

/-! ### Brackets and quotes -/

theorem isQuote_of_isOpening (h : Nesting.isOpening c = true) : Nesting.isQuote c = false := by
  simp only [Nesting.isOpening, Bool.or_eq_true, decide_eq_true_eq] at h
  obtain (rfl | rfl) | rfl := h <;> decide

theorem isQuote_of_isClosing (h : Nesting.isClosing c = true) : Nesting.isQuote c = false := by
  simp only [Nesting.isClosing, Bool.or_eq_true, decide_eq_true_eq] at h
  obtain (rfl | rfl) | rfl := h <;> decide

theorem isOpening_of_isClosing (h : Nesting.isClosing c = true) : Nesting.isOpening c = false := by
  simp only [Nesting.isClosing, Bool.or_eq_true, decide_eq_true_eq] at h
  obtain (rfl | rfl) | rfl := h <;> decide

theorem after_of_isQuote (h : Nesting.isQuote c = true) (depth : Nat) :
    ({ depth } : Nesting).after c = { depth, quote := some c } := by
  simp [Nesting.after, h]

theorem after_of_isOpening (h : Nesting.isOpening c = true) (depth : Nat) :
    ({ depth } : Nesting).after c = { depth := depth + 1 } := by
  simp [Nesting.after, h, isQuote_of_isOpening h]

theorem after_of_isClosing (h : Nesting.isClosing c = true) (depth : Nat) :
    ({ depth } : Nesting).after c = { depth := depth - 1 } := by
  simp [Nesting.after, h, isQuote_of_isClosing h, isOpening_of_isClosing h]

theorem after_of_plain (hquote : Nesting.isQuote c = false) (hopen : Nesting.isOpening c = false)
    (hclose : Nesting.isClosing c = false) (depth : Nat) :
    ({ depth } : Nesting).after c = { depth } := by
  simp [Nesting.after, hquote, hopen, hclose]

theorem after_of_quote_eq (depth : Nat) (c : Char) :
    ({ depth, quote := some c } : Nesting).after c = { depth } := by
  simp [Nesting.after]

theorem after_of_quote_ne {q : Char} (h : c ≠ q) (depth : Nat) :
    ({ depth, quote := some q } : Nesting).after c = { depth, quote := some q } := by
  simp [Nesting.after, h]

/-! ### Blanks -/

/-- The open quote is one of the three kinds. -/
def Nesting.IsProper (n : Nesting) : Prop := ∀ q ∈ n.quote, isQuote q = true

theorem Nesting.isProper_top : Nesting.IsProper {} := nofun

theorem Nesting.IsProper.after (h : n.IsProper) (c : Char) : (n.after c).IsProper := by
  unfold Nesting.after
  split
  · split
    · exact nofun
    · exact h
  · rename_i hnone
    split
    · rintro q ⟨⟩
      assumption
    · split
      · exact h
      · split
        · exact h
        · exact h

theorem Nesting.IsProper.foldl (h : n.IsProper) (w : List Char) :
    (w.foldl Nesting.after n).IsProper := by
  induction w generalizing n with
  | nil => exact h
  | cons c w ih => exact ih (h.after c)

theorem isBlank_of_isQuote (h : Nesting.isQuote c = true) : Text.isBlank c = false := by
  simp only [Nesting.isQuote, Bool.or_eq_true, decide_eq_true_eq] at h
  obtain (rfl | rfl) | h := h
  · decide
  · decide
  · simp [Text.isBlank, h]

theorem isBlank_of_isOpening (h : Nesting.isOpening c = true) : Text.isBlank c = false := by
  simp only [Nesting.isOpening, Bool.or_eq_true, decide_eq_true_eq] at h
  obtain (rfl | rfl) | rfl := h <;> decide

theorem isBlank_of_isClosing (h : Nesting.isClosing c = true) : Text.isBlank c = false := by
  simp only [Nesting.isClosing, Bool.or_eq_true, decide_eq_true_eq] at h
  obtain (rfl | rfl) | rfl := h <;> decide

theorem after_of_isBlank (proper : n.IsProper) (h : Text.isBlank c = true) : n.after c = n := by
  have hne {b : Bool} (hb : b = true → Text.isBlank c = false) : b = false := by
    rw [Bool.eq_false_iff]
    intro htrue
    rw [hb htrue] at h
    cases h
  unfold Nesting.after
  split
  · rename_i q hq
    split
    · rename_i heq
      subst heq
      rw [isBlank_of_isQuote (proper c hq)] at h
      cases h
    · rfl
  · rw [hne isBlank_of_isQuote, hne isBlank_of_isOpening, hne isBlank_of_isClosing]
    rfl

theorem foldl_after_of_isBlank (proper : n.IsProper) (h : ∀ c ∈ w, Text.isBlank c = true) :
    w.foldl Nesting.after n = n := by
  induction w with
  | nil => rfl
  | cons c w ih =>
    rw [List.forall_mem_cons] at h
    rw [List.foldl_cons, after_of_isBlank proper h.1, ih h.2]

/-- Trimming a text does not change where a scan stands after it. -/
theorem foldl_after_trim (proper : n.IsProper) (w : List Char) :
    (Text.trim w).foldl Nesting.after n = w.foldl Nesting.after n := by
  obtain ⟨before, after, hbefore, hafter, hw⟩ := Text.exists_trim w
  conv_rhs => rw [hw]
  rw [List.foldl_append, foldl_after_of_isBlank proper hbefore, List.foldl_append,
    foldl_after_of_isBlank (proper.foldl _) hafter]

theorem IsUncut.trim (proper : n.IsProper) (h : IsUncut sep n w) :
    IsUncut sep n (Text.trim w) := by
  obtain ⟨before, after, hbefore, hafter, hw⟩ := Text.exists_trim w
  rw [hw, isUncut_append, foldl_after_of_isBlank proper hbefore, isUncut_append] at h
  exact h.2.1

end Descriptor

end TableScan
