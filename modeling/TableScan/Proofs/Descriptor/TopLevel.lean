import TableScan.Proofs.Descriptor.Scans

/-!
# The top level of a descriptor

A place of a text is at its top level if the text before it is closed: every bracket and every quote
in it has been closed again. A descriptor is cut just at the separators of its top level
(`rawPieces_of_topPlaces`), so there is one piece more than there are such places
(`length_rawPieces`). After a closed text the scan begins anew (`rawPieces_append_cons`), and blanks
at the ends of a text come out at the ends of its pieces, where they are trimmed
(`topLevelPieces_trim`).
-/

namespace TableScan

namespace Text

variable {s w : List Char}

theorem trim_eq_nil_iff : trim s = [] ↔ ∀ c ∈ s, isBlank c = true := by
  constructor
  · intro h
    obtain ⟨before, after, hbefore, hafter, hs⟩ := exists_trim s
    rw [hs, h]
    simpa [or_imp, forall_and] using ⟨hbefore, hafter⟩
  · intro h
    rw [trim, trimStart, List.dropWhile_eq_nil_iff.2 h]
    rfl

theorem trim_append_left (h : ∀ c ∈ w, isBlank c = true) (s : List Char) :
    trim (w ++ s) = trim s := by
  rw [trim, trimStart, List.dropWhile_append_of_pos h]
  rfl

theorem trimEnd_append_right (h : ∀ c ∈ w, isBlank c = true) (s : List Char) :
    trimEnd (s ++ w) = trimEnd s := by
  rw [trimEnd, List.reverse_append, List.dropWhile_append_of_pos]
  · rfl
  · exact fun c hc => h c (List.mem_reverse.1 hc)

theorem trim_append_right (h : ∀ c ∈ w, isBlank c = true) (s : List Char) :
    trim (s ++ w) = trim s := by
  rw [trim, trim, trimStart, trimStart, List.dropWhile_append]
  split
  · rename_i hempty
    rw [List.isEmpty_iff.1 hempty, List.dropWhile_eq_nil_iff.2 h]
  · rw [trimEnd_append_right h]

end Text

namespace Descriptor

variable {sep c : Char} {n : Nesting} {i : Nat} {s w x y : List Char}

/-! ### Places -/

def IsClosed (w : List Char) : Prop := w.foldl Nesting.after {} = {}

instance : DecidablePred IsClosed := fun _ => inferInstanceAs (Decidable (_ = _))

/-- The places of a separator at the top level, for a scan that stands at `n`. -/
def topPlaces (sep : Char) (n : Nesting) (s : List Char) : List Nat :=
  (List.range s.length).filter fun i => s[i]? = some sep ∧ (s.take i).foldl Nesting.after n = {}

theorem topPlaces_cons (sep : Char) (n : Nesting) (c : Char) (s : List Char) :
    topPlaces sep n (c :: s) =
      (if c = sep ∧ n = {} then [0] else []) ++ (topPlaces sep (n.after c) s).map (· + 1) := by
  unfold topPlaces
  rw [List.length_cons, List.range_succ_eq_map, List.filter_cons, List.filter_map]
  by_cases h : c = sep ∧ n = {}
  · rw [if_pos h, if_pos (by simpa using h)]
    rfl
  · rw [if_neg h, if_neg (by simpa using h)]
    rfl

theorem after_of_cutsAt (h : cutsAt sep n c = true) : n.after c = {} := by
  obtain ⟨-, rfl⟩ := of_cutsAt h
  simp only [cutsAt, Bool.and_eq_true, Bool.not_eq_true'] at h
  obtain ⟨⟨⟨-, hquote⟩, hopen⟩, hclose⟩ := h
  exact after_of_plain hquote hopen hclose 0

theorem isUncut_iff_length : IsUncut sep n s ↔ (rawPieces sep n s).length = 1 := by
  constructor
  · intro h
    rw [h]
    rfl
  · intro h
    obtain ⟨p, hp⟩ := List.length_eq_one_iff.1 h
    have hjoined := joined_rawPieces sep n s
    rw [hp] at hjoined
    rw [IsUncut, hp, ← hjoined]
    rfl

section

-- a separator is neither a bracket nor a quote
variable (hsep : cutsAt sep {} sep = true)
include hsep

theorem cutsAt_iff : cutsAt sep n c = true ↔ c = sep ∧ n = {} := by
  refine ⟨of_cutsAt, ?_⟩
  rintro ⟨rfl, rfl⟩
  exact hsep

theorem topPlaces_of_cutsAt (h : cutsAt sep n c = true) (s : List Char) :
    topPlaces sep n (c :: s) = 0 :: (topPlaces sep {} s).map (· + 1) := by
  rw [topPlaces_cons, if_pos ((cutsAt_iff hsep).1 h), after_of_cutsAt h]
  rfl

theorem topPlaces_of_not_cutsAt (h : cutsAt sep n c = false) (s : List Char) :
    topPlaces sep n (c :: s) = (topPlaces sep (n.after c) s).map (· + 1) := by
  rw [topPlaces_cons, if_neg (mt (cutsAt_iff hsep).2 (by simp [h]))]
  rfl

/-! ### Cuts -/

theorem length_rawPieces (n : Nesting) (s : List Char) :
    (rawPieces sep n s).length = (topPlaces sep n s).length + 1 := by
  induction s generalizing n with
  | nil => rfl
  | cons c s ih =>
    cases h : cutsAt sep n c with
    | true =>
      rw [rawPieces_of_cutsAt h, topPlaces_of_cutsAt hsep h, (of_cutsAt h).2]
      simp [ih]
    | false =>
      rw [rawPieces_of_not_cutsAt h, topPlaces_of_not_cutsAt hsep h]
      simp [ih]

theorem rawPieces_of_head?_topPlaces (h : (topPlaces sep n s).head? = some i) :
    rawPieces sep n s = s.take i :: rawPieces sep {} (s.drop (i + 1)) := by
  induction s generalizing n i with
  | nil => cases h
  | cons c s ih =>
    cases hc : cutsAt sep n c with
    | true =>
      rw [topPlaces_of_cutsAt hsep hc] at h
      cases h
      rw [rawPieces_of_cutsAt hc, (of_cutsAt hc).2]
      rfl
    | false =>
      rw [topPlaces_of_not_cutsAt hsep hc, List.head?_map] at h
      obtain ⟨j, hj, rfl⟩ := Option.map_eq_some_iff.1 h
      rw [rawPieces_of_not_cutsAt hc, ih hj]
      rfl

theorem isUncut_iff : IsUncut sep n s ↔ topPlaces sep n s = [] := by
  rw [isUncut_iff_length, length_rawPieces hsep, ← List.length_eq_zero_iff]
  exact Nat.succ_inj

/-- A text with one separator at its top level is cut there and nowhere else. -/
theorem rawPieces_of_topPlaces (h : topPlaces sep n s = [i]) :
    rawPieces sep n s = [s.take i, s.drop (i + 1)] := by
  have hfirst := rawPieces_of_head?_topPlaces hsep (congrArg List.head? h)
  have hlength := length_rawPieces hsep n s
  rw [hfirst, h] at hlength
  rw [hfirst, isUncut_iff_length.2 (Nat.succ.inj hlength)]

/-- After a closed text and a separator the scan begins anew. -/
theorem rawPieces_append_cons (hx : x.foldl Nesting.after n = {}) (y : List Char) :
    rawPieces sep n (x ++ sep :: y) = rawPieces sep n x ++ rawPieces sep {} y := by
  induction x generalizing n with
  | nil =>
    obtain rfl : n = {} := hx
    rw [List.nil_append, rawPieces_of_cutsAt hsep]
    rfl
  | cons c x ih =>
    rw [List.foldl_cons] at hx
    cases hc : cutsAt sep n c with
    | true =>
      obtain ⟨-, rfl⟩ := of_cutsAt hc
      rw [after_of_cutsAt hc] at hx
      rw [List.cons_append, rawPieces_of_cutsAt hc, rawPieces_of_cutsAt hc, ih hx]
      rfl
    | false =>
      obtain ⟨p, ps, hp⟩ := List.exists_cons_of_ne_nil (rawPieces_ne_nil sep (n.after c) x)
      rw [List.cons_append, rawPieces_of_not_cutsAt hc, rawPieces_of_not_cutsAt hc, ih hx, hp]
      rfl

theorem topLevelPieces_append_cons (hx : IsClosed x) (y : List Char) :
    topLevelPieces sep (x ++ sep :: y) = topLevelPieces sep x ++ topLevelPieces sep y := by
  rw [topLevelPieces, rawPieces_append_cons hsep hx, List.map_append]
  rfl

end

/-! ### Blanks -/

theorem isUncut_of_isBlank (hsep : Text.isBlank sep = false)
    (h : ∀ c ∈ w, Text.isBlank c = true) : IsUncut sep n w := by
  induction w generalizing n with
  | nil => exact isUncut_nil
  | cons c w ih =>
    rw [List.forall_mem_cons] at h
    have hc : cutsAt sep n c = false := by
      rw [Bool.eq_false_iff]
      intro hcut
      rw [(of_cutsAt hcut).1, hsep] at h
      cases h.1
    exact isUncut_cons.2 ⟨hc, ih h.2⟩

theorem exists_rawPieces_append (hsep : Text.isBlank sep = false)
    (h : ∀ c ∈ w, Text.isBlank c = true) (n : Nesting) (s : List Char) :
    ∃ init last, rawPieces sep n s = init ++ [last] ∧
      rawPieces sep n (s ++ w) = init ++ [last ++ w] := by
  induction s generalizing n with
  | nil => exact ⟨[], [], rfl, isUncut_of_isBlank hsep h⟩
  | cons c s ih =>
    obtain ⟨init, last, hs, hsw⟩ := ih (n.after c)
    cases hc : cutsAt sep n c with
    | true =>
      obtain ⟨init, last, hs, hsw⟩ := ih n
      refine ⟨[] :: init, last, ?_, ?_⟩
      · rw [rawPieces_of_cutsAt hc, hs]
        rfl
      · rw [List.cons_append, rawPieces_of_cutsAt hc, hsw]
        rfl
    | false =>
      obtain ⟨init, last, hs, hsw⟩ := ih (n.after c)
      rw [List.cons_append, rawPieces_of_not_cutsAt hc, rawPieces_of_not_cutsAt hc, hs, hsw]
      cases init with
      | nil => exact ⟨[], c :: last, rfl, rfl⟩
      | cons p init => exact ⟨(c :: p) :: init, last, rfl, rfl⟩

/-- Trimming a text before it is cut makes no difference to its trimmed pieces. -/
theorem topLevelPieces_trim (hsep : Text.isBlank sep = false) (s : List Char) :
    topLevelPieces sep (Text.trim s) = topLevelPieces sep s := by
  obtain ⟨before, after, hbefore, hafter, hs⟩ := Text.exists_trim s
  conv_rhs => rw [hs]
  obtain ⟨init, last, htrim, hsuffix⟩ := exists_rawPieces_append hsep hafter {} (Text.trim s)
  have hprefix := rawPieces_append (isUncut_of_isBlank hsep hbefore) (Text.trim s ++ after)
    (n := {})
  rw [foldl_after_of_isBlank Nesting.isProper_top hbefore, hsuffix] at hprefix
  rw [topLevelPieces, topLevelPieces, htrim, hprefix]
  cases init with
  | nil => simp [Text.trim_append_left hbefore, Text.trim_append_right hafter]
  | cons p init => simp [Text.trim_append_left hbefore, Text.trim_append_right hafter]

end Descriptor

end TableScan
