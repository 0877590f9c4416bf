/-!
# Pieces between separators

`pieces sep l` cuts a list at every occurrence of `sep`, and `joined sep` puts the separators
back. There is always one piece more than there are separators, so no text is lost: an empty list
has one empty piece.
-/

namespace TableScan.Text

variable {α : Type} [DecidableEq α]

/-- The pieces of `l` between the occurrences of `sep`. -/
def pieces (sep : α) : List α → List (List α)
  | [] => [[]]
  | c :: l => if c = sep then [] :: pieces sep l else (pieces sep l).modifyHead (c :: ·)

/-- The pieces with `sep` between each two of them. -/
def joined (sep : α) : List (List α) → List α
  | [] => []
  | [p] => p
  | p :: q :: ps => p ++ sep :: joined sep (q :: ps)

theorem pieces_ne_nil (sep : α) (l : List α) : pieces sep l ≠ [] := by
  induction l with
  | nil => simp [pieces]
  | cons c l ih =>
    unfold pieces
    split
    · simp
    · simpa using ih

/-- Cutting loses nothing. -/
theorem joined_pieces (sep : α) (l : List α) : joined sep (pieces sep l) = l := by
  induction l with
  | nil => rfl
  | cons c l ih =>
    have hne := pieces_ne_nil sep l
    cases hp : pieces sep l with
    | nil => exact absurd hp hne
    | cons p ps =>
      rw [hp] at ih
      by_cases h : c = sep
      · simp [pieces, h, hp, joined, ih]
      · cases ps with
        | nil => simpa [pieces, h, hp, joined] using ih
        | cons q qs => simpa [pieces, h, hp, joined] using ih

theorem not_mem_of_mem_pieces {sep : α} {l p : List α} (h : p ∈ pieces sep l) : sep ∉ p := by
  induction l generalizing p with
  | nil => simp_all [pieces]
  | cons c l ih =>
    unfold pieces at h
    split at h
    · rcases List.mem_cons.1 h with rfl | h
      · simp
      · exact ih h
    · cases hp : pieces sep l with
      | nil => simp [hp] at h
      | cons q qs =>
        have hq : sep ∉ q := ih (by simp [hp])
        rw [hp] at h
        rcases List.mem_cons.1 h with rfl | h
        · simp_all [eq_comm]
        · exact ih (by simp [hp, h])

theorem pieces_of_not_mem {sep : α} {l : List α} (h : sep ∉ l) : pieces sep l = [l] := by
  induction l with
  | nil => rfl
  | cons c l ih =>
    rw [List.mem_cons, not_or] at h
    rw [pieces, if_neg (Ne.symm h.1), ih h.2]
    rfl

theorem pieces_append_cons {sep : α} {p : List α} (h : sep ∉ p) (l : List α) :
    pieces sep (p ++ sep :: l) = p :: pieces sep l := by
  induction p with
  | nil => simp [pieces]
  | cons c p ih =>
    rw [List.mem_cons, not_or] at h
    rw [List.cons_append, pieces, if_neg (Ne.symm h.1), ih h.2]
    rfl

theorem pieces_append_of_not_mem {sep : α} {p : List α} (h : sep ∉ p) (l : List α) :
    pieces sep (p ++ l) = (pieces sep l).modifyHead (p ++ ·) := by
  induction p with
  | nil => cases hl : pieces sep l <;> simp [hl]
  | cons c p ih =>
    rw [List.mem_cons, not_or] at h
    rw [List.cons_append, pieces, if_neg (Ne.symm h.1), ih h.2, List.modifyHead_modifyHead]
    rfl

/-- Cutting undoes joining. -/
theorem pieces_joined {sep : α} {ps : List (List α)} (hne : ps ≠ []) (h : ∀ p ∈ ps, sep ∉ p) :
    pieces sep (joined sep ps) = ps := by
  induction ps with
  | nil => exact absurd rfl hne
  | cons p ps ih =>
    have hp : sep ∉ p := h p List.mem_cons_self
    cases ps with
    | nil => exact pieces_of_not_mem hp
    | cons q ps =>
      rw [joined, pieces_append_cons hp,
        ih (List.cons_ne_nil q ps) fun p' hp' => h p' (List.mem_cons_of_mem _ hp')]

omit [DecidableEq α] in
theorem joined_cons {sep : α} {p : List α} {ps : List (List α)} (h : ps ≠ []) :
    joined sep (p :: ps) = p ++ sep :: joined sep ps := by
  obtain ⟨q, ps, rfl⟩ := List.exists_cons_of_ne_nil h
  rfl

omit [DecidableEq α] in
theorem joined_append_singleton (sep : α) {ps : List (List α)} (h : ps ≠ []) :
    joined sep ps ++ [sep] = ps.flatMap (· ++ [sep]) := by
  induction ps with
  | nil => exact absurd rfl h
  | cons p ps ih =>
    cases ps with
    | nil => simp [joined]
    | cons q ps =>
      rw [List.flatMap_cons, joined, List.append_assoc, List.append_assoc, List.cons_append,
        ih (List.cons_ne_nil q ps)]
      rfl

omit [DecidableEq α] in
theorem sublist_joined (sep : α) {p : List α} {ps : List (List α)} (h : p ∈ ps) :
    p.Sublist (joined sep ps) := by
  induction ps with
  | nil => cases h
  | cons q ps ih =>
    cases ps with
    | nil =>
      rw [List.mem_singleton.1 h]
      exact List.Sublist.refl q
    | cons r ps =>
      obtain rfl | h := List.mem_cons.1 h
      · exact List.sublist_append_left p _
      · exact ((ih h).cons sep).trans (List.sublist_append_right q _)

omit [DecidableEq α] in
theorem mem_of_mem_joined {sep c : α} {ps : List (List α)} (h : c ∈ joined sep ps) :
    c = sep ∨ ∃ p ∈ ps, c ∈ p := by
  induction ps with
  | nil => cases h
  | cons p ps ih =>
    cases ps with
    | nil => exact .inr ⟨p, List.mem_cons_self, h⟩
    | cons q ps =>
      rw [joined, List.mem_append, List.mem_cons] at h
      obtain h | h | h := h
      · exact .inr ⟨p, List.mem_cons_self, h⟩
      · exact .inl h
      · obtain hsep | ⟨p', hp', hc⟩ := ih h
        · exact .inl hsep
        · exact .inr ⟨p', List.mem_cons_of_mem _ hp', hc⟩

omit [DecidableEq α] in
theorem joined_eq_intercalate (sep : α) (ps : List (List α)) :
    joined sep ps = [sep].intercalate ps := by
  induction ps with
  | nil => rfl
  | cons p ps ih =>
    cases ps with
    | nil => simp [joined]
    | cons q ps =>
      rw [joined, ih, List.intercalate_cons_cons, List.append_assoc]
      rfl

omit [DecidableEq α] in
theorem joined_eq_nil_iff {sep : α} {ps : List (List α)} :
    joined sep ps = [] ↔ ps = [] ∨ ps = [[]] := by
  rcases ps with _ | ⟨p, _ | ⟨q, ps⟩⟩
  · simp [joined]
  · simp [joined]
  · simp [joined]

theorem pieces_flatMap_ended {sep : α} {ps : List (List α)} (h : ∀ p ∈ ps, sep ∉ p) :
    pieces sep (ps.flatMap (· ++ [sep])) = ps ++ [[]] := by
  induction ps with
  | nil => rfl
  | cons p ps ih =>
    rw [List.forall_mem_cons] at h
    rw [List.flatMap_cons, List.append_assoc, List.singleton_append, pieces_append_cons h.1, ih h.2]
    rfl

theorem pieceInduction (sep : α) {P : List α → Prop}
    (last : ∀ p, sep ∉ p → P p) (more : ∀ p l, sep ∉ p → P l → P (p ++ sep :: l)) (l : List α) :
    P l := by
  by_cases h : sep ∈ l
  · obtain ⟨p, rest, hl, hp⟩ := List.eq_append_cons_of_mem h
    exact hl ▸ more p rest hp (pieceInduction sep last more rest)
  · exact last l h
termination_by l.length
decreasing_by
  rw [hl, List.length_append, List.length_cons]
  omega

/-- `p` stands in `l` between two separators, or between one and an end of `l`. -/
def IsPiece (sep : α) (p l : List α) : Prop :=
  ∃ before after, l = before ++ (p ++ after) ∧ sep ∉ p ∧
    (before = [] ∨ before.getLast? = some sep) ∧ (after = [] ∨ after.head? = some sep)

theorem pieces_append_separator {sep : α} (a l : List α) :
    pieces sep (a ++ sep :: l) = pieces sep a ++ pieces sep l := by
  induction a using pieceInduction sep with
  | last p hp => rw [pieces_append_cons hp, pieces_of_not_mem hp, List.singleton_append]
  | more p a hp ih =>
    rw [List.append_assoc, List.cons_append, pieces_append_cons hp, ih, pieces_append_cons hp,
      List.cons_append]

theorem pieces_append_replicate {sep : α} {p : List α} (h : sep ∉ p) (n : Nat) :
    pieces sep (p ++ List.replicate n sep) = p :: List.replicate n [] := by
  induction n generalizing p with
  | zero => rw [List.replicate_zero, List.append_nil, pieces_of_not_mem h, List.replicate_zero]
  | succ n ih =>
    rw [List.replicate_succ, pieces_append_cons h, List.replicate_succ]
    exact congrArg (p :: ·) (ih List.not_mem_nil)

theorem isPiece_of_mem_pieces {sep : α} {p l : List α} (h : p ∈ pieces sep l) :
    IsPiece sep p l := by
  induction l using pieceInduction sep with
  | last q hq =>
    rw [pieces_of_not_mem hq, List.mem_singleton] at h
    exact ⟨[], [], by simp [h], h ▸ hq, .inl rfl, .inl rfl⟩
  | more q l hq ih =>
    rw [pieces_append_cons hq] at h
    obtain rfl | h := List.mem_cons.1 h
    · exact ⟨[], sep :: l, rfl, hq, .inl rfl, .inr rfl⟩
    · obtain ⟨before, after, rfl, hp, hbefore, hafter⟩ := ih h
      refine ⟨q ++ sep :: before, after, by simp, hp, .inr ?_, hafter⟩
      obtain rfl | hlast := hbefore
      · exact List.getLast?_concat
      · rw [List.getLast?_append, List.getLast?_cons, hlast]
        rfl

/-- A list is cut into its pieces. -/
theorem mem_pieces_iff {sep : α} {p l : List α} : p ∈ pieces sep l ↔ IsPiece sep p l := by
  refine ⟨isPiece_of_mem_pieces, ?_⟩
  rintro ⟨before, after, rfl, hp, hbefore, hafter⟩
  have hmem : p ∈ pieces sep (p ++ after) := by
    obtain rfl | hhead := hafter
    · rw [List.append_nil, pieces_of_not_mem hp]
      exact List.mem_singleton_self p
    · obtain ⟨rest, rfl⟩ := List.head?_eq_some_iff.1 hhead
      rw [pieces_append_cons hp]
      exact List.mem_cons_self
  obtain rfl | hlast := hbefore
  · exact hmem
  · obtain ⟨init, rfl⟩ := List.getLast?_eq_some_iff.1 hlast
    rw [List.append_assoc, List.singleton_append, pieces_append_separator]
    exact List.mem_append_right _ hmem

/-- The text before and after the first occurrence of `sep`, if there is one. -/
def cutAtFirst? (sep : α) : List α → Option (List α × List α)
  | [] => none
  | c :: l => if c = sep then some ([], l) else (cutAtFirst? sep l).map fun (a, b) => (c :: a, b)

/-- The text before and after the last occurrence of `sep`, if there is one. -/
def cutAtLast? (sep : α) (l : List α) : Option (List α × List α) :=
  (cutAtFirst? sep l.reverse).map fun (a, b) => (b.reverse, a.reverse)

theorem cutAtFirst?_append_cons {sep : α} {p : List α} (h : sep ∉ p) (l : List α) :
    cutAtFirst? sep (p ++ sep :: l) = some (p, l) := by
  induction p with
  | nil => simp [cutAtFirst?]
  | cons c p ih =>
    rw [List.mem_cons, not_or] at h
    rw [List.cons_append, cutAtFirst?, if_neg (Ne.symm h.1), ih h.2]
    rfl

theorem eq_of_cutAtFirst? {sep : α} {l a b : List α} (h : cutAtFirst? sep l = some (a, b)) :
    l = a ++ sep :: b ∧ sep ∉ a := by
  induction l generalizing a with
  | nil => cases h
  | cons c l ih =>
    rw [cutAtFirst?] at h
    split at h
    · rename_i hc
      simp only [Option.some.injEq, Prod.mk.injEq] at h
      obtain ⟨rfl, rfl⟩ := h
      exact ⟨congrArg (· :: l) hc, List.not_mem_nil⟩
    · rename_i hc
      obtain ⟨⟨a', b'⟩, hcut, hpair⟩ := Option.map_eq_some_iff.1 h
      cases hpair
      obtain ⟨rfl, hsep⟩ := ih hcut
      exact ⟨rfl, by simpa [Ne.symm hc] using hsep⟩

theorem cutAtFirst?_eq_none_iff {sep : α} {l : List α} : cutAtFirst? sep l = none ↔ sep ∉ l := by
  induction l with
  | nil => simp [cutAtFirst?]
  | cons c l ih =>
    rw [cutAtFirst?, List.mem_cons, not_or]
    split
    · rename_i hc
      simp [hc]
    · rename_i hc
      simp [ih, Ne.symm hc]

theorem cutAtLast?_append_cons {sep : α} {p : List α} (h : sep ∉ p) (l : List α) :
    cutAtLast? sep (l ++ sep :: p) = some (l, p) := by
  have hreverse : (l ++ sep :: p).reverse = p.reverse ++ sep :: l.reverse := by simp
  rw [cutAtLast?, hreverse, cutAtFirst?_append_cons (mt List.mem_reverse.1 h)]
  simp

theorem eq_of_cutAtLast? {sep : α} {l a b : List α} (h : cutAtLast? sep l = some (a, b)) :
    l = a ++ sep :: b ∧ sep ∉ b := by
  obtain ⟨⟨b', a'⟩, hcut, hpair⟩ := Option.map_eq_some_iff.1 h
  cases hpair
  obtain ⟨hl, hsep⟩ := eq_of_cutAtFirst? hcut
  rw [List.reverse_eq_iff] at hl
  exact ⟨by simpa using hl, mt List.mem_reverse.1 hsep⟩

theorem cutAtLast?_eq_none_iff {sep : α} {l : List α} : cutAtLast? sep l = none ↔ sep ∉ l := by
  rw [cutAtLast?, Option.map_eq_none_iff, cutAtFirst?_eq_none_iff, List.mem_reverse]

/-- Whether `l` has `part` as a contiguous part, and what follows its first occurrence. -/
def afterFirst? (part : List α) : List α → Option (List α)
  | [] => if part = [] then some [] else none
  | c :: l => if part.isPrefixOf (c :: l) then some ((c :: l).drop part.length)
    else afterFirst? part l

end TableScan.Text
