import Mathlib.Data.List.Induction
import Mathlib.Data.List.Sort
import TableScan.Proofs.Descriptor.TopLevel

/-!
# The separators of a descriptor

What a text leaves open, brackets and perhaps a quote, is told by how it is built (`Leaves`), and a
scan keeps count of just that (`leaves_iff`), one character after the other (`Leaves.after`). A
descriptor is therefore cut at those of its separators before which nothing is open
(`isCutting_rawPieces`). Pieces are told by the text that they are joined to and by the places of the
separators in it (`eq_of_separatorPlaces`), so there are no others that are cut there.
-/

namespace TableScan

namespace Text

variable {α : Type} {sep : α} {p : List α} {ps qs : List (List α)}

/-- The places of the separators between pieces, in the text that they are joined to. -/
def separatorPlaces : List (List α) → List Nat
  | [] => []
  | [_] => []
  | p :: q :: ps => p.length :: (separatorPlaces (q :: ps)).map (p.length + 1 + ·)

theorem separatorPlaces_cons (p : List α) (h : ps ≠ []) :
    separatorPlaces (p :: ps) = p.length :: (separatorPlaces ps).map (p.length + 1 + ·) := by
  obtain ⟨q, ps, rfl⟩ := List.exists_cons_of_ne_nil h
  rfl

theorem separatorPlaces_cons_cons (a : α) (p : List α) (ps : List (List α)) :
    separatorPlaces ((a :: p) :: ps) = (separatorPlaces (p :: ps)).map (· + 1) := by
  cases ps with
  | nil => rfl
  | cons q ps =>
    rw [separatorPlaces, separatorPlaces, List.map_cons, List.map_map]
    refine congrArg _ (List.map_congr_left fun i _ => ?_)
    simp only [List.length_cons, Function.comp_apply]
    omega

theorem pairwise_separatorPlaces (ps : List (List α)) : (separatorPlaces ps).Pairwise (· < ·) := by
  induction ps with
  | nil => exact .nil
  | cons p ps ih =>
    cases ps with
    | nil => exact .nil
    | cons q ps =>
      refine List.pairwise_cons.2 ⟨List.forall_mem_map.2 fun i _ => by omega, ?_⟩
      exact ih.map _ fun i j hij => Nat.add_lt_add_left hij _

/-- Pieces are told by the text that they are joined to and the places of the separators in it. -/
theorem eq_of_separatorPlaces (hps : ps ≠ []) (hqs : qs ≠ [])
    (hjoined : joined sep ps = joined sep qs) (hplaces : separatorPlaces ps = separatorPlaces qs) :
    ps = qs := by
  induction ps generalizing qs with
  | nil => exact absurd rfl hps
  | cons p ps ih =>
    obtain ⟨q, qs, rfl⟩ := List.exists_cons_of_ne_nil hqs
    rcases ps with _ | ⟨p', ps⟩ <;> rcases qs with _ | ⟨q', qs⟩
    · exact congrArg ([·]) hjoined
    · cases hplaces
    · cases hplaces
    · obtain ⟨hlength, hrest⟩ := List.cons.inj hplaces
      obtain ⟨rfl, htail⟩ := List.append_inj hjoined hlength
      have hplaces' := List.map_injective_iff.2 (fun _ _ => Nat.add_left_cancel) hrest
      rw [ih (List.cons_ne_nil p' ps) (List.cons_ne_nil q' qs) (List.cons.inj htail).2 hplaces']

end Text

namespace Descriptor

open Nesting

variable {sep c : Char} {d : Nat} {n : Nesting} {o : Bool} {s u v w : List Char}

/-! ### What a text leaves open -/

/-- A text in which brackets and quotes are matched. A quote ends at its own kind, and whatever
stands in it does not count. Brackets enclose a text of this sort, of whatever kinds they are. In
an `outermost` text, which stands in no bracket, a closing bracket may stand alone. -/
inductive Balanced : (outermost : Bool) → List Char → Prop where
  | nil {o : Bool} : Balanced o []
  | plain {o : Bool} {c : Char} {w : List Char} : isQuote c = false → isOpening c = false →
      isClosing c = false → Balanced o w → Balanced o (c :: w)
  | quoted {o : Bool} {q : Char} {u w : List Char} : isQuote q = true → q ∉ u → Balanced o w →
      Balanced o (q :: (u ++ q :: w))
  | enclosed {o : Bool} {a z : Char} {u w : List Char} : isOpening a = true → isClosing z = true →
      Balanced false u → Balanced o w → Balanced o (a :: (u ++ z :: w))
  | alone {z : Char} {w : List Char} : isClosing z = true → Balanced true w → Balanced true (z :: w)

theorem Balanced.append (hv : Balanced o v) (hw : Balanced o w) : Balanced o (v ++ w) := by
  induction hv with
  | nil => exact hw
  | plain hquote hopen hclose _ ih => exact .plain hquote hopen hclose (ih hw)
  | quoted hquote hmem _ ih =>
    rw [List.cons_append, List.append_assoc]
    exact .quoted hquote hmem (ih hw)
  | enclosed hopen hclose hu _ _ ih =>
    rw [List.cons_append, List.append_assoc]
    exact .enclosed hopen hclose hu (ih hw)
  | alone hclose _ ih => exact .alone hclose (ih hw)

theorem Balanced.outermost (h : Balanced false w) : Balanced true w := by
  generalize ho : false = o at h
  induction h with
  | nil => exact .nil
  | plain hquote hopen hclose _ ih => exact .plain hquote hopen hclose (ih ho)
  | quoted hquote hmem _ ih => exact .quoted hquote hmem (ih ho)
  | enclosed hopen hclose hu _ _ ih => exact .enclosed hopen hclose hu (ih ho)
  | alone => cases ho

/-- What a text leaves open: so many brackets, and perhaps a quote in the last of them. -/
inductive Leaves : List Char → Nesting → Prop where
  | nothing {w : List Char} : Balanced true w → Leaves w {}
  | bracket {w u : List Char} {a : Char} {d : Nat} : Leaves w { depth := d } →
      isOpening a = true → Balanced false u → Leaves (w ++ a :: u) { depth := d + 1 }
  | quote {w u : List Char} {q : Char} {d : Nat} : Leaves w { depth := d } → isQuote q = true →
      q ∉ u → Leaves (w ++ q :: u) { depth := d, quote := some q }

/-! ### What a scan keeps count of -/

theorem foldl_after_of_quote {q : Char} (h : q ∉ u) :
    u.foldl Nesting.after { depth := d, quote := some q } = { depth := d, quote := some q } := by
  induction u with
  | nil => rfl
  | cons c u ih =>
    rw [List.mem_cons, not_or] at h
    rw [List.foldl_cons, after_of_quote_ne (Ne.symm h.1), ih h.2]

/-- A scan stands after a balanced text where it stood before, inside of brackets or at the top. -/
theorem Balanced.foldl_after (h : Balanced o w) (inside : o = true → d = 0) :
    w.foldl Nesting.after { depth := d } = { depth := d } := by
  induction h generalizing d with
  | nil => rfl
  | plain hquote hopen hclose _ ih =>
    rw [List.foldl_cons, after_of_plain hquote hopen hclose, ih inside]
  | quoted hquote hmem _ ih =>
    rw [List.foldl_cons, after_of_isQuote hquote, List.foldl_append, foldl_after_of_quote hmem,
      List.foldl_cons, after_of_quote_eq, ih inside]
  | enclosed hopen hclose _ _ ihu ih =>
    rw [List.foldl_cons, after_of_isOpening hopen, List.foldl_append, ihu nofun, List.foldl_cons,
      after_of_isClosing hclose]
    exact ih inside
  | alone hclose _ ih =>
    obtain rfl := inside rfl
    rw [List.foldl_cons, after_of_isClosing hclose, ih inside]

theorem Leaves.foldl_after (h : Leaves w n) : w.foldl Nesting.after {} = n := by
  induction h with
  | nothing h => exact h.foldl_after fun _ => rfl
  | bracket _ hopen hu ih =>
    rw [List.foldl_append, ih, List.foldl_cons, after_of_isOpening hopen, hu.foldl_after nofun]
  | quote _ hquote hmem ih =>
    rw [List.foldl_append, ih, List.foldl_cons, after_of_isQuote hquote, foldl_after_of_quote hmem]

theorem Leaves.append (h : Leaves w { depth := d }) (hv : Balanced false v) :
    Leaves (w ++ v) { depth := d } := by
  cases h with
  | nothing hw => exact .nothing (hw.append hv.outermost)
  | bracket hw hopen hu =>
    rw [List.append_assoc]
    exact .bracket hw hopen (hu.append hv)

theorem Leaves.append_isClosing (h : Leaves w { depth := d }) (hclose : isClosing c = true) :
    Leaves (w ++ [c]) { depth := d - 1 } := by
  cases h with
  | nothing hw => exact .nothing (hw.append (.alone hclose .nil))
  | bracket hw hopen hu =>
    rw [List.append_assoc, List.cons_append]
    exact hw.append (.enclosed hopen hclose hu .nil)

/-- One more character leaves open what a scan makes of it. -/
theorem Leaves.after (h : Leaves w n) (c : Char) : Leaves (w ++ [c]) (n.after c) := by
  obtain ⟨d, _ | q⟩ := n
  · cases hquote : isQuote c with
    | true =>
      rw [after_of_isQuote hquote]
      exact .quote h hquote List.not_mem_nil
    | false =>
      cases hopen : isOpening c with
      | true =>
        rw [after_of_isOpening hopen]
        exact .bracket h hopen .nil
      | false =>
        cases hclose : isClosing c with
        | true =>
          rw [after_of_isClosing hclose]
          exact h.append_isClosing hclose
        | false =>
          rw [after_of_plain hquote hopen hclose]
          exact h.append (.plain hquote hopen hclose .nil)
  -- within a quote only its own kind counts
  · obtain _ | _ | @⟨w, u, _, _, hw, hquote, hmem⟩ := h
    rw [List.append_assoc, List.cons_append]
    by_cases hc : c = q
    · subst hc
      rw [after_of_quote_eq]
      exact hw.append (.quoted hquote hmem .nil)
    · rw [after_of_quote_ne hc]
      exact .quote hw hquote (by simp [hmem, Ne.symm hc])

theorem leaves_foldl_after (w : List Char) : Leaves w (w.foldl Nesting.after {}) := by
  induction w using List.reverseRecOn with
  | nil => exact .nothing .nil
  | append_singleton w c ih =>
    rw [List.foldl_append]
    exact ih.after c

/-- A scan keeps count of what a text leaves open. -/
theorem leaves_iff : Leaves w n ↔ w.foldl Nesting.after {} = n :=
  ⟨Leaves.foldl_after, fun h => h ▸ leaves_foldl_after w⟩

instance : Decidable (Leaves w n) := decidable_of_iff _ leaves_iff.symm

/-! ### Cuts -/

/-- A separator stands at a place, outside of all brackets and quotes. -/
def IsTopSeparator (sep : Char) (s : List Char) (i : Nat) : Prop :=
  s[i]? = some sep ∧ Leaves (s.take i) { depth := 0, quote := none }

instance {sep : Char} {s : List Char} : DecidablePred (IsTopSeparator sep s) :=
  fun _ => inferInstanceAs (Decidable (_ ∧ _))

/-- Pieces of a text between its separators outside of all brackets and quotes. -/
structure IsCutting (sep : Char) (s : List Char) (pieces : List (List Char)) : Prop where
  ne_nil : pieces ≠ []
  joined : Text.joined sep pieces = s
  places : ∀ i, i ∈ Text.separatorPlaces pieces ↔ IsTopSeparator sep s i

theorem IsCutting.unique {ps qs : List (List Char)} (hps : IsCutting sep s ps)
    (hqs : IsCutting sep s qs) : ps = qs := by
  have hplaces : Text.separatorPlaces ps = Text.separatorPlaces qs :=
    (Text.pairwise_separatorPlaces ps).eq_of_mem_iff (Text.pairwise_separatorPlaces qs)
      fun i => (hps.places i).trans (hqs.places i).symm
  exact Text.eq_of_separatorPlaces hps.ne_nil hqs.ne_nil (hps.joined.trans hqs.joined.symm) hplaces

theorem mem_topPlaces {i : Nat} : i ∈ topPlaces sep {} s ↔ IsTopSeparator sep s i := by
  rw [topPlaces, List.mem_filter, List.mem_range, decide_eq_true_eq, IsTopSeparator, leaves_iff]
  constructor
  · exact fun h => h.2
  · exact fun h => ⟨(List.getElem?_eq_some_iff.1 h.1).1, h⟩

theorem length_topPlaces (s : List Char) :
    (topPlaces sep {} s).length = (List.range s.length).countP (IsTopSeparator sep s) := by
  rw [List.countP_eq_length_filter, topPlaces]
  refine congrArg _ (List.filter_congr fun i _ => ?_)
  exact decide_eq_decide.2 (and_congr_right' leaves_iff.symm)

section

-- a separator is neither a bracket nor a quote
variable (hsep : cutsAt sep {} sep = true)
include hsep

theorem separatorPlaces_rawPieces (n : Nesting) (s : List Char) :
    Text.separatorPlaces (rawPieces sep n s) = topPlaces sep n s := by
  induction s generalizing n with
  | nil => rfl
  | cons c s ih =>
    cases h : cutsAt sep n c with
    | true =>
      have hplaces := Text.separatorPlaces_cons [] (rawPieces_ne_nil sep n s)
      rw [rawPieces_of_cutsAt h, topPlaces_of_cutsAt hsep h, hplaces, ih, (of_cutsAt h).2]
      simp [Nat.add_comm]
    | false =>
      obtain ⟨p, ps, hp⟩ := List.exists_cons_of_ne_nil (rawPieces_ne_nil sep (n.after c) s)
      rw [rawPieces_of_not_cutsAt h, topPlaces_of_not_cutsAt hsep h, ← ih, hp]
      exact Text.separatorPlaces_cons_cons c p ps

theorem isCutting_rawPieces (s : List Char) : IsCutting sep s (rawPieces sep {} s) where
  ne_nil := rawPieces_ne_nil sep {} s
  joined := joined_rawPieces sep {} s
  places i := by rw [separatorPlaces_rawPieces hsep, mem_topPlaces]

end

/-- A text is cut at its separators outside of all brackets and quotes and nowhere else, and nothing
of it is lost but those separators and the blanks at the ends of the pieces. -/
theorem split_at_top_separators (hquote : isQuote sep = false) (hopen : isOpening sep = false)
    (hclose : isClosing sep = false) (s : String) :
    (∃ pieces, IsCutting sep s.toList pieces ∧
      (∀ pieces', IsCutting sep s.toList pieces' → pieces' = pieces) ∧
      split s sep = pieces.map fun p => Text.trimmed (String.ofList p)) ∧
    split s sep ≠ [] ∧
    (split s sep).length =
      (List.range s.toList.length).countP (IsTopSeparator sep s.toList) + 1 := by
  have hsep : cutsAt sep {} sep = true := by simp [cutsAt, isTop, hquote, hopen, hclose]
  have hcutting := isCutting_rawPieces hsep s.toList
  have hlength : (split s sep).length = (rawPieces sep {} s.toList).length := by
    rw [split, topLevelPieces, List.length_map, List.length_map]
  refine ⟨⟨rawPieces sep {} s.toList, hcutting, fun _ h => h.unique hcutting, ?_⟩, ?_, ?_⟩
  · rw [split, topLevelPieces, List.map_map]
    exact List.map_congr_left fun p _ => by simp [Text.trimmed]
  · rw [← List.length_pos_iff, hlength]
    exact List.length_pos_iff.2 hcutting.ne_nil
  · rw [hlength, length_rawPieces hsep, length_topPlaces]

/-- Brackets of different kinds, some of them alone, and a quote that is not ended. -/
theorem split_at_top_separators_of_mixed_brackets :
    let text := "a> ,`b,c`:m(d,[e)> ,'f,g"
    isQuote ',' = false ∧ isOpening ',' = false ∧ isClosing ',' = false ∧
      (∃ pieces, IsCutting ',' text.toList pieces ∧
        split text ',' = pieces.map fun p => Text.trimmed (String.ofList p)) ∧
      (List.range text.toList.length).countP (IsTopSeparator ',' text.toList) = 2 ∧
      (split text ',').length = 3 ∧
      split text ',' = ["a>", "`b,c`:m(d,[e)>", "'f,g"] := by
  intro text
  obtain ⟨⟨pieces, hcutting, -, hsplit⟩, -, hlength⟩ :=
    split_at_top_separators (show isQuote ',' = false by decide) (by decide) (by decide) text
  have hcount : (List.range text.toList.length).countP (IsTopSeparator ',' text.toList) = 2 := by
    decide
  rw [hcount] at hlength
  exact ⟨by decide, by decide, by decide, ⟨pieces, hcutting, hsplit⟩, hcount, hlength, by decide⟩

end Descriptor

end TableScan
