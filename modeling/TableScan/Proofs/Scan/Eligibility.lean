import TableScan.Enumeration

/-!
# Eligible files

Whether a file takes part in a scan is decided by what is said of it and by its path below the root
(`isEligible_iff`). The path below the root is found again however the root is spelled: slashes at
its end and slashes after it do not count (`relativeTo_append`), and its own components never do.
-/

namespace TableScan

/-! ### Paths below a root -/

def slashes (n : Nat) : String := String.ofList (List.replicate n '/')

theorem dropWhile_slashes (n : Nat) {l : List Char} (h : l.head? ≠ some '/') :
    (List.replicate n '/' ++ l).dropWhile (· = '/') = l := by
  rw [List.dropWhile_append_of_pos fun c hc => by simp [List.eq_of_mem_replicate hc]]
  cases l with
  | nil => rfl
  | cons c l => exact List.dropWhile_cons_of_neg (by simpa using h)

theorem trim_slashes (n : Nat) {r : List Char} (h : r.getLast? ≠ some '/') :
    ((r ++ List.replicate n '/').reverse.dropWhile (· = '/')).reverse = r := by
  rw [List.reverse_append, List.reverse_replicate,
    dropWhile_slashes n (by rwa [List.head?_reverse]), List.reverse_reverse]

/-- Slashes at the end of a root make no difference to any path. -/
theorem relativeTo_slashes (n : Nat) {r : List Char} (h : r.getLast? ≠ some '/')
    (path : List Char) : relativeTo (r ++ List.replicate n '/') path = relativeTo r path := by
  have hself := trim_slashes 0 h
  rw [List.replicate_zero, List.append_nil] at hself
  unfold relativeTo
  rw [trim_slashes n h, hself]

theorem relativeTo_append (k : Nat) {j : Nat} {r rel : List Char} (hr : r.getLast? ≠ some '/')
    (hrel : rel.head? ≠ some '/') (hj : 1 ≤ j) :
    relativeTo (r ++ List.replicate k '/') (r ++ List.replicate j '/' ++ rel) = rel := by
  obtain ⟨j, rfl⟩ := Nat.exists_eq_add_of_le' hj
  have hdrop : (r ++ List.replicate (j + 1) '/' ++ rel).drop r.length =
      '/' :: (List.replicate j '/' ++ rel) := by
    rw [List.append_assoc, List.drop_left, List.replicate_succ, List.cons_append]
  have hprefix : r.isPrefixOf (r ++ List.replicate (j + 1) '/' ++ rel) = true := by
    rw [List.isPrefixOf_iff_prefix, List.append_assoc]
    exact List.prefix_append ..
  unfold relativeTo
  simp only [trim_slashes k hr, hprefix, hdrop, if_true]
  exact dropWhile_slashes j hrel

/-! ### Files below a root -/

theorem isHidden_eq_false_iff {rel : List Char} :
    isHidden rel = false ↔ ∀ component, Text.IsPiece '/' component rel →
      component.head? ≠ some '_' ∧ component.head? ≠ some '.' := by
  simp only [isHidden, List.any_eq_false, Bool.or_eq_true, decide_eq_true_eq, not_or,
    Text.mem_pieces_iff]

theorem hasSuffix_iff {suffixes : List String} {path : String} :
    hasSuffix suffixes path = true ↔
      suffixes = [] ∨ ∃ s ∈ suffixes, s.toList <:+ path.toList := by
  simp only [hasSuffix, Bool.or_eq_true, List.isEmpty_iff, List.any_eq_true,
    List.isSuffixOf_iff_suffix]

theorem isEligible_iff {root : String} {file : FileStatus} {options : Options} :
    isEligible root file options = true ↔
      file.isDirectory = false ∧ options.minEligibleBytes ≤ file.length ∧
        (options.includeHidden = true ∨
          isHidden (relativeTo root.toList file.path.toList) = false) ∧
        hasSuffix options.extensions file.path = true := by
  simp only [isEligible, Bool.and_eq_true, Bool.or_eq_true, Bool.not_eq_true', decide_eq_true_eq,
    and_assoc]

/-- A file below a root takes part in a scan if it is no directory and long enough, no component of
its path below the root begins with `_` or `.` unless such files are included, and it has one of
the suffixes asked for, if there are any. Components of the root do not count, and for no file do
slashes at the end of the root. -/
theorem eligible_by_path_below_root {r rel : String} (hr : r.toList.getLast? ≠ some '/')
    (hrel : rel.toList.head? ≠ some '/') (k : Nat) {j : Nat} (hj : 1 ≤ j) (options : Options)
    {file : FileStatus} (below : file.path = r ++ slashes j ++ rel) :
    (isEligible (r ++ slashes k) file options = true ↔
      file.isDirectory = false ∧ options.minEligibleBytes ≤ file.length ∧
        (options.includeHidden = true ∨ ∀ component, Text.IsPiece '/' component rel.toList →
          component.head? ≠ some '_' ∧ component.head? ≠ some '.') ∧
        (options.extensions = [] ∨
          ∃ s ∈ options.extensions, s.toList <:+ file.path.toList)) ∧
      ∀ other : FileStatus,
        isEligible (r ++ slashes k) other options = isEligible r other options := by
  have hroot : (r ++ slashes k).toList = r.toList ++ List.replicate k '/' := by
    rw [String.toList_append, slashes, String.toList_ofList]
  have hpath : file.path.toList = r.toList ++ List.replicate j '/' ++ rel.toList := by
    rw [below, String.toList_append, String.toList_append, slashes, String.toList_ofList]
  refine ⟨?_, fun other => ?_⟩
  · rw [isEligible_iff, hroot, hpath, relativeTo_append k hr hrel hj, isHidden_eq_false_iff,
      hasSuffix_iff, hpath]
  · unfold isEligible
    rw [hroot, relativeTo_slashes k hr]

/-- A root in a hidden directory, spelled with two slashes at its end, with one file that takes part
and one that a hidden directory keeps out of the scan. -/
theorem eligible_by_path_below_root_in_hidden_directory :
    let r := "/home/.cache/t"
    let file (rel : String) : FileStatus :=
      { path := r ++ slashes 3 ++ rel, length := 10, isDirectory := false }
    let options : Options := { extensions := [".txt", "0"] }
    r.toList.getLast? ≠ some '/' ∧ "dt=1/part-0".toList.head? ≠ some '/' ∧
      "dt=1/_temporary/part-0".toList.head? ≠ some '/' ∧ 1 ≤ 3 ∧
      isEligible (r ++ slashes 2) (file "dt=1/part-0") options = true ∧
      isEligible (r ++ slashes 2) (file "dt=1/_temporary/part-0") options = false := by
  intro r file options
  have hr : r.toList.getLast? ≠ some '/' := by decide
  have hshown : "dt=1/part-0".toList.head? ≠ some '/' := by decide
  have hhidden : "dt=1/_temporary/part-0".toList.head? ≠ some '/' := by decide
  have hbelow (rel : String) : (file rel).path = r ++ slashes 3 ++ rel := rfl
  refine ⟨hr, hshown, hhidden, by decide, ?_, ?_⟩
  · obtain ⟨heligible, -⟩ := eligible_by_path_below_root hr hshown 2 (by decide) options (hbelow _)
    refine heligible.2 ⟨rfl, by decide, .inr fun component hpiece => ?_, .inr ?_⟩
    · rw [← Text.mem_pieces_iff] at hpiece
      revert component
      decide
    · exact ⟨"0", by decide, by decide⟩
  · obtain ⟨heligible, -⟩ := eligible_by_path_below_root hr hhidden 2 (by decide) options (hbelow _)
    have hpiece : Text.IsPiece '/' "_temporary".toList "dt=1/_temporary/part-0".toList :=
      Text.mem_pieces_iff.1 (by decide)
    rw [← Bool.not_eq_true, heligible]
    rintro ⟨-, -, hincluded | hnone, -⟩
    · cases hincluded
    · exact (hnone _ hpiece).1 rfl

end TableScan
