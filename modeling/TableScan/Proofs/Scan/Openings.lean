import TableScan.Proofs.Scan.Listing

/-!
# Openings of splits

A scan opens the splits of its list one by one and never goes back. Which of them it opens does not
show in its position, for one step may go through any number of splits without a record. So the
step is taken a second time, with notes of the splits that it opens (`stepNoting`), and ends as it
does without them (`stepNoting_fst`). What is kept along a scan is `InTurn`: the open split is the
one at its index, and the notes so far are all indices up to it (`InTurn.advance`).
-/

namespace TableScan

theorem TextReader.record_ne_nil {r r' : TextReader} (h : r.advance = (.ok true, r')) :
    r'.record ≠ [] := by
  unfold advance at h
  split at h
  · cases h
  · cases h
  · split at h
    · cases h
    · cases h
      exact Text.pieces_ne_nil _ _

namespace SplitReader

/-- The reader stands on a record: a line has at least one cell, and a batch has the row. -/
def HasRecord : SplitReader → Prop
  | text r => r.record ≠ []
  | columnar c => c.current ≠ []

variable {r r' : SplitReader}

theorem hasRecord_advance (h : r.advance = (.ok true, r')) : r'.HasRecord := by
  cases r with
  | text r =>
    obtain ⟨hfound, rfl⟩ := Prod.mk.inj h
    exact TextReader.record_ne_nil (Prod.ext hfound rfl)
  | columnar c =>
    obtain ⟨hfound, rfl⟩ := Prod.mk.inj h
    exact Columnar.Cursor.current_ne_nil (Prod.ext hfound rfl)

theorem isState_eq_false {i : Nat} {e : Error} (on : r.HasRecord) (h : r.fieldValue i = .error e) :
    e.isState = false := by
  obtain ⟨c, rfl, ⟨hnil, -⟩ | ⟨type, cell, fault, -, rfl⟩⟩ := fieldValue_error_cases h
  · exact absurd hnil on
  · rfl

end SplitReader

namespace Scan

variable {t : Table} {fs : FileSystem} {splits : List Split} {index : Nat} {reader : SplitReader}
  {values : List (Option String)} {positioned : Bool} {notes : List Nat}

/-- `stepFrom`, with the indices of the splits that it opens. -/
def stepNoting (t : Table) (fs : FileSystem) (splits : List Split) (index : Nat)
    (reader : SplitReader) (values : List (Option String)) :
    (Except Error Bool × Position) × List Nat :=
  match reader.advance with
  | (.ok true, reader) => ((.ok true, .reading index reader values true), [])
  | (.error e, reader) => ((.error e, .failed reader.path e.message), [])
  | (.ok false, _) =>
    match _h : splits[index + 1]? with
    | none => ((.ok false, .exhausted), [])
    | some split =>
      match SplitReader.openSplit t.format fs split t.settings with
      | .error e => ((.error e, .failed split.path e.message), [])
      | .ok reader =>
        let (next, opened) := stepNoting t fs splits (index + 1) reader (partitionValues t split)
        (next, (index + 1) :: opened)
termination_by splits.length - index
decreasing_by
  have := (List.getElem?_eq_some_iff.1 _h).1
  omega

theorem stepNoting_fst (t : Table) (fs : FileSystem) (splits : List Split) (index : Nat)
    (reader : SplitReader) (values : List (Option String)) :
    (stepNoting t fs splits index reader values).1 = stepFrom t fs splits index reader values := by
  fun_induction stepNoting t fs splits index reader values with
  | case1 index reader values reader' ha => rw [stepFrom_eq, ha]
  | case2 index reader values e reader' ha => rw [stepFrom_eq, ha]
  | case3 index reader values reader' ha hs => rw [stepFrom_eq, ha, hs]
  | case4 index reader values reader' ha split hs e ho =>
    rw [stepFrom_eq, ha]
    simp only [hs, ho]
  | case5 index reader values reader₁ ha split hs reader₂ ho next opened hnext ih =>
    rw [stepFrom_eq, ha]
    simp only [hs, ho]
    rw [← ih, hnext]

/-- The open split is the one at its index, with the values of its path. -/
structure OnSplit (t : Table) (splits : List Split) (index : Nat) (reader : SplitReader)
    (values : List (Option String)) (positioned : Bool) : Prop where
  split : ∃ split, splits[index]? = some split ∧ reader.path = split.path ∧
    values = partitionValues t split
  record : positioned = true → reader.HasRecord

theorem OnSplit.lt (h : OnSplit t splits index reader values positioned) :
    index < splits.length := by
  obtain ⟨split, hs, -⟩ := h.split
  exact (List.getElem?_eq_some_iff.1 hs).1

theorem OnSplit.length_values (h : OnSplit t splits index reader values positioned) :
    values.length = t.params.partitionColumns.length := by
  obtain ⟨split, -, -, rfl⟩ := h.split
  exact Partition.length_resolve ..

/-- Where a scan can stand that has opened the first `n` of its splits. -/
inductive Stands (t : Table) (splits : List Split) : Position → (n : Nat) → Prop where
  | unconfigured : Stands t splits .unconfigured 0
  | reading {index : Nat} {reader : SplitReader} {values : List (Option String)}
      {positioned : Bool} : OnSplit t splits index reader values positioned →
      Stands t splits (.reading index reader values positioned) (index + 1)
  | exhausted : Stands t splits .exhausted splits.length
  | failed {n : Nat} (path reason : String) : n ≤ splits.length →
      Stands t splits (.failed path reason) n
  | closed {n : Nat} : n ≤ splits.length → Stands t splits .closed n

theorem Stands.le {position : Position} {n : Nat} (h : Stands t splits position n) :
    n ≤ splits.length := by
  cases h with
  | unconfigured => exact Nat.zero_le _
  | reading h => exact h.lt
  | exhausted => exact Nat.le_refl _
  | failed path reason h => exact h
  | closed h => exact h

theorem OnSplit.stepNoting (h : OnSplit t splits index reader values positioned)
    (fs : FileSystem) :
    ∃ k, (stepNoting t fs splits index reader values).2 = List.range' (index + 1) k ∧
      Stands t splits (stepNoting t fs splits index reader values).1.2 (index + 1 + k) := by
  fun_induction Scan.stepNoting t fs splits index reader values generalizing positioned with
  | case1 index reader values reader' ha =>
    obtain ⟨split, hs, hpath, hv⟩ := h.split
    refine ⟨0, rfl, .reading ⟨⟨split, hs, ?_, hv⟩, fun _ => SplitReader.hasRecord_advance ha⟩⟩
    simpa [ha, hpath] using reader.path_advance
  | case2 index reader values e reader' ha => exact ⟨0, rfl, .failed _ _ h.lt⟩
  | case3 index reader values reader' ha hs =>
    have := List.getElem?_eq_none_iff.1 hs
    have := h.lt
    refine ⟨0, rfl, ?_⟩
    rw [show index + 1 + 0 = splits.length by omega]
    exact .exhausted
  | case4 index reader values reader' ha split hs e ho => exact ⟨0, rfl, .failed _ _ h.lt⟩
  | case5 index reader values reader₁ ha split hs reader₂ ho next opened hnext ih =>
    have hpath := SplitReader.path_openSplit ho
    have hon : OnSplit t splits (index + 1) reader₂ (partitionValues t split) false :=
      ⟨⟨split, hs, hpath, rfl⟩, nofun⟩
    obtain ⟨k, hopened, hends⟩ := ih hon
    rw [hnext] at hopened hends
    refine ⟨k + 1, ?_, ?_⟩
    · rw [List.range'_succ, ← hopened]
    · rw [show index + 1 + (k + 1) = index + 1 + 1 + k by omega]
      exact hends

/-! ### Notes along a scan -/

/-- An action on a scan, with notes of the splits that it opens added to those so far. -/
def noting {α : Type} (opens : Scan → List Nat) (action : Scan → Except Error α × Scan)
    (p : Scan × List Nat) : Except Error α × Scan × List Nat :=
  ((action p.1).1, (action p.1).2, p.2 ++ opens p.1)

/-- Configuring opens the first split, if it succeeds. -/
def opensAtConfigure (t : Table) (fs : FileSystem) (s : Scan) : List Nat :=
  match (configure t fs s).1 with
  | .ok () => [0]
  | .error _ => []

/-- A step opens the splits that it goes through, and the one it ends in. -/
def opensAtAdvance (t : Table) (fs : FileSystem) (s : Scan) : List Nat :=
  match s.position with
  | .reading index reader values _ => (stepNoting t fs s.splits index reader values).2
  | _ => []

/-- The splits opened so far are the first ones of the list, each of them once, and the last of them
is the open one if there is one. -/
def InTurn (t : Table) (s : Scan) (notes : List Nat) : Prop :=
  ∃ n, notes = List.range n ∧ Stands t s.splits s.position n

variable {s : Scan}

theorem stands_openAt {position : Position} (h : openAt t fs splits 0 = .ok position) :
    Stands t splits position 1 := by
  unfold openAt at h
  split at h
  · rename_i split hs
    obtain ⟨reader, ho, rfl⟩ := map_eq_ok h
    exact .reading ⟨⟨split, hs, SplitReader.path_openSplit ho, rfl⟩, nofun⟩
  · cases h

theorem InTurn.configure (h : InTurn t s notes) (fresh : s.position = .unconfigured) :
    InTurn t (configure t fs s).2 (notes ++ opensAtConfigure t fs s) := by
  obtain ⟨n, rfl, hstands⟩ := h
  rw [fresh] at hstands
  cases hstands
  unfold opensAtConfigure Scan.configure
  cases enumerateSplits fs t.location t.format t.params.options with
  | error e => exact ⟨0, rfl, by rw [fresh]; exact .unconfigured⟩
  | ok splits =>
    dsimp only
    cases ho : openAt t fs splits 0 with
    | error e => exact ⟨0, rfl, by rw [fresh]; exact .unconfigured⟩
    | ok position => exact ⟨1, rfl, stands_openAt ho⟩

theorem InTurn.advance (h : InTurn t s notes) :
    InTurn t (advance t fs s).2 (notes ++ opensAtAdvance t fs s) := by
  obtain ⟨splits, position⟩ := s
  obtain ⟨n, rfl, hstands⟩ := h
  unfold opensAtAdvance Scan.advance
  cases hstands with
  | unconfigured => exact ⟨0, rfl, .unconfigured⟩
  | exhausted => exact ⟨_, List.append_nil _, .exhausted⟩
  | failed path reason hle => exact ⟨n, List.append_nil _, .failed path reason hle⟩
  | closed hle => exact ⟨n, List.append_nil _, .closed hle⟩
  | @reading index reader values positioned hon =>
    obtain ⟨k, hopened, hends⟩ := hon.stepNoting fs
    rw [stepNoting_fst] at hends
    refine ⟨index + 1 + k, ?_, hends⟩
    have hrange := List.range'_append_1 (s := 0) (m := index + 1) (n := k)
    rw [Nat.zero_add, ← List.range_eq_range', ← List.range_eq_range'] at hrange
    dsimp only
    rw [hopened, hrange]

theorem InTurn.close (h : InTurn t s notes) : InTurn t s.close notes := by
  obtain ⟨n, rfl, hstands⟩ := h
  exact ⟨n, rfl, .closed hstands.le⟩

/-! ### What a step leaves alone -/

theorem position_stepFrom_ne (t : Table) (fs : FileSystem) (splits : List Split) (index : Nat)
    (reader : SplitReader) (values : List (Option String)) :
    (stepFrom t fs splits index reader values).2 ≠ .unconfigured := by
  fun_induction stepFrom t fs splits index reader values with
  | case5 index reader values reader₁ ha split hs reader₂ ho ih => exact ih
  | _ =>
    intro h
    cases h

theorem splits_advance (t : Table) (fs : FileSystem) (s : Scan) :
    (advance t fs s).2.splits = s.splits := by
  unfold advance
  split <;> rfl

theorem position_advance_ne (h : s.position ≠ .unconfigured) :
    (advance t fs s).2.position ≠ .unconfigured := by
  unfold advance
  split
  · exact h
  · exact h
  · exact h
  · exact h
  · rename_i index reader values positioned hp
    exact position_stepFrom_ne t fs s.splits index reader values

theorem advance_of_reader?_eq_none (t : Table) (fs : FileSystem)
    (h : s.position.reader? = none) :
    (advance t fs s).2 = s ∧ opensAtAdvance t fs s = [] := by
  unfold advance opensAtAdvance
  cases hp : s.position with
  | reading index reader values positioned =>
    rw [hp] at h
    cases h
  | _ => exact ⟨rfl, rfl⟩

end Scan

end TableScan
