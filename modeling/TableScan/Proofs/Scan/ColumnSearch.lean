import TableScan.ColumnList
import TableScan.Proofs.Scan.Enumeration

/-!
# The search for columns

The files of a location are looked at in their order, and a file that opens without columns is
passed over. So a file is reached if all files before it are such (`IsReached`), and the search
ends at the first file that is reached and not passed over: with the columns of that file
(`firstColumns_eq_some_iff`) or with the failure to open it (`firstColumns_eq_error_iff`). It ends
with nothing if all files are passed over, and what comes after its end makes no difference.
-/

namespace TableScan

/-- What the search sees of a file: its columns, or the failure to open it. -/
def storedColumns (format : Format) (fs : FileSystem) (batchSize : Nat) (file : FileStatus) :
    Except Error (List PhysicalField) :=
  (openColumnar format fs (.wholeFile file.path file.length) batchSize).map (·.physicalSchema)

def listedColumns (format : Format) (fs : FileSystem) (options : Options) :
    FileStatus → Except Error (List PhysicalField) :=
  storedColumns format fs (max options.batchSize 1)

/-- The file at `k` is reached by a search that passes over the files without columns. -/
structure IsReached (look : FileStatus → Except Error (List PhysicalField))
    (files : List FileStatus) (k : Nat) (file : FileStatus) : Prop where
  before : ∀ earlier ∈ files.take k, look earlier = .ok []
  here : files[k]? = some file

variable {look : FileStatus → Except Error (List PhysicalField)} {format : Format}
  {fs : FileSystem} {batchSize k : Nat} {file first : FileStatus} {files : List FileStatus}
  {columns : List PhysicalField} {e : Error}

namespace IsReached

theorem head (look : FileStatus → Except Error (List PhysicalField)) (file : FileStatus)
    (files : List FileStatus) : IsReached look (file :: files) 0 file := ⟨nofun, rfl⟩

theorem cons (h : IsReached look files k file) (passed : look first = .ok []) :
    IsReached look (first :: files) (k + 1) file :=
  ⟨List.forall_mem_cons.2 ⟨passed, h.before⟩, h.here⟩

theorem eq_drop (h : IsReached look files k file) :
    files = files.take k ++ file :: files.drop (k + 1) := by
  obtain ⟨hlt, rfl⟩ := List.getElem?_eq_some_iff.1 h.here
  rw [← List.drop_eq_getElem_cons hlt, List.take_append_drop]

end IsReached

/-! ### Where the search ends -/

theorem search_cases (look : FileStatus → Except Error (List PhysicalField))
    (files : List FileStatus) :
    (∀ file ∈ files, look file = .ok []) ∨
      ∃ k file, IsReached look files k file ∧ look file ≠ .ok [] := by
  induction files with
  | nil => exact .inl nofun
  | cons first files ih =>
    by_cases passed : look first = .ok []
    · obtain hall | ⟨k, file, hreached, hends⟩ := ih
      · exact .inl (List.forall_mem_cons.2 ⟨passed, hall⟩)
      · exact .inr ⟨k + 1, file, hreached.cons passed, hends⟩
    · exact .inr ⟨0, first, .head look first files, passed⟩

theorem exists_isReached_of_unreadable (here : files[k]? = some file) (h : look file = .error e)
    (bare : ∀ earlier ∈ files.take k, ∀ columns, look earlier = .ok columns → columns = []) :
    ∃ i unreadable e', i ≤ k ∧ IsReached look files i unreadable ∧
      look unreadable = .error e' := by
  induction files generalizing k with
  | nil => cases here
  | cons first files ih =>
    cases hfirst : look first with
    | error e' => exact ⟨0, first, e', Nat.zero_le k, .head look first files, hfirst⟩
    | ok columns =>
      cases k with
      | zero =>
        cases here
        rw [h] at hfirst
        cases hfirst
      | succ k =>
        rw [List.take_succ_cons, List.forall_mem_cons] at bare
        obtain ⟨i, unreadable, e', hle, hreached, hlook⟩ := ih here bare.2
        rw [bare.1 columns hfirst] at hfirst
        exact ⟨i + 1, unreadable, e', Nat.succ_le_succ hle, hreached.cons hfirst, hlook⟩

/-! ### What the search gives -/

theorem firstColumns_cons (format : Format) (fs : FileSystem) (batchSize : Nat) (file : FileStatus)
    (files : List FileStatus) :
    firstColumns format fs batchSize (file :: files) =
      match storedColumns format fs batchSize file with
      | .error e => .error e
      | .ok [] => firstColumns format fs batchSize files
      | .ok columns => .ok (some columns) := by
  rw [firstColumns, storedColumns]
  cases openColumnar format fs (.wholeFile file.path file.length) batchSize with
  | error e => rfl
  | ok cursor =>
    simp only [bind, Except.bind, Except.map]
    cases cursor.physicalSchema <;> rfl

theorem firstColumns_append {passed : List FileStatus}
    (h : ∀ file ∈ passed, storedColumns format fs batchSize file = .ok [])
    (rest : List FileStatus) :
    firstColumns format fs batchSize (passed ++ rest) = firstColumns format fs batchSize rest := by
  induction passed with
  | nil => rfl
  | cons file passed ih =>
    rw [List.forall_mem_cons] at h
    rw [List.cons_append, firstColumns_cons, h.1]
    exact ih h.2

theorem firstColumns_of_isReached (h : IsReached (storedColumns format fs batchSize) files k file) :
    firstColumns format fs batchSize files =
      firstColumns format fs batchSize (file :: files.drop (k + 1)) := by
  have hpassed := firstColumns_append h.before (file :: files.drop (k + 1))
  rwa [← h.eq_drop] at hpassed

theorem firstColumns_of_columns (h : IsReached (storedColumns format fs batchSize) files k file)
    (opens : storedColumns format fs batchSize file = .ok columns) (some : columns ≠ []) :
    firstColumns format fs batchSize files = .ok (.some columns) := by
  rw [firstColumns_of_isReached h, firstColumns_cons, opens]
  obtain ⟨column, rest, rfl⟩ := List.exists_cons_of_ne_nil some
  rfl

theorem firstColumns_of_unreadable (h : IsReached (storedColumns format fs batchSize) files k file)
    (fails : storedColumns format fs batchSize file = .error e) :
    firstColumns format fs batchSize files = .error e := by
  rw [firstColumns_of_isReached h, firstColumns_cons, fails]

theorem firstColumns_of_bare (h : ∀ file ∈ files, storedColumns format fs batchSize file = .ok []) :
    firstColumns format fs batchSize files = .ok none := by
  have hpassed := firstColumns_append h []
  rwa [List.append_nil] at hpassed

/-- All that the search can come to. -/
theorem firstColumns_cases (format : Format) (fs : FileSystem) (batchSize : Nat)
    (files : List FileStatus) :
    (firstColumns format fs batchSize files = .ok none ∧
      ∀ file ∈ files, storedColumns format fs batchSize file = .ok []) ∨
    (∃ k file columns, firstColumns format fs batchSize files = .ok (some columns) ∧
      IsReached (storedColumns format fs batchSize) files k file ∧
      storedColumns format fs batchSize file = .ok columns ∧ columns ≠ []) ∨
    ∃ k file e, firstColumns format fs batchSize files = .error e ∧
      IsReached (storedColumns format fs batchSize) files k file ∧
      storedColumns format fs batchSize file = .error e := by
  obtain hbare | ⟨k, file, hreached, hends⟩ :=
    search_cases (storedColumns format fs batchSize) files
  · exact .inl ⟨firstColumns_of_bare hbare, hbare⟩
  · cases hlook : storedColumns format fs batchSize file with
    | error e =>
      exact .inr (.inr ⟨k, file, e, firstColumns_of_unreadable hreached hlook, hreached, hlook⟩)
    | ok columns =>
      have hne : columns ≠ [] := by
        rintro rfl
        exact hends hlook
      exact .inr (.inl ⟨k, file, columns, firstColumns_of_columns hreached hlook hne, hreached,
        hlook, hne⟩)

theorem firstColumns_eq_some_iff :
    firstColumns format fs batchSize files = .ok (some columns) ↔
      columns ≠ [] ∧ ∃ k file, IsReached (storedColumns format fs batchSize) files k file ∧
        storedColumns format fs batchSize file = .ok columns := by
  constructor
  · intro h
    rcases firstColumns_cases format fs batchSize files with
      ⟨hnone, -⟩ | ⟨k, file, columns', hsome, hreached, hlook, hne⟩ | ⟨k, file, e, herror, -, -⟩
    · rw [h] at hnone
      cases hnone
    · rw [h] at hsome
      cases hsome
      exact ⟨hne, k, file, hreached, hlook⟩
    · rw [h] at herror
      cases herror
  · rintro ⟨hne, k, file, hreached, hlook⟩
    exact firstColumns_of_columns hreached hlook hne

theorem firstColumns_eq_error_iff :
    firstColumns format fs batchSize files = .error e ↔
      ∃ k file, IsReached (storedColumns format fs batchSize) files k file ∧
        storedColumns format fs batchSize file = .error e := by
  constructor
  · intro h
    rcases firstColumns_cases format fs batchSize files with
      ⟨hnone, -⟩ | ⟨k, file, columns', hsome, -, -, -⟩ | ⟨k, file, e', herror, hreached, hlook⟩
    · rw [h] at hnone
      cases hnone
    · rw [h] at hsome
      cases hsome
    · rw [h] at herror
      cases herror
      exact ⟨k, file, hreached, hlook⟩
  · rintro ⟨k, file, hreached, hlook⟩
    exact firstColumns_of_unreadable hreached hlook

end TableScan
