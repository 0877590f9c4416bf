import TableScan.Proofs.Columnar.Batches
import TableScan.Proofs.Scan.ColumnSearch
import TableScan.Proofs.Session.Placement

/-!
# The columns of the open split

The columns that a session shows are those that its open split had when it was opened, whatever
calls are made and under whatever identity (`Session.showsColumns_after`). Columnar files are read
whole, so the split at an index is the file at that index (`enumerateSplits_of_isColumnar`), and
what a listing of columns sees of the file is what the session shows of the split
(`Session.physicalSchema_after`).
-/

namespace TableScan

variable {format : Format} {fs : FileSystem} {files : List FileStatus} {file : FileStatus} {k : Nat}
  {columns : List PhysicalField}

/-! ### Readers -/

namespace SplitReader

theorem physicalSchema_advance (r : SplitReader) :
    r.advance.2.physicalSchema = r.physicalSchema := by
  cases r with
  | text r =>
    simp only [advance, Prod.map, physicalSchema]
    unfold TextReader.advance
    split
    · rfl
    · rfl
    · split <;> rfl
  | columnar c =>
    obtain ⟨-, -, -, -, hschema⟩ := c.advance_eq
    exact congrArg Columnar.physicalFields hschema

/-- A reader of a whole file shows the columns that are listed for it. -/
theorem physicalSchema_of_openSplit {settings : ReaderSettings} {reader : SplitReader}
    (opens : openSplit format fs (.wholeFile file.path file.length) settings = .ok reader)
    (listed : storedColumns format fs settings.batchSize file = .ok columns) :
    reader.physicalSchema = columns := by
  obtain ⟨cursor, hcursor, rfl⟩ := map_eq_ok listed
  cases format with
  | text => cases hcursor
  | columnar encoding =>
    obtain ⟨cursor', hcursor', rfl⟩ := map_eq_ok opens
    rw [hcursor] at hcursor'
    cases hcursor'
    rfl

end SplitReader

theorem isColumnar_of_storedColumns {batchSize : Nat}
    (h : storedColumns format fs batchSize file = .ok columns) : format.isColumnar = true := by
  cases format with
  | text => cases h
  | columnar encoding => rfl

theorem ReaderSettings.batchSize_of_ofParams {params : Params} {settings : ReaderSettings}
    (h : ofParams format params = .ok settings) :
    settings.batchSize = max params.options.batchSize 1 := by
  cases format with
  | text =>
    obtain ⟨text, -, h⟩ := bind_eq_ok h
    cases h
    rfl
  | columnar encoding =>
    cases h
    rfl

/-! ### Scans -/

theorem enumerateSplits_of_isColumnar (columnar : format.isColumnar = true) (fs : FileSystem)
    (location : String) (options : Options) :
    enumerateSplits fs location format options =
      (eligibleFiles fs location options).map
        (·.map fun file => .wholeFile file.path file.length) := by
  have hwhole : splitsOf format options = fun file => [.wholeFile file.path file.length] := by
    funext file
    refine IsReadWhole.splitsOf (.inl ?_)
    rintro rfl
    cases columnar
  rw [enumerateSplits_eq, hwhole]
  simp only [List.map_eq_flatMap]

def Position.index? : Position → Option Nat
  | reading index _ _ _ => some index
  | _ => none

theorem Position.exists_of_index? {p : Position} (h : p.index? = some k) :
    ∃ reader values positioned, p = .reading k reader values positioned := by
  cases p with
  | reading index reader values positioned =>
    cases h
    exact ⟨reader, values, positioned, rfl⟩
  | _ => cases h

namespace Scan

variable {t : Table} {splits : List Split} {index : Nat} {reader : SplitReader}
  {values : List (Option String)} {s : Scan}

/-- A reader shows the columns that the split at an index has when it is opened. -/
def ReadsSplit (t : Table) (fs : FileSystem) (splits : List Split) (index : Nat)
    (reader : SplitReader) : Prop :=
  ∃ split opened, splits[index]? = some split ∧
    SplitReader.openSplit t.format fs split t.settings = .ok opened ∧
    reader.physicalSchema = opened.physicalSchema

/-- The splits are those of the table, and the reader of the open one shows its columns. -/
def ShowsColumns (t : Table) (fs : FileSystem) (s : Scan) : Prop :=
  ∀ index reader values positioned, s.position = .reading index reader values positioned →
    enumerateSplits fs t.location t.format t.params.options = .ok s.splits ∧
      ReadsSplit t fs s.splits index reader

theorem ReadsSplit.stepFrom (h : ReadsSplit t fs splits index reader) {index' : Nat}
    {reader' : SplitReader} {values' : List (Option String)} {positioned : Bool}
    (stands : (stepFrom t fs splits index reader values).2 =
      .reading index' reader' values' positioned) : ReadsSplit t fs splits index' reader' := by
  fun_induction Scan.stepFrom t fs splits index reader values with
  | case1 index reader values reader₁ ha =>
    cases stands
    obtain ⟨split, opened, hs, ho, hcolumns⟩ := h
    have hstep := reader.physicalSchema_advance
    rw [ha] at hstep
    exact ⟨split, opened, hs, ho, hstep.trans hcolumns⟩
  | case2 => cases stands
  | case3 => cases stands
  | case4 => cases stands
  | case5 index reader values reader₁ ha split hs opened ho ih =>
    exact ih ⟨split, opened, hs, ho, rfl⟩ stands

theorem showsColumns_of_unconfigured (h : s.position = .unconfigured) : ShowsColumns t fs s := by
  intro index reader values positioned hp
  rw [h] at hp
  cases hp

theorem showsColumns_configure (fresh : s.position = .unconfigured) :
    ShowsColumns t fs (configure t fs s).2 := by
  unfold configure
  cases hsplits : enumerateSplits fs t.location t.format t.params.options with
  | error e => exact showsColumns_of_unconfigured fresh
  | ok splits =>
    dsimp only
    cases ho : openAt t fs splits 0 with
    | error e => exact showsColumns_of_unconfigured fresh
    | ok position =>
      unfold openAt at ho
      split at ho
      · rename_i split hs
        obtain ⟨opened, hopened, rfl⟩ := map_eq_ok ho
        rintro _ _ _ _ ⟨⟩
        exact ⟨hsplits, split, opened, hs, hopened, rfl⟩
      · cases ho

theorem ShowsColumns.advance (h : ShowsColumns t fs s) : ShowsColumns t fs (advance t fs s).2 := by
  unfold Scan.advance
  split
  · exact h
  · exact h
  · exact h
  · exact h
  · rename_i index reader values positioned hp
    obtain ⟨hsplits, hreads⟩ := h _ _ _ _ hp
    exact fun _ _ _ _ hstands => ⟨hsplits, hreads.stepFrom hstands⟩

theorem showsColumns_close (t : Table) (fs : FileSystem) (s : Scan) : ShowsColumns t fs s.close :=
  nofun

end Scan

/-! ### Sessions -/

namespace Session

variable {s : Session}

theorem showsColumns_perform (h : Scan.ShowsColumns s.table fs s.scan) (op : Operation) :
    Scan.ShowsColumns s.table fs (s.perform fs op).scan := by
  rcases s.scan_perform_cases fs [] op with ⟨hs, -⟩ | ⟨hp, hs, -⟩ | ⟨hs, -⟩ | ⟨hs, -⟩
  · rwa [hs]
  · rw [hs]
    exact Scan.showsColumns_configure hp
  · rw [hs]
    exact h.advance
  · rw [hs]
    exact Scan.showsColumns_close s.table fs s.scan

theorem showsColumns_after (h : Scan.ShowsColumns s.table fs s.scan) (calls : List Operation) :
    Scan.ShowsColumns s.table fs (s.after fs calls).scan := by
  induction calls generalizing s with
  | nil => exact h
  | cons op calls ih =>
    have hstep := showsColumns_perform h op
    rw [← table_perform fs s op] at hstep ⊢
    exact ih hstep

/-- The open split of a session shows the columns that are listed for the file at its index. -/
theorem physicalSchema_after {params : Params} {t : Table}
    (ht : Table.ofParams format params = .ok t)
    (listed : eligibleFiles fs params.location params.options = .ok files)
    (here : files[k]? = some file)
    (opens : listedColumns format fs params.options file = .ok columns) (identity : Identity)
    (calls : List Operation)
    (stands : ((ofTable t identity).after fs calls).scan.position.index? = some k) :
    ((ofTable t identity).after fs calls).physicalSchema = some columns := by
  obtain ⟨reader, values, positioned, hp⟩ := Position.exists_of_index? stands
  have hshows : Scan.ShowsColumns t fs ((ofTable t identity).after fs calls).scan :=
    showsColumns_after (s := ofTable t identity) (Scan.showsColumns_of_unconfigured rfl) calls
  obtain ⟨hsplits, split, opened, hs, ho, hcolumns⟩ := hshows k reader values positioned hp
  obtain ⟨rfl, rfl, hsettings⟩ := Table.of_ofParams ht
  rw [Table.location, enumerateSplits_of_isColumnar (isColumnar_of_storedColumns opens), listed]
    at hsplits
  rw [← Except.ok.inj hsplits, List.getElem?_map, here] at hs
  cases hs
  rw [listedColumns, ← ReaderSettings.batchSize_of_ofParams hsettings] at opens
  rw [physicalSchema, hp]
  exact congrArg some (hcolumns.trans (SplitReader.physicalSchema_of_openSplit ho opens))

end Session

end TableScan
