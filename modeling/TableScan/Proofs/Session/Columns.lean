import TableScan.Proofs.Session.Classification
import TableScan.Proofs.Session.Enumeration
import TableScan.Proofs.Session.OpenColumns

/-!
# The columns of a location

The columns that are listed for a location are those of the first of its files that has any, and a
session that reads the location shows the same columns when it has that file open. A listing that
comes to no columns is an error of configuration, and so is a refusal of the file system, unless it
speaks of a call out of turn (`isConfig_or_reports_of_columnList`).
-/

namespace TableScan

variable {format : Format} {fs : FileSystem} {location : String} {options : Options}
  {imp : Impersonation} {files : List FileStatus} {file : FileStatus} {k : Nat}
  {columns : List PhysicalField} {e : Error}

/-! ### Columns at a location -/

theorem columnsAt_eq (format : Format) (fs : FileSystem) (location : String) (options : Options) :
    columnsAt format fs location options =
      match eligibleFiles fs location options with
      | .error e => .error e
      | .ok files =>
        match firstColumns format fs (max options.batchSize 1) files with
        | .error e => .error e
        | .ok (some columns) => .ok columns
        | .ok none => .error (.config (.noReadableSchema format location)) := by
  rw [columnsAt]
  cases eligibleFiles fs location options with
  | error e => rfl
  | ok files =>
    simp only [bind, Except.bind]
    rcases firstColumns format fs (max options.batchSize 1) files with e | _ | columns <;> rfl

theorem columnsAt_eq_ok_iff :
    columnsAt format fs location options = .ok columns ↔
      columns ≠ [] ∧ ∃ files k file, eligibleFiles fs location options = .ok files ∧
        IsReached (listedColumns format fs options) files k file ∧
        listedColumns format fs options file = .ok columns := by
  rw [columnsAt_eq]
  constructor
  · intro h
    split at h
    · cases h
    · rename_i files hfiles
      split at h
      · cases h
      · rename_i columns' hfirst
        cases h
        obtain ⟨hne, k, file, hreached, hopens⟩ := firstColumns_eq_some_iff.1 hfirst
        exact ⟨hne, files, k, file, hfiles, hreached, hopens⟩
      · cases h
  · rintro ⟨hne, files, k, file, hfiles, hreached, hopens⟩
    rw [hfiles]
    dsimp only
    rw [firstColumns_of_columns hreached hopens hne]

theorem columnsAt_of_unreadable (listed : eligibleFiles fs location options = .ok files)
    (reached : IsReached (listedColumns format fs options) files k file)
    (fails : listedColumns format fs options file = .error e) :
    columnsAt format fs location options = .error e := by
  rw [columnsAt_eq, listed]
  dsimp only
  rw [firstColumns_of_unreadable reached fails]

theorem columnsAt_of_bare (listed : eligibleFiles fs location options = .ok files)
    (bare : ∀ file ∈ files, listedColumns format fs options file = .ok []) :
    columnsAt format fs location options =
      .error (.config (.noReadableSchema format location)) := by
  rw [columnsAt_eq, listed]
  dsimp only
  rw [firstColumns_of_bare bare]

theorem columnsAt_of_nothing {fault : ConfigFault} (h : fs.HasNothing location options fault) :
    columnsAt format fs location options = .error (.config fault) := by
  rw [columnsAt_eq, h.eligibleFiles]

theorem openFile_of_storedColumns {batchSize : Nat}
    (h : storedColumns format fs batchSize file = .error e) (own : e.isState = true) :
    fs.openFile file.path = .error e := by
  have hopen := map_eq_error h
  cases format with
  | text =>
    cases hopen
    cases own
  | columnar encoding =>
    have hsplit : SplitReader.openSplit (.columnar encoding) fs (.wholeFile file.path file.length)
        { text := {}, batchSize, textSchema := [] } = .error e :=
      congrArg (Except.map SplitReader.columnar) hopen
    exact SplitReader.openFile_of_openSplit hsplit own

theorem reports_of_columnsAt (h : columnsAt format fs location options = .error e)
    (own : e.isState = true) : fs.Reports e := by
  rw [columnsAt_eq] at h
  split at h
  · rename_i e' hfiles
    cases h
    rcases eligibleFiles_eq_error_iff.1 hfiles with hrefuses | ⟨fault, rfl, -⟩
    · exact hrefuses.reports
    · cases own
  · split at h
    · rename_i e' hfirst
      cases h
      obtain ⟨k, file, -, hfails⟩ := firstColumns_eq_error_iff.1 hfirst
      exact .openFile (openFile_of_storedColumns hfails own)
    · cases h
    · cases h
      cases own

/-! ### The listing of columns -/

theorem columnList_of_runsOnce (columnar : format.isColumnar = true)
    (once : imp.identity.RunsOnce) (fs : FileSystem) (location : String) (options : Options) :
    (columnList format fs location options imp).1 =
      Phase.configuration.reported "columnList" (Location.normalized location)
        (columnsAt format fs (Location.normalized location) options) := by
  rw [columnList, if_pos columnar]
  simp only [Impersonation.runPhase, Impersonation.run_of_runsOnce once]

theorem columnList_of_not_isColumnar (h : format.isColumnar = false) :
    (columnList format fs location options imp).1 = .error (.config (.noColumnListing format)) := by
  rw [columnList, h]
  rfl

theorem columnList_eq_ok_iff (once : imp.identity.RunsOnce) :
    (columnList format fs location options imp).1 = .ok columns ↔
      format.isColumnar = true ∧
        columnsAt format fs (Location.normalized location) options = .ok columns := by
  cases hcolumnar : format.isColumnar with
  | false =>
    rw [columnList_of_not_isColumnar hcolumnar]
    exact ⟨nofun, nofun⟩
  | true =>
    rw [columnList_of_runsOnce hcolumnar once]
    cases columnsAt format fs (Location.normalized location) options with
    | error e => exact ⟨nofun, nofun⟩
    | ok columns' => simp [Phase.reported]

theorem columnList_of_config {fault : ConfigFault} (once : imp.identity.RunsOnce)
    (h : columnsAt format fs (Location.normalized location) options = .error (.config fault)) :
    ∃ fault, (columnList format fs location options imp).1 = .error (.config fault) := by
  cases hcolumnar : format.isColumnar with
  | false => exact ⟨_, columnList_of_not_isColumnar hcolumnar⟩
  | true =>
    refine ⟨fault, ?_⟩
    rw [columnList_of_runsOnce hcolumnar once, h]
    rfl

theorem isConfig_or_reports_of_columnList (once : imp.identity.RunsOnce)
    (h : (columnList format fs location options imp).1 = .error e) :
    e.isConfig = true ∨ e.isState = true ∧ fs.Reports e := by
  cases hcolumnar : format.isColumnar with
  | false =>
    rw [columnList_of_not_isColumnar hcolumnar] at h
    cases h
    exact .inl rfl
  | true =>
    rw [columnList_of_runsOnce hcolumnar once] at h
    refine (Phase.admits_iff.1 (Phase.admits_of_reported h)).imp_right fun own => ⟨own, ?_⟩
    exact reports_of_columnsAt (Phase.eq_error_of_isState h own) own

/-- The columns of a location are those of the first of its files that has any, and nothing after
that file makes a difference. A file that does not open is reported if none before it has columns.
Where there are no columns to be found, that is an error of configuration, and so is every other
error except a call out of turn that the file system itself reports. A session that has the file
at some index open shows the columns that are found in it. -/
theorem columns_of_first_file_with_any (format : Format) (fs : FileSystem) (location : String)
    (options : Options) (imp : Impersonation) (once : imp.identity.RunsOnce) :
    let root := Location.normalized location
    let found := (columnList format fs location options imp).1
    let look := listedColumns format fs options
    (∀ columns, found = .ok columns ↔
      format.isColumnar = true ∧ columns ≠ [] ∧ ∃ files k file,
        eligibleFiles fs root options = .ok files ∧ IsReached look files k file ∧
          look file = .ok columns) ∧
    (∀ files k file e, format.isColumnar = true → eligibleFiles fs root options = .ok files →
      files[k]? = some file → look file = .error e →
      (∀ earlier ∈ files.take k, ∀ columns, look earlier = .ok columns → columns = []) →
        ∃ i unreadable e', i ≤ k ∧ IsReached look files i unreadable ∧
          look unreadable = .error e' ∧
          found = .error (Phase.configuration.report "columnList" root e')) ∧
    (format.isColumnar = false ∨ (∃ fault, fs.HasNothing root options fault) ∨
        (∃ files, eligibleFiles fs root options = .ok files ∧ ∀ file ∈ files, look file = .ok []) →
      ∃ fault, found = .error (.config fault)) ∧
    (∀ e, found = .error e → e.isConfig = true ∨ e.isState = true ∧ fs.Reports e) ∧
    ∀ files k file columns, eligibleFiles fs root options = .ok files → files[k]? = some file →
      look file = .ok columns →
      ∀ (params : Params) (t : Table) (identity : Identity) (calls : List Operation),
        Table.ofParams format params = .ok t → params.location = root → params.options = options →
        let s := (Session.ofTable t identity).after fs calls
        s.scan.position.index? = some k → s.physicalSchema = some columns := by
  intro root found look
  refine ⟨fun columns => ?_, ?_, ?_, fun e => isConfig_or_reports_of_columnList once, ?_⟩
  · rw [columnList_eq_ok_iff once, columnsAt_eq_ok_iff]
  · intro files k file e columnar hfiles here fails bare
    obtain ⟨i, unreadable, e', hle, hreached, hfails⟩ :=
      exists_isReached_of_unreadable here fails bare
    refine ⟨i, unreadable, e', hle, hreached, hfails, ?_⟩
    have hcolumns : columnsAt format fs root options = .error e' :=
      columnsAt_of_unreadable hfiles hreached hfails
    exact (columnList_of_runsOnce columnar once fs location options).trans (by rw [hcolumns]; rfl)
  · rintro (text | ⟨fault, hnothing⟩ | ⟨files, hfiles, hbare⟩)
    · exact ⟨_, columnList_of_not_isColumnar text⟩
    · exact columnList_of_config once (columnsAt_of_nothing hnothing)
    · exact columnList_of_config once (columnsAt_of_bare hfiles hbare)
  · rintro files k file columns hfiles here opens params t identity calls ht hroot rfl
    rw [← hroot] at hfiles
    exact Session.physicalSchema_after ht hfiles here opens identity calls

def orcFile (path : String) (schema : Columnar.Schema) (openFailure : Option String) : MemoryFile :=
  { path, length := 1, openFailure
    data := { content := [0], image := some { encoding := .orc, schema, rows := [[]] } } }

def someColumns : MemoryStore :=
  { files :=
      [orcFile "/w/t/a" [] none, orcFile "/w/t/b" [("id", .text)] none,
        orcFile "/w/t/c" [] (some "locked")] }

/-- Before the file with a column comes one that may not be opened. -/
def lockedColumns : MemoryStore :=
  { files :=
      [orcFile "/w/t/a" [] none, orcFile "/w/t/b" [] (some "locked"),
        orcFile "/w/t/c" [("id", .text)] none] }

def threeOrcFiles : List FileStatus :=
  [⟨"/w/t/a", 1, false⟩, ⟨"/w/t/b", 1, false⟩, ⟨"/w/t/c", 1, false⟩]

def idTable : Table :=
  { format := .columnar .orc
    params := { location := "/w/t", dataColumns := ["id"] }
    settings :=
      { text := {}, batchSize := 1024, textSchema := [{ name := "id", typeName := "string" }] } }

theorem columns_of_first_file_with_any_of_three_files :
    let template := "/w/t/pt=$\x7bday\x7d/"
    let columns : List PhysicalField := [⟨"id", "string"⟩]
    let found (m : MemoryStore) :=
      (columnList (.columnar .orc) m.fileSystem template {} .current).1
    found someColumns = .ok columns ∧
      (∃ e, found lockedColumns = .error (Phase.configuration.report "columnList" "/w/t" e)) ∧
      ∃ t, Table.ofParams (.columnar .orc) idTable.params = .ok t ∧
        let s := (Session.ofTable t .current).after someColumns.fileSystem
          [.configure, .reachedEnd, .reachedEnd]
        s.scan.position.index? = some 1 ∧ s.physicalSchema = some columns := by
  intro template columns found
  obtain ⟨hfound, -, -, -, hshown⟩ := columns_of_first_file_with_any (.columnar .orc)
    someColumns.fileSystem template {} .current Identity.runsOnce_current
  obtain ⟨-, hlocked, -, -, -⟩ := columns_of_first_file_with_any (.columnar .orc)
    lockedColumns.fileSystem template {} .current Identity.runsOnce_current
  have hroot : Location.normalized template = "/w/t" := by decide +kernel
  rw [hroot] at hfound hlocked hshown
  have hfiles : eligibleFiles someColumns.fileSystem "/w/t" {} = .ok threeOrcFiles :=
    eq_ok_of_toOption (by decide +kernel)
  have hcolumns : listedColumns (.columnar .orc) someColumns.fileSystem {} ⟨"/w/t/b", 1, false⟩ =
      .ok columns := eq_ok_of_toOption (by decide +kernel)
  refine ⟨(hfound columns).2 ⟨rfl, by decide, threeOrcFiles, 1, _, hfiles, ⟨?_, rfl⟩, hcolumns⟩,
    ?_, ?_⟩
  · exact List.forall_mem_singleton.2 (eq_ok_of_toOption (by decide +kernel))
  · have hfiles' : eligibleFiles lockedColumns.fileSystem "/w/t" {} = .ok threeOrcFiles :=
      eq_ok_of_toOption (by decide +kernel)
    have hfirst : listedColumns (.columnar .orc) lockedColumns.fileSystem {} ⟨"/w/t/a", 1, false⟩ =
        .ok [] := eq_ok_of_toOption (by decide +kernel)
    obtain ⟨e, he⟩ : ∃ e, listedColumns (.columnar .orc) lockedColumns.fileSystem {}
        ⟨"/w/t/b", 1, false⟩ = .error e := exists_error_of_toOption (by decide +kernel)
    obtain ⟨-, -, e', -, -, -, hreport⟩ := hlocked threeOrcFiles 1 _ e rfl hfiles' rfl he
      (List.forall_mem_singleton.2 fun columns h => (Except.ok.inj (hfirst.symm.trans h)).symm)
    exact ⟨e', hreport⟩
  · have ht : Table.ofParams (.columnar .orc) idTable.params = .ok idTable :=
      eq_ok_of_toOption (by decide +kernel)
    have hsecond : ((Session.ofTable idTable .current).after someColumns.fileSystem
        [.configure, .reachedEnd, .reachedEnd]).scan.position.index? = some 1 := by decide +kernel
    exact ⟨idTable, ht, hsecond,
      hshown threeOrcFiles 1 _ columns hfiles rfl hcolumns idTable.params idTable .current _ ht rfl
        rfl hsecond⟩

end TableScan
