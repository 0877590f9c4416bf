import TableScan.Proofs.Session.Iteration

/-!
# Projections

A projection chooses among the columns of a row and has no other effect. `Session.project` gives a
session another projection; every call leaves the same scan behind as without it, and every call
but `readNext` answers the same (`after_project`). What a projection does is said of the rows: each
cell of a projected row is the cell of the whole row that it names, or null if the schema has no
column of that index (`mapM_sourceOf`).
-/

namespace TableScan

/-- The table with another projection. -/
def Table.project (t : Table) (projection : Option (List Nat)) : Table :=
  { t with params := { t.params with projection } }

def Session.project (s : Session) (projection : Option (List Nat)) : Session :=
  { s with table := s.table.project projection }

theorem Table.ofParams_project (format : Format) (p : Params) (projection : Option (List Nat)) :
    ofParams format { p with projection } = (ofParams format p).map (·.project projection) := by
  have hsettings : ReaderSettings.ofParams format { p with projection } =
      ReaderSettings.ofParams format p := rfl
  unfold ofParams
  rw [hsettings]
  split
  · rfl
  · cases ReaderSettings.ofParams format p <;> rfl

/-! ### Plans -/

namespace LogicalSchema

theorem plan_some (s : LogicalSchema) {indices : List Nat} (h : indices ≠ []) :
    s.plan (some indices) = indices.map s.sourceOf := by
  obtain ⟨i, is, rfl⟩ := List.exists_cons_of_ne_nil h
  rfl

theorem projectedNames_some (s : LogicalSchema) {indices : List Nat} (h : indices ≠ []) :
    s.projectedNames (some indices) = indices.map s.nameOf := by
  obtain ⟨i, is, rfl⟩ := List.exists_cons_of_ne_nil h
  rfl

theorem mapM_sourceOf {s : LogicalSchema} {f : ColumnSource → Except Error (Option String)}
    {row : Row} (missing : f .missing = .ok none) (h : (s.plan none).mapM f = .ok row)
    (indices : List Nat) :
    row.length = s.width ∧
      (indices.map s.sourceOf).mapM f = .ok (indices.map fun i => row[i]?.join) := by
  have hplan : s.plan none = (List.range s.width).map s.sourceOf := rfl
  rw [hplan] at h
  obtain ⟨hlength, hcells⟩ := getElem?_of_mapM_eq_ok h
  rw [List.length_map, List.length_range] at hlength
  refine ⟨hlength, ?_⟩
  rw [List.mapM_map]
  refine mapM_eq_ok fun i _ => ?_
  rw [Function.comp_apply]
  by_cases hi : i < s.width
  · obtain ⟨cell, hcell, hf⟩ := hcells i (s.sourceOf i) (by simp [hi])
    rw [hf, hcell]
    rfl
  · rw [sourceOf_eq_missing_iff.2 (Nat.le_of_not_lt hi), missing,
      List.getElem?_eq_none (by omega)]
    rfl

end LogicalSchema

/-! ### Calls in step -/

theorem Conduct.afterRun_ok {α β : Type} {a a' : α} {c : Conduct}
    (h : afterRun (.ok a) c = .ok a') (b : β) : afterRun (.ok b) c = .ok b := by
  induction c with
  | finish result =>
    cases result with
    | error e => cases h
    | ok => rfl
  | invoke next ih => exact ih _ h

/-- An identity that lets an action succeed goes on in the same way after any other success. -/
theorem Conduct.run_ok {σ α β : Type} {a₁ : σ → Except Error α × σ} {a₂ : σ → Except Error β × σ}
    {s : σ} {a : α} {b : β} {c : Conduct} (h : (c.run a₁ s).1 = .ok a)
    (hb : (a₂ s).1 = .ok b) : (c.run a₂ s).1 = .ok b := by
  have ha := congrArg Prod.fst (run_eq_ok h)
  cases c with
  | finish result => cases result <;> cases h
  | invoke next =>
    simp only [run, ha, hb] at h ⊢
    exact afterRun_ok h b

theorem Phase.reported_eq_ok {α : Type} {phase : Phase} {op location : String}
    {result : Except Error α} {a : α} :
    phase.reported op location result = .ok a ↔ result = .ok a := by
  cases result <;> simp [reported]

namespace Scan

variable (t : Table) (projection : Option (List Nat)) (fs : FileSystem)

theorem stepFrom_project (splits : List Split) (index : Nat) (reader : SplitReader)
    (values : List (Option String)) :
    stepFrom (t.project projection) fs splits index reader values =
      stepFrom t fs splits index reader values := by
  have hformat : (t.project projection).format = t.format := rfl
  have hsettings : (t.project projection).settings = t.settings := rfl
  fun_induction stepFrom t fs splits index reader values with
  | case1 index reader values reader' ha => rw [stepFrom_eq, ha]
  | case2 index reader values e reader' ha => rw [stepFrom_eq, ha]
  | case3 index reader values reader' ha hs => rw [stepFrom_eq, ha, hs]
  | case4 index reader values reader' ha split hs e ho =>
    rw [stepFrom_eq, ha]
    simp only [hs, hformat, hsettings, ho]
  | case5 index reader values reader₁ ha split hs reader₂ ho ih =>
    rw [stepFrom_eq, ha]
    simp only [hs, hformat, hsettings, ho]
    exact ih

theorem advance_project : advance (t.project projection) fs = advance t fs := by
  funext s
  simp only [advance, stepFrom_project]

theorem currentRow_project {t : Table} {s : Scan} {row : Row} {indices : List Nat}
    (h : indices ≠ []) (hrow : currentRow (t.project none) s = .ok row) :
    row.length = t.params.schema.width ∧
      currentRow (t.project (some indices)) s = .ok (indices.map fun i => row[i]?.join) := by
  have hplan : (t.project (some indices)).plan = indices.map t.params.schema.sourceOf :=
    t.params.schema.plan_some h
  unfold currentRow at hrow ⊢
  split at hrow
  · rw [hplan]
    exact LogicalSchema.mapM_sourceOf rfl hrow indices
  all_goals cases hrow

end Scan

namespace Session

variable (s : Session) (projection : Option (List Nat)) (fs : FileSystem)

theorem configure_project :
    (s.project projection).configure fs =
      ((s.configure fs).1, (s.configure fs).2.project projection) := by
  simp only [configure, project]
  split <;> rfl

theorem reachedEnd_project :
    (s.project projection).reachedEnd fs =
      ((s.reachedEnd fs).1, (s.reachedEnd fs).2.project projection) := by
  simp only [reachedEnd, project, Scan.advance_project]
  rfl

theorem close_project :
    (s.project projection).close = (s.close.1, s.close.2.project projection) := by
  simp only [close, project]
  split <;> rfl

theorem readNext_project :
    (s.project projection).readNext.2 = s.readNext.2.project projection := by
  have hscan : (s.project projection).readNext.2.scan = s.readNext.2.scan :=
    (scan_readNext _).trans (scan_readNext s).symm
  exact congrArg
    (fun scan => { s.readNext.2.project projection with scan }) hscan

theorem perform_project (op : Operation) :
    (s.project projection).perform fs op = (s.perform fs op).project projection := by
  cases op with
  | configure => exact congrArg Prod.snd (configure_project s projection fs)
  | reachedEnd => exact congrArg Prod.snd (reachedEnd_project s projection fs)
  | readNext => exact readNext_project s projection
  | close => exact congrArg Prod.snd (close_project s projection)

theorem after_project (calls : List Operation) :
    (s.project projection).after fs calls = (s.after fs calls).project projection := by
  induction calls generalizing s with
  | nil => rfl
  | cons op calls ih =>
    have := ih (s.perform fs op)
    rw [← perform_project] at this
    exact this

theorem readNext_eq_ok {s : Session} {row : Row} :
    s.readNext.1 = .ok row ↔
      ((s.impersonation.identity s.impersonation.calls s.impersonation.credentials).run
        (fun scan => (Scan.currentRow s.table scan, scan)) s.scan).1 = .ok row :=
  Phase.reported_eq_ok

theorem readNext_project_some {row : Row} {indices : List Nat} (h : indices ≠ [])
    (hrow : (s.project none).readNext.1 = .ok row) :
    row.length = s.table.params.schema.width ∧
      (s.project (some indices)).readNext.1 = .ok (indices.map fun i => row[i]?.join) := by
  have hrun := readNext_eq_ok.1 hrow
  obtain ⟨hlength, hprojected⟩ :=
    Scan.currentRow_project h (congrArg Prod.fst (Conduct.run_eq_ok hrun))
  exact ⟨hlength, readNext_eq_ok.2 (Conduct.run_ok hrun hprojected)⟩

/-- Tables that differ in their projections are made alike, and sessions of them stay in step.
Whenever the session without a projection reads a row, the other reads the cells of it that its
projection names. An empty projection names all of them. -/
theorem projection_commutes (indices : List Nat) :
    (∀ (format : Format) (p : Params),
      Table.ofParams format { p with projection := some indices } =
        (Table.ofParams format { p with projection := none }).map (·.project (some indices))) ∧
    ∀ (t : Table) (identity : Identity) (fs : FileSystem) (calls : List Operation),
      let whole := (ofTable (t.project none) identity).after fs calls
      let chosen := (ofTable (t.project (some indices)) identity).after fs calls
      (chosen.configure fs).1 = (whole.configure fs).1 ∧
        (chosen.reachedEnd fs).1 = (whole.reachedEnd fs).1 ∧
        chosen.fileName = whole.fileName ∧
        (indices ≠ [] →
          (∀ row, whole.readNext.1 = .ok row →
            row.length = t.params.schema.width ∧
              chosen.readNext.1 = .ok (indices.map fun i => row[i]?.join)) ∧
          (t.project (some indices)).projectedNames =
            indices.map fun i => t.columnNames[i]?.getD s!"_col{i}") ∧
        (indices = [] →
          chosen.readNext.1 = whole.readNext.1 ∧
            (t.project (some indices)).projectedNames = (t.project none).projectedNames) := by
  refine ⟨fun format p => ?_, ?_⟩
  · exact Table.ofParams_project format { p with projection := none } (some indices)
  intro t identity fs calls whole chosen
  have hwhole : whole = ((ofTable t identity).after fs calls).project none :=
    after_project (ofTable t identity) none fs calls
  have hchosen : chosen = ((ofTable t identity).after fs calls).project (some indices) :=
    after_project (ofTable t identity) (some indices) fs calls
  rw [hwhole, hchosen, configure_project, configure_project, reachedEnd_project,
    reachedEnd_project]
  refine ⟨rfl, rfl, rfl, fun h => ⟨fun row hrow => ?_, ?_⟩, ?_⟩
  · have hread := readNext_project_some _ h hrow
    rwa [table_after] at hread
  · exact t.params.schema.projectedNames_some h
  · rintro rfl
    exact ⟨rfl, rfl⟩

/-- The second column, the first one, one that is not there, and the second again. -/
theorem projection_commutes_of_three_files :
    let fs := threeFiles.fileSystem
    let calls : List Operation := [.configure, .reachedEnd, .reachedEnd, .reachedEnd]
    let whole := (ofTable (twoColumns.project none) .current).after fs calls
    let chosen := (ofTable (twoColumns.project (some [1, 0, 5, 1])) .current).after fs calls
    whole.readNext.1 = .ok [some "", some "2"] ∧
      chosen.readNext.1 = .ok [some "2", some "", none, some "2"] := by
  intro fs calls whole chosen
  have hrow : whole.readNext.1 = .ok [some "", some "2"] := eq_ok_of_toOption (by decide +kernel)
  obtain ⟨-, -, -, hchosen, -⟩ :=
    (projection_commutes [1, 0, 5, 1]).2 twoColumns .current fs calls
  exact ⟨hrow, ((hchosen (by decide)).1 _ hrow).2⟩

end Session

end TableScan
