import TableScan.Proofs.Scan.Openings
import TableScan.Proofs.Session.Iteration

/-!
# Rows that cannot be shown

A record can be stepped onto and still have no row, since a cell of a columnar file has no text if
its type names a zone that is none (`exists_zone_of_cellText`). Reading such a record is a read
error that names its file (`Walks.readNext_onRecord`). It does not end the scan: reading a row
leaves the scan where it is, so the split stays open and the next step goes on to the next record
(`failed_row_is_passed_over`). In this a failed row differs from a failed step.
-/

namespace TableScan

/-! ### Cells without a text -/

namespace Columnar

theorem exists_zone_of_displayText {type : ColumnType} {cell : Cell} {fault : Fault}
    (h : displayText type cell = .error fault) : ∃ zone, fault = .unknownZone zone := by
  unfold displayText at h
  split at h
  · cases h
    exact ⟨_, rfl⟩
  · cases h

theorem exists_zone_of_toJson {type : ColumnType} {cell : Cell} {fault : Fault}
    (h : toJson type cell = .error fault) : ∃ zone, fault = .unknownZone zone := by
  fun_induction toJson type cell with
  | case1 => cases h
  | case2 => cases h
  | case3 => cases h
  | case4 _ key _ value _ entries ihkey ihvalue =>
    obtain h | ⟨members, -, h⟩ := bind_eq_error h
    · obtain ⟨members, ⟨k, v⟩, -, h⟩ := exists_of_foldlM_eq_error h
      obtain h | ⟨_, -, h⟩ := bind_eq_error h
      · exact ihkey k h
      · obtain h | ⟨_, -, h⟩ := bind_eq_error h
        · exact ihvalue v h
        · cases h
    · cases h
  | case5 type cell => exact exists_zone_of_displayText (map_eq_error h)

/-- A cell has no text only for a zone that is none. -/
theorem exists_zone_of_cellText {type : ColumnType} {cell : Cell} {fault : Fault}
    (h : cellText type cell = .error fault) : ∃ zone, fault = .unknownZone zone :=
  exists_zone_of_toJson (map_eq_error h)

end Columnar

/-- A cell of the current record that has no text is reported with the path of the file. -/
def Error.unshown (path zone : String) : Error :=
  .read "readNext" path (.columnar (.unknownZone zone))

theorem SplitReader.fieldValue_eq_error {r r' : SplitReader} {i : Nat} {e : Error}
    (h : r.advance = (.ok true, r')) (he : r'.fieldValue i = .error e) :
    ∃ zone, e = .unshown r'.path zone := by
  obtain ⟨c, rfl, ⟨hnil, -⟩ | ⟨type, cell, fault, hcell, rfl⟩⟩ := fieldValue_error_cases he
  · exact absurd hnil (hasRecord_advance h)
  · obtain ⟨zone, rfl⟩ := Columnar.exists_zone_of_cellText hcell
    exact ⟨zone, rfl⟩

/-! ### Records without a row -/

/-- The records whose cells fail only for want of a text. -/
def Record.Readable (r : Record) : Prop :=
  ∀ i e, r.cells i = .error e → ∃ zone, e = .unshown r.path zone

theorem Record.Readable.row {t : Table} {r : Record} {e : Error} (h : r.Readable)
    (he : r.row t = .error e) : ∃ zone, e = .unshown r.path zone := by
  obtain ⟨source, -, hcell⟩ := exists_of_mapM_eq_error he
  cases source with
  | data i => exact h i e hcell
  | partition place => cases hcell
  | missing => cases hcell

theorem Listing.mem_append {a b : Listing} {r : Record} (h : r ∈ (a ++ b).records) :
    r ∈ a.records ∨ r ∈ b.records := by
  obtain ⟨records, _ | f⟩ := a
  · exact List.mem_append.1 h
  · exact .inl h

theorem SplitReader.readable_of_mem_listing {reader : SplitReader} {path : String} {r : Record}
    (hpath : reader.path = path) (h : r ∈ (reader.listing path).records) : r.Readable := by
  fun_induction SplitReader.listing path reader with
  | case1 reader reader' ha ih =>
    have hnext : reader'.path = path := by
      rw [← hpath, ← reader.path_advance, ha]
    obtain rfl | h := List.mem_cons.1 h
    · intro i e he
      exact hnext ▸ fieldValue_eq_error ha he
    · exact ih hnext h
  | case2 => cases h
  | case3 => cases h

theorem Table.readable_of_mem_listing {t : Table} {fs : FileSystem} {splits : List Split}
    {r : Record} (h : r ∈ (t.listing fs splits).records) : r.Readable := by
  induction splits with
  | nil => cases h
  | cons split splits ih =>
    obtain h | h := Listing.mem_append h
    · unfold splitListing at h
      split at h
      · rename_i reader ho
        exact SplitReader.readable_of_mem_listing (SplitReader.path_openSplit ho) h
      · cases h
    · exact ih h

def Position.isOnRecord : Position → Bool
  | .reading _ _ _ positioned => positioned
  | _ => false

namespace Session

variable {t : Table} {fs : FileSystem} {R : Listing} {m : Nat} {s s₁ : Session} {e : Error}

theorem Walks.onRecord (h : s.Walks t fs R m) (hs : s.scan.position.isOnRecord = true) :
    ∃ k r, m = k + 1 ∧ R.records[k]? = some r ∧ s.fileName = some r.path := by
  have hfollows := h.follows
  unfold Scan.Follows at hfollows
  split at hfollows
  · obtain ⟨index, reader, values, hp, -, hrec⟩ := hfollows
    rw [hp] at hs
    obtain ⟨k, rfl⟩ : ∃ k, m = k + 1 := ⟨m - 1, by simp [Position.isOnRecord] at hs; omega⟩
    exact ⟨k, _, rfl, hrec k rfl, by rw [fileName, hp]; rfl⟩
  · split at hfollows <;> (rw [hfollows] at hs; cases hs)

/-- Reading a record without a row is a read error that names its file, and leaves the session
where it is. -/
theorem Walks.readNext_eq_error {splits : List Split} (h : s.Walks t fs (t.listing fs splits) m)
    (hs : s.scan.position.isOnRecord = true) (failed : s.readNext = (.error e, s₁)) :
    s₁.Walks t fs (t.listing fs splits) m ∧
      ∃ path zone, e = .unshown path zone ∧ s₁.fileName = some path ∧ s₁.readNext.1 = .error e := by
  obtain ⟨hrow, hstays⟩ := h.readNext
  have hscan := scan_readNext s
  rw [failed] at hrow hstays hscan
  obtain ⟨k, r, hk, hr, hname⟩ := hstays.onRecord (by rw [hscan]; exact hs)
  have hagain := hstays.readNext.1
  rw [hk, Listing.rowAt, hr] at hrow hagain
  obtain ⟨zone, he⟩ := (Table.readable_of_mem_listing (List.mem_of_getElem? hr)).row hrow.symm
  exact ⟨hstays, r.path, zone, he, hname, hagain.trans hrow.symm⟩

/-- A row that cannot be shown is a read error that names the file of the record. The split stays
open, and the session answers from there on as if the row had not been asked for: with the same
error for the same record, and with the records after it. -/
theorem failed_row_is_passed_over {s₀ : Session} (once : s₀.impersonation.identity.RunsOnce)
    (fresh : s₀.scan.position = .unconfigured) (configured : s₀.configure fs = (.ok true, s))
    {before : List Operation} (unclosed : .close ∉ before)
    (positioned : (s.after fs before).scan.position.isOnRecord = true)
    (failed : (s.after fs before).readNext = (.error e, s₁)) :
    (∃ path zone, e = .unshown path zone ∧ s₁.fileName = some path) ∧ s₁.readNext.1 = .error e ∧
      ∀ later : List Operation, .close ∉ later →
        (s₁.after fs later).AnswersFrom s₀.table fs (s₀.table.listing fs s.scan.splits)
          ((before ++ later).count .reachedEnd) := by
  have hwalks := (walks_configure once fresh configured).after unclosed
  obtain ⟨hstays, path, zone, he, hname, hagain⟩ := hwalks.readNext_eq_error positioned failed
  refine ⟨⟨path, zone, he, hname⟩, hagain, fun later hlater => ?_⟩
  have hlast := hstays.after hlater
  rw [Nat.zero_add, ← List.count_append] at hlast
  exact hlast.answersFrom

/-- Three rows of one column, the second with an instant in a zone that is none. -/
def unknownZone : Columnar.Image :=
  { encoding := .parquet
    schema := [("at", .timestamp .microsecond (some "Mars/Phobos"))]
    rows := [[.null], [.integer 0], [.null]] }

def unknownZoneFile : MemoryStore :=
  { files :=
      [{ path := "/t/a", data := { content := [0], image := some unknownZone }, length := 1 }] }

def instants : Table :=
  { format := .columnar .parquet
    params := { location := "/t", dataColumns := ["at"] }
    settings := { text := {}, batchSize := 2, textSchema := [] } }

def openInstants : Session :=
  ((ofTable instants .current).configure unknownZoneFile.fileSystem).2

theorem configure_instants :
    (ofTable instants .current).configure unknownZoneFile.fileSystem = (.ok true, openInstants) :=
  Prod.ext (eq_ok_of_toOption (by decide +kernel)) rfl

/-- A session on the second of these rows. -/
def onUnknownZone : Session :=
  openInstants.after unknownZoneFile.fileSystem [.reachedEnd, .reachedEnd]

theorem isOnRecord_onUnknownZone : onUnknownZone.scan.position.isOnRecord = true := by
  decide +kernel

theorem readNext_onUnknownZone :
    ∃ e, onUnknownZone.readNext = (.error e, onUnknownZone.readNext.2) :=
  eq_error_of_toOption (by decide +kernel)

theorem failed_row_is_passed_over_of_unknown_zone :
    onUnknownZone.scan.position.isOnRecord = true ∧
      ∃ path zone, onUnknownZone.readNext.1 = .error (.unshown path zone) ∧
        onUnknownZone.readNext.2.fileName = some path ∧
        (onUnknownZone.readNext.2.reachedEnd unknownZoneFile.fileSystem).1 = .ok false := by
  have hnext : (onUnknownZone.readNext.2.reachedEnd unknownZoneFile.fileSystem).1 = .ok false :=
    eq_ok_of_toOption (by decide +kernel)
  obtain ⟨e, he⟩ := readNext_onUnknownZone
  obtain ⟨⟨path, zone, rfl, hname⟩, -, -⟩ := failed_row_is_passed_over Identity.runsOnce_current rfl
    configure_instants (by decide) isOnRecord_onUnknownZone he
  exact ⟨isOnRecord_onUnknownZone, path, zone, congrArg Prod.fst he, hname, hnext⟩

/-- It is not so that a read error of `readNext` ends the scan. -/
theorem failed_row_does_not_end_scan :
    ¬ ∀ (s₀ s s₁ : Session) (fs : FileSystem) (before : List Operation) (e : Error),
      s₀.impersonation.identity.RunsOnce → s₀.scan.position = .unconfigured →
      s₀.configure fs = (.ok true, s) → .close ∉ before →
      (s.after fs before).scan.position.isOnRecord = true →
      (s.after fs before).readNext = (.error e, s₁) → e.isRead = true →
      ∀ later : List Operation, .close ∉ later →
        (s₁.after fs later).fileName = none ∧
          (∃ e', ((s₁.after fs later).reachedEnd fs).1 = .error e' ∧ e'.isRead = true) ∧
          ∃ e', (s₁.after fs later).readNext.1 = .error e' ∧ e'.isRead = true := by
  intro h
  obtain ⟨e, he⟩ := readNext_onUnknownZone
  have hwalks := (walks_configure Identity.runsOnce_current rfl configure_instants).after
    (show Operation.close ∉ [.reachedEnd, .reachedEnd] by decide)
  obtain ⟨-, path, zone, rfl, hname, -⟩ :=
    hwalks.readNext_eq_error isOnRecord_onUnknownZone he
  obtain ⟨hclosed, -⟩ := h _ _ _ _ [.reachedEnd, .reachedEnd] _ Identity.runsOnce_current rfl
    configure_instants (by decide) isOnRecord_onUnknownZone he rfl [] (by decide)
  exact Option.some_ne_none path (hname.symm.trans hclosed)

end Session

end TableScan
