import TableScan.FileSystem.Memory
import TableScan.Proofs.Session.Runs

/-!
# Failed scans

The first failure of `reachedEnd` ends a scan for good. The listing of the splits tells where it
comes from: from the first split that does not open or that holds a record that cannot be read
(`failure_listing`). Behind it no split is open, and every call until the scan is closed reports
that split and quotes that failure (`Walks.stopped`).
-/

namespace TableScan

/-- A step of the reader fails, now or after some records. -/
inductive SplitReader.Fails : SplitReader → Error → Prop where
  | now {r r' : SplitReader} {e : Error} : r.advance = (.error e, r') → r.Fails e
  | later {r r' : SplitReader} {e : Error} : r.advance = (.ok true, r') → r'.Fails e → r.Fails e

/-- The split does not open, or a record of it cannot be read. -/
def Table.Fails (t : Table) (fs : FileSystem) (split : Split) (e : Error) : Prop :=
  SplitReader.openSplit t.format fs split t.settings = .error e ∨
    ∃ reader, SplitReader.openSplit t.format fs split t.settings = .ok reader ∧ reader.Fails e

theorem Error.message_stopped (op path reason : String) :
    (Error.stopped op path reason).message =
      framed "read" op path ("scan stopped by an earlier failure: " ++ reason) := rfl

namespace Listing

theorem failure_append {a b : Listing} {f : Failure} (h : (a ++ b).failure = some f) :
    a.failure = some f ∨ (a.failure = none ∧ b.failure = some f) := by
  obtain ⟨records, _ | g⟩ := a
  · exact .inr ⟨rfl, h⟩
  · exact .inl h

end Listing

theorem SplitReader.failure_listing {r : SplitReader} {path : String} {f : Failure}
    (h : (r.listing path).failure = some f) : f.path = path ∧ r.Fails f.error := by
  fun_induction SplitReader.listing path r with
  | case1 r r' ha ih =>
    obtain ⟨hp, hr⟩ := ih h
    exact ⟨hp, .later ha hr⟩
  | case2 => cases h
  | case3 r e r' ha =>
    cases h
    exact ⟨rfl, .now ha⟩

namespace Table

variable {t : Table} {fs : FileSystem} {f : Failure}

theorem failure_splitListing {split : Split} (h : (t.splitListing fs split).failure = some f) :
    f.path = split.path ∧ t.Fails fs split f.error := by
  unfold splitListing at h
  split at h
  · rename_i reader ho
    obtain ⟨hp, hr⟩ := SplitReader.failure_listing h
    exact ⟨hp, .inr ⟨reader, ho, hr⟩⟩
  · rename_i ho
    cases h
    exact ⟨rfl, .inl ho⟩

/-- A listing is cut off by the first split that fails. -/
theorem failure_listing {splits : List Split} (h : (t.listing fs splits).failure = some f) :
    ∃ (i : Nat) (split : Split), splits[i]? = some split ∧ f.path = split.path ∧
      t.Fails fs split f.error ∧
      ∀ j < i, ∀ earlier, splits[j]? = some earlier →
        (t.splitListing fs earlier).failure = none := by
  induction splits with
  | nil => cases h
  | cons split splits ih =>
    obtain hfirst | ⟨hnone, hrest⟩ := Listing.failure_append h
    · obtain ⟨hp, hfails⟩ := failure_splitListing hfirst
      exact ⟨0, split, rfl, hp, hfails, nofun⟩
    · obtain ⟨i, split', hi, hp, hfails, hearlier⟩ := ih hrest
      refine ⟨i + 1, split', hi, hp, hfails, fun j hj earlier hs => ?_⟩
      cases j with
      | zero =>
        cases hs
        exact hnone
      | succ j => exact hearlier j (Nat.lt_of_succ_lt_succ hj) earlier hs

end Table

namespace Session

/-- What a session answers whose scan has stopped at the file `path`. -/
structure StoppedAt (fs : FileSystem) (path reason : String) (s : Session) : Prop where
  fileName : s.fileName = none
  physicalSchema : s.physicalSchema = none
  reachedEnd : (s.reachedEnd fs).1 = .error (.read "reachedEnd" path (.stopped reason))
  readNext : s.readNext.1 = .error (.read "readNext" path (.stopped reason))
  configure : s.configure fs = (.ok true, s)
  close : s.close.1 = .ok true

variable {t : Table} {fs : FileSystem} {R : Listing} {m : Nat} {s s₁ : Session} {e : Error}

theorem close_of_runsOnce (h : s.impersonation.identity.RunsOnce) : s.close.1 = .ok true := by
  unfold close
  split
  · rfl
  · rw [call_of_runsOnce h]
    rfl

theorem Walks.reachedEnd_eq_error (h : s.Walks t fs R m) (he : (s.reachedEnd fs).1 = .error e) :
    ∃ f, R.failure = some f ∧ R.records.length ≤ m ∧
      (e = Phase.reading.report "reachedEnd" t.location f.error ∨
        e = .stopped "reachedEnd" f.path f.error.message) := by
  rw [h.reachedEnd.1, Listing.found] at he
  by_cases hm : m < R.records.length
  · rw [if_pos hm] at he
    cases he
  · rw [if_neg hm] at he
    cases hf : R.failure with
    | none =>
      rw [hf] at he
      cases he
    | some f =>
      refine ⟨f, rfl, Nat.not_lt.1 hm, ?_⟩
      rw [hf] at he
      dsimp only at he
      split at he
      · exact .inl (Except.error.inj he).symm
      · exact .inr (Except.error.inj he).symm

theorem Walks.stopped (h : s.Walks t fs R m) (hm : R.records.length < m) {f : Failure}
    (hf : R.failure = some f) : s.StoppedAt fs f.path f.error.message := by
  have hp : s.scan.position = .failed f.path f.error.message := by
    have := h.follows
    rwa [Scan.Follows, if_neg (Nat.not_le.2 hm), hf] at this
  have hfound : R.found m = .error (.stopped "reachedEnd" f.path f.error.message) := by
    rw [Listing.found, if_neg (by omega), hf]
    exact congrArg Except.error (if_neg (by omega))
  have hrow : R.rowAt t m = .error (.stopped "readNext" f.path f.error.message) := by
    obtain ⟨k, rfl⟩ : ∃ k, m = k + 1 := ⟨m - 1, by omega⟩
    rw [Listing.rowAt, List.getElem?_eq_none (by omega), hf]
  exact {
    fileName := by rw [fileName, hp]; rfl
    physicalSchema := by rw [physicalSchema, hp]; rfl
    reachedEnd := by rw [h.reachedEnd.1, hfound]; rfl
    readNext := by rw [h.readNext.1, hrow]; rfl
    configure := h.configure
    close := close_of_runsOnce h.once }

/-- Once `reachedEnd` has failed, the session has stopped at the first split that fails, and stays
so until it is closed. The calls after that quote the failure of that split. -/
theorem failure_is_terminal {s₀ : Session} (once : s₀.impersonation.identity.RunsOnce)
    (fresh : s₀.scan.position = .unconfigured) (configured : s₀.configure fs = (.ok true, s))
    {before later : List Operation} (open_before : .close ∉ before) (open_later : .close ∉ later)
    (failed : (s.after fs before).reachedEnd fs = (.error e, s₁)) :
    ∃ (i : Nat) (split : Split) (cause : Error),
      s.scan.splits[i]? = some split ∧
      s₀.table.Fails fs split cause ∧
      (∀ j < i, ∀ earlier, s.scan.splits[j]? = some earlier →
        (s₀.table.splitListing fs earlier).failure = none) ∧
      (e = Phase.reading.report "reachedEnd" s₀.table.location cause ∨
        e = .stopped "reachedEnd" split.path cause.message) ∧
      (s₁.after fs later).StoppedAt fs split.path cause.message ∧
      ∀ op, (Error.read op split.path (.stopped cause.message)).message =
        framed "read" op split.path ("scan stopped by an earlier failure: " ++ cause.message) := by
  have hwalks := (walks_configure once fresh configured).after open_before
  have hnext := hwalks.reachedEnd.2
  have hresult : ((s.after fs before).reachedEnd fs).1 = .error e := by rw [failed]
  obtain ⟨f, hf, hm, he⟩ := hwalks.reachedEnd_eq_error hresult
  obtain ⟨i, split, hi, hpath, hfails, hearlier⟩ := Table.failure_listing hf
  rw [failed] at hnext
  have hstopped := (hnext.after open_later).stopped (by omega) hf
  rw [hpath] at he hstopped
  refine ⟨i, split, f.error, hi, hfails, hearlier, he, hstopped, fun op => ?_⟩
  exact Error.message_stopped op split.path f.error.message

def closedFile : MemoryStore :=
  { files :=
      [{ path := "/t/a", data := { content := [120, 10] }, length := 2 },
        { path := "/t/b", data := { content := [121, 10] }, length := 2,
          openFailure := some "denied" },
        { path := "/t/c", data := { content := [122, 10] }, length := 2 }] }

def oneColumn : Table :=
  { format := .text
    params := { location := "/t", dataColumns := ["c"] }
    settings := { text := {}, batchSize := 1, textSchema := [] } }

theorem failure_is_terminal_at_closed_file :
    let s₀ := ofTable oneColumn .current
    let fs := closedFile.fileSystem
    let s := ((s₀.configure fs).2.after fs [.reachedEnd, .readNext]).reachedEnd fs
    let later : List Operation := [.readNext, .reachedEnd, .configure]
    (s₀.configure fs).1 = .ok true ∧ s.1.toOption = none ∧
      ∃ (split : Split) (cause : Error), oneColumn.Fails fs split cause ∧
        (s.2.after fs later).StoppedAt fs split.path cause.message := by
  intro s₀ fs s later
  have hc : (s₀.configure fs).1 = .ok true := eq_ok_of_toOption (by decide +kernel)
  have hs : s.1.toOption = none := by decide +kernel
  obtain ⟨e, he⟩ := eq_error_of_toOption hs
  obtain ⟨i, split, cause, -, hfails, -, -, hstopped, -⟩ :=
    failure_is_terminal Identity.runsOnce_current rfl (Prod.ext hc rfl) (by decide)
      (show .close ∉ later by decide) he
  exact ⟨hc, hs, split, cause, hfails, hstopped⟩

end Session

end TableScan
