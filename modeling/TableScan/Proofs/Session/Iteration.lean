import TableScan.FileSystem.Memory
import TableScan.Proofs.Session.Runs

/-!
# A session is an iterator over a list

Split by split, reader by reader, a session does nothing but go along the listing of its splits:
after any calls of `configure`, `reachedEnd` and `readNext`, what the next call answers is
determined by the listing and by how many of them were calls of `reachedEnd`.
-/

namespace TableScan

namespace Session

/-- What a session answers that has gone `m` steps along the listing `R` of its splits. -/
structure AnswersFrom (t : Table) (fs : FileSystem) (R : Listing) (m : Nat) (s : Session) :
    Prop where
  configure : s.configure fs = (.ok true, s)
  reachedRecord : m < R.records.length → (s.reachedEnd fs).1 = .ok false
  reachedEnd : R.records.length ≤ m → R.failure = none → (s.reachedEnd fs).1 = .ok true
  reachedFailure : R.records.length ≤ m → ∀ f, R.failure = some f →
    (s.reachedEnd fs).1 = .error
      (if m = R.records.length then Phase.reading.report "reachedEnd" t.location f.error
        else .stopped "reachedEnd" f.path f.error.message)
  row : 0 < m → ∀ h : m - 1 < R.records.length, s.readNext.1 = R.records[m - 1].row t
  noRowBefore : m = 0 → s.readNext.1 = .error (.state .notPositioned)
  noRowAfter : R.records.length < m → s.readNext.1 = .error
    (match R.failure with
    | none => .state .notPositioned
    | some f => .stopped "readNext" f.path f.error.message)

variable {t : Table} {fs : FileSystem} {R : Listing} {m : Nat} {s : Session}

theorem Walks.answersFrom (h : s.Walks t fs R m) : s.AnswersFrom t fs R m where
  configure := h.configure
  reachedRecord hm := by
    rw [h.reachedEnd.1, Listing.found, if_pos hm]
    rfl
  reachedEnd hm hf := by
    rw [h.reachedEnd.1, Listing.found, if_neg (Nat.not_lt.2 hm), hf]
    rfl
  reachedFailure hm f hf := by
    rw [h.reachedEnd.1, Listing.found, if_neg (Nat.not_lt.2 hm), hf]
    simp only [Phase.reported, Except.map]
    split
    · rfl
    · -- The reason for which a scan has stopped is a read error already.
      rfl
  row hm hlt := by
    obtain ⟨k, rfl⟩ : ∃ k, m = k + 1 := ⟨m - 1, by omega⟩
    simp only [Nat.add_sub_cancel] at hlt ⊢
    rw [h.readNext.1, Listing.rowAt, List.getElem?_eq_getElem hlt]
  noRowBefore hm := by
    rw [h.readNext.1, hm, Listing.rowAt]
  noRowAfter hm := by
    obtain ⟨k, rfl⟩ : ∃ k, m = k + 1 := ⟨m - 1, by omega⟩
    rw [h.readNext.1, Listing.rowAt, List.getElem?_eq_none (by omega)]
    cases R.failure <;> rfl

/-- A configured session iterates over the listing of its splits: in whatever order it is called,
its answers are those after as many steps along the listing as there were calls of `reachedEnd`. -/
theorem iterates_over_listing {s₀ : Session} (once : s₀.impersonation.identity.RunsOnce)
    (fresh : s₀.scan.position = .unconfigured) (configured : s₀.configure fs = (.ok true, s))
    {calls : List Operation} (unclosed : .close ∉ calls) :
    (s.after fs calls).AnswersFrom s₀.table fs (s₀.table.listing fs s.scan.splits)
      (calls.count .reachedEnd) := by
  have hwalks := (walks_configure once fresh configured).after unclosed
  rw [Nat.zero_add] at hwalks
  exact hwalks.answersFrom

/-- Text files of two lines, of an empty one and of one. -/
def threeFiles : MemoryStore :=
  { files :=
      [{ path := "/t/k=1/a", data := { content := [120, 10, 121] }, length := 3 },
        { path := "/t/k=2/b", data := { content := [10] }, length := 1 },
        { path := "/t/k=3/c", data := { content := [122, 10] }, length := 2 }] }

/-- A text table of one column that is stored and one that the paths assign. -/
def twoColumns : Table :=
  { format := .text
    params := { location := "/t", dataColumns := ["c"], partitionColumns := ["k"] }
    settings := { text := {}, batchSize := 1, textSchema := [] } }

/-- A call of `reachedEnd` for each of the four lines, and other calls between them. -/
theorem iterates_over_listing_of_three_files :
    let s₀ := ofTable twoColumns .current
    let fs := threeFiles.fileSystem
    let s := (s₀.configure fs).2
    let R := twoColumns.listing fs s.scan.splits
    let calls : List Operation :=
      [.readNext, .reachedEnd, .configure, .reachedEnd, .reachedEnd, .readNext, .reachedEnd]
    (s₀.configure fs).1 = .ok true ∧ R.records.length = 4 ∧ R.failure.isNone = true ∧
      (s.after fs calls).AnswersFrom twoColumns fs R 4 := by
  intro s₀ fs s R calls
  have hc : (s₀.configure fs).1 = .ok true := eq_ok_of_toOption (by decide +kernel)
  have hlength : R.records.length = 4 := by decide +kernel
  have hfailure : R.failure.isNone = true := by decide +kernel
  exact ⟨hc, hlength, hfailure,
    iterates_over_listing Identity.runsOnce_current rfl (Prod.ext hc rfl)
      (show .close ∉ calls by decide)⟩

end Session

end TableScan
