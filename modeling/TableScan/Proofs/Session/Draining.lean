import TableScan.Proofs.Session.Runs

/-!
# Draining a session

Draining a session gives the rows of its listing and then its failure. Of that this module says two
things. Two sessions that stand at the same place of one listing are not told apart by any identity
they run under, so they drain alike (`Abreast.drain`). And under an identity that runs once, the
rows drained are those of the records still to come (`Walks.drain`).
-/

namespace TableScan

/-- Actions with the same outcome are not told apart by a call, which has done both or neither. -/
theorem Conduct.run_agree {σ₁ σ₂ α : Type} {a₁ : σ₁ → Except Error α × σ₁}
    {a₂ : σ₂ → Except Error α × σ₂} {s₁ : σ₁} {s₂ : σ₂} (h : (a₁ s₁).1 = (a₂ s₂).1) (c : Conduct) :
    (c.run a₁ s₁).1 = (c.run a₂ s₂).1 ∧
      ((c.run a₁ s₁).2 = (a₁ s₁).2 ∧ (c.run a₂ s₂).2 = (a₂ s₂).2 ∨
        (c.run a₁ s₁).2 = s₁ ∧ (c.run a₂ s₂).2 = s₂) := by
  cases c with
  | finish result => cases result <;> exact ⟨rfl, .inr ⟨rfl, rfl⟩⟩
  | invoke next => exact ⟨by simp only [run, h], .inl ⟨rfl, rfl⟩⟩

theorem Listing.rowAt_congr {t₁ t₂ : Table} (h : ∀ r : Record, r.row t₁ = r.row t₂) (R : Listing)
    (m : Nat) : R.rowAt t₁ m = R.rowAt t₂ m := by
  cases m with
  | zero => rfl
  | succ m => simp only [rowAt, h]

namespace Session

/-- Two sessions at the same place of the same listing. -/
structure Abreast (fs₁ fs₂ : FileSystem) (R : Listing) (m : Nat) (s₁ s₂ : Session) : Prop where
  impersonation : s₁.impersonation = s₂.impersonation
  location : s₁.table.location = s₂.table.location
  row : ∀ r : Record, r.row s₁.table = r.row s₂.table
  first : Scan.Follows s₁.table fs₁ s₁.scan.splits R m s₁.scan.position
  second : Scan.Follows s₂.table fs₂ s₂.scan.splits R m s₂.scan.position

variable {fs fs₁ fs₂ : FileSystem} {R : Listing} {m k : Nat} {s s₁ s₂ : Session} {t : Table}

/-- Actions with the same outcome that take both scans to the same place keep sessions abreast, also
if the identity leaves them undone. -/
theorem Abreast.call {α : Type} {a₁ a₂ : Scan → Except Error α × Scan}
    (h : Abreast fs₁ fs₂ R m s₁ s₂) (phase : Phase) (op : String)
    (outcome : (a₁ s₁.scan).1 = (a₂ s₂.scan).1)
    (first : Scan.Follows s₁.table fs₁ (a₁ s₁.scan).2.splits R k (a₁ s₁.scan).2.position)
    (second : Scan.Follows s₂.table fs₂ (a₂ s₂.scan).2.splits R k (a₂ s₂.scan).2.position) :
    (s₁.call phase op a₁).1 = (s₂.call phase op a₂).1 ∧
      ∃ k', Abreast fs₁ fs₂ R k' (s₁.call phase op a₁).2 (s₂.call phase op a₂).2 := by
  obtain ⟨hresult, hscan⟩ := Conduct.run_agree outcome
    (s₂.impersonation.identity s₂.impersonation.calls s₂.impersonation.credentials)
  simp only [Session.call, Impersonation.runPhase, Impersonation.run, h.impersonation, h.location,
    hresult, true_and]
  obtain ⟨h₁, h₂⟩ | ⟨h₁, h₂⟩ := hscan
  · rw [h₁, h₂]
    exact ⟨k, rfl, h.location, h.row, first, second⟩
  · rw [h₁, h₂]
    exact ⟨m, rfl, h.location, h.row, h.first, h.second⟩

theorem Abreast.reachedEnd (h : Abreast fs₁ fs₂ R m s₁ s₂) :
    (s₁.reachedEnd fs₁).1 = (s₂.reachedEnd fs₂).1 ∧
      ∃ k, Abreast fs₁ fs₂ R k (s₁.reachedEnd fs₁).2 (s₂.reachedEnd fs₂).2 := by
  obtain ⟨hfound₁, hsplits₁, hnext₁⟩ := h.first.advance
  obtain ⟨hfound₂, hsplits₂, hnext₂⟩ := h.second.advance
  obtain ⟨hresult, hnext⟩ := h.call .reading "reachedEnd"
    (hfound₁.trans hfound₂.symm) (hsplits₁ ▸ hnext₁) (hsplits₂ ▸ hnext₂)
  exact ⟨congrArg (Except.map not) hresult, hnext⟩

theorem Abreast.readNext (h : Abreast fs₁ fs₂ R m s₁ s₂) :
    s₁.readNext.1 = s₂.readNext.1 ∧ ∃ k, Abreast fs₁ fs₂ R k s₁.readNext.2 s₂.readNext.2 := by
  refine h.call .reading "readNext" ?_ h.first h.second
  rw [h.first.currentRow, h.second.currentRow, Listing.rowAt_congr h.row]

theorem configure_of_unconfigured (fresh : s.scan.position = .unconfigured) :
    s.configure fs =
      ((s.call .configuration "configure" (Scan.configure s.table fs)).1.map fun () => true,
        (s.call .configuration "configure" (Scan.configure s.table fs)).2) := by
  simp only [configure, fresh]

theorem configure_eq_ok {b : Bool} (fresh : s.scan.position = .unconfigured)
    (h : s.configure fs = (.ok b, s₁)) :
    s₁.table = s.table ∧ Scan.configure s.table fs s.scan = (.ok (), s₁.scan) := by
  rw [configure_of_unconfigured fresh, Prod.mk.injEq] at h
  obtain ⟨hresult, rfl⟩ := h
  obtain ⟨⟨⟩, hcall, -⟩ := map_eq_ok hresult
  exact ⟨rfl, call_eq_ok (Prod.ext hcall rfl)⟩

theorem drain_eq (fs : FileSystem) (s : Session) {limit : Option Nat} (hl : limit ≠ some 0) :
    s.drain fs limit =
      match (s.reachedEnd fs).1 with
      | .error e => ([], some e, (s.reachedEnd fs).2)
      | .ok true => ([], none, (s.reachedEnd fs).2)
      | .ok false =>
        match (s.reachedEnd fs).2.readNext.1 with
        | .error e => ([], some e, (s.reachedEnd fs).2.readNext.2)
        | .ok row =>
          let (rows, failure, s') :=
            (s.reachedEnd fs).2.readNext.2.drain fs (limit.map (· - 1))
          (row :: rows, failure, s') := by
  rw [drain, if_neg hl]
  split
  · rename_i h
    rw [h]
  · rename_i h
    rw [h]
  · rename_i h
    rw [h]
    dsimp only
    split
    · rename_i h'
      rw [h']
    · rename_i h'
      rw [h']

/-- Sessions abreast drain alike. -/
theorem Abreast.drain (h : Abreast fs₁ fs₂ R m s₁ s₂) (limit : Option Nat) :
    (s₁.drain fs₁ limit).1 = (s₂.drain fs₂ limit).1 ∧
      (s₁.drain fs₁ limit).2.1 = (s₂.drain fs₂ limit).2.1 := by
  fun_induction Session.drain fs₁ s₁ limit generalizing s₂ m with
  | case1 s₁ =>
    rw [Session.drain, if_pos rfl]
    exact ⟨rfl, rfl⟩
  | case2 s₁ limit hl e next hr =>
    obtain ⟨hresult, -⟩ := h.reachedEnd
    rw [drain_eq fs₂ s₂ hl, ← hresult, hr]
    exact ⟨rfl, rfl⟩
  | case3 s₁ limit hl next hr =>
    obtain ⟨hresult, -⟩ := h.reachedEnd
    rw [drain_eq fs₂ s₂ hl, ← hresult, hr]
    exact ⟨rfl, rfl⟩
  | case4 s₁ limit hl next hr e last hrow =>
    obtain ⟨hresult, k, hnext⟩ := h.reachedEnd
    rw [hr] at hresult hnext
    obtain ⟨hresult', -⟩ := hnext.readNext
    rw [hrow] at hresult'
    rw [drain_eq fs₂ s₂ hl, ← hresult]
    dsimp only
    rw [← hresult']
    exact ⟨rfl, rfl⟩
  | case5 s₁ limit hl next hr row last hrow rows failure final hrest ih =>
    obtain ⟨hresult, k, hnext⟩ := h.reachedEnd
    rw [hr] at hresult hnext
    obtain ⟨hresult', k', hnext'⟩ := hnext.readNext
    rw [hrow] at hresult' hnext'
    obtain ⟨hrows, hfailure⟩ := ih hnext'
    rw [hrest] at hrows hfailure
    rw [drain_eq fs₂ s₂ hl, ← hresult]
    dsimp only
    rw [← hresult']
    exact ⟨congrArg (row :: ·) hrows, hfailure⟩

/-- Draining gives the rows of the records to come, and reports the failure behind them. -/
theorem Walks.drain (h : s.Walks t fs R m) (hm : m ≤ R.records.length)
    (hrows : ∀ r ∈ R.records, ∃ row, r.row t = .ok row) :
    (s.drain fs none).1.map .ok = (R.records.drop m).map (Record.row t) ∧
      (s.drain fs none).2.1 =
        R.failure.map fun f => Phase.reading.report "reachedEnd" t.location f.error := by
  induction hn : R.records.length - m generalizing s m with
  | zero =>
    have hend : m = R.records.length := by omega
    rw [drain_eq fs s (Option.some_ne_none 0).symm, h.reachedEnd.1, Listing.found,
      if_neg (by omega), List.drop_eq_nil_of_le (by omega)]
    cases R.failure with
    | none => exact ⟨rfl, rfl⟩
    | some f =>
      simp only [if_pos hend]
      exact ⟨rfl, rfl⟩
  | succ n ih =>
    have hlt : m < R.records.length := by omega
    obtain ⟨hresult, hnext⟩ := h.reachedEnd
    obtain ⟨hrow, hlast⟩ := hnext.readNext
    obtain ⟨row, hr⟩ := hrows R.records[m] (List.getElem_mem hlt)
    rw [Listing.found, if_pos hlt] at hresult
    rw [Listing.rowAt, List.getElem?_eq_getElem hlt] at hrow
    obtain ⟨ihrows, ihfailure⟩ := ih hlast hlt (by omega)
    rw [drain_eq fs s (Option.some_ne_none 0).symm, hresult, List.drop_eq_getElem_cons hlt,
      List.map_cons, ← ihrows]
    simp only [Phase.reported, Except.map, Bool.not_true, hrow, hr]
    exact ⟨rfl, ihfailure⟩

end Session

end TableScan
