import TableScan.Proofs.Scan.Listing
import TableScan.Session

/-!
# Runs of a session

The calls that a caller makes on a session, one after the other. Under an identity that invokes
every action once and reports what the action reported, a configured session walks along the
listing of its splits: `Walks t fs R m s` says that `m` calls of `reachedEnd` have taken it to where
`s` stands. Every call but a close keeps that (`Walks.perform`), and so does every run of them
(`Walks.after`); what each call answers is read off the listing.
-/

namespace TableScan

/-- The identity invokes every action once, and reports what the action reported. -/
def Identity.RunsOnce (identity : Identity) : Prop :=
  ∀ earlier credentials, ∃ next, identity earlier credentials = .invoke next ∧
    ∀ report, next report = .finish report

theorem Identity.runsOnce_current : Identity.RunsOnce .current :=
  fun _ _ => ⟨.finish, rfl, fun _ => rfl⟩

theorem Impersonation.run_of_runsOnce {σ α : Type} {imp : Impersonation}
    (h : imp.identity.RunsOnce) (action : σ → Except Error α × σ) (s : σ) :
    imp.run action s =
      ((action s).1, (action s).2, { imp with calls := imp.credentials :: imp.calls }) := by
  obtain ⟨next, hc, hn⟩ := h imp.calls imp.credentials
  have honce : Conduct.invoke next = .once := by
    rw [funext hn]
    rfl
  rw [run, hc, honce, Conduct.run_once]

inductive Operation where
  | configure
  | reachedEnd
  | readNext
  | close
  deriving DecidableEq, Repr

namespace Session

def perform (fs : FileSystem) (s : Session) : Operation → Session
  | .configure => (s.configure fs).2
  | .reachedEnd => (s.reachedEnd fs).2
  | .readNext => s.readNext.2
  | .close => s.close.2

def after (fs : FileSystem) (s : Session) (calls : List Operation) : Session :=
  calls.foldl (perform fs) s

theorem table_perform (fs : FileSystem) (s : Session) (op : Operation) :
    (s.perform fs op).table = s.table := by
  cases op with
  | configure =>
    simp only [perform, configure]
    split <;> rfl
  | reachedEnd => rfl
  | readNext => rfl
  | close =>
    simp only [perform, close]
    split <;> rfl

theorem table_after (fs : FileSystem) (s : Session) (calls : List Operation) :
    (s.after fs calls).table = s.table := by
  induction calls generalizing s with
  | nil => rfl
  | cons op calls ih => exact (ih (s.perform fs op)).trans (table_perform fs s op)

/-- The session after a call of the identity that left the scan as given. -/
def called (s : Session) (scan : Scan) : Session :=
  { s with
    scan
    impersonation :=
      { s.impersonation with calls := s.impersonation.credentials :: s.impersonation.calls } }

theorem call_of_runsOnce {α : Type} {s : Session} (h : s.impersonation.identity.RunsOnce)
    (phase : Phase) (op : String) (action : Scan → Except Error α × Scan) :
    s.call phase op action =
      (phase.reported op s.table.location (action s.scan).1, s.called (action s.scan).2) := by
  rw [call, Impersonation.runPhase, Impersonation.run_of_runsOnce h]
  rfl

end Session

/-! ### Rows -/

theorem SplitReader.isRead_or_isState {reader : SplitReader} {i : Nat} {e : Error}
    (h : reader.fieldValue i = .error e) : e.isRead = true ∨ e.isState = true := by
  obtain ⟨c, -, ⟨-, rfl⟩ | ⟨type, cell, fault, -, rfl⟩⟩ := fieldValue_error_cases h
  · exact .inr rfl
  · exact .inl rfl

theorem Scan.isRead_or_isState {t : Table} {s : Scan} {e : Error}
    (h : Scan.currentRow t s = .error e) : e.isRead = true ∨ e.isState = true := by
  unfold Scan.currentRow at h
  split at h
  · obtain ⟨source, -, hcell⟩ := exists_of_mapM_eq_error h
    cases source with
    | data i => exact SplitReader.isRead_or_isState hcell
    | partition place => cases hcell
    | missing => cases hcell
  · cases h; exact .inr rfl
  · cases h; exact .inr rfl
  · cases h; exact .inr rfl
  · cases h; exact .inr rfl
  · cases h; exact .inl rfl

theorem Scan.reported_currentRow (t : Table) (s : Scan) (op location : String) :
    Phase.reading.reported op location (Scan.currentRow t s) = Scan.currentRow t s := by
  cases hrow : Scan.currentRow t s with
  | ok row => rfl
  | error e =>
    rw [Phase.reported, Phase.report, if_pos (by simpa using Scan.isRead_or_isState hrow)]

/-! ### Walking along a listing -/

/-- A session that has gone `m` steps along the listing `R` of its splits. -/
structure Session.Walks (t : Table) (fs : FileSystem) (R : Listing) (m : Nat) (s : Session) :
    Prop where
  table : s.table = t
  once : s.impersonation.identity.RunsOnce
  follows : Scan.Follows t fs s.scan.splits R m s.scan.position

namespace Session

variable {t : Table} {fs : FileSystem} {R : Listing} {m : Nat} {s s' : Session}

/-- Configuring a session takes it to the beginning of the listing of its splits. -/
theorem walks_configure (once : s.impersonation.identity.RunsOnce)
    (fresh : s.scan.position = .unconfigured) (h : s.configure fs = (.ok true, s')) :
    s'.Walks s.table fs (s.table.listing fs s'.scan.splits) 0 := by
  simp only [configure, fresh, call_of_runsOnce once, Prod.mk.injEq] at h
  obtain ⟨hresult, rfl⟩ := h
  refine ⟨rfl, once, Scan.follows_configure (s := s.scan) (Prod.ext ?_ rfl)⟩
  cases hc : (Scan.configure s.table fs s.scan).1 with
  | ok => rfl
  | error e =>
    rw [hc] at hresult
    cases hresult

theorem Walks.configure (h : s.Walks t fs R m) : s.configure fs = (.ok true, s) := by
  obtain ⟨hu, hc⟩ := h.follows.configured
  unfold Session.configure
  split
  · rename_i hp
    exact absurd hp hu
  · rename_i hp
    exact absurd hp hc
  · rfl

theorem Walks.reachedEnd (h : s.Walks t fs R m) :
    (s.reachedEnd fs).1 =
        (Phase.reading.reported "reachedEnd" t.location (R.found m)).map not ∧
      (s.reachedEnd fs).2.Walks t fs R (m + 1) := by
  obtain ⟨rfl, once, hf⟩ := h
  obtain ⟨hfound, hsplits, hf'⟩ := hf.advance
  have hcall : s.reachedEnd fs = _ := congrArg
    (fun p : Except Error Bool × Session => (p.1.map not, p.2))
    (call_of_runsOnce once .reading "reachedEnd" (Scan.advance s.table fs))
  rw [hcall, hfound]
  exact ⟨rfl, rfl, once, hsplits ▸ hf'⟩

theorem Walks.readNext (h : s.Walks t fs R m) :
    s.readNext.1 = R.rowAt t m ∧ s.readNext.2.Walks t fs R m := by
  obtain ⟨rfl, once, hf⟩ := h
  rw [Session.readNext, call_of_runsOnce once, Scan.reported_currentRow, hf.currentRow]
  exact ⟨rfl, rfl, once, hf⟩

theorem Walks.perform (h : s.Walks t fs R m) {op : Operation} (hop : op ≠ .close) :
    (s.perform fs op).Walks t fs R (m + [op].count .reachedEnd) := by
  cases op with
  | configure => simpa [Session.perform, h.configure] using h
  | reachedEnd => exact h.reachedEnd.2
  | readNext => exact h.readNext.2
  | close => exact absurd rfl hop

theorem Walks.after (h : s.Walks t fs R m) {calls : List Operation} (hc : .close ∉ calls) :
    (s.after fs calls).Walks t fs R (m + calls.count .reachedEnd) := by
  induction calls generalizing s m with
  | nil => exact h
  | cons op calls ih =>
    rw [List.mem_cons, not_or] at hc
    have := ih (h.perform (Ne.symm hc.1)) hc.2
    rwa [Nat.add_assoc, ← List.count_append] at this

end Session

end TableScan
