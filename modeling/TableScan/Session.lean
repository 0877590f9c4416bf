import TableScan.Impersonation
import TableScan.Scan

/-!
# Sessions

A session scans one table under an identity. Rows are pulled by two calls in turn: `reachedEnd`
steps onto the next record and tells whether there was none, and `readNext` gives the record that
was stepped onto. Two calls of `reachedEnd` in a row skip a record, and two of `readNext` repeat
one. Each call is one call of the identity, apart from those that have nothing left to do.
-/

namespace TableScan

structure Session where
  table : Table
  impersonation : Impersonation
  scan : Scan := {}

namespace Session

/-- A session before it is configured. -/
def ofTable (table : Table) (identity : Identity) : Session :=
  { table, impersonation := { identity, credentials := table.params.credentials } }

/-- Runs an operation on the scan as one call of the identity. -/
def call {α : Type} (phase : Phase) (op : String) (action : Scan → Except Error α × Scan)
    (s : Session) : Except Error α × Session :=
  let (result, scan, impersonation) :=
    s.impersonation.runPhase phase op s.table.location action s.scan
  (result, { s with scan, impersonation })

/-- Enumerates the splits and opens the first, unless that has been done. -/
def configure (fs : FileSystem) (s : Session) : Except Error Bool × Session :=
  match s.scan.position with
  | .unconfigured =>
    let (result, s) := s.call .configuration "configure" (Scan.configure s.table fs)
    (result.map fun () => true, s)
  | .closed => (.error (.state (.afterClose "configure")), s)
  | _ => (.ok true, s)

/-- Steps onto the next record; `true` if there is none. -/
def reachedEnd (fs : FileSystem) (s : Session) : Except Error Bool × Session :=
  let (result, s) := s.call .reading "reachedEnd" (Scan.advance s.table fs)
  (result.map not, s)

/-- The record that the last `reachedEnd` stepped onto. -/
def readNext (s : Session) : Except Error Row × Session :=
  s.call .reading "readNext" fun scan => (Scan.currentRow s.table scan, scan)

/-- Closes the scan, even if the identity refuses. Closing it again does nothing. -/
def close (s : Session) : Except Error Bool × Session :=
  match s.scan.position with
  | .closed => (.ok true, s)
  | _ =>
    let (result, s) := s.call .reading "close" fun scan => (.ok (), scan.close)
    (result.map fun () => true, { s with scan := s.scan.close })

def fileName (s : Session) : Option String := s.scan.position.path?

def physicalSchema (s : Session) : Option (List PhysicalField) := s.scan.position.physicalSchema?

/-! ### Draining -/

theorem call_eq_ok {α : Type} {phase : Phase} {op : String}
    {action : Scan → Except Error α × Scan} {s s' : Session} {a : α}
    (h : s.call phase op action = (.ok a, s')) : action s.scan = (.ok a, s'.scan) := by
  simp only [call, Impersonation.runPhase, Impersonation.run, Prod.mk.injEq] at h
  obtain ⟨h, rfl⟩ := h
  cases hr : ((s.impersonation.identity s.impersonation.calls s.impersonation.credentials).run
      action s.scan).1 with
  | error e => simp [hr, Phase.reported] at h
  | ok b =>
    simp only [hr, Phase.reported, Except.ok.injEq] at h
    subst h
    exact Conduct.run_eq_ok hr

theorem reachedEnd_eq_false {fs : FileSystem} {s s' : Session}
    (h : s.reachedEnd fs = (.ok false, s')) :
    s'.table = s.table ∧ Scan.advance s.table fs s.scan = (.ok true, s'.scan) := by
  simp only [reachedEnd, Prod.mk.injEq] at h
  obtain ⟨h, rfl⟩ := h
  refine ⟨rfl, ?_⟩
  cases hr : (s.call .reading "reachedEnd" (Scan.advance s.table fs)).1 with
  | error e => simp [hr, Except.map] at h
  | ok b =>
    have : b = true := by simpa [hr, Except.map] using h
    subst this
    exact call_eq_ok (Prod.ext hr rfl)

theorem scan_readNext (s : Session) : (s.readNext).2.scan = s.scan := by
  simp only [readNext, call, Impersonation.runPhase, Impersonation.run]
  exact Conduct.run_state_eq _ (fun _ => rfl)

def rank (s : Session) : Nat × Nat := Scan.rank s.scan.splits s.scan.position

/-- Reads rows until the end, a failure, or as many rows as `limit` allows. Gives the rows, and the
failure if there was one. -/
def drain (fs : FileSystem) (s : Session) (limit : Option Nat) :
    List Row × Option Error × Session :=
  if limit = some 0 then ([], none, s)
  else
    match _h : s.reachedEnd fs with
    | (.error e, s₁) => ([], some e, s₁)
    | (.ok true, s₁) => ([], none, s₁)
    | (.ok false, s₁) =>
      match _hr : s₁.readNext with
      | (.error e, s₂) => ([], some e, s₂)
      | (.ok row, s₂) =>
        let (rows, failure, s₃) := s₂.drain fs (limit.map (· - 1))
        (row :: rows, failure, s₃)
termination_by s.rank
decreasing_by
  have hs : s₂.scan = s₁.scan := by simpa only [_hr] using scan_readNext s₁
  have := Scan.rank_advance s.table (reachedEnd_eq_false _h).2
  simpa only [rank, hs] using this

end Session

def openSession (tag : String) (params : Params) (fs : FileSystem) (identity : Identity) :
    Except Error Session := do
  let table ← Table.ofTag tag params
  let (result, session) := (Session.ofTable table identity).configure fs
  let _ ← result
  return session

end TableScan
