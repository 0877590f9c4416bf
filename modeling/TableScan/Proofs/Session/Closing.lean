import TableScan.Proofs.Session.Placement
import TableScan.Proofs.Session.Retrying

/-!
# Closing

`close` closes a session whatever it answers, and nothing opens it again. A closed scan answers
every step and every row with an error and stays as it is, and no call on it asks the file system.
So the session after any calls is still closed and has the splits it had (`scan_along_of_closed`),
and it answers as it would on any other files (`observed_congr_of_closed`). `close` and `configure`
are settled without the identity, and the calls that do ask it cannot succeed, for no identity can
claim a success that the action did not have.
-/

namespace TableScan

namespace Conduct

variable {σ α : Type} {a₁ a₂ : σ → Except Error α × σ} {s : σ}

theorem run_congr (h : a₁ s = a₂ s) (c : Conduct) : c.run a₁ s = c.run a₂ s := by
  cases c with
  | finish result => cases result <;> rfl
  | invoke next => simp only [run, h]

end Conduct

namespace Scan

variable {t : Table} {s : Scan}

theorem advance_of_closed (h : s.position = .closed) (fs : FileSystem) :
    advance t fs s = (.error (.state (.afterClose "reachedEnd")), s) := by
  simp only [advance, h]

theorem currentRow_of_closed (h : s.position = .closed) :
    currentRow t s = .error (.state (.afterClose "readNext")) := by
  simp only [currentRow, h]

theorem close_of_closed (h : s.position = .closed) : s.close = s := by
  rw [close, ← h]

end Scan

namespace Session

variable {s : Session} {calls others : List (FileSystem × Operation)}

/-! ### One call -/

/-- Whatever an identity claims of an action that fails, the call fails. -/
theorem exists_call_eq_error {α : Type} {phase : Phase} {op : String}
    {action : Scan → Except Error α × Scan} {e : Error} {scan : Scan}
    (failed : action s.scan = (.error e, scan)) : ∃ e', (s.call phase op action).1 = .error e' := by
  cases hcall : (s.call phase op action).1 with
  | error e' => exact ⟨e', rfl⟩
  | ok a =>
    have := call_eq_ok (Prod.ext hcall rfl)
    rw [failed] at this
    cases this

theorem position_close (s : Session) : s.close.2.scan.position = .closed :=
  congrArg Scan.position (scan_close s)

theorem fileName_of_closed (h : s.scan.position = .closed) : s.fileName = none := by
  rw [fileName_eq_none_iff, h]
  rfl

theorem configure_of_closed (h : s.scan.position = .closed) (fs : FileSystem) :
    s.configure fs = (.error (.state (.afterClose "configure")), s) := by
  simp only [configure, h]

theorem close_of_closed (h : s.scan.position = .closed) : s.close = (.ok true, s) := by
  simp only [close, h]

theorem reachedEnd_of_closed (h : s.scan.position = .closed) (fs : FileSystem) :
    ∃ e, (s.reachedEnd fs).1 = .error e ∧
      (s.conduct = .once → e = .state (.afterClose "reachedEnd")) := by
  have hadvance := Scan.advance_of_closed (t := s.table) h fs
  obtain ⟨e, he⟩ : ∃ e, (s.call .reading "reachedEnd" (Scan.advance s.table fs)).1 = .error e :=
    exists_call_eq_error hadvance
  refine ⟨e, congrArg (Except.map not) he, fun once => ?_⟩
  rw [call_eq, once, Conduct.run_once, hadvance] at he
  exact (Except.error.inj he).symm

theorem readNext_of_closed (h : s.scan.position = .closed) :
    ∃ e, s.readNext.1 = .error e ∧ (s.conduct = .once → e = .state (.afterClose "readNext")) := by
  have hrow := Scan.currentRow_of_closed (t := s.table) h
  obtain ⟨e, he⟩ : ∃ e, s.readNext.1 = .error e := exists_call_eq_error (Prod.ext hrow rfl)
  refine ⟨e, he, fun once => ?_⟩
  rw [readNext, call_eq, once, Conduct.run_once, hrow] at he
  exact (Except.error.inj he).symm

theorem scan_perform_of_closed (h : s.scan.position = .closed) (fs : FileSystem) (op : Operation) :
    (s.perform fs op).scan = s.scan := by
  rcases s.scan_perform_cases fs [] op with ⟨hs, -⟩ | ⟨hp, -⟩ | ⟨hs, -⟩ | ⟨hs, -⟩
  · exact hs
  · rw [h] at hp
    cases hp
  · rw [hs, Scan.advance_of_closed h]
  · rw [hs, Scan.close_of_closed h]

theorem perform_congr_of_closed (h : s.scan.position = .closed) (fs₁ fs₂ : FileSystem)
    (op : Operation) :
    s.perform fs₁ op = s.perform fs₂ op ∧ s.answer fs₁ op = s.answer fs₂ op := by
  cases op with
  | configure => simp only [perform, answer, configure_of_closed h, and_self]
  | reachedEnd =>
    have hrun : s.conduct.run (Scan.advance s.table fs₁) s.scan =
        s.conduct.run (Scan.advance s.table fs₂) s.scan := by
      apply Conduct.run_congr
      rw [Scan.advance_of_closed h, Scan.advance_of_closed h]
    simp only [perform, answer, reachedEnd, call_eq, hrun, and_self]
  | readNext => exact ⟨rfl, rfl⟩
  | close => exact ⟨rfl, rfl⟩

/-! ### Runs -/

theorem scan_along_of_closed (h : s.scan.position = .closed)
    (calls : List (FileSystem × Operation)) : (s.along calls).scan = s.scan := by
  induction calls generalizing s with
  | nil => rfl
  | cons call calls ih =>
    have hscan := scan_perform_of_closed h call.1 call.2
    exact (ih (by rw [hscan, h])).trans hscan

theorem observed_congr_of_closed (h : s.scan.position = .closed)
    (same : others.map (·.2) = calls.map (·.2)) : s.observed others = s.observed calls := by
  induction calls generalizing s others with
  | nil => rw [List.map_eq_nil_iff.1 same]
  | cons call calls ih =>
    obtain _ | ⟨other, others⟩ := others
    · cases same
    · obtain ⟨fs₁, op⟩ := call
      obtain ⟨fs₂, op'⟩ := other
      obtain ⟨rfl, hrest⟩ := List.cons.inj same
      obtain ⟨hnext, hanswer⟩ := perform_congr_of_closed h fs₂ fs₁ op'
      have hclosed : (s.perform fs₁ op').scan.position = .closed := by
        rw [scan_perform_of_closed h, h]
      have hseen : s.observe fs₂ op' = s.observe fs₁ op' := by
        simp only [observe, hnext, hanswer]
      rw [observed, observed, hseen, hnext, ih hclosed hrest]

/-- Closing is final, whatever `close` has answered and wherever the session stood. After any calls
more, the splits are those that it had, and none of them is open or has been opened again. Closing
it again succeeds and configuring it is out of turn, both without the identity, and steps and rows
are errors, out of turn if the identity runs them once. None of that depends on the files. -/
theorem closing_is_final (s : Session) (calls : List (FileSystem × Operation)) :
    let s' := s.close.2.along calls
    (s'.scan.splits = s.scan.splits ∧ s'.fileName = none ∧ s'.physicalSchema = none ∧
      ∀ notes, s.close.2.noteAll notes calls = notes) ∧
    (s'.close = (.ok true, s') ∧
      ∀ fs, s'.configure fs = (.error (.state (.afterClose "configure")), s')) ∧
    ((∀ fs, ∃ e, (s'.reachedEnd fs).1 = .error e) ∧ ∃ e, s'.readNext.1 = .error e) ∧
    (s'.conduct = .once →
      (∀ fs, (s'.reachedEnd fs).1 = .error (.state (.afterClose "reachedEnd"))) ∧
        s'.readNext.1 = .error (.state (.afterClose "readNext"))) ∧
    ∀ others : List (FileSystem × Operation), others.map (·.2) = calls.map (·.2) →
      s.close.2.observed others = s.close.2.observed calls := by
  intro s'
  have hclosed := position_close s
  have hscan : s'.scan = s.scan.close := (scan_along_of_closed hclosed calls).trans (scan_close s)
  have hp : s'.scan.position = .closed := congrArg Scan.position hscan
  obtain ⟨e, hrow, hout⟩ := readNext_of_closed hp
  refine ⟨⟨?_, fileName_of_closed hp, ?_, ?_⟩, ⟨close_of_closed hp, configure_of_closed hp⟩,
    ⟨?_, e, hrow⟩, ?_, ?_⟩
  · rw [hscan]
    rfl
  · rw [physicalSchema, hp]
    rfl
  · intro notes
    have hconfigured : s.close.2.scan.position ≠ .unconfigured := by
      rw [hclosed]
      intro h
      cases h
    exact (over_along hconfigured (fileName_of_closed hclosed) notes calls).2
  · intro fs
    obtain ⟨e, he, -⟩ := reachedEnd_of_closed hp fs
    exact ⟨e, he⟩
  · intro once
    refine ⟨fun fs => ?_, ?_⟩
    · obtain ⟨e, he, hout⟩ := reachedEnd_of_closed hp fs
      rw [he, hout once]
    · rw [hrow, hout once]
  · intro others same
    exact observed_congr_of_closed hclosed same

def callsWhenClosed : List Operation := [.reachedEnd, .close, .configure, .readNext, .reachedEnd]

/-- An open session whose identity refuses every call from now on. -/
def withoutTicket : Session :=
  ((ofTable twoColumns (.limited 1 .once)).configure threeFiles.fileSystem).2

/-- A refused close of an open session, and a close of a session that was never configured. -/
theorem closing_is_final_of_expired_ticket :
    let calls := callsWhenClosed.map (threeFiles.fileSystem, ·)
    let others := callsWhenClosed.map (MemoryStore.fileSystem { files := [] }, ·)
    let refused := withoutTicket.close.2
    let unconfigured := (ofTable twoColumns .current).close.2
    withoutTicket.close.1.isOk = false ∧
      (refused.along calls).scan.splits = withoutTicket.scan.splits ∧
      (refused.along calls).fileName = none ∧ refused.noteAll [0] calls = [0] ∧
      refused.observed others = refused.observed calls ∧
      ((unconfigured.along calls).reachedEnd threeFiles.fileSystem).1 =
        .error (.state (.afterClose "reachedEnd")) := by
  intro calls others refused unconfigured
  obtain ⟨⟨hsplits, hname, -, hnotes⟩, -, -, -, hfiles⟩ := closing_is_final withoutTicket calls
  obtain ⟨-, -, -, honce, -⟩ := closing_is_final (ofTable twoColumns .current) calls
  exact ⟨by decide +kernel, hsplits, hname, hnotes [0], hfiles others rfl,
    (honce rfl).1 threeFiles.fileSystem⟩

end Session

end TableScan
