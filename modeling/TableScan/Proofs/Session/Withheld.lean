import TableScan.Proofs.Session.Classification
import TableScan.Proofs.Session.Iteration

/-!
# Calls without their action

An identity may end a call without having run its action, since a ticket has expired, say. Such a
call is an error of its phase that does not depend on the file system, and it leaves the scan as it
was (`exists_answer_of_withholds`). A run can therefore be told without it. To say so, a run is
given by its calls and by what the identity does in the course of each, for an identity may go on
in another way once a call is left out; every run under an identity is one of these
(`trace_eq_turns`). If calls without their action are then left out of a run, no other call
answers differently, and none leaves the scan at another place (`turns_of_thinned`). Only `close`
is no such call: it closes the scan in any case.
-/

namespace TableScan

/-- The identity ends the call without running the action: it refuses, or claims a success. -/
inductive Conduct.Withholds : Conduct → Prop where
  | refusing (message : String) : Withholds (.finish (.error (.identity message)))
  | skipping : Withholds (.finish (.ok ()))

theorem Conduct.Withholds.exists_run {c : Conduct} (h : c.Withholds) :
    ∃ message, ∀ {σ α : Type} (action : σ → Except Error α × σ) (s : σ),
      c.run action s = (.error (.identity message), s) := by
  cases h with
  | refusing message => exact ⟨message, fun _ _ => rfl⟩
  | skipping => exact ⟨_, fun _ _ => rfl⟩

namespace Session

variable {fs : FileSystem} {s s₁ s₂ : Session} {op : Operation}

/-- What the identity does in the course of the next call. -/
def conduct (s : Session) : Conduct :=
  s.impersonation.identity s.impersonation.calls s.impersonation.credentials

theorem call_eq {α : Type} (s : Session) (phase : Phase) (op : String)
    (action : Scan → Except Error α × Scan) :
    s.call phase op action =
      (phase.reported op s.table.location (s.conduct.run action s.scan).1,
        s.called (s.conduct.run action s.scan).2) := rfl

/-! ### One call -/

theorem call_of_withholds (h : s.conduct.Withholds) (phase : Phase) (op : String) :
    ∃ e, phase.isOwn e = true ∧ ∀ {α : Type} (action : Scan → Except Error α × Scan),
      s.call phase op action = (.error e, s.called s.scan) := by
  obtain ⟨message, hrun⟩ := h.exists_run
  have hadmits : phase.admits (.identity message) = false := by cases phase <;> rfl
  refine ⟨phase.report op s.table.location (.identity message),
    (Phase.report_of_not_admits hadmits).1, fun action => ?_⟩
  rw [call_eq, hrun]
  rfl

/-- A call without its action is an error of its phase, the same whatever the file system holds, and
leaves the scan as it was. -/
theorem exists_answer_of_withholds (h : s.conduct.Withholds) (hop : op ≠ .close)
    (fresh : op = .configure → s.scan.position = .unconfigured) :
    ∃ e, op.phase.isOwn e = true ∧
      ∀ fs, s.answer fs op = .error e ∧ s.perform fs op = s.called s.scan := by
  cases op with
  | configure =>
    obtain ⟨e, hown, hcall⟩ := call_of_withholds h .configuration "configure"
    refine ⟨e, hown, fun fs => ?_⟩
    simp only [answer, perform, configure, fresh rfl, hcall]
    exact ⟨rfl, trivial⟩
  | reachedEnd =>
    obtain ⟨e, hown, hcall⟩ := call_of_withholds h .reading "reachedEnd"
    refine ⟨e, hown, fun fs => ?_⟩
    simp only [answer, perform, reachedEnd, hcall]
    exact ⟨rfl, trivial⟩
  | readNext =>
    obtain ⟨e, hown, hcall⟩ := call_of_withholds h .reading "readNext"
    refine ⟨e, hown, fun fs => ?_⟩
    simp only [answer, perform, readNext, hcall]
    exact ⟨rfl, trivial⟩
  | close => exact absurd rfl hop

theorem exists_close_of_withholds (h : s.conduct.Withholds) (opened : s.scan.position ≠ .closed) :
    ∃ e, e.isRead = true ∧ s.close.1 = .error e ∧ s.close.2.scan = s.scan.close := by
  obtain ⟨e, hown, hcall⟩ := call_of_withholds h .reading "close"
  refine ⟨e, hown, ?_⟩
  unfold close
  split
  · rename_i hp
    exact absurd hp opened
  · rw [hcall]
    exact ⟨rfl, rfl⟩

theorem scan_perform_of_withholds (h : s.conduct.Withholds) (hop : op ≠ .close) :
    (s.perform fs op).scan = s.scan := by
  by_cases fresh : op = .configure → s.scan.position = .unconfigured
  · obtain ⟨e, -, hcall⟩ := exists_answer_of_withholds h hop fresh
    rw [(hcall fs).2]
    rfl
  · -- What is configured or closed is not configured again, and the identity is not asked.
    obtain ⟨rfl, hp⟩ := Classical.not_imp.1 fresh
    simp only [perform, configure]
    split
    · rename_i hfresh
      exact absurd hfresh hp
    · rfl
    · rfl

/-! ### Runs -/

/-- Sessions that stand at the same place, and whose identities do the same, answer alike. -/
theorem answer_congr (table : s₁.table = s₂.table) (scan : s₁.scan = s₂.scan)
    (conduct : s₁.conduct = s₂.conduct) (fs : FileSystem) (op : Operation) :
    s₁.answer fs op = s₂.answer fs op ∧ (s₁.perform fs op).scan = (s₂.perform fs op).scan := by
  cases op with
  | configure =>
    simp only [answer, perform, configure, call_eq, table, scan, conduct]
    split
    · exact ⟨rfl, rfl⟩
    · exact ⟨rfl, scan⟩
    · exact ⟨rfl, scan⟩
  | reachedEnd =>
    simp only [answer, perform, reachedEnd, call_eq, table, scan, conduct, true_and]
    rfl
  | readNext =>
    simp only [answer, perform, readNext, call_eq, table, scan, conduct, true_and]
    rfl
  | close =>
    simp only [answer, perform, close, call_eq, table, scan, conduct]
    split
    · exact ⟨rfl, scan⟩
    · exact ⟨rfl, rfl⟩

structure Call where
  operation : Operation
  conduct : Conduct

/-- A call that has been made, what it answered, and the scan that it left behind. -/
structure Turn where
  call : Call
  answer : Except Error Reply
  scan : Scan

def under (s : Session) (c : Conduct) : Session :=
  { s with impersonation := { s.impersonation with identity := fun _ _ => c } }

/-- The turns of a run in which the identity does as each call says. -/
def turns (fs : FileSystem) (s : Session) : List Call → List Turn
  | [] => []
  | call :: calls =>
    let next := (s.under call.conduct).perform fs call.operation
    { call, answer := (s.under call.conduct).answer fs call.operation, scan := next.scan } ::
      next.turns fs calls

/-- The calls of a run under the identity of the session itself. -/
def callsOf (fs : FileSystem) (s : Session) : List Operation → List Call
  | [] => []
  | op :: ops => { operation := op, conduct := s.conduct } :: (s.perform fs op).callsOf fs ops

def trace (fs : FileSystem) (s : Session) : List Operation → List (Except Error Reply × Scan)
  | [] => []
  | op :: ops => (s.answer fs op, (s.perform fs op).scan) :: (s.perform fs op).trace fs ops

theorem turns_congr (table : s₁.table = s₂.table) (scan : s₁.scan = s₂.scan) (fs : FileSystem)
    (calls : List Call) : s₁.turns fs calls = s₂.turns fs calls := by
  induction calls generalizing s₁ s₂ with
  | nil => rfl
  | cons call calls ih =>
    have hunder : (s₁.under call.conduct).table = (s₂.under call.conduct).table := table
    obtain ⟨hanswer, hscan⟩ := answer_congr hunder scan rfl fs call.operation
    have hnext := ih (by rw [table_perform, table_perform, hunder]) hscan
    simp only [turns, hanswer, hscan, hnext]

/-- Every run under the identity of the session is the run of some calls. -/
theorem trace_eq_turns (fs : FileSystem) (s : Session) (ops : List Operation) :
    s.trace fs ops =
      (s.turns fs (s.callsOf fs ops)).map fun turn => (turn.answer, turn.scan) := by
  induction ops generalizing s with
  | nil => rfl
  | cons op ops ih =>
    have hsame : (s.under s.conduct).answer fs op = s.answer fs op ∧
        ((s.under s.conduct).perform fs op).scan = (s.perform fs op).scan := by
      apply answer_congr <;> rfl
    obtain ⟨hanswer, hscan⟩ := hsame
    have hnext : ((s.under s.conduct).perform fs op).turns fs ((s.perform fs op).callsOf fs ops) =
        (s.perform fs op).turns fs ((s.perform fs op).callsOf fs ops) :=
      turns_congr (by rw [table_perform, table_perform]; rfl) hscan fs _
    simp only [trace, callsOf, turns, List.map_cons, hanswer, hscan, hnext, ih]

/-- The second run is the first one without some of the calls that did not have their action. No
call of `close` is left out. -/
inductive Thinned : List Turn → List Turn → Prop where
  | nil : Thinned [] []
  | keep {turns kept : List Turn} (turn : Turn) :
      Thinned turns kept → Thinned (turn :: turns) (turn :: kept)
  | drop {turns kept : List Turn} (turn : Turn) : turn.call.conduct.Withholds →
      turn.call.operation ≠ .close → Thinned turns kept → Thinned (turn :: turns) kept

/-- What is left of a run without calls that did not have their action is the run of the calls that
are left. -/
theorem turns_of_thinned {calls : List Call} {kept : List Turn}
    (h : Thinned (s.turns fs calls) kept) : kept = s.turns fs (kept.map (·.call)) := by
  induction calls generalizing s kept with
  | nil =>
    cases h
    rfl
  | cons call calls ih =>
    cases h with
    | keep turn h => exact congrArg _ (ih h)
    | drop turn hwithholds hop h =>
      refine (ih h).trans (turns_congr ?_ ?_ fs _)
      · exact table_perform fs (s.under call.conduct) call.operation
      · exact scan_perform_of_withholds (s := s.under call.conduct) hwithholds hop

/-- Calls whose action the identity did not run leave no trace and see no data. They are errors of
their phase, the same whatever file system there is, and leave the scan as it was; an open session
is closed by `close` all the same. Of any run, calls without their action can therefore be left
out, closes excepted: every other call answers as before, and leaves the scan at the same place. -/
theorem withheld_calls_leave_no_trace :
    (∀ (s : Session) (op : Operation), s.conduct.Withholds → op ≠ .close →
      (op = .configure → s.scan.position = .unconfigured) →
        ∃ e, op.phase.isOwn e = true ∧
          ∀ fs, s.answer fs op = .error e ∧ (s.perform fs op).scan = s.scan) ∧
    (∀ s : Session, s.conduct.Withholds → s.scan.position ≠ .closed →
      ∃ e, e.isRead = true ∧ s.close.1 = .error e ∧ s.close.2.scan = s.scan.close) ∧
    (∀ (fs : FileSystem) (s : Session) (ops : List Operation),
      s.trace fs ops =
        (s.turns fs (s.callsOf fs ops)).map fun turn => (turn.answer, turn.scan)) ∧
    ∀ (fs : FileSystem) (s : Session) (calls : List Call) (kept : List Turn),
      Thinned (s.turns fs calls) kept → kept = s.turns fs (kept.map (·.call)) := by
  refine ⟨fun s op h hop fresh => ?_, fun s h opened => exists_close_of_withholds h opened,
    trace_eq_turns, fun fs s calls kept h => turns_of_thinned h⟩
  obtain ⟨e, hown, hcall⟩ := exists_answer_of_withholds h hop fresh
  exact ⟨e, hown, fun fs => ⟨(hcall fs).1, by rw [(hcall fs).2]; rfl⟩⟩

/-- Two rows read with a ticket that expires again and again. -/
theorem withheld_calls_leave_no_trace_of_renewed_ticket :
    let fs := threeFiles.fileSystem
    let s := ofTable twoColumns .current
    let expired := s.under (.refuse "ticket expired")
    let opened := (s.configure fs).2.under .skip
    let granted (op : Operation) : Call := { operation := op, conduct := .once }
    let refused (op : Operation) : Call := { operation := op, conduct := .refuse "ticket expired" }
    let skipped (op : Operation) : Call := { operation := op, conduct := .skip }
    let calls := [refused .configure, granted .configure, refused .reachedEnd, granted .reachedEnd,
      skipped .readNext, granted .readNext, skipped .reachedEnd, granted .reachedEnd,
      refused .readNext, granted .readNext]
    let rest := [granted .configure, granted .reachedEnd, granted .readNext, granted .reachedEnd,
      granted .readNext]
    (∃ e, e.isConfig = true ∧ expired.answer fs .configure = .error e ∧
      (expired.perform fs .configure).scan = expired.scan) ∧
    (∃ e, e.isRead = true ∧ opened.close.1 = .error e ∧
      opened.close.2.scan = opened.scan.close) ∧
    Thinned (s.turns fs calls) (s.turns fs rest) ∧
      (s.turns fs rest).map (·.answer.toOption) =
        [some (.flag true), some (.flag false), some (.row [some "x", some "1"]),
          some (.flag false), some (.row [some "y", some "1"])] := by
  intro fs s expired opened granted refused skipped calls rest
  obtain ⟨hcall, hclose, -, hthin⟩ := withheld_calls_leave_no_trace
  obtain ⟨e, hconfig, he⟩ := hcall expired .configure (.refusing _) nofun fun _ => rfl
  have hopened : opened.scan.position ≠ .closed := fun h =>
    absurd (congrArg Position.path? h) (by decide +kernel)
  have hthinned : Thinned (s.turns fs calls) _ :=
    .drop _ (.refusing _) nofun <| .keep _ <| .drop _ (.refusing _) nofun <| .keep _ <|
      .drop _ .skipping nofun <| .keep _ <| .drop _ .skipping nofun <| .keep _ <|
        .drop _ (.refusing _) nofun <| .keep _ .nil
  have hkept := hthin fs s calls _ hthinned
  exact ⟨⟨e, hconfig, he fs⟩, hclose opened .skipping hopened, hkept ▸ hthinned,
    by decide +kernel⟩

end Session

end TableScan
