import TableScan.Proofs.Session.Draining
import TableScan.Proofs.Session.Withheld

/-!
# Trying again

A session that could not be configured can be configured again, when the files are there or the
identity is willing. A failed attempt may leave splits behind, for they are enumerated before the
first of them is opened. Nothing looks at those splits: an attempt that fails leaves the session
unconfigured (`Unconfigured.configure`), and one that succeeds replaces them. So a session that was
configured in the end answers like one that was configured at once, in every run after that and
whatever becomes of the files meanwhile (`failed_attempts_leave_no_trace`).
-/

namespace TableScan

/-- In each call the identity refuses, or it invokes the action once and reports what the action
reported. -/
def Identity.RunsOnceOrRefuses (identity : Identity) : Prop :=
  ∀ earlier credentials, (∃ e, identity earlier credentials = .finish (.error e)) ∨
    identity earlier credentials = .once

/-- The identity as it goes on after some calls. -/
def Identity.since (identity : Identity) (calls : List Credentials) : Identity :=
  fun earlier => identity (earlier ++ calls)

namespace Scan

variable {t : Table} {fs : FileSystem} {s : Scan} {e : Error}

theorem configure_congr (t : Table) (fs : FileSystem) (s₁ s₂ : Scan) :
    (configure t fs s₁).1 = (configure t fs s₂).1 ∧
      ((configure t fs s₁).1 = .ok () → (configure t fs s₁).2 = (configure t fs s₂).2) := by
  unfold configure
  split
  · exact ⟨rfl, nofun⟩
  · split
    · exact ⟨rfl, nofun⟩
    · exact ⟨rfl, fun _ => rfl⟩

theorem position_of_configure_eq_error (h : (configure t fs s).1 = .error e) :
    (configure t fs s).2.position = s.position := by
  unfold configure at h ⊢
  split at h
  · rfl
  · split at h
    · rfl
    · cases h

end Scan

namespace Session

variable {t : Table} {identity : Identity} {fs : FileSystem} {s s' s₁ s₂ : Session} {e : Error}

/-! ### Attempts -/

def attempted (s : Session) (attempts : List FileSystem) : Session :=
  attempts.foldl (fun s fs => (s.configure fs).2) s

def outcomes (s : Session) : List FileSystem → List (Except Error Bool)
  | [] => []
  | fs :: attempts => (s.configure fs).1 :: (s.configure fs).2.outcomes attempts

/-- A session of a table under an identity that has not been configured, whatever splits it has. -/
structure Unconfigured (t : Table) (identity : Identity) (s : Session) : Prop where
  table : s.table = t
  identity : s.impersonation.identity = identity
  credentials : s.impersonation.credentials = t.params.credentials
  position : s.scan.position = .unconfigured

theorem Unconfigured.configure (willing : identity.RunsOnceOrRefuses)
    (h : s.Unconfigured t identity) (failed : (s.configure fs).1 = .error e) :
    (s.configure fs).2.Unconfigured t identity := by
  rw [configure_of_unconfigured h.position, call_eq] at failed ⊢
  refine ⟨h.table, h.identity, h.credentials, ?_⟩
  show (s.conduct.run (Scan.configure s.table fs) s.scan).2.position = .unconfigured
  rcases willing s.impersonation.calls s.impersonation.credentials with ⟨e', hc⟩ | hc
  · have hconduct : s.conduct = .finish (.error e') := by rw [conduct, h.identity, hc]
    rw [hconduct]
    exact h.position
  · have hconduct : s.conduct = .once := by rw [conduct, h.identity, hc]
    rw [hconduct, Conduct.run_once] at failed ⊢
    cases hscan : (Scan.configure s.table fs s.scan).1 with
    | error e' => exact (Scan.position_of_configure_eq_error hscan).trans h.position
    | ok =>
      rw [hscan] at failed
      cases failed

theorem Unconfigured.attempted {attempts : List FileSystem}
    (willing : identity.RunsOnceOrRefuses) (h : s.Unconfigured t identity)
    (failed : ∀ outcome ∈ s.outcomes attempts, ∃ e, outcome = .error e) :
    (s.attempted attempts).Unconfigured t identity := by
  induction attempts generalizing s with
  | nil => exact h
  | cons fs attempts ih =>
    rw [outcomes, List.forall_mem_cons] at failed
    obtain ⟨⟨e, he⟩, hrest⟩ := failed
    exact ih (h.configure willing he) hrest

theorem Unconfigured.out_of_turn (h : s.Unconfigured t identity) :
    s.fileName = none ∧ s.physicalSchema = none ∧
      (s.conduct = .once →
        (∀ fs, (s.reachedEnd fs).1 = .error (.state (.beforeConfigure "reachedEnd"))) ∧
          s.readNext.1 = .error (.state (.beforeConfigure "readNext"))) := by
  refine ⟨?_, ?_, fun runs => ⟨fun fs => ?_, ?_⟩⟩
  · rw [fileName, h.position]
    rfl
  · rw [physicalSchema, h.position]
    rfl
  · have hadvance : (Scan.advance s.table fs s.scan).1 =
        .error (.state (.beforeConfigure "reachedEnd")) := by
      simp only [Scan.advance, h.position]
    simp only [reachedEnd, call_eq, runs, Conduct.run_once, hadvance]
    rfl
  · have hrow : Scan.currentRow s.table s.scan =
        .error (.state (.beforeConfigure "readNext")) := by
      simp only [Scan.currentRow, h.position]
    simp only [readNext, call_eq, runs, Conduct.run_once, hrow]
    rfl

/-! ### Runs in step -/

/-- Sessions of one table whose identities will do the same in every call from now on. -/
structure GoesOnAs (s₁ s₂ : Session) : Prop where
  table : s₁.table = s₂.table
  credentials : s₁.impersonation.credentials = s₂.impersonation.credentials
  identity : ∀ earlier, s₁.impersonation.identity (earlier ++ s₁.impersonation.calls) =
    s₂.impersonation.identity (earlier ++ s₂.impersonation.calls)

theorem GoesOnAs.conduct (h : s₁.GoesOnAs s₂) : s₁.conduct = s₂.conduct := by
  have := congrFun (h.identity []) s₁.impersonation.credentials
  rw [List.nil_append, List.nil_append] at this
  unfold Session.conduct
  rw [this, h.credentials]

theorem GoesOnAs.called (h : s₁.GoesOnAs s₂) (scan₁ scan₂ : Scan) :
    (s₁.called scan₁).GoesOnAs (s₂.called scan₂) := by
  refine ⟨h.table, h.credentials, fun earlier => ?_⟩
  have := h.identity (earlier ++ [s₁.impersonation.credentials])
  rw [List.append_assoc, List.append_assoc] at this
  exact this.trans (by rw [h.credentials]; rfl)

theorem GoesOnAs.perform (h : s₁.GoesOnAs s₂) (position : s₁.scan.position = s₂.scan.position)
    (fs : FileSystem) (op : Operation) : (s₁.perform fs op).GoesOnAs (s₂.perform fs op) := by
  cases op with
  | configure =>
    simp only [Session.perform, Session.configure, position, call_eq]
    split
    · exact h.called _ _
    · exact h
    · exact h
  | reachedEnd => exact h.called _ _
  | readNext => exact h.called _ _
  | close =>
    simp only [Session.perform, Session.close, position, call_eq]
    split
    · exact h
    · exact h.called _ _

/-- All that a caller sees of a call: its answer, and what the session shows afterwards. -/
structure Observation where
  answer : Except Error Reply
  table : Table
  splits : List Split
  fileName : Option String
  physicalSchema : Option (List PhysicalField)

def observe (s : Session) (fs : FileSystem) (op : Operation) : Observation :=
  let next := s.perform fs op
  { answer := s.answer fs op, table := next.table, splits := next.scan.splits
    fileName := next.fileName, physicalSchema := next.physicalSchema }

/-- What is seen of calls, each on the files as they are at the time. -/
def observed (s : Session) : List (FileSystem × Operation) → List Observation
  | [] => []
  | (fs, op) :: calls => s.observe fs op :: (s.perform fs op).observed calls

theorem observe_congr (table : (s₁.perform fs op).table = (s₂.perform fs op).table)
    (answer : s₁.answer fs op = s₂.answer fs op)
    (scan : (s₁.perform fs op).scan = (s₂.perform fs op).scan) :
    s₁.observe fs op = s₂.observe fs op := by
  simp only [observe, fileName, physicalSchema, table, answer, scan]

theorem GoesOnAs.observed (h : s₁.GoesOnAs s₂) (scan : s₁.scan = s₂.scan)
    (calls : List (FileSystem × Operation)) : s₁.observed calls = s₂.observed calls := by
  induction calls generalizing s₁ s₂ with
  | nil => rfl
  | cons call calls ih =>
    obtain ⟨fs, op⟩ := call
    have hnext := h.perform (congrArg Scan.position scan) fs op
    obtain ⟨hanswer, hscan⟩ := answer_congr h.table scan h.conduct fs op
    rw [Session.observed, Session.observed, observe_congr hnext.table hanswer hscan,
      ih hnext hscan]

/-! ### A session of its own -/

/-- Sessions that have not been configured answer an attempt alike, and if it succeeds they stand at
the same place. -/
theorem GoesOnAs.configure (h : s₁.GoesOnAs s₂) (fresh₁ : s₁.scan.position = .unconfigured)
    (fresh₂ : s₂.scan.position = .unconfigured) (fs : FileSystem) :
    (s₁.configure fs).1 = (s₂.configure fs).1 ∧
      ((s₁.configure fs).1 = .ok true → (s₁.configure fs).2.scan = (s₂.configure fs).2.scan) := by
  obtain ⟨houtcome, hsame⟩ := Scan.configure_congr s₂.table fs s₁.scan s₂.scan
  have hresult : (s₁.configure fs).1 = (s₂.configure fs).1 := by
    obtain ⟨hrun, -⟩ := Conduct.run_agree houtcome s₂.conduct
    simp only [configure_of_unconfigured fresh₁, configure_of_unconfigured fresh₂, call_eq,
      h.table, h.conduct, hrun]
  refine ⟨hresult, fun hok => ?_⟩
  obtain ⟨-, h₁⟩ := configure_eq_ok fresh₁ (Prod.ext hok rfl)
  obtain ⟨-, h₂⟩ := configure_eq_ok fresh₂ (Prod.ext (hresult ▸ hok) rfl)
  rw [h.table] at h₁
  rw [h₁, h₂] at hsame
  exact hsame rfl

/-- Attempts to configure a session that failed leave it unconfigured, and have no influence on what
comes after them. The next attempt answers as that of a session that is new, whose identity goes on
in the same way, and if it succeeds no later call tells the two sessions apart. -/
theorem failed_attempts_leave_no_trace (t : Table) (willing : identity.RunsOnceOrRefuses)
    {attempts : List FileSystem}
    (failed : ∀ outcome ∈ (ofTable t identity).outcomes attempts, ∃ e, outcome = .error e)
    (left : (ofTable t identity).attempted attempts = s) :
    let new := ofTable t (identity.since s.impersonation.calls)
    (s.fileName = none ∧ s.physicalSchema = none ∧
      (s.conduct = .once →
        (∀ fs, (s.reachedEnd fs).1 = .error (.state (.beforeConfigure "reachedEnd"))) ∧
          s.readNext.1 = .error (.state (.beforeConfigure "readNext")))) ∧
    ∀ fs, (s.configure fs).1 = (new.configure fs).1 ∧
      ((s.configure fs).1 = .ok true → ∀ calls : List (FileSystem × Operation),
        s.observed ((fs, .configure) :: calls) = new.observed ((fs, .configure) :: calls)) := by
  intro new
  have hs : s.Unconfigured t identity :=
    left ▸ Unconfigured.attempted willing ⟨rfl, rfl, rfl, rfl⟩ failed
  have halike : s.GoesOnAs new := by
    refine ⟨hs.table, hs.credentials, fun earlier => ?_⟩
    rw [hs.identity]
    show _ = identity (earlier ++ [] ++ s.impersonation.calls)
    rw [List.append_nil]
  refine ⟨hs.out_of_turn, fun fs => ?_⟩
  obtain ⟨hresult, hsame⟩ := halike.configure hs.position rfl fs
  refine ⟨hresult, fun hok calls => ?_⟩
  have hnext := halike.perform hs.position fs .configure
  rw [observed, observed, observe_congr hnext.table (congrArg (Except.map Reply.flag) hresult)
    (hsame hok), hnext.observed (hsame hok)]

def shutFile : MemoryStore :=
  { files :=
      [{ path := "/t/k=9/z", data := { content := [10] }, length := 1,
         openFailure := some "denied" }] }

/-- An identity that refuses its second call. -/
def withoutSecondTicket : Identity := fun earlier _ =>
  if earlier.length = 1 then .refuse "ticket expired" else .once

/-- No files at first, then no ticket, and then a file that does not open. -/
def failingAttempts : List FileSystem :=
  [MemoryStore.fileSystem { files := [] }, threeFiles.fileSystem, shutFile.fileSystem]

/-- The session that these attempts leave behind, with the split of the file that did not open. -/
def triedThrice : Session := (ofTable twoColumns withoutSecondTicket).attempted failingAttempts

/-- A run on three files, of which no other than the first can be found after its first row. -/
def runOnThreeFiles : List (FileSystem × Operation) :=
  [(threeFiles.fileSystem, .reachedEnd), (threeFiles.fileSystem, .readNext),
    (shutFile.fileSystem, .reachedEnd), (shutFile.fileSystem, .reachedEnd)]

theorem failed_attempts_leave_no_trace_of_shut_file :
    let fs := threeFiles.fileSystem
    let new := ofTable twoColumns (withoutSecondTicket.since triedThrice.impersonation.calls)
    (∀ outcome ∈ (ofTable twoColumns withoutSecondTicket).outcomes failingAttempts,
        outcome.toOption = none) ∧
      triedThrice.scan.splits.map (·.path) = ["/t/k=9/z"] ∧ triedThrice.fileName = none ∧
      (triedThrice.configure fs).1 = .ok true ∧
      triedThrice.observed ((fs, .configure) :: runOnThreeFiles) =
        new.observed ((fs, .configure) :: runOnThreeFiles) ∧
      (new.observed ((fs, .configure) :: runOnThreeFiles)).map (·.answer.toOption) =
        [some (.flag true), some (.flag false), some (.row [some "x", some "1"]),
          some (.flag false), none] := by
  intro fs new
  have willing : withoutSecondTicket.RunsOnceOrRefuses := by
    intro earlier credentials
    by_cases h : earlier.length = 1
    · exact .inl ⟨_, if_pos h⟩
    · exact .inr (if_neg h)
  have failed : ∀ outcome ∈ (ofTable twoColumns withoutSecondTicket).outcomes failingAttempts,
      outcome.toOption = none := by decide +kernel
  have hok : (triedThrice.configure fs).1 = .ok true := eq_ok_of_toOption (by decide +kernel)
  obtain ⟨⟨hname, -, -⟩, hnext⟩ := failed_attempts_leave_no_trace twoColumns willing
    (fun outcome h => exists_error_of_toOption (failed outcome h)) (Eq.refl triedThrice)
  exact ⟨failed, by decide +kernel, hname, hok, (hnext fs).2 hok runOnThreeFiles,
    by decide +kernel⟩

end Session

end TableScan
