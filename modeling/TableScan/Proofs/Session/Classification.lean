import TableScan.ColumnList
import TableScan.FileSystem.Memory
import TableScan.Proofs.Reader.Spellings
import TableScan.Proofs.Session.Runs

/-!
# The kinds of errors

Whatever goes wrong below it, a call fails with an error of its phase: a configuration error while
a table is set up, a read error after that, or the error of a call out of turn. Errors that are of
that kind pass through a phase as they are, and any other becomes the source of one that is
(`Phase.report_of_not_admits`), so none is wrapped twice and the words of all of them are kept. Of
a session this holds call by call (`Session.admits_of_answer`), in whatever state it is and under
whatever identity.
-/

namespace TableScan

/-! ### Sources -/

namespace Error

/-- What an error was raised for, if it says so. -/
def source? : Error → Option Cause
  | config _ => none
  | configFor _ cause => some cause
  | read _ _ cause => some cause
  | fs _ _ cause => some (.io cause)
  | identity _ => none
  | state _ => none

theorem causes_eq (e : Error) : e.causes = (e.source?.map Cause.chain).getD [] := by
  cases e <;> simp [causes, source?, Cause.chain]

end Error

/-! ### Phases -/

namespace Phase

/-- Whether an error is of the kind that a phase reports. -/
def isOwn : Phase → Error → Bool
  | configuration, e => e.isConfig
  | reading, e => e.isRead

/-- Whether an error passes through a phase as it is. -/
def admits (phase : Phase) (e : Error) : Bool := phase.isOwn e || e.isState

variable {α : Type} {phase : Phase} {op location : String} {e : Error}

theorem admits_iff : phase.admits e = true ↔ phase.isOwn e = true ∨ e.isState = true := by
  rw [admits, Bool.or_eq_true]

theorem report_of_admits (h : phase.admits e = true) : phase.report op location e = e := by
  cases phase <;> exact if_pos h

theorem report_of_not_admits (h : phase.admits e = false) :
    phase.isOwn (phase.report op location e) = true ∧
      (phase.report op location e).source? = some (.error e) := by
  cases phase with
  | configuration =>
    have hreport :
        configuration.report op location e = .configFor (.phase op location) (.error e) :=
      if_neg (Bool.eq_false_iff.1 h)
    rw [hreport]
    exact ⟨rfl, rfl⟩
  | reading =>
    have hreport : reading.report op location e = .read op location (.error e) :=
      if_neg (Bool.eq_false_iff.1 h)
    rw [hreport]
    exact ⟨rfl, rfl⟩

theorem admits_report (phase : Phase) (op location : String) (e : Error) :
    phase.admits (phase.report op location e) = true := by
  cases h : phase.admits e with
  | true => rwa [report_of_admits h]
  | false => exact admits_iff.2 (.inl (report_of_not_admits h).1)

theorem admits_of_reported {result : Except Error α}
    (h : phase.reported op location result = .error e) : phase.admits e = true := by
  cases result with
  | ok a => cases h
  | error e' =>
    cases h
    exact admits_report phase op location e'

end Phase

/-! ### Tables -/

theorem Format.isConfig_of_parse {tag : String} {e : Error} (h : Format.parse tag = .error e) :
    e.isConfig = true := by
  unfold parse at h
  split at h
  · cases h
  · cases h
    rfl

theorem Delimiter.isConfig_of_parse {spelling : Option String} {e : Error}
    (h : Delimiter.parse spelling = .error e) : e.isConfig = true := by
  obtain ⟨fault, rfl⟩ := exists_fault_of_parse h
  rfl

theorem ReaderSettings.isConfig_of_ofParams {format : Format} {p : Params} {e : Error}
    (h : ofParams format p = .error e) : e.isConfig = true := by
  cases format with
  | text =>
    obtain htext | ⟨text, -, h⟩ := bind_eq_error h
    · obtain hdelimiter | ⟨delimiter, -, h⟩ := bind_eq_error htext
      · exact Delimiter.isConfig_of_parse hdelimiter
      · cases h
    · cases h
  | columnar encoding => cases h

namespace Table

theorem isConfig_of_ofParams {format : Format} {p : Params} {e : Error}
    (h : ofParams format p = .error e) : e.isConfig = true := by
  unfold ofParams at h
  split at h
  · cases h
    rfl
  · split at h
    · cases h
    · rename_i hsettings
      cases h
      exact ReaderSettings.isConfig_of_ofParams hsettings

theorem isConfig_of_ofTag {tag : String} {p : Params} {e : Error} (h : ofTag tag p = .error e) :
    e.isConfig = true := by
  obtain hformat | ⟨format, -, h⟩ := bind_eq_error h
  · exact Format.isConfig_of_parse hformat
  · exact isConfig_of_ofParams h

end Table

/-! ### Calls -/

def Operation.phase : Operation → Phase
  | configure => .configuration
  | reachedEnd => .reading
  | readNext => .reading
  | close => .reading

/-- What a call gives if it does not fail. -/
inductive Reply where
  | flag (b : Bool)
  | row (r : Row)
  deriving DecidableEq, Repr

namespace Session

def answer (fs : FileSystem) (s : Session) : Operation → Except Error Reply
  | .configure => (s.configure fs).1.map .flag
  | .reachedEnd => (s.reachedEnd fs).1.map .flag
  | .readNext => s.readNext.1.map .row
  | .close => s.close.1.map .flag

theorem admits_of_call {α : Type} {phase : Phase} {op : String}
    {action : Scan → Except Error α × Scan} {s : Session} {e : Error}
    (h : (s.call phase op action).1 = .error e) : phase.admits e = true :=
  Phase.admits_of_reported h

theorem admits_of_configure {fs : FileSystem} {s : Session} {e : Error}
    (h : (s.configure fs).1 = .error e) : Phase.configuration.admits e = true := by
  unfold configure at h
  split at h
  · exact admits_of_call (map_eq_error h)
  · cases h
    rfl
  · cases h

theorem admits_of_close {s : Session} {e : Error} (h : s.close.1 = .error e) :
    Phase.reading.admits e = true := by
  unfold close at h
  split at h
  · cases h
  · exact admits_of_call (map_eq_error h)

/-- Every call fails with an error of its phase, or as a call out of turn. -/
theorem admits_of_answer {fs : FileSystem} {s : Session} {op : Operation} {e : Error}
    (h : s.answer fs op = .error e) : op.phase.admits e = true := by
  cases op with
  | configure => exact admits_of_configure (map_eq_error h)
  | reachedEnd =>
    have hcall : (s.call .reading "reachedEnd" (Scan.advance s.table fs)).1.map not = .error e :=
      map_eq_error h
    exact admits_of_call (map_eq_error hcall)
  | readNext => exact admits_of_call (map_eq_error h)
  | close => exact admits_of_close (map_eq_error h)

end Session

theorem admits_of_openSession {tag : String} {p : Params} {fs : FileSystem} {identity : Identity}
    {e : Error} (h : openSession tag p fs identity = .error e) :
    Phase.configuration.admits e = true := by
  obtain htable | ⟨table, -, h⟩ := bind_eq_error h
  · exact Phase.admits_iff.2 (.inl (Table.isConfig_of_ofTag htable))
  · obtain hconfigure | ⟨b, -, h⟩ := bind_eq_error h
    · have hfailed : ((Session.ofTable table identity).configure fs).1 = .error e := hconfigure
      exact Session.admits_of_configure hfailed
    · cases h

theorem admits_of_columnList {format : Format} {fs : FileSystem} {location : String}
    {options : Options} {imp : Impersonation} {e : Error}
    (h : (columnList format fs location options imp).1 = .error e) :
    Phase.configuration.admits e = true := by
  unfold columnList at h
  split at h
  · exact Phase.admits_of_reported h
  · cases h
    rfl

/-- Every error is of the phase it comes up in. Calls on a session, the opening of one and the
listing of columns fail with no errors but those of their phase and those of calls out of turn. A
phase reports such an error of any action as it is, and any other as an error of its own whose
source it is. -/
theorem errors_are_classified_by_phase :
    (∀ (s : Session) (fs : FileSystem) (op : Operation) (e : Error),
      s.answer fs op = .error e → op.phase.isOwn e = true ∨ e.isState = true) ∧
    (∀ (tag : String) (p : Params) (fs : FileSystem) (identity : Identity) (e : Error),
      openSession tag p fs identity = .error e → e.isConfig = true ∨ e.isState = true) ∧
    (∀ (format : Format) (fs : FileSystem) (location : String) (options : Options)
        (imp : Impersonation) (e : Error),
      (columnList format fs location options imp).1 = .error e →
        e.isConfig = true ∨ e.isState = true) ∧
    ∀ {σ α : Type} (imp : Impersonation) (phase : Phase) (op location : String)
        (action : σ → Except Error α × σ) (s : σ) (e : Error),
      (imp.run action s).1 = .error e →
        (phase.isOwn e = true ∨ e.isState = true →
          (imp.runPhase phase op location action s).1 = .error e) ∧
        (¬ (phase.isOwn e = true ∨ e.isState = true) →
          ∃ e', (imp.runPhase phase op location action s).1 = .error e' ∧
            phase.isOwn e' = true ∧ e'.source? = some (.error e) ∧
            e'.causes = e.message :: e.causes) := by
  refine ⟨fun s fs op e h => ?_, fun tag p fs identity e h => ?_,
    fun format fs location options imp e h => ?_, fun imp phase op location action s e h => ?_⟩
  · exact Phase.admits_iff.1 (Session.admits_of_answer h)
  · exact Phase.admits_iff.1 (admits_of_openSession h)
  · exact Phase.admits_iff.1 (admits_of_columnList h)
  · have hreported : (imp.runPhase phase op location action s).1 =
        .error (phase.report op location e) := congrArg (phase.reported op location) h
    rw [hreported, ← Phase.admits_iff]
    refine ⟨fun hadmits => ?_, fun hadmits => ?_⟩
    · rw [Phase.report_of_admits hadmits]
    · obtain ⟨hown, hsource⟩ := Phase.report_of_not_admits (Bool.eq_false_iff.2 hadmits)
      refine ⟨_, rfl, hown, hsource, ?_⟩
      rw [Error.causes_eq, hsource]
      rfl

def lockedDirectory : MemoryStore :=
  { files := [], directories := ["/t"], failures := [(.listing, "denied")] }

theorem errors_are_classified_by_phase_of_locked_directory :
    let fs := lockedDirectory.fileSystem
    let s := Session.ofTable
      { format := .text
        params := { location := "/t" }
        settings := { text := {}, batchSize := 1, textSchema := [] } } .current
    let fails (e : Error) (n : Nat) : Except Error Unit × Nat := (.error e, n)
    let denied : Error := .fs "open" "/t/b" (.other "denied")
    let early : Error := .state .notPositioned
    (∃ e, s.answer fs .readNext = .error e ∧ (e.isRead = true ∨ e.isState = true)) ∧
    (∃ e, openSession "text" { location := "/t" } fs .current = .error e ∧
      (e.isConfig = true ∨ e.isState = true)) ∧
    (∃ e, (columnList (.columnar .orc) fs "/t" {} .current).1 = .error e ∧
      (e.isConfig = true ∨ e.isState = true)) ∧
    (Impersonation.current.runPhase .reading "readNext" "/t" (fails early) 0).1 = .error early ∧
    ∃ e, (Impersonation.current.runPhase .reading "reachedEnd" "/t" (fails denied) 0).1 =
        .error e ∧
      e.isRead = true ∧
      e.causes = ["filesystem error during open on '/t/b': denied", "denied"] := by
  intro fs s fails denied early
  obtain ⟨hcalls, hopening, hcolumns, hphase⟩ := errors_are_classified_by_phase
  have hanswer : ∃ e, s.answer fs .readNext = .error e :=
    exists_error_of_toOption (by decide +kernel)
  have hopen : ∃ e, openSession "text" { location := "/t" } fs .current = .error e :=
    exists_error_of_toOption (by decide +kernel)
  have hlist : ∃ e, (columnList (.columnar .orc) fs "/t" {} .current).1 = .error e :=
    exists_error_of_toOption (by decide +kernel)
  refine ⟨hanswer.imp fun e h => ⟨h, hcalls s fs .readNext e h⟩,
    hopen.imp fun e h => ⟨h, hopening _ _ _ _ e h⟩,
    hlist.imp fun e h => ⟨h, hcolumns _ _ _ _ _ e h⟩,
    (hphase .current .reading "readNext" "/t" (fails early) 0 early rfl).1 (.inr rfl), ?_⟩
  obtain ⟨e, hrun, hown, -, hcauses⟩ :=
    (hphase .current .reading "reachedEnd" "/t" (fails denied) 0 denied rfl).2 (by decide)
  exact ⟨e, hrun, hown, hcauses.trans (by decide +kernel)⟩

end TableScan
