import TableScan.Proofs.Scan.Enumeration
import TableScan.Proofs.Session.Placement

/-!
# Enumerations in a session

A session enumerates its splits when it is configured, and the first of them is opened at once. An
enumeration that succeeds has a first split (`openAt_of_enumerateSplits`), and a step opens a later
split only if there is one, so no split is asked for that is not in the list. The error for that is
therefore none of a session's own: where a call answers it, it is one that the file system or the
identity has made up (`reports_or_claims`).
-/

namespace TableScan

/-- A split was asked for that is not in the list. -/
def Error.isOutOfRange : Error → Bool
  | state (.splitOutOfRange _ _) => true
  | _ => false

variable {e : Error}

theorem Error.isState_of_isOutOfRange (h : e.isOutOfRange = true) : e.isState = true := by
  cases e with
  | state fault => rfl
  | _ => cases h

/-- A file system gives the error itself. -/
inductive FileSystem.Reports (fs : FileSystem) : Error → Prop where
  | isPresent {path : String} {e : Error} : fs.isPresent path = .error e → Reports fs e
  | isDirectory {path : String} {e : Error} : fs.isDirectory path = .error e → Reports fs e
  | status {path : String} {e : Error} : fs.status path = .error e → Reports fs e
  | listFiles {path : String} {recursive : Bool} {e : Error} :
      fs.listFiles path recursive = .error e → Reports fs e
  | openFile {path : String} {e : Error} : fs.openFile path = .error e → Reports fs e

theorem FileSystem.Refuses.reports {fs : FileSystem} {location : String} {options : Options}
    (h : fs.Refuses location options e) : fs.Reports e := by
  cases h with
  | isPresent refused => exact .isPresent refused
  | status _ refused => exact .status refused
  | isDirectory _ _ refused => exact .isDirectory refused
  | listFiles _ _ _ refused => exact .listFiles refused

/-- The identity ends the call with an error that was not reported to it. -/
def Conduct.MakesUp (c : Conduct) (e : Error) : Prop :=
  ∃ reports, c.Exchange reports (.error e) ∧ .error e ∉ reports

/-- A call that is out of turn has that from its action or from the identity. -/
theorem Conduct.eq_error_or_makesUp {σ α : Type} {action : σ → Except Error α × σ} {s : σ}
    {c : Conduct} (h : (c.run action s).1 = .error e) (own : e.isState = true) :
    (action s).1 = .error e ∨ c.MakesUp e := by
  obtain ⟨reports, hexchange, honce⟩ := exists_claim_of_isState h own
  by_cases hmem : .error e ∈ reports
  · exact .inl (map_eq_error (honce.eq_of_mem hmem own))
  · exact .inr ⟨reports, hexchange, hmem⟩

namespace SplitReader

variable {fs : FileSystem} {r : SplitReader}

theorem isRead_of_advance (h : r.advance.1 = .error e) : e.isRead = true := by
  cases r with
  | text r =>
    replace h : r.advance.1 = .error e := h
    unfold TextReader.advance at h
    split at h
    · cases h
      rfl
    · cases h
    · split at h
      · cases h
        rfl
      · cases h
  | columnar c =>
    replace h : c.advance.1 = .error e := h
    unfold Columnar.Cursor.advance at h
    split at h
    · cases h
    · split at h
      · cases h
      · cases h
      · cases h
        rfl

theorem isOutOfRange_of_fieldValue {i : Nat} (h : r.fieldValue i = .error e) :
    e.isOutOfRange = false := by
  obtain ⟨c, -, ⟨-, rfl⟩ | ⟨type, cell, fault, -, rfl⟩⟩ := fieldValue_error_cases h
  · rfl
  · rfl

theorem openFile_of_openSplit {format : Format} {split : Split} {settings : ReaderSettings}
    (h : openSplit format fs split settings = .error e) (own : e.isState = true) :
    fs.openFile split.path = .error e := by
  cases format with
  | text =>
    obtain hopen | ⟨handle, -, hseek⟩ := bind_eq_error (map_eq_error h)
    · exact hopen
    · dsimp only at hseek
      split at hseek
      · cases hseek
        cases own
      · cases hseek
  | columnar encoding =>
    obtain hopen | ⟨handle, -, hdecode⟩ := bind_eq_error (map_eq_error h)
    · exact hopen
    · split at hdecode
      · cases hdecode
      · cases hdecode
        cases own

end SplitReader

namespace Scan

variable {t : Table} {fs : FileSystem} {s : Scan} {splits : List Split}

theorem openAt_of_enumerateSplits
    (h : enumerateSplits fs t.location t.format t.params.options = .ok splits) :
    ∃ first rest, splits = first :: rest ∧ openAt t fs splits 0 = openSplit t fs 0 first := by
  obtain ⟨first, rest, rfl⟩ := List.exists_cons_of_ne_nil (enumerateSplits_ne_nil h)
  exact ⟨first, rest, rfl, rfl⟩

theorem reports_of_configure (h : (configure t fs s).1 = .error e) (own : e.isState = true) :
    fs.Reports e := by
  unfold configure at h
  split at h
  · rename_i e' henumerate
    cases h
    rcases enumerateSplits_eq_error_iff.1 henumerate with hrefuses | ⟨fault, rfl, -⟩
    · exact hrefuses.reports
    · cases own
  · rename_i splits hsplits
    obtain ⟨first, rest, -, hfirst⟩ := openAt_of_enumerateSplits hsplits
    rw [hfirst] at h
    split at h
    · rename_i e' hopen
      cases h
      exact .openFile (SplitReader.openFile_of_openSplit (map_eq_error hopen) own)
    · cases h

theorem reports_of_stepFrom {index : Nat} {reader : SplitReader} {values : List (Option String)}
    (h : (stepFrom t fs splits index reader values).1 = .error e) (own : e.isState = true) :
    fs.Reports e := by
  fun_induction stepFrom t fs splits index reader values with
  | case1 => cases h
  | case2 index reader values e' reader' ha =>
    cases h
    have hread := SplitReader.isRead_of_advance (congrArg Prod.fst ha)
    cases e <;> simp [Error.isRead, Error.isState] at hread own
  | case3 => cases h
  | case4 index reader values reader' ha split hs e' ho =>
    cases h
    exact .openFile (SplitReader.openFile_of_openSplit ho own)
  | case5 index reader values reader₁ ha split hs reader₂ ho ih => exact ih h

theorem reports_of_advance (h : (advance t fs s).1 = .error e) (out : e.isOutOfRange = true) :
    fs.Reports e := by
  unfold advance at h
  split at h
  · cases h
    cases out
  · cases h
    cases out
  · cases h
  · cases h
    cases out
  · exact reports_of_stepFrom h (Error.isState_of_isOutOfRange out)

theorem isOutOfRange_of_currentRow (h : currentRow t s = .error e) : e.isOutOfRange = false := by
  unfold currentRow at h
  split at h
  · obtain ⟨source, -, hcell⟩ := exists_of_mapM_eq_error h
    cases source with
    | data i => exact SplitReader.isOutOfRange_of_fieldValue hcell
    | partition place => cases hcell
    | missing => cases hcell
  all_goals
    cases h
    rfl

end Scan

namespace Session

variable {s : Session} {fs : FileSystem} {op : Operation}

theorem eq_error_or_makesUp_of_call {α : Type} {phase : Phase} {name : String}
    {action : Scan → Except Error α × Scan} (h : (s.call phase name action).1 = .error e)
    (own : e.isState = true) : (action s.scan).1 = .error e ∨ s.conduct.MakesUp e := by
  rw [call_eq] at h
  exact Conduct.eq_error_or_makesUp (Phase.eq_error_of_isState h own) own

/-- No call asks for a split that is not in the list. -/
theorem reports_or_makesUp (h : s.answer fs op = .error e) (out : e.isOutOfRange = true) :
    fs.Reports e ∨ s.conduct.MakesUp e := by
  have own := Error.isState_of_isOutOfRange out
  cases op with
  | configure =>
    replace h := map_eq_error h
    unfold Session.configure at h
    split at h
    · exact (eq_error_or_makesUp_of_call (map_eq_error h) own).imp_left
        fun hscan => Scan.reports_of_configure hscan own
    · cases h
      cases out
    · cases h
  | reachedEnd =>
    replace h : (s.call .reading "reachedEnd" (Scan.advance s.table fs)).1.map not = .error e :=
      map_eq_error h
    exact (eq_error_or_makesUp_of_call (map_eq_error h) own).imp_left
      fun hscan => Scan.reports_of_advance hscan out
  | readNext =>
    refine (eq_error_or_makesUp_of_call (map_eq_error h) own).imp_left fun hscan => ?_
    rw [Scan.isOutOfRange_of_currentRow hscan] at out
    cases out
  | close =>
    replace h := map_eq_error h
    unfold Session.close at h
    split at h
    · cases h
    · exact (eq_error_or_makesUp_of_call (map_eq_error h) own).imp_left fun hscan => by cases hscan

/-- Enumerating the splits of a table succeeds exactly if there are files to be read, and then its
splits are those of the files, of each file in turn: the whole of it, or the ranges that tile it.
It fails exactly if the file system refuses one of the questions that come up, with the error that
the file system gives, or if there is nothing to be read, with an error of configuration. So there
is a first split to be opened, and in no run of a session does a call ask for a split that is not
there: an error that says so is one that the file system or the identity has made up. -/
theorem enumeration_is_exact (fs : FileSystem) (location : String) (format : Format)
    (options : Options) :
    (∀ splits, enumerateSplits fs location format options = .ok splits ↔
      ∃ files cut, fs.Lists location options files ∧ files ≠ [] ∧
        (∀ file, CutInto format options file (cut file)) ∧ splits = files.flatMap cut) ∧
    (∀ splits, enumerateSplits fs location format options = .ok splits → splits ≠ []) ∧
    (∀ e, enumerateSplits fs location format options = .error e ↔
      fs.Refuses location options e ∨
        ∃ fault, e = .config fault ∧ fs.HasNothing location options fault) ∧
    (∀ (t : Table) splits,
      enumerateSplits fs t.location t.format t.params.options = .ok splits →
        ∃ first rest, splits = first :: rest ∧
          Scan.openAt t fs splits 0 = Scan.openSplit t fs 0 first) ∧
    ∀ (t : Table) (identity : Identity) (calls : List (FileSystem × Operation)),
      let s := (ofTable t identity).along calls
      ∀ op e, s.answer fs op = .error e → e.isOutOfRange = true →
        fs.Reports e ∨ s.conduct.MakesUp e := by
  refine ⟨fun splits => enumerateSplits_eq_ok_iff, fun splits => enumerateSplits_ne_nil,
    fun e => enumerateSplits_eq_error_iff, fun t splits => Scan.openAt_of_enumerateSplits, ?_⟩
  intro t identity calls s op e
  exact reports_or_makesUp

def confused : FileSystem :=
  { threeFiles.fileSystem with isPresent := fun _ => .error (.state (.splitOutOfRange 7 3)) }

/-- The splits of three files, cut after two bytes. -/
def splitsOfThreeFiles : List Split :=
  [⟨"/t/k=1/a", 0, 2, 3⟩, ⟨"/t/k=1/a", 2, 1, 3⟩, .wholeFile "/t/k=2/b" 1, .wholeFile "/t/k=3/c" 2]

theorem enumeration_is_exact_of_three_files :
    let fs := threeFiles.fileSystem
    let options : Options := { maxSplitBytes := some 2 }
    let cutTable : Table := { twoColumns with params := { twoColumns.params with options } }
    let e : Error := .state (.splitOutOfRange 7 3)
    (∃ files cut, fs.Lists "/t" options files ∧ files ≠ [] ∧
      (∀ file, CutInto .text options file (cut file)) ∧
        splitsOfThreeFiles = files.flatMap cut) ∧
    splitsOfThreeFiles ≠ [] ∧
    (∃ first rest, splitsOfThreeFiles = first :: rest ∧
      Scan.openAt cutTable fs splitsOfThreeFiles 0 = Scan.openSplit cutTable fs 0 first) ∧
    (confused.Refuses "/t" options e ∨
      ∃ fault, e = .config fault ∧ confused.HasNothing "/t" options fault) ∧
    (ofTable cutTable .current).answer confused .configure = .error e ∧
    (confused.Reports e ∨ (ofTable cutTable .current).conduct.MakesUp e) := by
  intro fs options cutTable e
  obtain ⟨hlists, hne, -, hfirst, -⟩ := enumeration_is_exact fs "/t" .text options
  obtain ⟨-, -, herror, -, hrun⟩ := enumeration_is_exact confused "/t" .text options
  have hsplits : enumerateSplits fs "/t" .text options = .ok splitsOfThreeFiles :=
    eq_ok_of_toOption (by decide +kernel)
  have hanswer : (ofTable cutTable .current).answer confused .configure = .error e := rfl
  exact ⟨(hlists _).1 hsplits, hne _ hsplits, hfirst cutTable _ hsplits, (herror e).1 rfl, hanswer,
    hrun cutTable .current [] .configure e hanswer rfl⟩

end Session

end TableScan
