import TableScan.Proofs.Session.Placement
import TableScan.Proofs.Session.Retrying

/-!
# Hidden progress

A call that reports an error should not have moved the scan on, for the caller goes on from where
it believes the scan to be. Whether it has is up to the identity: the scan moves when the action
is done, and the call may still fail after that, since the identity has the last word
(`FailsAfterSuccess`). Such a failure hides that a split has been opened or a record gone past
(`FailsAfterSuccess.run`). No other does (`Conduct.run_eq_error`): after it the scan is where it
was, or it has failed. As long as the identity does not fail in this way, every record gone past
has therefore been told of (`follows_after`).
-/

namespace TableScan

/-- The identity fails after the action has succeeded. -/
def Conduct.FailsAfterSuccess (c : Conduct) : Prop :=
  ∃ again e, c.Exchange (.ok () :: List.replicate again (.error invokedAgain)) (.error e)

namespace Conduct

variable {σ α : Type} {action : σ → Except Error α × σ} {s s' : σ} {a : α} {e : Error}
  {c : Conduct}

theorem FailsAfterSuccess.run (h : c.FailsAfterSuccess) (done : action s = (.ok a, s')) :
    ∃ e, c.run action s = (.error e, s') := by
  obtain ⟨again, e, hexchange⟩ := h
  cases hexchange with
  | invoke hexchange =>
    refine ⟨e, ?_⟩
    rw [Conduct.run, done]
    exact Prod.ext (hexchange.afterRun (.ok a)) rfl

/-- A call that fails has not done the action, or the action has failed, or else the identity has
failed after it. -/
theorem run_eq_error (h : c.run action s = (.error e, s')) :
    s' = s ∨ (∃ e', action s = (.error e', s')) ∨ c.FailsAfterSuccess := by
  obtain ⟨reports, claim, hexchange, honce, hrun⟩ := exists_exchange (action s).1 c
  rw [hrun action s rfl, Prod.mk.injEq] at h
  obtain ⟨hverdict, rfl⟩ := h
  rcases honce with rfl | ⟨again, rfl⟩
  · exact .inl rfl
  · rw [if_neg (List.cons_ne_nil _ _)] at hverdict ⊢
    cases houtcome : (action s).1 with
    | error e' => exact .inr (.inl ⟨e', Prod.ext houtcome rfl⟩)
    | ok a =>
      rw [houtcome] at hverdict hexchange
      rcases claim with e' | ⟨⟩
      · exact .inr (.inr ⟨again, e', hexchange⟩)
      · cases hverdict

theorem not_failsAfterSuccess_once : ¬ once.FailsAfterSuccess := by
  rintro ⟨again, e, hexchange⟩
  cases hexchange with
  | invoke hexchange =>
    generalize List.replicate again _ = reports at hexchange
    cases hexchange

theorem not_failsAfterSuccess_finish (result : Except Error Unit) :
    ¬ (finish result).FailsAfterSuccess := by
  rintro ⟨again, e, hexchange⟩
  cases hexchange

theorem failsAfterSuccess_twice : twice.FailsAfterSuccess :=
  ⟨1, invokedAgain, .invoke (.invoke (.finish _))⟩

end Conduct

theorem Identity.RunsOnceOrRefuses.honest {identity : Identity} (h : identity.RunsOnceOrRefuses)
    (earlier : List Credentials) (credentials : Credentials) :
    ¬ (identity earlier credentials).FailsAfterSuccess := by
  rcases h earlier credentials with ⟨e, hc⟩ | hc <;> rw [hc]
  · exact Conduct.not_failsAfterSuccess_finish _
  · exact Conduct.not_failsAfterSuccess_once

namespace Scan

variable {t : Table} {fs : FileSystem} {splits : List Split} {index : Nat} {reader : SplitReader}
  {values : List (Option String)} {s s' : Scan} {e : Error}

theorem stepFrom_eq_error {position : Position}
    (h : stepFrom t fs splits index reader values = (.error e, position)) :
    ∃ path, position = .failed path e.message := by
  fun_induction stepFrom t fs splits index reader values with
  | case1 => cases h
  | case2 =>
    cases h
    exact ⟨_, rfl⟩
  | case3 => cases h
  | case4 =>
    cases h
    exact ⟨_, rfl⟩
  | case5 index reader values reader₁ ha split hs reader₂ ho ih => exact ih h

theorem advance_eq_error (h : advance t fs s = (.error e, s')) :
    s' = s ∨ ∃ path, s' = { s with position := .failed path e.message } := by
  unfold advance at h
  split at h
  · cases h
    exact .inl rfl
  · cases h
    exact .inl rfl
  · cases h
  · cases h
    exact .inl rfl
  · obtain ⟨hresult, rfl⟩ := Prod.mk.inj h
    obtain ⟨path, hp⟩ := stepFrom_eq_error (Prod.ext hresult rfl)
    exact .inr ⟨path, congrArg (fun position => { s with position }) hp⟩

theorem reader?_stepFrom (h : (stepFrom t fs splits index reader values).1 = .ok false) :
    (stepFrom t fs splits index reader values).2.reader? = none := by
  fun_induction stepFrom t fs splits index reader values with
  | case1 => cases h
  | case3 => rfl
  | case5 index reader values reader₁ ha split hs reader₂ ho ih => exact ih h
  | _ => rfl

/-- Where there is no record to step onto, no split stays open. -/
theorem reader?_advance (h : advance t fs s = (.ok false, s')) : s'.position.reader? = none := by
  unfold advance at h
  split at h
  · cases h
  · cases h
  · rename_i hp
    cases h
    rw [hp]
    rfl
  · cases h
  · obtain ⟨hresult, rfl⟩ := Prod.mk.inj h
    exact reader?_stepFrom hresult

end Scan

namespace Session

variable {fs : FileSystem} {R : Listing} {m : Nat} {s s' : Session} {op : Operation} {e : Error}

/-! ### One call -/

section Call

variable {α : Type} {phase : Phase} {name : String} {action : Scan → Except Error α × Scan}

theorem call_of_failsAfterSuccess {a : α} {scan : Scan} (h : s.conduct.FailsAfterSuccess)
    (done : action s.scan = (.ok a, scan)) :
    ∃ e, s.call phase name action = (.error e, s.called scan) := by
  obtain ⟨e, hrun⟩ := h.run done
  rw [call_eq, hrun]
  exact ⟨_, rfl⟩

theorem call_eq_error (honest : ¬ s.conduct.FailsAfterSuccess)
    (h : s.call phase name action = (.error e, s')) :
    s'.scan = s.scan ∨ ∃ e', action s.scan = (.error e', s'.scan) := by
  rw [call_eq, Prod.mk.injEq] at h
  obtain ⟨hresult, rfl⟩ := h
  obtain ⟨e', hrun, -⟩ := Phase.exists_of_reported hresult
  rcases Conduct.run_eq_error (Prod.ext hrun rfl) with hstays | hfails | hhides
  · exact .inl hstays
  · exact .inr hfails
  · contradiction

end Call

theorem configure_eq_error (honest : ¬ s.conduct.FailsAfterSuccess)
    (h : s.configure fs = (.error e, s')) :
    s'.scan.position = s.scan.position ∧
      (s.scan.position = .unconfigured ∨ s.scan.position = .closed) := by
  cases hp : s.scan.position with
  | unconfigured =>
    rw [configure_of_unconfigured hp, Prod.mk.injEq] at h
    obtain ⟨hresult, rfl⟩ := h
    refine ⟨?_, .inl rfl⟩
    rcases call_eq_error honest (Prod.ext (map_eq_error hresult) rfl) with hstays | ⟨e', hfails⟩
    · rw [hstays, hp]
    · have := Scan.position_of_configure_eq_error (congrArg Prod.fst hfails)
      rwa [hfails, hp] at this
  | closed =>
    simp only [configure, hp, Prod.mk.injEq] at h
    obtain ⟨-, rfl⟩ := h
    exact ⟨hp, .inr rfl⟩
  | _ =>
    simp only [configure, hp] at h
    cases h

theorem reachedEnd_eq (fs : FileSystem) (s : Session) :
    s.reachedEnd fs =
      ((s.call .reading "reachedEnd" (Scan.advance s.table fs)).1.map not,
        (s.call .reading "reachedEnd" (Scan.advance s.table fs)).2) := rfl

theorem reachedEnd_eq_error (honest : ¬ s.conduct.FailsAfterSuccess)
    (h : s.reachedEnd fs = (.error e, s')) :
    s'.scan = s.scan ∨ ∃ path e', Scan.advance s.table fs s.scan = (.error e', s'.scan) ∧
      s'.scan = { s.scan with position := .failed path e'.message } := by
  rw [reachedEnd_eq, Prod.mk.injEq] at h
  obtain ⟨hresult, rfl⟩ := h
  rcases call_eq_error honest (Prod.ext (map_eq_error hresult) rfl) with hstays | ⟨e', hfails⟩
  · exact .inl hstays
  · rcases Scan.advance_eq_error hfails with hstays | ⟨path, hended⟩
    · exact .inl hstays
    · exact .inr ⟨path, e', hfails, hended⟩

/-! ### Runs -/

/-- How many records calls of `reachedEnd` have told of. -/
def told (fs : FileSystem) (s : Session) : List Operation → Nat
  | [] => 0
  | .reachedEnd :: calls =>
    match (s.reachedEnd fs).1 with
    | .ok false => 1 + (s.reachedEnd fs).2.told fs calls
    | _ => (s.reachedEnd fs).2.told fs calls
  | op :: calls => (s.perform fs op).told fs calls

theorem told_cons (fs : FileSystem) (s : Session) (op : Operation) (calls : List Operation) :
    s.told fs (op :: calls) = s.told fs [op] + (s.perform fs op).told fs calls := by
  cases op with
  | reachedEnd =>
    simp only [told]
    split <;> simp [perform]
  | _ => simp [told]

theorem identity_perform (fs : FileSystem) (s : Session) (op : Operation) :
    (s.perform fs op).impersonation.identity = s.impersonation.identity := by
  cases op with
  | configure =>
    simp only [perform, configure]
    split <;> rfl
  | reachedEnd => rfl
  | readNext => rfl
  | close =>
    simp only [perform, close]
    split <;> rfl

theorem after_eq_along (fs : FileSystem) (s : Session) (calls : List Operation) :
    s.after fs calls = s.along (calls.map (fs, ·)) := by
  rw [along, List.foldl_map]
  rfl

/-- A call that leaves a split open has told of a record if it has gone past one. -/
theorem follows_perform (honest : ¬ s.conduct.FailsAfterSuccess)
    (h : Scan.Follows s.table fs s.scan.splits R m s.scan.position)
    (opened : (s.perform fs op).fileName ≠ none) :
    Scan.Follows s.table fs s.scan.splits R (m + s.told fs [op])
      (s.perform fs op).scan.position := by
  have hfresh := h.configured.1
  cases op with
  | configure =>
    rw [perform, configure_of_configured hfresh]
    exact h
  | readNext =>
    rw [perform, scan_readNext]
    exact h
  | close =>
    rw [perform, ne_eq, fileName_eq_none_iff, scan_close] at opened
    exact absurd rfl opened
  | reachedEnd =>
    obtain ⟨-, -, hnext⟩ := h.advance
    rw [ne_eq, fileName_eq_none_iff] at opened
    simp only [told, perform] at opened ⊢
    cases hanswer : (s.reachedEnd fs).1 with
    | error e =>
      rcases reachedEnd_eq_error honest (Prod.ext hanswer rfl) with hstays | ⟨path, e', -, hended⟩
      · rw [hstays]
        exact h
      · rw [hended] at opened
        exact absurd rfl opened
    | ok ended =>
      rw [reachedEnd_eq] at hanswer opened ⊢
      obtain ⟨found, hcall, rfl⟩ := map_eq_ok hanswer
      have hstep := call_eq_ok (Prod.ext hcall rfl)
      cases found with
      | true =>
        rw [hstep] at hnext
        exact hnext
      | false => exact absurd (Scan.reader?_advance hstep) opened

/-- Along any run under an identity that does not fail after a success, the records gone past are
those that were told of, as long as a split is open. -/
theorem follows_after
    (honest : ∀ earlier credentials,
      ¬ (s.impersonation.identity earlier credentials).FailsAfterSuccess)
    (h : Scan.Follows s.table fs s.scan.splits R m s.scan.position) {calls : List Operation}
    (opened : (s.after fs calls).fileName ≠ none) :
    Scan.Follows s.table fs s.scan.splits R (m + s.told fs calls)
      (s.after fs calls).scan.position := by
  induction calls generalizing s m with
  | nil => exact h
  | cons op calls ih =>
    have hfresh := h.configured.1
    obtain ⟨hsplits, hconfigured⟩ := splits_perform hfresh fs op
    have hopened : (s.perform fs op).fileName ≠ none := by
      intro hover
      refine opened ?_
      rw [after, List.foldl_cons, ← after, after_eq_along]
      exact (over_along hconfigured hover [] _).1
    have hstep := follows_perform (honest _ _) h hopened
    rw [← table_perform fs s op, ← hsplits] at hstep ⊢
    rw [told_cons, ← Nat.add_assoc]
    exact ih (by rwa [identity_perform]) hstep opened

/-- An error hides progress only if the identity fails after the action has succeeded, and then it
does. After any other error of `configure` the session is where it was, unconfigured or closed, and
another attempt starts afresh; after any other error of `reachedEnd` the scan is where it was, or
has failed. Under an identity that never fails after a success, the records gone past are those that
were told of, as long as a split is open. -/
theorem only_failures_after_success_hide_progress (s : Session) (fs : FileSystem) :
    (¬ s.conduct.FailsAfterSuccess →
      (∀ e s', s.configure fs = (.error e, s') →
        s'.fileName = none ∧ s'.scan.position = s.scan.position ∧
          (s.scan.position = .unconfigured ∨ s.scan.position = .closed) ∧
          (s.scan.position = .unconfigured → ∀ fs,
            let new := { s' with scan := {} }
            (s'.configure fs).1 = (new.configure fs).1 ∧
              ((s'.configure fs).1 = .ok true →
                (s'.configure fs).2.scan = (new.configure fs).2.scan))) ∧
      ∀ e s', s.reachedEnd fs = (.error e, s') →
        s'.scan = s.scan ∨ ∃ path e', Scan.advance s.table fs s.scan = (.error e', s'.scan) ∧
          s'.scan = { s.scan with position := .failed path e'.message }) ∧
    ((∀ earlier credentials,
        ¬ (s.impersonation.identity earlier credentials).FailsAfterSuccess) →
      s.scan.position = .unconfigured → ∀ s', s.configure fs = (.ok true, s') →
        ∀ calls : List Operation, (s'.after fs calls).fileName ≠ none →
          Scan.Follows s.table fs s'.scan.splits (s.table.listing fs s'.scan.splits)
            (s'.told fs calls) (s'.after fs calls).scan.position) ∧
    (s.conduct.FailsAfterSuccess →
      (s.scan.position = .unconfigured → ∀ scan,
        Scan.configure s.table fs s.scan = (.ok (), scan) →
          ∃ e, s.configure fs = (.error e, s.called scan)) ∧
      ∀ found scan, Scan.advance s.table fs s.scan = (.ok found, scan) →
        ∃ e, s.reachedEnd fs = (.error e, s.called scan)) := by
  refine ⟨fun honest => ⟨?_, fun e s' => reachedEnd_eq_error honest⟩, ?_, ?_⟩
  · intro e s' failed
    obtain ⟨hstays, hp⟩ := configure_eq_error honest failed
    refine ⟨?_, hstays, hp, fun fresh fs => ?_⟩
    · rw [fileName_eq_none_iff, hstays]
      rcases hp with hp | hp <;> rw [hp] <;> rfl
    · have halike : s'.GoesOnAs { s' with scan := {} } := ⟨rfl, rfl, fun _ => rfl⟩
      exact halike.configure (hstays.trans fresh) rfl fs
  · intro honest fresh s' configured calls opened
    obtain ⟨htable, hscan⟩ := configure_eq_ok fresh configured
    have hidentity : s'.impersonation.identity = s.impersonation.identity := by
      have := identity_perform fs s .configure
      rwa [perform, configured] at this
    have hfollows := follows_after (hidentity ▸ honest) (htable ▸ Scan.follows_configure hscan)
      opened
    rwa [htable, Nat.zero_add] at hfollows
  · intro hfails
    refine ⟨fun fresh scan done => ?_, fun found scan done => ?_⟩
    · rw [configure_of_unconfigured fresh]
      obtain ⟨e, hcall⟩ := call_of_failsAfterSuccess hfails done
      rw [hcall]
      exact ⟨e, rfl⟩
    · rw [reachedEnd_eq]
      obtain ⟨e, hcall⟩ := call_of_failsAfterSuccess hfails done
      rw [hcall]
      exact ⟨e, rfl⟩

/-- A session under an identity that invokes every action twice. -/
def repeating : Session := ofTable twoColumns fun _ _ => .twice

def onThreeFiles : Session := ((ofTable twoColumns .current).configure threeFiles.fileSystem).2

theorem configure_onThreeFiles :
    (ofTable twoColumns .current).configure threeFiles.fileSystem = (.ok true, onThreeFiles) :=
  Prod.ext (eq_ok_of_toOption (by decide +kernel)) rfl

def onSecondRecord : Session :=
  onThreeFiles.after threeFiles.fileSystem [.reachedEnd, .readNext, .reachedEnd]

theorem only_failures_after_success_hide_progress_of_three_files :
    let noFiles := MemoryStore.fileSystem { files := [] }
    (∃ e scan, repeating.configure threeFiles.fileSystem = (.error e, repeating.called scan)) ∧
      ((ofTable twoColumns .current).configure noFiles).2.fileName = none ∧
      Scan.currentRow twoColumns onSecondRecord.scan =
        (twoColumns.listing threeFiles.fileSystem onThreeFiles.scan.splits).rowAt twoColumns 2 ∧
      ∃ path reason,
        (onSecondRecord.reachedEnd noFiles).2.scan.position = .failed path reason := by
  intro noFiles
  have honest : Identity.current.RunsOnceOrRefuses := fun _ _ => .inr rfl
  refine ⟨?_, ?_, ?_, ?_⟩
  · obtain ⟨⟨⟩, hscan⟩ := exists_eq_ok_of_isOk
      (show (Scan.configure twoColumns threeFiles.fileSystem {}).1.isOk = true by decide +kernel)
    obtain ⟨-, -, hhides⟩ :=
      only_failures_after_success_hide_progress repeating threeFiles.fileSystem
    obtain ⟨e, he⟩ := (hhides Conduct.failsAfterSuccess_twice).1 rfl _ hscan
    exact ⟨e, _, he⟩
  · obtain ⟨hshows, -, -⟩ :=
      only_failures_after_success_hide_progress (ofTable twoColumns .current) noFiles
    obtain ⟨e, he⟩ := eq_error_of_toOption (show
      ((ofTable twoColumns .current).configure noFiles).1.toOption = none by decide +kernel)
    exact ((hshows (honest.honest [] [])).1 e _ he).1
  · obtain ⟨-, hruns, -⟩ := only_failures_after_success_hide_progress
      (ofTable twoColumns .current) threeFiles.fileSystem
    have hfollows := hruns honest.honest rfl onThreeFiles configure_onThreeFiles
      [.reachedEnd, .readNext, .reachedEnd] (by decide +kernel)
    have htold : onThreeFiles.told threeFiles.fileSystem [.reachedEnd, .readNext, .reachedEnd] =
      2 := by decide +kernel
    rw [htold] at hfollows
    exact hfollows.currentRow
  · obtain ⟨hshows, -, -⟩ := only_failures_after_success_hide_progress onSecondRecord noFiles
    obtain ⟨e, he⟩ := eq_error_of_toOption
      (show (onSecondRecord.reachedEnd noFiles).1.toOption = none by decide +kernel)
    rcases (hshows (honest.honest [] [])).2 e _ he with hstays | ⟨path, e', -, hended⟩
    · exact absurd (congrArg (·.position.isOnRecord) hstays) (by decide +kernel)
    · exact ⟨path, e'.message, congrArg Scan.position hended⟩

/-- It is not so that no error hides progress, neither for `configure` nor for `reachedEnd`. -/
theorem errors_hide_progress :
    ¬ (∀ (t : Table) (identity : Identity) (calls : List (FileSystem × Operation))
        (fs : FileSystem) (e : Error) (s' : Session),
      ((ofTable t identity).along calls).configure fs = (.error e, s') → s'.fileName = none) ∧
    ¬ ∀ (t : Table) (identity : Identity) (calls : List (FileSystem × Operation))
        (fs : FileSystem) (e : Error) (s' : Session),
      ((ofTable t identity).along calls).reachedEnd fs = (.error e, s') →
        s'.scan = ((ofTable t identity).along calls).scan ∨
          ∃ path reason, s'.scan.position = .failed path reason := by
  constructor
  · intro h
    obtain ⟨e, he⟩ := eq_error_of_toOption (show
      ((repeating.along []).configure threeFiles.fileSystem).1.toOption = none by decide +kernel)
    exact absurd (h _ _ _ _ _ _ he) (by decide +kernel)
  · intro h
    obtain ⟨e, he⟩ := eq_error_of_toOption (show
      ((repeating.along [(threeFiles.fileSystem, .configure)]).reachedEnd
        threeFiles.fileSystem).1.toOption = none by decide +kernel)
    rcases h _ _ _ _ _ _ he with hstays | ⟨path, reason, hfailed⟩
    · exact absurd (congrArg (·.position.isOnRecord) hstays) (by decide +kernel)
    · have : (Position.failed path reason).isOnRecord = true :=
        hfailed ▸ (by decide +kernel)
      cases this

end Session

end TableScan
