import TableScan.Impersonation

/-!
# Exchanges with an identity

An identity may do as it likes in the course of a call, so what a call reports must not rest on
what the identity claims. The two talk in an `Exchange`: each invocation is met with a report, and
in the end the identity makes its claim. A call leads the exchange so that the first invocation
does the action and reports its outcome, and every later one is turned down (`reportsOnce`). The
result of the call then depends on the outcome and the claim alone (`exists_exchange`): an error
that is claimed is reported as it is, and a success is believed only of an action that was done
and succeeded.
-/

namespace TableScan

/-- An action that also counts how often it is done. -/
def counted {σ α : Type} (action : σ → Except Error α × σ) (p : σ × Nat) :
    Except Error α × σ × Nat :=
  ((action p.1).1, (action p.1).2, p.2 + 1)

namespace Conduct

/-- An identity that is met with the given reports on its invocations, one after the other, makes
no further one and returns its claim. -/
inductive Exchange : Conduct → List (Except Error Unit) → (claim : Except Error Unit) → Prop where
  | finish (claim : Except Error Unit) : Exchange (.finish claim) [] claim
  | invoke {next : Except Error Unit → Conduct} {report claim : Except Error Unit}
      {reports : List (Except Error Unit)} :
      Exchange (next report) reports claim → Exchange (.invoke next) (report :: reports) claim

/-- The reports of an action that is done at the first invocation only. -/
def ReportsOnce (outcome : Except Error Unit) (reports : List (Except Error Unit)) : Prop :=
  reports = [] ∨ ∃ again, reports = outcome :: List.replicate again (.error invokedAgain)

/-- The result of a call in which the identity made a claim. -/
def verdict {α : Type} (outcome : Except Error α) (claim : Except Error Unit) : Except Error α :=
  afterRun outcome (.finish claim)

variable {α : Type} {outcome : Except Error α} {claim : Except Error Unit}

theorem verdict_eq_ok_iff {a : α} :
    verdict outcome claim = .ok a ↔ claim = .ok () ∧ outcome = .ok a := by
  rcases claim with _ | ⟨⟩ <;> cases outcome <;> simp [verdict, afterRun]

theorem verdict_error (outcome : Except Error α) (e : Error) :
    verdict outcome (.error e) = .error e := rfl

theorem verdict_of_failed {e : Error} (h : outcome = .error e) :
    verdict outcome (.ok ()) = .error notRun := by
  rw [h]
  rfl

/-- When the action has been done, the identity meets refusals until it makes its claim. -/
theorem exists_exchange_afterRun (outcome : Except Error α) (c : Conduct) :
    ∃ again claim, c.Exchange (List.replicate again (.error invokedAgain)) claim ∧
      afterRun outcome c = verdict outcome claim := by
  induction c with
  | finish claim => exact ⟨0, claim, .finish claim, rfl⟩
  | invoke next ih =>
    obtain ⟨again, claim, hexchange, hverdict⟩ := ih (.error invokedAgain)
    exact ⟨again + 1, claim, .invoke hexchange, hverdict⟩

theorem Exchange.afterRun {again : Nat} {c : Conduct}
    (h : c.Exchange (List.replicate again (.error invokedAgain)) claim) (outcome : Except Error α) :
    afterRun outcome c = verdict outcome claim := by
  induction again generalizing c with
  | zero =>
    cases h
    rfl
  | succ again ih =>
    cases h with
    | @invoke next _ _ _ h =>
      show Conduct.afterRun outcome (next (.error invokedAgain)) = _
      exact ih h

/-- A call leads an exchange in which an action with the given outcome is done at the first
invocation only, whatever the state is that the action works on. -/
theorem exists_exchange (outcome : Except Error α) (c : Conduct) :
    ∃ reports claim, c.Exchange reports claim ∧ ReportsOnce (outcome.map fun _ => ()) reports ∧
      ∀ {σ : Type} (action : σ → Except Error α × σ) (s : σ), (action s).1 = outcome →
        c.run action s =
          (verdict (if reports = [] then .error notRun else outcome) claim,
            if reports = [] then s else (action s).2) := by
  cases c with
  | finish claim =>
    refine ⟨[], claim, .finish claim, .inl rfl, fun action s _ => ?_⟩
    rcases claim with _ | ⟨⟩ <;> rfl
  | invoke next =>
    obtain ⟨again, claim, hexchange, hverdict⟩ :=
      exists_exchange_afterRun outcome (next (outcome.map fun _ => ()))
    refine ⟨_, claim, .invoke hexchange, .inr ⟨again, rfl⟩, ?_⟩
    rintro σ action s rfl
    rw [if_neg (List.cons_ne_nil _ _), if_neg (List.cons_ne_nil _ _), ← hverdict]
    rfl

theorem ReportsOnce.eq_of_mem {result : Except Error Unit} {reports : List (Except Error Unit)}
    {e : Error} (h : ReportsOnce result reports) (reported : .error e ∈ reports)
    (own : e.isState = true) : result = .error e := by
  rcases h with rfl | ⟨again, rfl⟩
  · cases reported
  · rcases List.mem_cons.1 reported with hfirst | hagain
    · exact hfirst.symm
    · cases List.eq_of_mem_replicate hagain
      cases own

/-- A call that is out of turn is so because the identity says so. -/
theorem exists_claim_of_isState {σ : Type} {action : σ → Except Error α × σ} {s : σ} {c : Conduct}
    {e : Error} (h : (c.run action s).1 = .error e) (own : e.isState = true) :
    ∃ reports, c.Exchange reports (.error e) ∧
      ReportsOnce ((action s).1.map fun _ => ()) reports := by
  obtain ⟨reports, claim, hexchange, honce, hrun⟩ := exists_exchange (action s).1 c
  rw [hrun action s rfl] at h
  rcases claim with e' | ⟨⟩
  · obtain rfl : e' = e := Except.error.inj h
    exact ⟨reports, hexchange, honce⟩
  · -- A claim of success is met with the outcome or with `notRun`, which is not out of turn.
    dsimp only at h
    unfold verdict afterRun at h
    split at h
    · cases h
    · cases h
      cases own

end Conduct

namespace Impersonation

/-- Under any identity an action is done at most once, and all invocations but the first are met
with an identity error, whatever came of the first. The call succeeds exactly if the identity
claims success and the action was done and succeeded. An error that the identity returns is
reported as it is, and a success that it claims without the action is an identity error. -/
theorem done_at_most_once_and_never_feigned {σ α : Type} (imp : Impersonation)
    (action : σ → Except Error α × σ) (s : σ) :
    ∃ reports claim,
      (imp.identity imp.calls imp.credentials).Exchange reports claim ∧
      Conduct.ReportsOnce ((action s).1.map fun _ => ()) reports ∧
      (imp.run (counted action) (s, 0)).2.1 =
        (if reports = [] then (s, 0) else ((action s).2, 1)) ∧
      (∀ a, (imp.run action s).1 = .ok a ↔
        claim = .ok () ∧ reports ≠ [] ∧ (action s).1 = .ok a) ∧
      (∀ e, claim = .error e → (imp.run action s).1 = .error e) ∧
      (claim = .ok () → (reports = [] ∨ ∃ e, (action s).1 = .error e) →
        (imp.run action s).1 = .error Conduct.notRun) := by
  obtain ⟨reports, claim, hexchange, honce, hrun⟩ :=
    Conduct.exists_exchange (action s).1 (imp.identity imp.calls imp.credentials)
  have hcounted : (imp.run (counted action) (s, 0)).2.1 = if reports = [] then (s, 0) else _ :=
    congrArg Prod.snd (hrun (counted action) (s, 0) rfl)
  have hresult : (imp.run action s).1 = Conduct.verdict _ claim :=
    congrArg Prod.fst (hrun action s rfl)
  refine ⟨reports, claim, hexchange, honce, hcounted, ?_⟩
  rw [hresult]
  refine ⟨fun a => ?_, ?_, ?_⟩
  · rw [Conduct.verdict_eq_ok_iff]
    split <;> simp [*]
  · rintro e rfl
    exact Conduct.verdict_error _ e
  · rintro rfl hfailed
    -- An action that was not invoked counts as one that failed.
    have hfailure : ∃ e, (if reports = [] then .error Conduct.notRun else (action s).1) =
        .error e := by
      split
      · exact ⟨_, rfl⟩
      · exact hfailed.resolve_left ‹_›
    obtain ⟨e, he⟩ := hfailure
    exact Conduct.verdict_of_failed he

/-- An identity that hides a failure does not turn it into a success, and one that repeats the
action does not have it done again. -/
example :
    (Conduct.swallow.run (fun n : Nat => (.error (α := Nat) (.identity "no ticket"), n + 1)) 0) =
        (.error Conduct.notRun, 1) ∧
      (Conduct.twice.run (fun n : Nat => (.ok n, n + 1)) 0) = (.error Conduct.invokedAgain, 1) :=
  ⟨rfl, rfl⟩

end Impersonation

end TableScan
