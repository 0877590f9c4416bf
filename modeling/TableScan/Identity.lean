import TableScan.Error
import TableScan.Params

/-!
# Identities

Work on a table is done under an identity. An identity is handed an action and is trusted with
nothing: it may invoke the action once, never, or again and again, and it may report whatever it
likes. A `Conduct` is all that an identity does in the course of one call, as a tree that branches
on what each invocation reports. `Conduct.run` carries the call out: the action is done at most
once, and success is reported only if the action was done and succeeded.
-/

namespace TableScan

/-- What an identity does in the course of a call. -/
inductive Conduct where
  /-- Returns. -/
  | finish (result : Except Error Unit)
  /-- Invokes the action, and goes on as its report demands. -/
  | invoke (next : Except Error Unit → Conduct)

/-- An identity: what it does at a call, given the credentials of the calls before, the latest
first, and its own. -/
abbrev Identity := (earlier : List Credentials) → Credentials → Conduct

namespace Conduct

/-- Invokes the action and returns its report. -/
def once : Conduct := invoke finish

/-- Claims success and invokes nothing. -/
def skip : Conduct := finish (.ok ())

/-- Invokes the action, and after a success once more. -/
def twice : Conduct :=
  invoke fun report =>
    match report with
    | .ok () => once
    | .error e => finish (.error e)

/-- Invokes the action and claims success whatever it reports. -/
def swallow : Conduct := invoke fun _ => skip

/-- Invokes nothing and says why. -/
def refuse (message : String) : Conduct := finish (.error (.identity message))

/-- What an invocation after the first reports. -/
def invokedAgain : Error := .identity "action invoked more than once"

/-- What a call reports if the identity claims a success that the action did not have. -/
def notRun : Error := .identity "identity returned without running the action"

/-- The result of a call whose action was done with the given outcome, while the identity goes on.
Each further invocation reports a failure and does nothing. -/
def afterRun {α : Type} (outcome : Except Error α) : Conduct → Except Error α
  | finish (.error e) => .error e
  | finish (.ok ()) =>
    match outcome with
    | .ok a => .ok a
    | .error _ => .error notRun
  | invoke next => afterRun outcome (next (.error invokedAgain))

def run {σ α : Type} (action : σ → Except Error α × σ) (s : σ) : Conduct → Except Error α × σ
  | finish (.error e) => (.error e, s)
  | finish (.ok ()) => (.error notRun, s)
  | invoke next =>
    let (outcome, s) := action s
    (afterRun outcome (next (outcome.map fun _ => ())), s)

theorem run_once {σ α : Type} (action : σ → Except Error α × σ) (s : σ) :
    once.run action s = action s := by
  rcases h : action s with ⟨_ | a, s'⟩ <;> simp [once, run, afterRun, h, Except.map]

theorem afterRun_eq_ok {α : Type} {outcome : Except Error α} {a : α} {c : Conduct}
    (h : afterRun outcome c = .ok a) : outcome = .ok a := by
  induction c with
  | finish result =>
    cases result <;> cases outcome <;> simp_all [afterRun]
  | invoke next ih => exact ih _ h

/-- A call that succeeds has done the action, and the action succeeded. -/
theorem run_eq_ok {σ α : Type} {action : σ → Except Error α × σ} {s : σ} {a : α} {c : Conduct}
    (h : (c.run action s).1 = .ok a) : action s = (.ok a, (c.run action s).2) := by
  cases c with
  | finish result => cases result <;> simp [run] at h
  | invoke next =>
    simp only [run] at h ⊢
    exact Prod.ext (afterRun_eq_ok h) rfl

theorem run_state_eq {σ α : Type} {action : σ → Except Error α × σ} {s : σ} (c : Conduct)
    (h : ∀ s, (action s).2 = s) : (c.run action s).2 = s := by
  cases c with
  | finish result => cases result <;> rfl
  | invoke next => exact h s

end Conduct

namespace Identity

/-- The principal of the process itself. -/
def current : Identity := fun _ _ => .once

/-- An identity whose ticket is good for a number of calls. -/
def limited (calls : Nat) (conduct : Conduct) : Identity := fun earlier _ =>
  if earlier.length < calls then conduct else .refuse "ticket expired"

end Identity

end TableScan
