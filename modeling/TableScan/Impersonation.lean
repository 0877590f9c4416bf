import TableScan.Identity
import TableScan.Text.Escaped

/-!
# Calls under an identity

Every call hands the same credentials to the identity, and is recorded. A call belongs to a phase,
and the phase decides as what its failures are reported: a failure to set a table up is a
configuration error and any failure after that is a read error, with the failure itself as the
cause. Errors that already are of that kind, and calls out of turn, are reported as they are.
-/

namespace TableScan

inductive Phase where
  | configuration
  | reading
  deriving DecidableEq, Repr

/-- A failure of the operation `op`, as it is reported by a phase. -/
def Phase.report (phase : Phase) (op location : String) (e : Error) : Error :=
  match phase with
  | .configuration =>
    if e.isConfig || e.isState then e else .configFor (.phase op location) (.error e)
  | .reading => if e.isRead || e.isState then e else .read op location (.error e)

/-- The result of an operation, as it is reported by a phase. -/
def Phase.reported {α : Type} (phase : Phase) (op location : String) :
    Except Error α → Except Error α
  | .ok a => .ok a
  | .error e => .error (phase.report op location e)

/-- An identity, the credentials it is handed, and the calls made so far. -/
structure Impersonation where
  identity : Identity
  credentials : Credentials
  /-- The credentials of the calls so far, the latest first. -/
  calls : List Credentials := []

namespace Impersonation

def current : Impersonation := { identity := .current, credentials := [] }

def run {σ α : Type} (imp : Impersonation) (action : σ → Except Error α × σ) (s : σ) :
    Except Error α × σ × Impersonation :=
  let (result, s) := (imp.identity imp.calls imp.credentials).run action s
  (result, s, { imp with calls := imp.credentials :: imp.calls })

/-- Carries out an action of a phase, and reports its failure as the phase does. -/
def runPhase {σ α : Type} (imp : Impersonation) (phase : Phase) (op location : String)
    (action : σ → Except Error α × σ) (s : σ) : Except Error α × σ × Impersonation :=
  let (result, s, imp) := imp.run action s
  (phase.reported op location result, s, imp)

/-- A summary that shows the keys of the credentials and none of their values. -/
def summary (imp : Impersonation) : String :=
  let keys := ", ".intercalate (imp.credentials.keys.map Text.quoted)
  "SecureExec \x7b config_keys: [" ++ keys ++ "] \x7d"

end Impersonation

end TableScan
