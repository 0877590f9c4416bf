import TableScan.Format.Parse
import TableScan.Reader

/-!
# Tables

A table that is ready to be scanned: its format, its parameters, and the settings worked out from
them.
-/

namespace TableScan

structure Table where
  format : Format
  params : Params
  settings : ReaderSettings
  deriving DecidableEq, Repr

namespace Table

/-- A table of a format. Its location must not be blank, and its delimiter must be one. -/
def ofParams (format : Format) (params : Params) : Except Error Table :=
  if Text.trim params.location.toList = [] then .error (.config .emptyLocation)
  else
    match ReaderSettings.ofParams format params with
    | .ok settings => .ok { format, params, settings }
    | .error e => .error e

theorem of_ofParams {format : Format} {params : Params} {t : Table}
    (h : ofParams format params = .ok t) :
    t.format = format ∧ t.params = params ∧
      ReaderSettings.ofParams format params = .ok t.settings := by
  unfold ofParams at h
  split at h
  · cases h
  · split at h
    · rename_i settings hsettings
      cases h
      exact ⟨rfl, rfl, hsettings⟩
    · cases h

def ofTag (tag : String) (params : Params) : Except Error Table := do
  let format ← Format.parse tag
  ofParams format params

def location (t : Table) : String := t.params.location

def columnNames (t : Table) : List String := t.params.schema.columnNames

def projectedNames (t : Table) : List String := t.params.projectedNames

def plan (t : Table) : List ColumnSource := t.params.schema.plan t.params.projection

end Table

end TableScan
