/-!
# Schemas and projections

A table's logical columns are its data columns, stored in the files, followed by its partition
columns, encoded in the paths. A projection is a list of logical indices; `LogicalSchema.plan` says
where each of its columns comes from, and an index outside the schema is a column of nulls.
-/

namespace TableScan

/-- A column as it is stored, with the name of its type. -/
structure PhysicalField where
  name : String
  typeName : String
  deriving DecidableEq, Repr

inductive ColumnSource where
  /-- The stored column at this index. -/
  | data (index : Nat)
  /-- The partition column at this place of the declared order. -/
  | partition (place : Nat)
  /-- Nowhere: the column is null. -/
  | missing
  deriving DecidableEq, Repr

structure LogicalSchema where
  dataColumns : List String
  partitionColumns : List String
  deriving DecidableEq, Repr

namespace LogicalSchema

def width (s : LogicalSchema) : Nat := s.dataColumns.length + s.partitionColumns.length

/-- Data columns, then partition columns. -/
def columnNames (s : LogicalSchema) : List String := s.dataColumns ++ s.partitionColumns

def sourceOf (s : LogicalSchema) (i : Nat) : ColumnSource :=
  if i < s.dataColumns.length then .data i
  else if i - s.dataColumns.length < s.partitionColumns.length then
    .partition (i - s.dataColumns.length)
  else .missing

/-- The logical indices a projection stands for; none and an empty one stand for all. -/
def projected (s : LogicalSchema) : Option (List Nat) → List Nat
  | some (i :: is) => i :: is
  | _ => List.range s.width

def plan (s : LogicalSchema) (projection : Option (List Nat)) : List ColumnSource :=
  (s.projected projection).map s.sourceOf

/-- The name of the logical column at `i`; an index outside the schema names itself. -/
def nameOf (s : LogicalSchema) (i : Nat) : String := s.columnNames[i]?.getD s!"_col{i}"

def projectedNames (s : LogicalSchema) (projection : Option (List Nat)) : List String :=
  (s.projected projection).map s.nameOf

theorem sourceOf_eq_missing_iff {s : LogicalSchema} {i : Nat} :
    s.sourceOf i = .missing ↔ s.width ≤ i := by
  unfold sourceOf width
  split
  · simp; omega
  · split
    · simp; omega
    · simp; omega

@[simp] theorem length_columnNames (s : LogicalSchema) : s.columnNames.length = s.width := by
  simp [columnNames, width]

theorem projectedNames_none (s : LogicalSchema) : s.projectedNames none = s.columnNames := by
  apply List.ext_getElem
  · simp [projectedNames, projected]
  · intro i h₁ h₂
    simp [projectedNames, projected, nameOf, List.getElem?_eq_getElem h₂]

end LogicalSchema

end TableScan
