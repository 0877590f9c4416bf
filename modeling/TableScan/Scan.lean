import TableScan.Enumeration
import TableScan.Partition
import TableScan.Table

/-!
# Scans

A scan goes through the records of a table, split by split. Configuring it enumerates the splits
and opens the first; `advance` steps onto the next record, opening later splits as earlier ones are
used up; `currentRow` gives the record stepped onto. A split that cannot be read or opened ends the
scan: from then on every step and every row reports that first failure, until the scan is closed.

Every operation is told which file system to use, so it shows in its type that the others cannot
reach one.
-/

namespace TableScan

/-- The record of a scan: one cell for each column of the projection. -/
abbrev Row := List (Option String)

inductive Position where
  | unconfigured
  /-- Split `index` is open. If `positioned`, the reader stands on a record. -/
  | reading (index : Nat) (reader : SplitReader) (partitionValues : List (Option String))
      (positioned : Bool)
  /-- All splits have been read. -/
  | exhausted
  /-- The file at `path` could not be read or opened. -/
  | failed (path reason : String)
  | closed

structure Scan where
  splits : List Split := []
  position : Position := .unconfigured

namespace Position

def reader? : Position → Option SplitReader
  | reading _ reader _ _ => some reader
  | _ => none

def path? (p : Position) : Option String := p.reader?.map (·.path)

def physicalSchema? (p : Position) : Option (List PhysicalField) :=
  p.reader?.map (·.physicalSchema)

end Position

/-- What a call reports after the scan has failed. -/
def Error.stopped (op path reason : String) : Error := .read op path (.stopped reason)

namespace Scan

variable (t : Table)

def partitionValues (split : Split) : List (Option String) :=
  Partition.resolve t.params.partitionColumns split.path

def openSplit (fs : FileSystem) (index : Nat) (split : Split) : Except Error Position :=
  (SplitReader.openSplit t.format fs split t.settings).map fun reader =>
    .reading index reader (partitionValues t split) false

def openAt (fs : FileSystem) (splits : List Split) (index : Nat) : Except Error Position :=
  match splits[index]? with
  | some split => openSplit t fs index split
  | none => .error (.state (.splitOutOfRange index splits.length))

/-- Enumerates the splits and opens the first. The splits are kept even if it does not open. -/
def configure (fs : FileSystem) (s : Scan) : Except Error Unit × Scan :=
  match enumerateSplits fs t.location t.format t.params.options with
  | .error e => (.error e, s)
  | .ok splits =>
    match openAt t fs splits 0 with
    | .error e => (.error e, { s with splits })
    | .ok position => (.ok (), { splits, position })

/-- Steps a reader of split `index` onto its next record, or onto the first record of a later
split. Tells whether there is one. -/
def stepFrom (fs : FileSystem) (splits : List Split) (index : Nat) (reader : SplitReader)
    (values : List (Option String)) : Except Error Bool × Position :=
  match reader.advance with
  | (.ok true, reader) => (.ok true, .reading index reader values true)
  | (.error e, reader) => (.error e, .failed reader.path e.message)
  | (.ok false, _) =>
    match _h : splits[index + 1]? with
    | none => (.ok false, .exhausted)
    | some split =>
      match SplitReader.openSplit t.format fs split t.settings with
      | .error e => (.error e, .failed split.path e.message)
      | .ok reader => stepFrom fs splits (index + 1) reader (partitionValues t split)
termination_by splits.length - index
decreasing_by
  have := (List.getElem?_eq_some_iff.1 _h).1
  omega

def advance (fs : FileSystem) (s : Scan) : Except Error Bool × Scan :=
  match s.position with
  | .unconfigured => (.error (.state (.beforeConfigure "reachedEnd")), s)
  | .closed => (.error (.state (.afterClose "reachedEnd")), s)
  | .exhausted => (.ok false, s)
  | .failed path reason => (.error (.stopped "reachedEnd" path reason), s)
  | .reading index reader values _ =>
    let (result, position) := stepFrom t fs s.splits index reader values
    (result, { s with position })

/-- How much of the splits is still to be read: the splits from the open one on, and what is left
of the open one. -/
def rank (splits : List Split) : Position → Nat × Nat
  | .reading index reader _ _ => (splits.length - index, reader.left)
  | _ => (0, 0)

theorem rank_stepFrom {fs : FileSystem} {splits : List Split} {index : Nat} {reader : SplitReader}
    {values values' : List (Option String)} {positioned : Bool} {position : Position}
    (h : stepFrom t fs splits index reader values = (.ok true, position)) :
    Prod.Lex (· < ·) (· < ·) (rank splits position)
      (rank splits (.reading index reader values' positioned)) := by
  fun_induction stepFrom t fs splits index reader values generalizing values' positioned with
  | case1 index reader values reader' ha =>
    simp only [Prod.mk.injEq, true_and] at h
    subst h
    exact Prod.Lex.right _ (SplitReader.left_advance ha)
  | case2 => simp at h
  | case3 => simp at h
  | case4 => simp at h
  | case5 index reader values reader₁ ha split hs reader₂ ho ih =>
    have hlt := (List.getElem?_eq_some_iff.1 hs).1
    have : Prod.Lex (· < ·) (· < ·) (rank splits position)
        (rank splits (.reading (index + 1) reader₂ values' positioned)) := ih h
    simp only [rank, Prod.lex_def] at this ⊢
    omega

theorem rank_advance {fs : FileSystem} {s s' : Scan} (h : advance t fs s = (.ok true, s')) :
    Prod.Lex (· < ·) (· < ·) (rank s'.splits s'.position) (rank s.splits s.position) := by
  unfold advance at h
  split at h
  · simp at h
  · simp at h
  · simp at h
  · simp at h
  · rename_i index reader values positioned hp
    simp only [Prod.mk.injEq] at h
    obtain ⟨h₁, rfl⟩ := h
    simp only [hp]
    exact rank_stepFrom t (Prod.ext h₁ rfl)

def cell (reader : SplitReader) (values : List (Option String)) :
    ColumnSource → Except Error (Option String)
  | .data i => reader.fieldValue i
  | .partition place => .ok (values[place]?.join)
  | .missing => .ok none

def currentRow (s : Scan) : Except Error Row :=
  match s.position with
  | .reading _ reader values true => t.plan.mapM (cell reader values)
  | .reading _ _ _ false => .error (.state .notPositioned)
  | .exhausted => .error (.state .notPositioned)
  | .unconfigured => .error (.state (.beforeConfigure "readNext"))
  | .closed => .error (.state (.afterClose "readNext"))
  | .failed path reason => .error (.stopped "readNext" path reason)

def close (s : Scan) : Scan := { s with position := .closed }

end Scan

end TableScan
