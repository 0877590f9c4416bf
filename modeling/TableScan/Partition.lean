import TableScan.SortedMap
import TableScan.Text.Pieces

/-!
# Partition values in paths

A table partitioned the Hive way keeps the values of its partition columns in the names of
directories, as in `year=2021/month=05/part-0`. A segment assigns a value if text stands before its
first `=`; the last assignment of a column counts, and the name Hive writes for a null is a null.
-/

namespace TableScan.Partition

/-- The name of a directory for the null of a partition column. -/
def nullName : String := "__HIVE_DEFAULT_PARTITION__"

/-- The assignment that a path segment makes, if it makes one. -/
def assignment? (segment : List Char) : Option (String × String) :=
  match Text.cutAtFirst? '=' segment with
  | some ([], _) => none
  | some (key, value) => some (String.ofList key, String.ofList value)
  | none => none

def assignments (path : String) : List (String × String) :=
  (Text.pieces '/' path.toList).filterMap assignment?

def lastAssigned (path : String) (column : String) : Option String :=
  List.lookup column (assignments path).reverse

def values (path : String) : SortedMap String := SortedMap.ofList (assignments path)

/-- The value of a column: absent if the path assigns none or the null. -/
def value? (path : String) (column : String) : Option String :=
  (lastAssigned path column).filter (· ≠ nullName)

def resolve (columns : List String) (path : String) : List (Option String) :=
  columns.map (value? path)

@[simp] theorem length_resolve (columns : List String) (path : String) :
    (resolve columns path).length = columns.length := by
  simp [resolve]

end TableScan.Partition
