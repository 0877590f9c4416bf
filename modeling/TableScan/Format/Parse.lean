import TableScan.Error

/-!
# Reading a format tag
-/

namespace TableScan

/-- The format a tag names, whatever its case and surrounding blanks. -/
def Format.parse (s : String) : Except Error Format :=
  match ofNormalName? (normalName s) with
  | some f => .ok f
  | none => .error (.config (.unknownFormat (normalName s)))

end TableScan
