import TableScan.Location.Domain.Direction
import TableScan.Location.Domain.Label
import TableScan.Text.Pieces

/-!
# Domains

The form under which domains are compared: each character is mapped, the text is composed, encoded
labels are read, and what could be mistaken for another domain is refused. A domain of ASCII letters
and digits becomes small letters, and nothing else happens to it.
-/

namespace TableScan.Domain

/-- The form under which a domain is compared, unless it is malformed. -/
def canonical? (domain : List Char) : Option (List Char) := do
  let mapped ← domain.mapM mapChar?
  let labels ← (Text.pieces '.' (composed mapped.flatten)).mapM labelText?
  guard (!(labels.any (·.any isRightward)) || labels.all isDirected)
  return Text.joined '.' labels

end TableScan.Domain
