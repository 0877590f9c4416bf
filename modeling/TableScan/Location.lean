import TableScan.Error
import TableScan.Text.Pieces

/-!
# Locations

A location is a host path or a `file:` URI. It may end in a segment that a scheduler fills in, as
in `/warehouse/t/pt=${bizdate}`; the table itself is then the parent of that segment.
-/

namespace TableScan.Location

/-- A segment that holds `$`, an opening brace and, somewhere later, a closing brace. -/
def isTemplate (segment : List Char) : Bool :=
  match Text.afterFirst? ['$', '\x7b'] segment with
  | some rest => rest.contains '\x7d'
  | none => false

/-- A location without one slash at its end, and then without a template at its end. -/
def normalized (location : String) : String :=
  let s := location.toList
  let path := if s.getLast? = some '/' then s.dropLast else s
  match Text.cutAtLast? '/' path with
  | some (parent, last) => String.ofList (if isTemplate last then parent else path)
  | none => String.ofList path

def isSchemeChar (c : Char) : Bool := c.isAlphanum || c = '+' || c = '-' || c = '.'

/-- The text before the first `://`, if it has the form of a scheme. -/
def scheme? (location : String) : Option String :=
  let s := location.toList
  match Text.afterFirst? [':', '/', '/'] s with
  | none => none
  | some rest =>
    let scheme := s.take (s.length - (rest.length + 3))
    if scheme ≠ [] ∧ scheme.all isSchemeChar then some (String.ofList scheme) else none

/-- Whether the location is on the host; no other place is served. -/
def checkServed (location : String) : Except Error Unit :=
  match scheme? location with
  | none => .ok ()
  | some scheme =>
    if scheme = "file" then .ok ()
    else .error (.config (.unsupportedScheme scheme location))

def hostPath (location : String) : Except Error (List UInt8) :=
  match location.toList with
  | 'f' :: 'i' :: 'l' :: 'e' :: ':' :: rest =>
    match FileUri.toHostPath rest with
    | .ok (some path) => .ok path
    | .ok none => .error (.config (.notALocalPath location))
    | .error fault => .error (.configFor (.badFileUri location) (.uri fault))
  | _ => .ok (Text.bytesOf location)

end TableScan.Location
