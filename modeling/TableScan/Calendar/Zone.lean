/-!
# Time zones

A zone is named by its fixed distance from universal time, `+05:30`, `+0530` or `+05`, or by a name
that a table of zones knows. The tables that are kept of the world's zones are not part of this
library: a zone comes with the table that its name is looked up in. `universalTime` is the table
that knows no names but those of universal time.
-/

namespace TableScan.Calendar

/-- Named zones: the seconds by which the clock of a zone is ahead of universal time, at an instant
in seconds since 1970-01-01. -/
abbrev ZoneTable := (name : String) → Option (Int → Int)

def universalTimeNames : List String :=
  ["UTC", "UCT", "Zulu", "Universal", "GMT", "GMT0", "GMT+0", "GMT-0", "Greenwich",
    "Etc/UTC", "Etc/UCT", "Etc/Zulu", "Etc/Universal", "Etc/GMT", "Etc/GMT0", "Etc/GMT+0",
    "Etc/GMT-0", "Etc/Greenwich"]

def universalTime : ZoneTable := fun name =>
  if universalTimeNames.contains name then some fun _ => 0 else none

/-- The seconds of hours and minutes given by four digits, less than a day. -/
def offsetSeconds? (a b c d : Char) : Option Int :=
  if [a, b, c, d].all Char.isDigit then
    let digit (x : Char) : Nat := x.toNat - 48
    let seconds := (digit a * 10 + digit b) * 3600 + (digit c * 10 + digit d) * 60
    if seconds < 86400 then some seconds else none
  else none

/-- The seconds by which a zone is ahead of universal time, if the text tells its distance. -/
def fixedOffset? (text : String) : Option Int :=
  let distance : Option Int := match text.toList with
    | [_, a, b, ':', c, d] => offsetSeconds? a b c d
    | [_, a, b, c, d] => offsetSeconds? a b c d
    | [_, a, b] => offsetSeconds? a b '0' '0'
    | _ => none
  match text.toList, distance with
  | '+' :: _, some n => some n
  | '-' :: _, some n => some (-n)
  | _, _ => none

/-- A zone as it is named, which need not be a zone that there is. -/
structure Zone where
  name : String
  table : ZoneTable := universalTime

namespace Zone

instance : Coe String Zone := ⟨fun name => { name }⟩

/-- The seconds by which the zone is ahead of universal time at an instant, if the name is that of a
zone. A distance is no name to look up. -/
def ahead? (zone : Zone) : Option (Int → Int) :=
  match fixedOffset? zone.name with
  | some seconds => some fun _ => seconds
  | none => zone.table zone.name

end Zone

end TableScan.Calendar
