import TableScan.Location.Domain.Composite
import TableScan.Location.Domain.Joining
import TableScan.Location.Domain.Mapping
import TableScan.Location.Domain.Punycode

/-!
# Labels of a domain

A label is the text between two dots. A label that begins with `xn--` is an encoded one, and stands
for the text it encodes if that is in the form that domains are compared in.
-/

namespace TableScan.Domain

/-- The characters that combine with the one before them. -/
def markRuns : Text.RunTable := .ofText "
    300 71:1 112 8:1 106 2D:1 1 1:1 1 2:1 1 2:1 1 9:1 40 B:1 30 15:1 10 1:1 65 8:1 1 6:1 2 2:1 1 4:1
    23 1:1 1E 1D:1 59 B:1 3A 9:1 9 1:1 18 4:1 1 9:1 1 3:1 1 7:1 29 5:1 39 9:1 2A 3A:1 36 3:1 1 12:1
    1 F:1 2 2:1 1D 4:1 37 1:1 1 10:1 9 9:1 2 4:1 18 7:1 37 20:1 14 2:1 3 1:1 B 4:1 37 1:1 1 12:1 12
    4:1 14 B:1 37 1:1 1 21:1 3 4:1 1C 1:1 3B 12:1 7 F:1 1A 5:1 37 1:1 1 1A:1 A 4:1 1B 3:1 38 1:1 1
    1E:1 6 4:1 D 11:1 37 2:1 1 10:1 9 1:1 A 4:1 1B 4:1 45 1C:1 C 2:1 3D 1:1 2 B:1 8 8:1 62 1:1 2 9:1
    B 8:1 48 2:1 1B 1:1 1 1:1 1 1:1 4 2:1 31 14:1 1 2:1 5 31:1 8 1:1 64 14:1 17 4:1 4 3:1 1 3:1 2
    7:1 3 4:1 D C:1 1 1:1 A 4:1 2BF 3:1 3B2 D:1 13 3:1 1D E:1 12 E:1 36 1E:1 9 3:1 A5 2:1 22 1:1 76
    20:1 D7 7:1 37 2B:1 30 55:1 2F 11:1 26 9:1 C 3:1 1E D:1 38 16:1 28 17:1 95 3:1 1 15:1 4 1:1 6
    1:1 2 3:1 C6 41:1 2CF 34:1 BEB 4:1 8C 1:1 60 20:1 22A 6:1 69 4:1 75D2 4:1 1 A:1 20 2:1 50 2:1
    110 1:1 3 1:1 4 1:1 17 5:1 4 4:1 50 2:1 32 1A:1 12 12:1 D 1:1 26 8:1 19 18:1 21 4:1 2F E:1 24
    1:1 43 17:1 3 1:1 8 4:1 2B 3:1 32 1:1 1 3:1 2 2:1 5 2:1 1 1:1 29 5:1 5 C:1 E2 8:1 1 4:1 4F2E
    94:1 26E 25:1 3B8 83:1 60 1:1 95 A:1 681 F:1 28 8:1 A5 6:1 239 C:1 39 5:1 13D 2:1 4D 6:1 46 B:1
    31 4:1 7A 3:1 35 F:1 29 1:1 2 2:1 A 4:1 2D B:1 7 E:1 30 3:1 24 F:1 F 2:1 2C 1:1 C 3:1 30 E:1 8
    4:1 1 2:1 5C C:1 6 1:1 2 3F:1 5F 11:1 10 5:1 36 2:1 1 12:1 7 6:1 5 1E:1 38 19:1 1 1:1 E 1F:1 35
    12:1 17 1:1 51 14:1 EB 12:1 1B 24:1 30 11:1 6A D:1 65 13:1 FC F:1 F5 F:1 1 1:1 1 2:1 8D 10:1 3
    1C:1 1 A:1 28 7:1 1 4:1 8 9:1 1 B:1 2E 10:1 C6 60:1 6F 11:1 52 6E:1 31 15:1 1 9:1 3A E:1 15B 4:1
    9 2:1 1 1:1 30 F:1 17 56:1 1490 1:1 6 19:1 2CBE 12:1 9C0 5:1 3B 7:1 418 1:1 1 42:1 51 E:1 4CAB
    2:1 1261 50:1 215 5:1 3 16:1 2 7:1 1E 4:1 94 3:1 7BB 37:1 4 32:1 8 1:1 E 1:1 16 465:1 100 100:1
    30 7:1 177 12:1 2C 4:1 1FC 4:1 FE 2:1 F3 1:1 2 1:1 7 2:1 5 9:1 1D2 52:1 22 7:1 F16B5"

def isMark (c : Char) : Bool := 0x300 ≤ c.toNat && markRuns.value c = 1

def isWide (c : Char) : Bool := 0x80 ≤ c.toNat

/-- Characters that no domain holds. -/
def isForbidden (c : Char) : Bool :=
  c.toNat ≤ 0x20 || c.toNat = 0x7F || "%#/:<>?@[\\]^|".toList.contains c

def isEncoded (label : List Char) : Bool := ['x', 'n', '-', '-'].isPrefixOf label

/-- The text that an encoded label stands for, given the label without `xn--`: a text in its
composed form that is not encoded again, of characters that are in the form of domains and not all
of ASCII. -/
def decoded? (label : List Char) : Option (List Char) := do
  let s ← Punycode.decode? label
  guard (s.any isWide && s.all isSettled && composed s = s && !isEncoded s)
  return s

/-- Whether a label in the form of domains can stand as it is. -/
def isWellFormed (label : List Char) : Bool :=
  label.all (!isForbidden ·) && !(label.head?.elim false isMark) && areJoinersPlaced [] label &&
    (!label.any isWide || label.length ≤ Punycode.longestText)

/-- The text that a label in the form of domains stands for, unless it is malformed. -/
def labelText? (label : List Char) : Option (List Char) := do
  let text ← if isEncoded label then decoded? (label.drop 4) else some label
  guard (isWellFormed text)
  return text

end TableScan.Domain
