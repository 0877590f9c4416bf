import TableScan.Text.RunTable

/-!
# Directions of domain characters

A domain that holds a character written from right to left must not change its meaning with the
order in which it is shown. Each of its labels therefore begins with a letter, holds characters of
fitting directions only, and ends in a letter or a digit.
-/

namespace TableScan.Domain

/-- How a character takes part in the order of a line. -/
inductive Direction where
  | left
  | right
  | arabicDigit
  | europeanDigit
  /-- Separators, signs and symbols that take the direction of their surroundings. -/
  | neutral
  /-- A mark over or under another character. -/
  | mark
  /-- Blanks, paragraph separators and marks of embedding. -/
  | other
  deriving DecidableEq, Repr

/-- The directions of characters, by their number in the type. -/
def directionRuns : Text.RunTable := .ofText "
    0 9:4 5:6 E:4 5:6 F:4 A:3 27:4 1A 64:4 18 1:4 1C1 2:4 7 E:4 2 1C:4 1 11:4 71:5 4 2:4 7F 2:4 8B
    8:5 FF 7:4 2D:5 1:1 1:5 1:1 2:5 1:1 2:5 1:1 9:5 36:1 2:4 1:1 2:4 1:1 1:4 1:1 2:4 B:5 30:1 15:5
    A:2 1:4 2:2 3:1 1:5 65:1 8:5 1:4 6:5 2:1 2:5 1:4 4:5 2:1 A:3 17:1 1:5 1E:1 1D:5 59:1 B:5 3A:1
    9:5 2:1 4:4 3:1 1:5 18:1 4:5 1:1 9:5 1:1 3:5 1:1 7:5 29:1 5:5 39:1 9:5 2A:1 39:5 37 1:5 1 1:5 4
    8:5 4 1:5 3 F:5 2 2:5 1D 1:5 3A 1:5 4 6:5 6 1:5 14 4:5 C 2:4 7 1:4 2 5:5 39 2:5 3 1B:5 14 2:5 3
    1:5 B 2:5 39 1:5 4 8:5 4 3:5 12 4:5 B 8:4 1 8:5 3A 1:5 2 1:5 1 6:5 6 A:5 B 4:5 1C 1:5 3D 1:5 C
    3:5 23 D:4 1:5 3 1:5 37 1:5 1 3:5 5 12:5 A 4:5 12 7:4 2 1:5 3A 1:5 F 9:5 D 4:5 1A 2:5 39 2:5 4
    5:5 7 1:5 14 4:5 1B 1:5 48 5:5 3 6:5 59 1:5 2 B:5 1:4 7 8:5 62 1:5 2 9:5 B 8:5 48 2:5 1B 1:5 1
    1:5 1 1:5 4:4 33 E:5 1 5:5 1 2:5 5 31:5 8 1:5 66 4:5 1 6:5 1 2:5 2 2:5 19 2:5 4 3:5 10 4:5 D 1:5
    2 2:5 6 1:5 F 1:5 2BF 3:5 30 10:4 60 1:4 29A 5:4 72 3:5 1D 2:5 1E E:5 12 E:5 37 7:5 8 1:5 2 B:5
    7 1:4 1 3:5 10 20:4 75 2:5 22 1:5 76 3:5 4 2:5 9 1:5 6 7:5 6:4 98 22:4 17 2:5 2 3:5 38 1:5 1 9:5
    1 1:5 2 8:5 6 D:5 30 54:5 30 1:5 1 5:5 1 1:5 5 1:5 28 9:5 C 2:5 20 4:5 2 2:5 1 3:5 38 1:5 1 2:5
    3 1:5 1 3:5 3A 8:5 2 5:5 95 3:5 1 D:5 1 7:5 4 1:5 6 1:5 3 2:5 C6 41:5 20B C4:4 34:5 4A:4 3C
    1AC:4 45 1A:4 1 316:4 1 153:4 100 330:4 B5 7:4 3 4:5 6 7:4 7F 1:5 60 20:5 205:4 3 19:4 9 4:5 2
    1:4 6 4:4 2 4:4 58 4:5 3 1:4 5A 1:4 C4 30:4 1BD0 40:4 5690 40:4 13D 3:4 5F 4:5 1:4 A:5 3:4 1D
    2:5 50 2:5 E 23:4 65 1:4 79 1:5 3 1:5 4 1:5 19 2:5 1 4:4 4:5 8 8:4 34 C:4 44 A:5 12 12:5 D 1:5
    26 8:5 19 B:5 2E 3:5 30 1:5 2 4:5 2 2:5 27 1:5 43 6:5 2 2:5 2 B:5 3 1:5 8 1:5 2F 1:5 33 1:5 1
    3:5 2 2:5 5 2:5 1 1:5 2A 2:5 8 B:5 69 56:4 25 1:5 2 1:5 4 3:5 4F2E 94:5 11:1 25D:4 25:5 2E:4
    18D:1 101 1:4 3E 4D:4 3 40:4 2D 83:5 60 1:5 1F:3 76 A:5 480 11F:1 1:4 E1:1 F:5 28:1 8:5 A5:1 6:5
    4E:1 7:4 1E4:1 C:5 10:2 29:1 5:5 1:4 F1:1 20:2 2B:1 2:5 23:1 2A:4 6:5 46:1 B:5 31:1 4:5 7A:1 1
    1:5 36 F:5 B 14:4 A 1:5 2 2:5 A 3:5 31 4:5 2 2:5 7 E:5 30 3:5 24 5:5 1 9:5 3D 1:5 C 2:5 34 9:5 A
    4:5 2 1:5 5F 3:5 2 1:5 1 2:5 6 1:5 2 3F:5 5F 1:5 3 D:5 10 2:5 39 2:5 3 1:5 25 1A:5 3B 7:5 C 1:5
    1 1:5 1 1:5 E 1F:5 38 8:5 2 3:5 1 1:5 17 1:5 54 6:5 1 1:5 4 2:5 1 2:5 EE 6:5 4 2:5 1 2:5 1B 24:5
    33 8:5 2 1:5 1 2:5 1F 20:4 2B 1:5 1 1:5 2 6:5 1 1:5 65 3:5 2 4:5 1 9:5 FF 9:5 1 2:5 100 2:5 1
    1:5 4 1:5 90 8:5 4 1:5 20 6:5 2 2:5 28 6:5 2 4:5 8 9:5 1 6:5 2 3:5 2E D:5 1 2:5 C6 1:5 1 3:5 1
    1:5 C9 E:5 54 17:5 1 7:5 1 2:5 1 4B:5 31 15:5 1 9:5 40 3:5 2 1:5 1 1:5 15B 2:5 B 2:5 34 8:5 2
    1:5 1 1:5 17 56:5 25 2A:4 1441 1:5 6 19:5 2CBE C:5 3 3:5 9C0 5:5 3B 7:5 418 1:5 3F 4:5 4F 1:4 1
    C:5 4CAD 2:5 F61 300:4 50:5 217 3:5 11 8:5 2 7:5 1E 4:5 3B 59:4 3:5 7B:4 40 60:4 6A0 37:5 4 32:5
    8 1:5 E 1:5 16 465:5 100 100:5 30 7:5 177 12:5 2C 4:5 F 1D1:4 1C 4:5 FE 2:5 F3 1:5 2 1:5 7 2:5 5
    9:5 102 D0:1 52:5 22:1 7:5 5A5:1 260:4 1D 3:4 3D 39:4 7A DA0:4 F0000"

def direction (c : Char) : Direction :=
  match directionRuns.value c with
  | 0 => .left
  | 1 => .right
  | 2 => .arabicDigit
  | 3 => .europeanDigit
  | 4 => .neutral
  | 5 => .mark
  | _ => .other

/-- Whether a character makes its domain one that is written from right to left in part. -/
def isRightward (c : Char) : Bool :=
  0x590 ≤ c.toNat && (direction c = .right || direction c = .arabicDigit)

/-- Whether the directions of a label fit together. Marks at its end do not count as its end. -/
def isDirected (label : List Char) : Bool :=
  match label.map direction with
  | [] => true
  | .left :: rest =>
    let rest := (rest.reverse.dropWhile (· = .mark)).reverse
    rest.all (fun d => d = .left || d = .europeanDigit || d = .neutral || d = .mark) &&
      rest.getLast?.elim true fun d => d = .left || d = .europeanDigit
  | .right :: rest =>
    let rest := (rest.reverse.dropWhile (· = .mark)).reverse
    rest.all (fun d => d ≠ .left && d ≠ .other) &&
      !(rest.contains .europeanDigit && rest.contains .arabicDigit) &&
      rest.getLast?.elim true fun d => d = .right || d = .europeanDigit || d = .arabicDigit
  | _ => false

end TableScan.Domain
