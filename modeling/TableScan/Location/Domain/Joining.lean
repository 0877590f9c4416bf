import TableScan.Location.Domain.Composite

/-!
# Joiners

The invisible joiner and non-joiner stand in a domain only where they show: after a mark that joins
a consonant to what follows, and the non-joiner also between letters that would join.
-/

namespace TableScan.Domain

/-- How a letter joins its neighbours. -/
inductive Joining where
  /-- It joins neither neighbour. -/
  | none
  /-- It joins the letter after it. -/
  | after
  | both
  /-- It joins the letter before it. -/
  | before
  /-- The letters before and after it join as if it were not there. -/
  | transparent
  deriving DecidableEq, Repr

/-- The joining of characters, by its number in the type. -/
def joiningRuns : Text.RunTable := .ofText "
    300 71:4 112 8:4 106 2D:4 1 1:4 1 2:4 1 2:4 1 9:4 40 B:4 5 1:2 1 4:3 1:2 1:3 1:2 1:3 5:2 4:3 D:2
    1 7:2 1:3 2:2 15:4 E 2:2 1:4 3:3 5 F:2 12:3 26:2 1:3 2:2 9:3 1:2 1:3 1:2 1:3 2:2 2:3 1 1:3 8:4 1
    6:4 2 2:4 1 4:4 2:3 A 3:2 2 1:2 10 1:3 1:4 3:2 5:3 4:2 1:3 9:2 1:3 1:2 1:3 1:2 1:3 2:2 1:3 1D:4
    1:3 B:2 3:3 F:2 2:3 4:2 1:3 1:2 2:3 3:2 2:3 6:2 26 B:4 19 21:2 9:4 9 1:4 18 4:4 1 9:4 1 3:4 1
    7:4 10 1:3 5:2 2:3 1:2 1:3 A:2 1:3 1:2 3:3 5:4 2 1:2 1 4:2 1 1:3 1:2 1A:3 3 1:2 2 5:2 1:3 8:2
    9:4 A:2 3:3 1 1:3 2:2 2:3 6:2 1:3 F:2 1 39:4 37 1:4 1 1:4 4 8:4 4 1:4 3 F:4 2 2:4 1D 1:4 3A 1:4
    4 6:4 6 1:4 14 4:4 18 5:4 39 2:4 3 1B:4 14 2:4 3 1:4 B 2:4 39 1:4 4 8:4 4 3:4 12 4:4 14 8:4 3A
    1:4 2 1:4 1 6:4 6 A:4 B 4:4 1C 1:4 3D 1:4 C 3:4 30 1:4 3 1:4 37 1:4 1 3:4 5 12:4 A 4:4 1B 1:4 3A
    1:4 2 1:4 6 1:4 5 9:4 D 4:4 1A 2:4 39 2:4 4 5:4 7 1:4 14 4:4 1B 1:4 48 5:4 3 6:4 59 1:4 2 B:4 8
    8:4 62 1:4 2 9:4 B 8:4 48 2:4 1B 1:4 1 1:4 1 1:4 37 E:4 1 5:4 1 2:4 5 31:4 8 1:4 66 4:4 1 6:4 1
    2:4 2 2:4 19 2:4 4 3:4 10 4:4 D 1:4 2 2:4 6 1:4 F 1:4 2BF 3:4 3B2 3:4 1D 2:4 1E E:4 12 E:4 37
    7:4 8 1:4 2 B:4 9 3:4 27 1:2 18 60:2 5 2:4 22:2 1:4 6:2 70 3:4 4 2:4 9 1:4 6 7:4 D7 2:4 2 3:4 38
    1:4 1 9:4 1 1:4 2 8:4 6 D:4 30 54:4 30 1:4 1 5:4 1 1:4 5 1:4 28 9:4 C 2:4 20 4:4 2 2:4 1 3:4 38
    1:4 1 2:4 3 1:4 1 3:4 3A 8:4 2 5:4 95 3:4 1 D:4 1 7:4 4 1:4 6 1:4 3 2:4 C6 41:4 2CF 34:4 BEB 4:4
    8C 1:4 60 20:4 22A 4:4 6B 4:4 75D2 4:4 1 A:4 20 2:4 50 2:4 110 1:4 3 1:4 4 1:4 19 2:4 5 4:4 10
    32:2 1:1 51 A:4 12 12:4 D 1:4 26 8:4 19 B:4 2E 3:4 30 1:4 2 4:4 2 2:4 27 1:4 43 6:4 2 2:4 2 B:4
    3 1:4 8 1:4 2F 1:4 33 1:4 1 3:4 2 2:4 5 2:4 1 1:4 2A 2:4 8 B:4 E4 1:4 2 1:4 4 3:4 4F2E 94:4 26E
    25:4 3B8 83:4 60 1:4 95 A:4 681 F:4 28 8:4 80 5:2 1:3 1 1:3 1 2:3 2 1:1 5:3 4:2 1:1 5:2 1:3 3:2
    1:3 2 1:3 6:4 4:2 1:3 90 1:2 1:3 1:2 3:3 3:2 1:3 2:2 1:3 1:2 2:3 1:2 8:3 10 4:3 2:2 151 1:1 21:2
    1:3 1:2 C:4 39 5:4 13D 2:4 15 1:3 2:2 1 A:2 2A 6:4 30 3:2 1:3 11:2 1 B:4 3:2 1:3 1B 4:2 2:3 C:2
    4:4 2A 1:2 1 2:2 3:3 1 1:2 2:3 2:2 1:3 2:2 1 1:2 2:3 1:2 4 1:3 1:2 15:1 21 1:4 36 F:4 29 1:4 2
    2:4 A 3:4 31 4:4 2 2:4 7 E:4 30 3:4 24 5:4 1 9:4 3D 1:4 C 2:4 34 9:4 A 4:4 2 1:4 5F 3:4 2 1:4 1
    2:4 6 1:4 2 3F:4 5F 1:4 3 D:4 10 2:4 39 2:4 3 1:4 25 1A:4 3B 7:4 C 1:4 1 1:4 1 1:4 E 1F:4 38 8:4
    2 3:4 1 1:4 17 1:4 54 6:4 1 1:4 4 2:4 1 2:4 EE 6:4 4 2:4 1 2:4 1B 24:4 33 8:4 2 1:4 1 2:4 6A 1:4
    1 1:4 2 6:4 1 1:4 65 1:4 1 1:4 2 4:4 1 9:4 FF 9:4 1 2:4 100 2:4 1 1:4 4 1:4 90 8:4 4 1:4 20 A:4
    28 6:4 2 4:4 8 9:4 1 6:4 2 3:4 2E D:4 1 2:4 C6 1:4 1 3:4 1 1:4 C9 E:4 1 1:4 52 17:4 1 7:4 1 2:4
    1 4B:4 31 15:4 1 9:4 40 3:4 2 1:4 1 1:4 15B 2:4 B 2:4 34 8:4 2 1:4 1 1:4 17 56:4 1490 1:4 6 19:4
    2CBE C:4 3 3:4 9C0 5:4 3B 7:4 418 1:4 3F 4:4 51 C:4 4CAD 2:4 1261 50:4 217 3:4 11 8:4 2 7:4 1E
    4:4 94 3:4 7BB 37:4 4 32:4 8 1:4 E 1:4 16 465:4 100 100:4 30 7:4 177 12:4 2C 4:4 1FC 4:4 FE 2:4
    F3 1:4 2 1:4 7 2:4 5 9:4 1D2 52:4 22:2 C:4 F16B0"

def joining (c : Char) : Joining :=
  match joiningRuns.value c with
  | 1 => .after
  | 2 => .both
  | 3 => .before
  | 4 => .transparent
  | _ => .none

def nonJoiner : Char := '\u200C'

def joiner : Char := '\u200D'

/-- Whether the first character that is not transparent joins in one of two ways. -/
def joins (a b : Joining) (s : List Char) : Bool :=
  match (s.map joining).dropWhile (· = .transparent) with
  | [] => false
  | j :: _ => j = a || j = b

/-- Whether each joiner stands where it may. `passed` are the characters before, the last one
first. -/
def areJoinersPlaced (passed : List Char) : List Char → Bool
  | [] => true
  | c :: rest =>
    (if c = joiner ∨ c = nonJoiner then
      match passed with
      | [] => false
      | d :: _ =>
        combiningClass d = viramaClass ||
          (c = nonJoiner && joins .after .both passed && joins .before .both rest)
    else true) && areJoinersPlaced (c :: passed) rest

end TableScan.Domain
