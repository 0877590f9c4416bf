import TableScan.Text.RunTable

/-!
# Characters shown by their codes

The characters that have no glyph of their own, or none that can be told from its surroundings:
controls, format characters, spaces other than the plain one, line and paragraph separators, what
is set aside for private use or is no character, and whatever extends the character before it.
-/

namespace TableScan.Text

/-- The characters that are shown by their codes, as the runs of value one. -/
def codedRuns : RunTable := .ofText "
    0 20:1 5F 22:1 C 1:1 252 70:1 8 2:1 6 4:1 7 1:1 1 1:1 14 1:1 E0 7:1 A6 1:1 26 2:1 32 2:1 3 2E:1
    1 1:1 1 2:1 1 2:1 1 9:1 1B 4:1 6 11:1 A B:1 1 1:1 2E 15:1 10 1:1 65 8:1 1 6:1 2 2:1 1 4:1 20 2:1
    1 1:1 1E 1D:1 59 B:1 1 E:1 2B 9:1 7 3:1 18 4:1 1 9:1 1 3:1 1 7:1 F 1:1 19 5:1 1 1:1 B 5:1 20
    10:1 2A 39:1 37 1:1 1 1:1 4 8:1 4 1:1 3 7:1 A 2:1 1D 1:1 2 1:1 8 2:1 2 2:1 16 1:1 7 1:1 1 3:1 4
    3:1 1 1:1 2 6:1 2 2:1 2 1:1 1 D:1 2 1:1 3 4:1 18 5:1 1 1:1 6 4:1 2 2:1 16 1:1 7 1:1 2 1:1 2 1:1
    2 4:1 3 18:1 4 1:1 1 7:1 A 2:1 3 1:1 1 C:1 1 1:1 9 1:1 3 1:1 16 1:1 7 1:1 2 1:1 5 3:1 4 8:1 1
    1:1 2 3:1 1 F:1 2 4:1 C 7:1 1 8:1 2 1:1 8 2:1 2 2:1 16 1:1 7 1:1 2 1:1 5 3:1 1 2:1 1 6:1 2 2:1 2
    F:1 2 1:1 3 4:1 12 B:1 1 1:1 6 3:1 3 1:1 4 3:1 2 1:1 1 1:1 2 3:1 2 3:1 3 3:1 C 5:1 1 1:1 2 3:1 3
    1:1 3 3:1 1 15:1 15 6:1 3 1:1 8 1:1 3 1:1 17 1:1 10 3:1 1 3:1 4 13:1 3 1:1 2 2:1 2 4:1 A 7:1 A
    1:1 B 1:1 3 1:1 17 1:1 A 1:1 5 3:1 2 2:1 1 1:1 2 17:1 3 1:1 2 4:1 A 1:1 3 E:1 B 1:1 3 1:1 29 2:1
    1 1:1 2 5:1 3 1:1 3 1:1 2 4:1 3 1:1 A 4:1 1A 2:1 2 1:1 12 3:1 18 1:1 9 1:1 1 2:1 7 9:1 2 6:1 7
    7:1 A 2:1 3 C:1 30 1:1 2 B:1 8 8:1 D 25:1 2 1:1 1 1:1 5 1:1 18 1:1 1 1:1 A 1:1 2 9:1 1 2:1 5 1:1
    1 9:1 A 2:1 4 20:1 18 2:1 1B 1:1 1 1:1 1 1:1 E 1:1 24 12:1 1 5:1 1 2:1 5 31:1 8 1:1 6 1:1 D 25:1
    2D 4:1 1 6:1 1 2:1 2 2:1 19 2:1 4 3:1 10 4:1 D 1:1 2 2:1 6 1:1 F 1:1 28 1:1 1 5:1 1 2:1 179 1:1
    4 2:1 7 1:1 1 1:1 4 2:1 29 1:1 4 2:1 21 1:1 4 2:1 7 1:1 1 1:1 4 2:1 F 1:1 39 1:1 4 2:1 43 5:1 1D
    3:1 1A 6:1 56 2:1 6 2:1 280 1:1 1C 3:1 59 7:1 12 D:1 13 3:1 2 9:1 12 E:1 D 1:1 3 F:1 34 2:1 1
    7:1 8 1:1 2 B:1 9 3:1 A 6:1 A 6:1 B 5:1 A 6:1 59 7:1 5 2:1 22 1:1 1 5:1 46 A:1 1F 4:1 4 2:1 3
    4:1 2 1:1 6 7:1 1 3:1 2A 2:1 5 B:1 2C 4:1 1A 6:1 B 3:1 39 2:1 2 3:1 38 1:1 1 9:1 1 1:1 2 8:1 6
    D:1 A 6:1 A 6:1 E 56:1 30 A:1 4 3:1 8 1:1 1D 9:1 C 2:1 20 4:1 2 6:1 38 1:1 1 2:1 3 1:1 1 D:1 30
    8:1 2 5:1 F 3:1 3E 5:1 2B 2:1 B B:1 1 D:1 1 7:1 4 1:1 6 1:1 3 2:1 1 5:1 C0 40:1 116 2:1 6 2:1 26
    2:1 6 2:1 8 1:1 1 1:1 1 1:1 1 1:1 1F 2:1 35 1:1 F 1:1 E 2:1 6 1:1 13 2:1 3 1:1 9 11:1 18 8:1 2F
    11:1 2 2:1 1B 1:1 D 3:1 22 3E:1 8C 4:1 29A 16:1 B 15:1 714 2:1 179 3:1 2 5:1 2D 1:1 1 5:1 1 2:1
    38 7:1 2 F:1 17 9:1 7 1:1 7 1:1 7 1:1 7 1:1 7 1:1 7 1:1 7 1:1 7 21:1 5E 22:1 1A 1:1 59 C:1 D6
    1A:1 10 1:1 29 6:1 10 1:1 56 4:1 65 5:1 2B 1:1 5E 1:1 56 9:1 30 1:1 726D 3:1 37 9:1 15C 14:1 2F
    4:1 1 A:1 20 2:1 50 2:1 6 8:1 DD 14:1 11 1:1 3 1:1 4 1:1 19 2:1 5 4:1 A 6:1 38 8:1 44 A:1 C 18:1
    D 1:1 26 8:1 19 B:1 1 C:1 1E 6:1 30 1:1 2 4:1 2 2:1 2 1:1 D 1:1 B 4:1 7 1:1 19 1:1 29 6:1 2 2:1
    2 B:1 3 1:1 8 1:1 1 2:1 A 2:1 20 1:1 33 1:1 1 3:1 2 2:1 5 2:1 1 1:1 1 18:1 11 2:1 8 B:1 6 2:1 6
    2:1 6 9:1 7 1:1 7 1:1 3C 4:1 75 1:1 2 1:1 4 3:1 A 6:1 2BA4 C:1 17 4:1 31 2104:1 16E 2:1 6A 26:1
    7 C:1 5 5:1 1 1:1 18 1:1 5 1:1 1 1:1 2 1:1 2 1:1 28A 20:1 10 10:1 A 16:1 23 1:1 13 1:1 4 4:1 5
    1:1 87 4:1 9D 2:1 1F 3:1 6 2:1 6 2:1 6 2:1 3 3:1 7 1:1 7 D:1 2 2:1 C 1:1 1A 1:1 13 1:1 2 1:1 F
    2:1 E 22:1 7B 5:1 3 4:1 2D 3:1 58 1:1 D 3:1 1 2F:1 2D 83:1 1D 3:1 31 10:1 1B 4:1 24 9:1 1E 5:1
    26 A:1 1E 1:1 25 4:1 E 2A:1 9E 2:1 A 6:1 24 4:1 24 4:1 28 8:1 34 B:1 C 1:1 F 1:1 7 1:1 2 1:1 B
    1:1 F 1:1 7 1:1 2 3:1 34 C:1 137 9:1 16 A:1 8 18:1 6 1:1 2A 1:1 9 45:1 6 2:1 1 1:1 2C 1:1 2 3:1
    1 2:1 17 1:1 48 8:1 9 30:1 13 1:1 2 5:1 21 3:1 1B 5:1 1B 26:1 38 4:1 14 2:1 2F F:1 4 1:1 3 1:1
    1D A:1 9 7:1 9 7:1 40 20:1 25 6:1 C 9:1 36 3:1 1D 2:1 1B 5:1 1A 7:1 4 C:1 7 50:1 49 37:1 33 D:1
    33 7:1 2A C:1 A 6:1 26 8:1 18 8:1 2 D0:1 1F 1:1 2A 3:1 1 2:1 2 10:1 6 8:1 9 27:1 28 8:1 16 B:1 9
    16:1 12 4:1 4 26:1 1C 14:1 17 9:1 1 1:1 36 F:1 7 4:1 1E 1:1 2 2:1 1 C:1 31 4:1 2 2:1 2 1:1 4 E:1
    19 7:1 A 9:1 24 5:1 1 9:1 12 8:1 23 1:1 3 B:1 34 9:1 1 1:1 8 4:1 2 1:1 10 1:1 14 B:1 12 1:1 1C
    3:1 2 4:1 6 1:1 2 3F:1 7 1:1 1 1:1 4 1:1 F 1:1 B 6:1 2F 1:1 3 D:1 A 8:1 2 1:1 8 2:1 2 2:1 16 1:1
    7 1:1 2 1:1 5 3:1 1 1:1 1 1:1 4 2:1 2 2:1 2 3:1 1 C:1 7 1C:1 A 1:1 1 2:1 1 1:1 26 1:1 1 1:1 2
    F:1 1 1:1 2 3:1 1 1:1 3 1:1 2 27:1 38 8:1 2 3:1 1 1:1 15 1:1 1 1:1 3 1E:1 30 1:1 2 6:1 1 1:1 2
    1:1 1 2:1 1 2:1 4 8:1 A A6:1 2F 1:1 2 6:1 4 2:1 1 2:1 1B 24:1 33 8:1 2 1:1 1 2:1 4 B:1 A 6:1 D
    13:1 2B 1:1 1 1:1 2 8:1 2 6:1 A 6:1 14 1C:1 1B 3:1 1 1:1 2 4:1 1 9:1 17 B9:1 2F 9:1 1 2:1 1 64:1
    53 C:1 8 2:1 1 2:1 8 1:1 2 1:1 18 1:1 5 1:1 2 6:1 4 1:1 3 9:1 A 46:1 8 2:1 2A 8:1 4 1:1 4 1B:1 1
    A:1 28 6:1 2 4:1 8 9:1 1 6:1 2 3:1 2E D:1 1 2:1 9 D:1 49 7:1 A 57:1 1 3:1 1 1:1 1 58:1 22 E:1 A
    6:1 9 1:1 26 E:1 1 1:1 6 A:1 1D 3:1 20 19:1 1 7:1 1 2:1 1 4B:1 7 1:1 2 1:1 26 15:1 1 9:1 A 6:1 6
    1:1 2 1:1 25 4:1 2 1:1 1 1:1 1 7:1 A 6:1 2C 4:1 A F6:1 13 2:1 4 9:1 F 1:1 24 8:1 2 3:1 17 56:1 1
    F:1 32 D:1 39B 66:1 6F 1:1 5 B:1 C4 A4C:1 63 D:1 430 11:1 6 19:1 F9B 5:1 247 1AB9:1 1E C:1 3 3:1
    A 6C6:1 239 7:1 1F 1:1 A 4:1 51 1:1 A 6:1 1E 7:1 1 A:1 30 7:1 F A:1 A 1:1 7 1:1 15 5:1 13 1B0:1
    3A C6:1 5B 5:1 19 2:1 19 2C:1 4B 5:1 38 B:1 D 40:1 4 E:1 5 9:1 1CD6 29:1 20 61:1 73 21FD:1 4 1:1
    7 1:1 2 1:1 123 F:1 1 1D:1 3 2:1 1 E:1 4 8:1 18C 904:1 6B 5:1 D 3:1 9 7:1 A 2:1 1 2:1 1 F60:1 FD
    3:1 1B4 6:1 17 F:1 11 5F:1 74 3C:1 F6 A:1 27 2:1 3C 5:1 3 16:1 2 7:1 1E 4:1 3D 15:1 42 3:1 1
    7A:1 14 C:1 14 C:1 57 9:1 19 87:1 55 1:1 47 1:1 2 2:1 1 2:1 2 2:1 4 1:1 C 1:1 1 1:1 7 1:1 41 1:1
    4 2:1 8 1:1 7 1:1 1C 1:1 4 1:1 5 1:1 1 3:1 7 1:1 154 2:1 124 2:1 232 37:1 4 32:1 8 1:1 E 1:1 7
    474:1 1F 6:1 6 105:1 3E 92:1 2D A:1 7 2:1 A 4:1 2 140:1 1E 12:1 2C 4:1 A 5:1 1 1D0:1 1C 4:1 A
    D6:1 1E 2:1 B 4:1 1 C0:1 1F 1:1 3 1:1 2 1:1 7 2:1 5 9:1 2 E0:1 7 1:1 4 1:1 2 1:1 F 1:1 C5 2:1 9
    30:1 44 7:1 1 4:1 A 4:1 2 311:1 44 4C:1 3D C2:1 4 1:1 1B 1:1 2 1:1 1 2:1 1 1:1 A 1:1 4 1:1 1 1:1
    1 6:1 1 4:1 1 1:1 1 1:1 1 1:1 3 1:1 2 1:1 1 2:1 1 1:1 1 1:1 1 1:1 1 1:1 1 1:1 2 1:1 1 2:1 4 1:1
    7 1:1 4 1:1 4 1:1 1 1:1 A 1:1 11 5:1 3 1:1 5 1:1 11 34:1 2 10E:1 2C 4:1 64 C:1 F 2:1 F 1:1 F 1:1
    25 A:1 AE 38:1 1D D:1 2C 4:1 9 7:1 2 E:1 6 9A:1 3D9 3:1 11 3:1 D 3:1 DA 6:1 C 4:1 1 F:1 C 4:1 38
    8:1 A 6:1 28 8:1 1E 2:1 C 4:1 2 E:1 9 27:1 158 8:1 E 2:1 D 3:1 B 3:1 39 1:1 1 4:1 10 2:1 C 4:1 A
    7:1 93 1:1 67 405:1 A6E0 20:1 111E 2:1 168E 2:1 1D31 F:1 26E 9A2:1 21E 5E2:1 134B 5:1 212A
    DCB86:1"

def isCoded (c : Char) : Bool :=
  if c.toNat < 0x80 then c.toNat < 0x20 || c.toNat = 0x7F else codedRuns.value c = 1

end TableScan.Text
