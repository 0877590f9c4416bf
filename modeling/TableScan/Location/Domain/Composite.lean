import TableScan.Text.RunTable

/-!
# Composite characters

The composed form of a domain: a letter and a mark after it are written as one character where
there is one for them, and marks that do not interact stand in the order of their classes. The
tables hold the characters that domains hold after mapping.
-/

namespace TableScan.Domain

open Text (RunTable hexNumber)

/-! ### Classes of marks -/

/-- The combining classes of marks; other characters have class zero. -/
def classRuns : RunTable := .ofText "
    300 15:E6 1:E8 4:DC 1:E8 1:D8 5:DC 2:CA 4:DC 2:CA B:DC 5:1 4:DC A:E6 3:DC 3:E6 3:DC 3:E6 4:DC
    1:E6 1:E8 2:DC 1:E6 1:E9 2:EA 1:E9 2:EA 1:E9 E:E6 112 5:E6 109 1:DC 4:E6 1:DC 3:E6 1:DE 1:DC
    6:E6 6:DC 2:E6 1:DC 2:E6 1:DE 1:E4 1:E6 1:A 1:B 1:C 1:D 1:E 1:F 1:10 1:11 1:12 2:13 1:14 1:15
    1:16 1 1:17 1 1:18 1:19 1 1:E6 1:DC 1 9:12 40 8:E6 1:1E 1:1F 1:20 30 1:1B 1:1C 1:1D 1:1E 1:1F
    1:20 1:21 1:22 2:E6 2:DC 5:E6 1:DC 2:E6 1:DC 10 1:23 65 8:E6 1 4:E6 1:DC 1:E6 2 2:E6 1 1:DC 2:E6
    1:DC 23 1:24 1E 1:E6 1:DC 2:E6 1:DC 2:E6 3:DC 1:E6 2:DC 1:E6 1:DC 3:E6 1:DC 1:E6 1:DC 1:E6 1:DC
    1:E6 1:DC 4:E6 9E 7:E6 1:DC 1:E6 9 1:DC 18 4:E6 1 9:E6 1 3:E6 1 7:E6 29 5:DC 39 2:E6 3:DC 4:E6
    2A 5:E6 5:DC F:E6 1:DC 2:E6 1:DC 2:E6 1:DC 3:E6 3:DC 1:1B 1:1C 1:1D 3:E6 1:DC 2:E6 2:DC 5:E6 3C
    1:7 10 1:9 3 1:E6 1:DC 2:E6 67 1:7 10 1:9 30 3:E6 3B 2:7 F 4:9 6B 1:7 10 3:9 6C 1:7 10 8:9 78
    3:9 6C 1:7 10 8:9 1:54 2:5B 64 1:7 10 8:9 66 2:9 10 1:9 7C 5:9 69 2:67 5:9 9 4:6B 6C 2:76 1:9 D
    4:7A 4C 2:DC 1B 1:DC 1 1:DC 1 1:D8 37 1:81 2:82 6:84 4:82 2 2:82 2:E6 1:9 1 2:E6 3E 1:DC 70 1:7
    1 2:9 52 1:DC 2CF 3:E6 3B4 B:9 15 1:9 9D 1:9 A 3:E6 C9 1:E4 8F 1:DE 1:E6 5:DC D7 1:E6 1:DC 47
    1:9 14 A:E6 1:DC 30 5:E6 6:DC 2:E6 1:DC 1 2:DC 2:E6 2:DC 5:E6 1:DC 12:E6 3:DC 6:E6 1:DC 4:E6
    15:EA 34 1:7 F 1:9 26 1:E6 1:DC 7:E6 36 2:9 3A 1:7 B A:9 3B 4:7 95 3:E6 1 1:1 5:DC 2:E6 4:DC
    1:E6 1 7:1 4 1:DC 6 1:E6 3 2:E6 C6 2:E6 1:DC 7:E6 1:DC 2:E6 1:EA 1:D6 1:DC 1:CA 25:E6 1:E8 2:E4
    1:DC 1:DA 1:E6 1:E9 1:DC 1:E6 2:DC 2CF 2:E6 2:1 4:E6 3:1 2:E6 4 1:E6 3 2:1 1:E6 1:DC 1:E6 2:1
    4:DC 14:E6 BEB 4:E6 8C 1:9 60 20:E6 22A 1:DA 1:E4 1:E8 1:DE 2:E0 69 4:8 75D2 1:E6 4 A:E6 20 2:E6
    50 2:E6 114 1:9 25 4:9 94 1:9 1B 12:E6 39 3:DC 25 C:9 54 1:7 C 1:9 EF 1:E6 1 2:E6 1:DC 2 2:E6 5
    2:E6 1 1:E6 34 B:9 EC 3:9 4F2E 94:1A 26E 7:E6 7:DC 17:E6 3B8 83:DC 60 1:DC 95 A:E6 68D 1:DC 1
    1:E6 28 1:E6 1:1 5:DC 1:9 A5 1:E6 5:DC 239 C:E6 39 5:E6 13D 2:E6 4D 2:DC 1 3:DC 46 2:DC 3:E6
    1:DC 1:E6 4:DC 31 1:E6 1:DC 1:E6 1:DC C0 1:9 29 1:9 E 1:9 39 1:9 1:7 45 3:E6 30 3:9 3D 1:7 4C
    1:9 9 1:7 6A 1:9 1:7 B2 1:7 6:9 4B 2:7 10 3:9 16 1A:E6 4E 3:9 71 1:9 3 1:7 17 1:E6 63 1:9 1:7 FB
    1:9 1:7 7E 1:9 76 1:9 1:7 73 5:9 109 1:9 1:7 102 2:9 4 1:7 9C 1:9 53 1:9 12 9:9 49 1:9 1A5 1:9
    102 1:7 1 2:9 51 1:9 1A9 2:9 41EC 1:9 9C0 5:1 3B 7:E6 4B9 2:6 4CAC 1:1 14C6 2:D8 3:1 3 1:E2 D:D8
    8:DC 2 5:E6 2:DC 1E 4:E6 94 3:E6 DBB 100:E6 30 7:E6 177 12:E6 2C 4:E6 1FC 2:E8 1:DC 1:E6 FE 1:E6
    1:DC F3 1:E6 2 1:E6 7 2:E6 5 9:E6 1D2 52:DC 22 6:E6 1:7 F16B5"

def combiningClass (c : Char) : Nat := if c.toNat < 0x300 then 0 else classRuns.value c

/-- The class of the marks that join a consonant to what follows it. -/
def viramaClass : Nat := 9

/-- Puts a character before others; a mark goes behind the marks of lower classes. -/
def insertMark (c : Char) : List Char → List Char
  | [] => [c]
  | d :: l =>
    if combiningClass d ≠ 0 ∧ combiningClass d < combiningClass c then d :: insertMark c l
    else c :: d :: l

/-- The characters with each run of marks in the order of the classes. -/
def ordered (s : List Char) : List Char := s.foldr insertMark []

/-! ### Pairs -/

structure Composite where
  whole : Char
  first : Char
  second : Char
  deriving DecidableEq, Repr

/-- The composites, in the order of their codes. Each word gives the two characters; before `>`
stands the number of codes that are passed over. -/
def composites : Array Composite :=
  let add (t : Array Composite × Nat) (word : List Char) : Array Composite × Nat :=
    let (gap, pair) := match Text.cutAtFirst? '>' word with
      | some (gap, rest) => (hexNumber gap, rest)
      | none => (0, word)
    let whole := t.2 + gap
    let char (s : List Char) : Char := Char.ofNat (hexNumber s)
    match Text.cutAtFirst? '+' pair with
    | some (a, b) => (t.1.push ⟨Char.ofNat whole, char a, char b⟩, whole + 1)
    | none => (t.1, whole + 1)
  ((Text.words table).foldl add (#[], 0)).1
where
  table : String := "
    E0>61+300 61+301 61+302 61+303 61+308 61+30A 1>63+327 65+300 65+301 65+302 65+308 69+300 69+301
    69+302 69+308 1>6E+303 6F+300 6F+301 6F+302 6F+303 6F+308 2>75+300 75+301 75+302 75+308 79+301
    1>79+308 1>61+304 1>61+306 1>61+328 1>63+301 1>63+302 1>63+307 1>63+30C 1>64+30C 3>65+304
    1>65+306 1>65+307 1>65+328 1>65+30C 1>67+302 1>67+306 1>67+307 1>67+327 1>68+302 3>69+303
    1>69+304 1>69+306 1>69+328 5>6A+302 1>6B+327 2>6C+301 1>6C+327 1>6C+30C 5>6E+301 1>6E+327
    1>6E+30C 4>6F+304 1>6F+306 1>6F+30B 3>72+301 1>72+327 1>72+30C 1>73+301 1>73+302 1>73+327
    1>73+30C 1>74+327 1>74+30C 3>75+303 1>75+304 1>75+306 1>75+30A 1>75+30B 1>75+328 1>77+302
    1>79+302 2>7A+301 1>7A+307 1>7A+30C 22>6F+31B E>75+31B 1D>61+30C 1>69+30C 1>6F+30C 1>75+30C
    1>FC+304 1>FC+301 1>FC+30C 1>FC+300 2>E4+304 1>227+304 1>E6+304 3>67+30C 1>6B+30C 1>6F+328
    1>1EB+304 1>292+30C 6A+30C 4>67+301 3>6E+300 1>E5+301 1>E6+301 1>F8+301 1>61+30F 1>61+311
    1>65+30F 1>65+311 1>69+30F 1>69+311 1>6F+30F 1>6F+311 1>72+30F 1>72+311 1>75+30F 1>75+311
    1>73+326 1>74+326 3>68+30C 7>61+307 1>65+327 1>F6+304 1>F5+304 1>6F+307 1>22F+304 1>79+304
    15C>3CA+301 1B>3B1+301 3B5+301 3B7+301 3B9+301 3CB+301 19>3B9+308 3C5+308 3BF+301 3C5+301
    3C9+301 6A>438+306 16>435+300 435+308 1>433+301 3>456+308 4>43A+301 438+300 443+306 18>475+30F
    4A>436+306 E>430+306 1>430+308 3>435+306 3>4D9+308 1>436+308 1>437+308 3>438+304 1>438+308
    1>43E+308 3>4E9+308 1>44D+308 1>443+304 1>443+308 1>443+30B 1>447+308 3>44B+308 128>627+653
    627+654 648+654 627+655 64A+654 99>6D5+654 1>6C1+654 10>6D2+654 255>928+93C 7>930+93C 2>933+93C
    96>9C7+9BE 9C7+9D7 17B>B47+B56 2>B47+B3E B47+B57 47>B92+BD7 35>BC6+BBE BC7+BBE BC6+BD7
    7B>C46+C56 77>CBF+CD5 6>CC6+CD5 CC6+CD6 1>CC6+CC2 CCA+CD5 7E>D46+D3E D47+D3E D46+D57 8D>DD9+DCA
    1>DD9+DCF DDC+DCA DD9+DDF 247>1025+102E ADF>1B05+1B35 1>1B07+1B35 1>1B09+1B35 1>1B0B+1B35
    1>1B0D+1B35 3>1B11+1B35 28>1B3A+1B35 1>1B3C+1B35 2>1B3E+1B35 1B3F+1B35 1>1B42+1B35 2BD>61+325
    1>62+307 1>62+323 1>62+331 1>E7+301 1>64+307 1>64+323 1>64+331 1>64+327 1>64+32D 1>113+300
    1>113+301 1>65+32D 1>65+330 1>229+306 1>66+307 1>67+304 1>68+307 1>68+323 1>68+308 1>68+327
    1>68+32E 1>69+330 1>EF+301 1>6B+301 1>6B+323 1>6B+331 1>6C+323 1>1E37+304 1>6C+331 1>6C+32D
    1>6D+301 1>6D+307 1>6D+323 1>6E+307 1>6E+323 1>6E+331 1>6E+32D 1>F5+301 1>F5+308 1>14D+300
    1>14D+301 1>70+301 1>70+307 1>72+307 1>72+323 1>1E5B+304 1>72+331 1>73+307 1>73+323 1>15B+307
    1>161+307 1>1E63+307 1>74+307 1>74+323 1>74+331 1>74+32D 1>75+324 1>75+330 1>75+32D 1>169+301
    1>16B+308 1>76+303 1>76+323 1>77+300 1>77+301 1>77+308 1>77+307 1>77+323 1>78+307 1>78+308
    1>79+307 1>7A+302 1>7A+323 1>7A+331 68+331 74+308 77+30A 79+30A 7>61+323 1>61+309 1>E2+301
    1>E2+300 1>E2+309 1>E2+303 1>1EA1+302 1>103+301 1>103+300 1>103+309 1>103+303 1>1EA1+306
    1>65+323 1>65+309 1>65+303 1>EA+301 1>EA+300 1>EA+309 1>EA+303 1>1EB9+302 1>69+309 1>69+323
    1>6F+323 1>6F+309 1>F4+301 1>F4+300 1>F4+309 1>F4+303 1>1ECD+302 1>1A1+301 1>1A1+300 1>1A1+309
    1>1A1+303 1>1A1+323 1>75+323 1>75+309 1>1B0+301 1>1B0+300 1>1B0+309 1>1B0+303 1>1B0+323 1>79+300
    1>79+323 1>79+309 1>79+303 6>3B1+313 3B1+314 1F00+300 1F01+300 1F00+301 1F01+301 1F00+342
    1F01+342 8>3B5+313 3B5+314 1F10+300 1F11+300 1F10+301 1F11+301 A>3B7+313 3B7+314 1F20+300
    1F21+300 1F20+301 1F21+301 1F20+342 1F21+342 8>3B9+313 3B9+314 1F30+300 1F31+300 1F30+301
    1F31+301 1F30+342 1F31+342 8>3BF+313 3BF+314 1F40+300 1F41+300 1F40+301 1F41+301 A>3C5+313
    3C5+314 1F50+300 1F51+300 1F50+301 1F51+301 1F50+342 1F51+342 8>3C9+313 3C9+314 1F60+300
    1F61+300 1F60+301 1F61+301 1F60+342 1F61+342 8>3B1+300 1>3B5+300 1>3B7+300 1>3B9+300 1>3BF+300
    1>3C5+300 1>3C9+300 33>3B1+306 3B1+304 4>3B1+342 F>3B7+342 9>3B9+306 3B9+304 3CA+300 3>3B9+342
    3CA+342 8>3C5+306 3C5+304 3CB+300 1>3C1+313 3C1+314 3C5+342 3CB+342 E>3C9+342 1A3>2190+338
    2192+338 12>2194+338 1E>21D0+338 21D4+338 21D2+338 34>2203+338 4>2208+338 2>220B+338 17>2223+338
    1>2225+338 1A>223C+338 2>2243+338 2>2245+338 1>2248+338 16>3D+338 1>2261+338 A>224D+338 3C+338
    3E+338 2264+338 2265+338 2>2272+338 2273+338 2>2276+338 2277+338 6>227A+338 227B+338 2>2282+338
    2283+338 2>2286+338 2287+338 22>22A2+338 22A8+338 22A9+338 22AB+338 30>227C+338 227D+338
    2291+338 2292+338 6>22B2+338 22B3+338 22B4+338 22B5+338 D5E>304B+3099 1>304D+3099 1>304F+3099
    1>3051+3099 1>3053+3099 1>3055+3099 1>3057+3099 1>3059+3099 1>305B+3099 1>305D+3099 1>305F+3099
    1>3061+3099 2>3064+3099 1>3066+3099 1>3068+3099 6>306F+3099 306F+309A 1>3072+3099 3072+309A
    1>3075+3099 3075+309A 1>3078+3099 3078+309A 1>307B+3099 307B+309A 16>3046+3099 9>309D+3099
    D>30AB+3099 1>30AD+3099 1>30AF+3099 1>30B1+3099 1>30B3+3099 1>30B5+3099 1>30B7+3099 1>30B9+3099
    1>30BB+3099 1>30BD+3099 1>30BF+3099 1>30C1+3099 2>30C4+3099 1>30C6+3099 1>30C8+3099 6>30CF+3099
    30CF+309A 1>30D2+3099 30D2+309A 1>30D5+3099 30D5+309A 1>30D8+3099 30D8+309A 1>30DB+3099
    30DB+309A 16>30A6+3099 2>30EF+3099 30F0+3099 30F1+3099 30F2+3099 3>30FD+3099 D4CA>105D2+307
    1A>105DA+307 AB5>11099+110BA 1>1109B+110BA E>110A5+110BA 82>11131+11127 11132+11127
    21B>11347+1133E 11347+11357 36>11382+113C9 1>11384+113BB 8>1138B+113C2 2>11390+113C9
    33>113C2+113C2 1>113C2+113B8 113C2+113C9 F2>114B9+114BA 114B9+114B0 1>114B9+114BD FB>115B8+115AF
    115B9+115AF 37C>11935+11930 47E8>1611E+1611E 1611E+16129 1611E+1611F 16129+1611F 1611E+16120
    16121+1611F 16122+1611F 16121+16120 C3F>16D67+16D67 16D63+16D67 16D69+16D67"

/-- The codes at which the leading consonants, the vowels and the trailing consonants of Hangul
begin, and the composed syllables; and the numbers of vowels and of trailing consonants, counting
the absent one. -/
structure HangulLayout where
  leads : Nat := 0x1100
  vowels : Nat := 0x1161
  trails : Nat := 0x11A7
  syllables : Nat := 0xAC00
  leadCount : Nat := 19
  vowelCount : Nat := 21
  trailCount : Nat := 28

def hangul : HangulLayout := {}

/-- The syllable of two parts: a lead and a vowel, or an open syllable and a trail. -/
def syllable? (a b : Char) : Option Char :=
  let h := hangul
  let lead := a.toNat - h.leads
  let vowel := b.toNat - h.vowels
  let place := a.toNat - h.syllables
  let trail := b.toNat - h.trails
  if h.leads ≤ a.toNat ∧ lead < h.leadCount ∧ h.vowels ≤ b.toNat ∧ vowel < h.vowelCount then
    some (Char.ofNat (h.syllables + (lead * h.vowelCount + vowel) * h.trailCount))
  else if h.syllables ≤ a.toNat ∧ place < h.leadCount * h.vowelCount * h.trailCount ∧
      place % h.trailCount = 0 ∧ h.trails < b.toNat ∧ trail < h.trailCount then
    some (Char.ofNat (a.toNat + trail))
  else none

def syllableParts? (c : Char) : Option (List Char) :=
  let h := hangul
  let place := c.toNat - h.syllables
  if h.syllables ≤ c.toNat ∧ place < h.leadCount * h.vowelCount * h.trailCount then
    let lead := Char.ofNat (h.leads + place / (h.vowelCount * h.trailCount))
    let vowel := Char.ofNat (h.vowels + place / h.trailCount % h.vowelCount)
    let trail := place % h.trailCount
    some (if trail = 0 then [lead, vowel] else [lead, vowel, Char.ofNat (h.trails + trail)])
  else none

def composite? (a b : Char) : Option Char :=
  if b.toNat < 0x300 then none
  else
    match syllable? a b with
    | some c => some c
    | none => (composites.find? fun p => p.first = a && p.second = b).map (·.whole)

def parts : (steps : Nat) → Char → List Char
  | 0, c => [c]
  | steps + 1, c =>
    if c.toNat < 0x80 then [c]
    else
      match syllableParts? c with
      | some l => l
      | none =>
        match composites.find? fun p => p.whole = c with
        | some p => parts steps p.first ++ [p.second]
        | none => [c]

/-! ### The composed form -/

/-- Composes `starter` with the characters after it. `kept` are the marks passed so far, the last
one first; a mark is composed only if none of its class or a higher one stands before it. -/
def composeFrom (starter : Char) (kept : List Char) : List Char → List Char
  | [] => starter :: kept.reverse
  | c :: rest =>
    let isBlocked := match kept with
      | [] => false
      | k :: _ => combiningClass c ≤ combiningClass k
    match if isBlocked then none else composite? starter c with
    | some whole => composeFrom whole kept rest
    | none =>
      if combiningClass c = 0 then starter :: kept.reverse ++ composeFrom c [] rest
      else composeFrom starter (c :: kept) rest

def compose : List Char → List Char
  | [] => []
  | c :: rest => if combiningClass c = 0 then composeFrom c [] rest else c :: compose rest

/-- The composed form of a text. A composite is made of four characters at most. -/
def composed (s : List Char) : List Char := compose (ordered (s.flatMap (parts 3)))

end TableScan.Domain
