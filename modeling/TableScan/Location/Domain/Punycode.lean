/-!
# Encoded labels

Labels with characters outside of ASCII are sent in ASCII. The code keeps the ASCII characters of a
text, and behind the last hyphen tells, for the others in ascending order, how far to go on from
each to the next: past the code points and places that do not occur. A distance is written in digits
of varying weight, the lowest first, and the thresholds that end a number adapt to the distances
seen.
-/

namespace TableScan.Domain.Punycode

/-- The length of the longest code that is read. -/
def longestCode : Nat := 2000

/-- The length of the longest text that has a code. -/
def longestText : Nat := 1000

/-- Distances do not reach this number. -/
def distanceBound : Nat := 0x100000000

/-- The value of a digit: letters come first. -/
def digit? (c : Char) : Option Nat :=
  if c.isLower then some (c.toNat - 97)
  else if c.isUpper then some (c.toNat - 65)
  else if c.isDigit then some (c.toNat - 22)
  else none

/-- A digit below the threshold of its place is the last of its number. -/
def threshold (place bias : Nat) : Nat :=
  if place ≤ bias then 1 else if bias + 26 ≤ place then 26 else place - bias

/-- The bias for a distance of which the greatest part is divided off, in steps of 35. -/
def biasOf (places distance : Nat) : Nat :=
  if 455 < distance then biasOf (places + 36) (distance / 35)
  else places + 36 * distance / (distance + 38)
termination_by distance
decreasing_by exact Nat.div_lt_self (by omega) (by omega)

/-- The bias after a distance, when the text has `length` characters. -/
def adapt (distance length : Nat) (isFirst : Bool) : Nat :=
  let d := if isFirst then distance / 700 else distance / 2
  biasOf 0 (d + d / length)

/-- Reads a distance and adds it to `sum`. Gives the sum and the text after it. -/
def distance? (bias place weight sum : Nat) : List Char → Option (Nat × List Char)
  | [] => none
  | c :: rest =>
    match digit? c with
    | none => none
    | some d =>
      let sum := sum + d * weight
      if distanceBound ≤ sum then none
      else if d < threshold place bias then some (sum, rest)
      else
        let weight := weight * (36 - threshold place bias)
        if distanceBound ≤ weight then none else distance? bias (place + 36) weight sum rest

theorem length_of_distance? {bias place weight sum : Nat} {s : List Char} {r : Nat × List Char}
    (h : distance? bias place weight sum s = some r) : r.2.length < s.length := by
  induction s generalizing place weight sum with
  | nil => simp [distance?] at h
  | cons c rest ih =>
    unfold distance? at h
    split at h
    · cases h
    · dsimp only at h
      split at h
      · cases h
      · split at h
        · cases h; simp
        · split at h
          · cases h
          · exact Nat.lt_succ_of_lt (ih h)

/-- Inserts the characters that `code` tells of into `text`. The next one has code point `point` or
a greater one, and stands at `index` or later if it has that one. -/
def insertAll? (bias point index : Nat) (text code : List Char) : Option (List Char) :=
  match code with
  | [] => some text
  | c :: code =>
    match h : distance? bias 36 1 index (c :: code) with
    | none => none
    | some (sum, rest) =>
      let length := text.length + 1
      let point := point + sum / length
      let place := sum % length
      if point.isValidChar then
        insertAll? (adapt (sum - index) length (index = 0)) point (place + 1)
          (text.insertIdx place (Char.ofNat point)) rest
      else none
termination_by code.length
decreasing_by exact length_of_distance? h

/-- The ASCII characters of a code and what stands behind the last hyphen. A hyphen at the head of
the code is a digit. -/
def cut (code : List Char) : List Char × List Char :=
  let behind := (code.reverse.takeWhile (· ≠ '-')).reverse
  let before := code.take (code.length - behind.length - 1)
  if before = [] then ([], code) else (before, behind)

/-- The text that a code stands for. A code that ends in a hyphen has no text. -/
def decode? (code : List Char) : Option (List Char) :=
  if code.any (fun c => 0x80 ≤ c.toNat) || longestCode < code.length then none
  else
    match cut code with
    | (_, []) => none
    | (basic, rest) => insertAll? 72 128 0 basic rest

end TableScan.Domain.Punycode
