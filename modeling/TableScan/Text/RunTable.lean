import TableScan.Text.Numeral
import TableScan.Text.Pieces

/-!
# Run tables

A property of characters that is the same for long runs of them, kept as the lengths of these runs.
In the text of a table each word is a run: its length in hexadecimal and, after a colon, the value
of the property if that is not zero. `rank` finds the run of a character by halving.
-/

namespace TableScan.Text

def words (s : String) : List (List Char) :=
  let step (c : Char) (ws : List (List Char)) : List (List Char) :=
    if c = ' ' ∨ c = '\n' then [] :: ws else ws.modifyHead (c :: ·)
  (s.toList.foldr step [[]]).filter (· ≠ [])

def hexNumber (s : List Char) : Nat := (digitsValue? 16 0 s).getD 0

/-- The number of the bounds that are at most `n`, if they ascend, and if it is known to lie from
`low` to `high`. Each step halves what lies between. -/
def rank (bounds : Array Nat) (n : Nat) : (steps low high : Nat) → Nat
  | 0, low, _ => low
  | steps + 1, low, high =>
    if high ≤ low then low
    else
      let middle := (low + high) / 2
      if bounds.getD middle 0 ≤ n then rank bounds n steps (middle + 1) high
      else rank bounds n steps low middle

/-- The number of the bounds that are at most `n`, if they ascend. -/
def countUpTo (bounds : Array Nat) (n : Nat) : Nat :=
  rank bounds n (bounds.size.log2 + 1) 0 bounds.size

structure RunTable where
  /-- The codes at which the runs end. -/
  ends : Array Nat := #[]
  /-- The value of each run. -/
  values : Array Nat := #[]

namespace RunTable

def push (t : RunTable) (length value : Nat) : RunTable :=
  { ends := t.ends.push (t.ends.back?.getD 0 + length), values := t.values.push value }

def ofText (s : String) : RunTable :=
  (words s).foldl
    (fun t w =>
      match cutAtFirst? ':' w with
      | some (length, value) => t.push (hexNumber length) (hexNumber value)
      | none => t.push (hexNumber w) 0)
    {}

def value (t : RunTable) (c : Char) : Nat := t.values.getD (countUpTo t.ends c.toNat) 0

end RunTable

-- Letters are told from other ASCII characters by a table of five runs.
example : let t := RunTable.ofText "41 1A:1 6 1A:1 5"
    ("@AZ[az\x7b".toList.map t.value) = [0, 1, 1, 0, 1, 1, 0] := by decide

end TableScan.Text
