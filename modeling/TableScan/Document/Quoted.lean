import TableScan.Document.Gap
import TableScan.Text.Numeral

/-!
# Quoted scalars

Scalars between quotes may go on over several lines. Between single quotes a quote is written
twice; between double quotes a backslash begins an escape, or drops the line end that it stands
before.
-/

namespace TableScan.Document

/-- The character that an escape letter stands for. -/
def escapeLetter? (c : Char) : Option Char :=
  [('0', '\x00'), ('a', '\x07'), ('b', '\x08'), ('t', '\t'), ('\t', '\t'), ('n', '\n'),
    ('v', '\x0b'), ('f', '\x0c'), ('r', '\r'), ('e', '\x1b'), (' ', ' '), ('"', '"'), ('/', '/'),
    ('\\', '\\'), ('N', '\u0085'), ('_', '\u00a0'), ('L', '\u2028'), ('P', '\u2029')].lookup c

/-- The number of hexadecimal digits after an escape letter that takes some. -/
def escapeDigits? (c : Char) : Option Nat := [('x', 2), ('u', 4), ('U', 8)].lookup c

def charOfCode? (n : Nat) : Option Char := if n.isValidChar then some (Char.ofNat n) else none

/-- The character of an escape, and the text after it, given the text after the backslash. -/
def escape? (s : List Char) : Option (Char × List Char) :=
  match s with
  | [] => none
  | c :: rest =>
    match escapeDigits? c with
    | none => (escapeLetter? c).map (·, rest)
    | some count =>
      let digits := rest.take count
      if digits.length = count then
        ((Text.digitsValue? 16 0 digits).bind charOfCode?).map (·, rest.drop count)
      else none

theorem length_of_escape? {s : List Char} {r : Char × List Char} (h : escape? s = some r) :
    r.2.length < s.length := by
  cases s with
  | nil => simp [escape?] at h
  | cons c rest =>
    simp only [escape?] at h
    cases hd : escapeDigits? c with
    | none =>
      rw [hd] at h
      obtain ⟨_, _, rfl⟩ := Option.map_eq_some_iff.1 h
      simp
    | some count =>
      rw [hd] at h
      dsimp only at h
      split at h
      · obtain ⟨_, _, rfl⟩ := Option.map_eq_some_iff.1 h
        simp only [List.length_drop, List.length_cons]
        omega
      · cases h

/-- The content of a double-quoted scalar and the source after it, given the text after the opening
quote and its place. `gap` is what was passed since the last word. -/
def doubleQuoted? (gap : Gap) (p : Place) (s : List Char) : Option (List Char × Source) :=
  match s with
  | [] => none
  | '"' :: rest => some (gap.text, { rest, place := p.after '"' })
  | '\\' :: rest =>
    match rest with
    | [] => none
    | b :: after =>
      if isBreak b then do
        let (more, source) ← doubleQuoted? (.breaks none []) (p.after b) after
        return (gap.text ++ more, source)
      else
        match _h : escape? (b :: after) with
        | none => none
        | some (c, after) => do
          let place := { p with column := p.column + (s.length - after.length) }
          let (more, source) ← doubleQuoted? .empty place after
          return (gap.text ++ c :: more, source)
  | c :: rest =>
    if isBlank c || isBreak c then doubleQuoted? (gap.add c) (p.after c) rest
    else if p.column = 0 && beginsRule (c :: rest) then none
    else do
      let (more, source) ← doubleQuoted? .empty (p.after c) rest
      return (gap.text ++ c :: more, source)
termination_by s.length
decreasing_by
  · simp only [List.length_cons]
    omega
  · have := length_of_escape? (by assumption)
    simp only [List.length_cons] at this ⊢
    omega
  · simp
  · simp

/-- The content of a single-quoted scalar and the source after it, given the text after the opening
quote and its place. `gap` is what was passed since the last word. -/
def singleQuoted? (gap : Gap) (p : Place) : List Char → Option (List Char × Source)
  | [] => none
  | '\'' :: '\'' :: rest => do
    let (more, source) ← singleQuoted? .empty { p with column := p.column + 2 } rest
    return (gap.text ++ '\'' :: more, source)
  | '\'' :: rest => some (gap.text, { rest, place := p.after '\'' })
  | c :: rest =>
    if isBlank c || isBreak c then singleQuoted? (gap.add c) (p.after c) rest
    else if p.column = 0 && beginsRule (c :: rest) then none
    else do
      let (more, source) ← singleQuoted? .empty (p.after c) rest
      return (gap.text ++ c :: more, source)

end TableScan.Document
