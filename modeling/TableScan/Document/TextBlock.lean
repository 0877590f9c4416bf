import TableScan.Document.Source

/-!
# Blocks of text

A scalar that takes whole lines. Its first line holds marks only: how deep the lines are indented,
and what becomes of the line ends behind the last of them. After `|` lines end where they end; after
`>` a line end between two lines that do not begin with a blank counts as a blank.
-/

namespace TableScan.Document

/-- What becomes of the line ends at the end of a block. -/
inductive BlockEnd where
  /-- The last line ends, and blank lines after it are dropped. -/
  | single
  /-- The last line does not end. -/
  | dropped
  /-- Blank lines after the last line are kept. -/
  | kept
  deriving DecidableEq, Repr

structure BlockForm where
  /-- Line ends count as blanks. -/
  isFolded : Bool
  ending : BlockEnd := .single
  /-- The indentation of the lines beyond that of the surroundings, unless the lines show it. -/
  indent : Option Nat := none
  deriving DecidableEq, Repr

def blockEnd? (c : Char) : Option BlockEnd :=
  if c = '-' then some .dropped else if c = '+' then some .kept else none

/-- The mark of an indentation, which is not zero. -/
def blockIndent? (c : Char) : Option Nat :=
  if '1' ≤ c ∧ c ≤ '9' then some (c.toNat - 48) else none

/-- The form of a block after at most two marks, one of each kind, and the number of the marks. -/
def BlockForm.read (form : BlockForm) (s : List Char) : BlockForm × Nat :=
  let ending := s.head? >>= blockEnd?
  let indent := s.head? >>= blockIndent?
  match ending, indent with
  | some ending, _ =>
    match s[1]? >>= blockIndent? with
    | some n => ({ form with ending, indent := some n }, 2)
    | none => ({ form with ending }, 1)
  | none, some n =>
    match s[1]? >>= blockEnd? with
    | some ending => ({ form with ending, indent := some n }, 2)
    | none => ({ form with indent := some n }, 1)
  | none, none => (form, 0)

/-- What stands before a line of a block. -/
structure Margin where
  /-- The ends of the blank lines. -/
  breaks : List Char := []
  /-- The greatest column at which a blank line or the line itself goes on. -/
  depth : Nat := 0
  after : Source

/-- Reads blank lines and the indentation of the line after them. It goes up to `indent`, or as far
as there are spaces. A tab does not indent. -/
def margin? (indent : Option Nat) (depth : Nat) (p : Place) : List Char → Option Margin
  | [] => some { depth := max depth p.column, after := ⟨[], p⟩ }
  | c :: rest =>
    let depth := max depth p.column
    let isIndented := indent.elim false (· ≤ p.column)
    if isBreak c then do
      let m ← margin? indent depth (p.after c) rest
      return { m with breaks := c :: m.breaks }
    else if c = '\t' && !isIndented then none
    else if c = ' ' && !isIndented then margin? indent depth (p.after c) rest
    else some { depth, after := ⟨c :: rest, p⟩ }

structure BlockText where
  content : List Char := []
  /-- The end of the last line, if it has one. -/
  lastBreak : List Char := []
  /-- The last line begins with a blank. -/
  isSpaced : Bool := false

namespace BlockText

/-- The block with one more line, and the line ends before it, if there are blank lines. -/
def add (t : BlockText) (isFolded : Bool) (blankLines line : List Char) : BlockText :=
  let isSpaced := line.head?.elim false isBlank
  let joint :=
    if isFolded && t.lastBreak = ['\n'] && !t.isSpaced && !isSpaced then
      if blankLines = [] then [' '] else []
    else t.lastBreak
  { content := t.content ++ joint ++ blankLines ++ line, lastBreak := [], isSpaced }

/-- The text of the block, given the ends of the blank lines behind it. -/
def finish (t : BlockText) (ending : BlockEnd) (blankLines : List Char) : List Char :=
  match ending with
  | .dropped => t.content
  | .single => t.content ++ t.lastBreak
  | .kept => t.content ++ t.lastBreak ++ blankLines

end BlockText

/-- Reads the lines of a block, at most `fuel` of them. `blankLines` are the ends of the blank lines
before `s`. -/
def blockLines? (isFolded : Bool) (indent : Nat) :
    (fuel : Nat) → (t : BlockText) → (blankLines : List Char) → Source →
    Option (BlockText × List Char × Source)
  | 0, t, blankLines, s => some (t, blankLines, s)
  | fuel + 1, t, blankLines, s =>
    if s.place.column ≠ indent ∨ s.rest = [] then some (t, blankLines, s)
    else
      let line := s.rest.takeWhile (!isBreak ·)
      let t := t.add isFolded blankLines line
      match s.rest.drop line.length with
      | [] => some (t, [], s.skip line.length)
      | c :: rest => do
        let m ← margin? (some indent) 0 (s.place.after c) rest
        blockLines? isFolded indent fuel { t with lastBreak := [c] } m.breaks m.after

/-- The text of a block and the source after it, given the source after `|` or `>`. The surroundings
are indented by `outer`, if they are indented at all. -/
def textBlock? (isFolded : Bool) (outer : Option Nat) (s : Source) :
    Option (List Char × Source) := do
  let (form, marks) := BlockForm.read { isFolded } s.rest
  let s ← (s.skip marks).endLine?
  let given := form.indent.map (· + outer.getD 0)
  let m ← margin? given 0 s.place s.rest
  let indent := given.getD (max (max m.depth (outer.elim 0 (· + 1))) 1)
  let (t, blankLines, s) ← blockLines? form.isFolded indent s.rest.length {} m.breaks m.after
  return (t.finish form.ending blankLines, s)

end TableScan.Document
