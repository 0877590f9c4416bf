/-!
# Text with places

Documents are written by lines and columns, so what is read is a text together with the place
where it begins. Line ends are one character each after `unifiedBreaks`.
-/

namespace TableScan.Document

/-- The characters of which documents consist. -/
def isDocumentChar (c : Char) : Bool :=
  let n := c.toNat
  n = 0x09 || n = 0x0A || n = 0x0D || (0x20 ≤ n && n ≤ 0x7E) || n = 0x85 ||
    (0xA0 ≤ n && n ≠ 0xFFFE && n ≠ 0xFFFF)

/-- The text with the ends of its lines as line feeds. The separators of lines and paragraphs stay
what they are. -/
def unifiedBreaks : List Char → List Char
  | '\r' :: '\n' :: rest => '\n' :: unifiedBreaks rest
  | c :: rest => (if c = '\r' ∨ c = '\u0085' then '\n' else c) :: unifiedBreaks rest
  | [] => []

def isBreak (c : Char) : Bool := c = '\n' || c = '\u2028' || c = '\u2029'

def isBlank (c : Char) : Bool := c = ' ' || c = '\t'

/-- Whether a text begins with a blank or a line end, or is empty. -/
def endsWord : List Char → Bool
  | [] => true
  | c :: _ => isBlank c || isBreak c

/-- The mark that separates documents, of three times the same character. -/
def isRule (c : Char) : List Char → Bool
  | a :: b :: d :: rest => a = c && b = c && d = c && endsWord rest
  | _ => false

/-- Whether a line begins with a mark that ends the document. -/
def beginsRule (s : List Char) : Bool := isRule '-' s || isRule '.' s

structure Place where
  line : Nat := 0
  column : Nat := 0
  deriving DecidableEq, Repr

def Place.after (p : Place) (c : Char) : Place :=
  if isBreak c then { line := p.line + 1 } else { p with column := p.column + 1 }

structure Source where
  rest : List Char
  place : Place := {}
  deriving DecidableEq, Repr

namespace Source

def skip (s : Source) (n : Nat) : Source :=
  { rest := s.rest.drop n, place := { s.place with column := s.place.column + n } }

def moveTo (s : Source) (later : List Char) : Source := s.skip (s.rest.length - later.length)

def skipWhile (s : Source) (p : Char → Bool) : Source :=
  s.skip (s.rest.takeWhile fun c => p c && !isBreak c).length

/-- The source after the rest of a line, if there are only blanks and a comment. The comment may
follow immediately. -/
def endLine? (s : Source) : Option Source :=
  let s := s.skipWhile isBlank
  let s := if s.rest.head? = some '#' then s.skipWhile fun _ => true else s
  match s.rest with
  | [] => some s
  | c :: rest => if isBreak c then some { rest, place := s.place.after c } else none

end Source

end TableScan.Document
