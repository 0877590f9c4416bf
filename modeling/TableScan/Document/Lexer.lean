import TableScan.Document.Quoted
import TableScan.Document.TextBlock
import TableScan.Document.Token

/-!
# Reading tokens

Tokens are read from left to right. What begins a line further to the right than the collection
around it begins a new collection, and what begins a line further to the left ends collections. A
place where a key may begin is remembered, and if a `:` follows on the same line, the tokens before
what was read from there on are put in.
-/

namespace TableScan.Document

/-- A place where a key may have begun. -/
structure KeyStart where
  /-- The number of tokens before it. -/
  index : Nat
  place : Place
  /-- What stands here must be a key. -/
  isRequired : Bool
  deriving DecidableEq, Repr

/-- A key and its `:` are at most this far apart. -/
def longestKey : Nat := 1024

/-- How far a text was read. -/
structure Lexer where
  source : Source
  tokens : Array Token := #[]
  depth : Nat := 0
  /-- The columns of the open collections that are shown by indentation, the innermost first. -/
  columns : List Nat := []
  /-- Where a key may have begun: within the innermost brackets, and those around them. -/
  keyStarts : List (Option KeyStart) := [none]
  /-- A key may begin here. -/
  mayKey : Bool := true

namespace Lexer

/-! ### Parts of the state -/

def inFlow (l : Lexer) : Bool := l.depth ≠ 0

def add (l : Lexer) (t : Token) (source : Source) : Lexer :=
  { l with source, tokens := l.tokens.push t }

def addMark (l : Lexer) (t : Token) (length : Nat) : Lexer := l.add t (l.source.skip length)

/-- Whether what may have begun as a key is none, because no `:` came in time. -/
def isStale (l : Lexer) (k : KeyStart) : Bool :=
  k.place.line < l.source.place.line || k.place.column + longestKey < l.source.place.column

/-- Forgets a place where a key may have begun, unless a key is required there. -/
def forgotten? : Option KeyStart → Option (Option KeyStart)
  | some k => if k.isRequired then none else some none
  | none => some none

def forgetStale? (l : Lexer) : Option Lexer := do
  let keyStarts ← l.keyStarts.mapM fun k =>
    if k.elim false l.isStale then forgotten? k else some k
  return { l with keyStarts }

def forgetKey? (l : Lexer) : Option Lexer :=
  match l.keyStarts with
  | [] => some l
  | k :: rest => do return { l with keyStarts := (← forgotten? k) :: rest }

def rememberKey? (l : Lexer) : Option Lexer := do
  if l.mayKey then
    let l ← l.forgetKey?
    let place := l.source.place
    let isRequired := !l.inFlow && l.columns.head? = some place.column
    return { l with
      keyStarts := some { index := l.tokens.size, place, isRequired } :: l.keyStarts.drop 1 }
  else return l

/-- Opens a collection at a column, if it is further to the right than the open ones. Its beginning
is put before the token of a given number. -/
def openAt (l : Lexer) (column index : Nat) (t : Token) : Lexer :=
  if !l.inFlow && l.columns.head?.elim true (· < column) then
    { l with columns := column :: l.columns, tokens := l.tokens.insertIdxIfInBounds index t }
  else l

def openHere (l : Lexer) (t : Token) : Lexer := l.openAt l.source.place.column l.tokens.size t

/-- Ends the collections that are further to the right than a column, or all. -/
def closeTo (l : Lexer) (column : Option Nat) : Lexer :=
  if l.inFlow then l
  else
    let kept := l.columns.dropWhile fun c => column.elim true (· < c)
    let ended := l.columns.length - kept.length
    { l with columns := kept, tokens := l.tokens ++ Array.replicate ended .indentedEnd }

/-! ### Blanks and comments -/

/-- The source after blanks, comments and line ends, and whether a key may begin there. Tabs are
blanks only where no key may begin. -/
def nextToken (inFlow mayKey inComment : Bool) (p : Place) : List Char → Source × Bool
  | [] => (⟨[], p⟩, mayKey)
  | c :: rest =>
    if isBreak c then nextToken inFlow (mayKey || !inFlow) false (p.after c) rest
    else if inComment || c = ' ' || (c = '\t' && (inFlow || !mayKey)) then
      nextToken inFlow mayKey inComment (p.after c) rest
    else if c = '#' then nextToken inFlow mayKey true (p.after c) rest
    else (⟨c :: rest, p⟩, mayKey)

def skipBlanks (l : Lexer) : Lexer :=
  let (source, mayKey) := nextToken l.inFlow l.mayKey false l.source.place l.source.rest
  { l with source, mayKey }

/-! ### Tokens -/

/-- A mark that separates documents, or a directive: nothing is open there. -/
def atMargin? (l : Lexer) : Option Lexer := do
  return { ← (l.closeTo none).forgetKey? with mayKey := false }

def readDirective? (l : Lexer) : Option Lexer := do
  let l ← l.atMargin?
  let (d, rest) ← directive? (l.source.rest.drop 1)
  return l.add (.directive d) (← (l.source.moveTo rest).endLine?)

def readRule? (l : Lexer) (t : Token) : Option Lexer := do
  return (← l.atMargin?).addMark t 3

def readOpen? (l : Lexer) (t : Token) : Option Lexer := do
  let l ← l.rememberKey?
  return { l with depth := l.depth + 1, keyStarts := none :: l.keyStarts, mayKey := true }.addMark
    t 1

/-- A bracket or brace that closes a collection. One that closes none is a token all the same. -/
def readClose? (l : Lexer) (t : Token) : Option Lexer := do
  let l ← l.forgetKey?
  let keyStarts := if l.inFlow then l.keyStarts.drop 1 else l.keyStarts
  return { l with depth := l.depth - 1, keyStarts, mayKey := false }.addMark t 1

def readSeparator? (l : Lexer) : Option Lexer := do
  return { ← l.forgetKey? with mayKey := true }.addMark .separator 1

/-- Items stand only where a key may stand. -/
def readItem? (l : Lexer) : Option Lexer := do
  guard (l.inFlow || l.mayKey)
  return { ← (l.openHere .indentedSequence).forgetKey? with mayKey := true }.addMark .item 1

def readKey? (l : Lexer) : Option Lexer := do
  guard (l.inFlow || l.mayKey)
  let l ← (l.openHere .indentedMapping).forgetKey?
  return { l with mayKey := !l.inFlow }.addMark .key 1

/-- The `:` after a key. If a key may have begun before it on the line, that is where the key is
put in. -/
def readValue? (l : Lexer) : Option Lexer :=
  match l.keyStarts with
  | some k :: rest =>
    let l := { l with tokens := l.tokens.insertIdxIfInBounds k.index .key }
    let l := l.openAt k.place.column k.index .indentedMapping
    some ({ l with keyStarts := none :: rest, mayKey := false }.addMark .value 1)
  | _ => do
    guard (l.inFlow || l.mayKey)
    return { l.openHere .indentedMapping with mayKey := !l.inFlow }.addMark .value 1

def readKeyed? (l : Lexer) (read : Lexer → Option (Token × Source)) : Option Lexer := do
  let l ← l.rememberKey?
  let (t, source) ← read l
  return { l with mayKey := false }.add t source

def readName? (l : Lexer) (t : List Char → Token) : Option Lexer :=
  l.readKeyed? fun l => do
    let (name, rest) ← anchorName? (l.source.rest.drop 1)
    return (t name, l.source.moveTo rest)

def readTag? (l : Lexer) : Option Lexer :=
  l.readKeyed? fun l => do
    let (name, rest) ← tagName? (l.source.rest.drop 1)
    guard (endsTag l.inFlow rest)
    return (.tag name, l.source.moveTo rest)

def readQuoted? (l : Lexer) (quoted : Gap → Place → List Char → Option (List Char × Source)) :
    Option Lexer :=
  l.readKeyed? fun l => do
    let inner := l.source.skip 1
    let (content, source) ← quoted .empty inner.place inner.rest
    return (.scalar false content, source)

def readBlock? (l : Lexer) (isFolded : Bool) : Option Lexer := do
  let l ← l.forgetKey?
  let (content, source) ← textBlock? isFolded l.columns.head? (l.source.skip 1)
  return { l with mayKey := true }.add (.scalar false content) source

/-- A plain scalar that a line end follows may be followed by a key. -/
def readPlain? (l : Lexer) : Option Lexer := do
  let l ← l.rememberKey?
  let indent := l.columns.head?.elim 0 (· + 1)
  let s ← plain? l.inFlow indent .empty l.source.place l.source.rest
  return { l with mayKey := s.endsLine }.add (.scalar true s.content) s.after

/-- Reads the token that begins with `c`, which `rest` follows. -/
def readToken? (l : Lexer) (c : Char) (rest : List Char) : Option Lexer :=
  let atMargin := l.source.place.column = 0
  let isAlone := endsWord rest
  if c = '%' ∧ atMargin then l.readDirective?
  else if isRule '-' (c :: rest) ∧ atMargin then l.readRule? .documentStart
  else if isRule '.' (c :: rest) ∧ atMargin then l.readRule? .documentEnd
  else if c = '[' then l.readOpen? .sequenceOpen
  else if c = '\x7b' then l.readOpen? .mappingOpen
  else if c = ']' then l.readClose? .sequenceClose
  else if c = '\x7d' then l.readClose? .mappingClose
  else if c = ',' then l.readSeparator?
  else if c = '-' ∧ isAlone then l.readItem?
  else if c = '?' ∧ (l.inFlow ∨ isAlone) then l.readKey?
  else if c = ':' ∧ (l.inFlow ∨ isAlone) then l.readValue?
  else if c = '*' then l.readName? .alias
  else if c = '&' then l.readName? .anchor
  else if c = '!' then l.readTag?
  else if c = '|' ∧ !l.inFlow then l.readBlock? false
  else if c = '>' ∧ !l.inFlow then l.readBlock? true
  else if c = '\'' then l.readQuoted? singleQuoted?
  else if c = '"' then l.readQuoted? doubleQuoted?
  else if beginsPlain l.inFlow (c :: rest) then l.readPlain?
  else none

/-- Reads all tokens. Each takes a character at least, and `fuel` is their number. -/
def readAll? : (fuel : Nat) → Lexer → Option (Array Token)
  | 0, _ => none
  | fuel + 1, l => do
    let l ← l.skipBlanks.forgetStale?
    match l.source.rest with
    | [] => return (← l.atMargin?).tokens
    | c :: rest => readAll? fuel (← (l.closeTo (some l.source.place.column)).readToken? c rest)

end Lexer

/-- The tokens of a text. A byte order mark at its head is passed over, but takes a column. -/
def Token.ofText? (s : List Char) : Option (List Token) :=
  if s.all isDocumentChar then
    let s := unifiedBreaks s
    let source : Source := { rest := s }
    let start := if s.head? = some '\uFEFF' then source.skip 1 else source
    (Lexer.readAll? (s.length + 1) { source := start }).map Array.toList
  else none

end TableScan.Document
