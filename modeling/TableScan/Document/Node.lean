import TableScan.Document.Tag
import TableScan.Document.Token

/-!
# Nodes

The structure of a document as its writer gave it: scalars, sequences and mappings with their tags
and anchors, and references to anchors. `Node.ofTokens?` reads the one document of a text from its
tokens.
-/

namespace TableScan.Document

/-- A part of a document. A part with an anchor can be referred to. -/
inductive Node where
  | scalar (anchor : Option Nat) (tag : Option Tag) (isPlain : Bool) (content : List Char)
  | sequence (anchor : Option Nat) (tag : Option Tag) (items : List Node)
  | mapping (anchor : Option Nat) (tag : Option Tag) (entries : List (Node × Node))
  /-- What has an anchor. -/
  | reference (anchor : Nat)

structure Stream where
  tokens : List Token
  shorthands : Shorthands := .usual
  /-- The numbers of the anchors. -/
  anchors : List (List Char × Nat) := []

abbrev Reader := StateT Stream Option

namespace Reader

def next? : Reader (Option Token) := return (← get).tokens.head?

def skip : Reader Unit := modify fun s => { s with tokens := s.tokens.drop 1 }

def expect (t : Token) : Reader Unit := do
  guard ((← next?) = some t)
  skip

/-- Numbers an anchor. The number is that of the names so far, so that after a name is used again
two anchors may have one number. -/
def newAnchor (name : List Char) : Reader Nat := do
  let s ← get
  let n := s.anchors.length
  set { s with anchors := (name, n) :: s.anchors.filter (·.1 ≠ name) }
  return n

end Reader

namespace Node

open Reader

/-- A value that is not written. -/
def absent : Node := .scalar none none true []

/-! ### Properties -/

def readTag (name : TagName) : Reader Tag := do
  match (← get).shorthands.tag? name with
  | some tag => return tag
  | none => failure

structure Properties where
  anchor : Option Nat := none
  tag : Option Tag := none

/-- An anchor and a tag, in any order, as far as they are there. -/
def readProperties : Reader Properties := do
  match ← next? with
  | some (.anchor name) =>
    skip
    match ← next? with
    | some (.tag tag) =>
      skip
      let tag ← readTag tag
      return { anchor := ← newAnchor name, tag }
    | _ => return { anchor := ← newAnchor name }
  | some (.tag tag) =>
    skip
    let tag ← readTag tag
    match ← next? with
    | some (.anchor name) =>
      skip
      return { anchor := ← newAnchor name, tag }
    | _ => return { tag }
  | _ => return {}

/-! ### Collections

Each of these readers is given the reader of the values in the collection, and a bound on the
number of its parts. -/

/-- The value that comes next, or an absent one before one of the tokens that end it. -/
def readUnless (ends : List Token) (read : Reader Node) : Reader Node := do
  match ← next? with
  | some t => if ends.contains t then return absent else read
  | none => return absent

def readItems (read : Reader Node) : (fuel : Nat) → Reader (List Node)
  | 0 => failure
  | fuel + 1 => do
    match ← next? with
    | some .item =>
      skip
      let item ← readUnless [.item, .indentedEnd] read
      return item :: (← readItems read fuel)
    | some .indentedEnd =>
      skip
      return []
    | _ => failure

/-- The items of a sequence that is a value at the column of its mapping. -/
def readFlushItems (read : Reader Node) : (fuel : Nat) → Reader (List Node)
  | 0 => failure
  | fuel + 1 => do
    match ← next? with
    | some .item =>
      skip
      let item ← readUnless [.item, .key, .value, .indentedEnd] read
      return item :: (← readFlushItems read fuel)
    | _ => return []

/-- The value after `:`, or an absent one if there is no `:`. -/
def readValue (ends : List Token) (read : Reader Node) : Reader Node := do
  match ← next? with
  | some .value =>
    skip
    readUnless ends read
  | _ => return absent

def readEntries (read : Reader Node) : (fuel : Nat) → Reader (List (Node × Node))
  | 0 => failure
  | fuel + 1 => do
    match ← next? with
    | some .key =>
      skip
      let key ← readUnless [.key, .value, .indentedEnd] read
      let value ← readValue [.key, .value, .indentedEnd] read
      return (key, value) :: (← readEntries read fuel)
    | some .indentedEnd =>
      skip
      return []
    | _ => failure

/-- Passes over the comma before a part of a collection in brackets or braces, unless the part is
the first one. -/
def readComma (isFirst : Bool) : Reader Unit := if isFirst then pure () else expect .separator

/-- A mapping of one entry that is an item, after its mark. A mark without a key takes the token
that ends it along. -/
def readSingle (read : Reader Node) : Reader Node := do
  let ends : List Token := [.separator, .sequenceClose]
  let key ←
    match ← next? with
    | some t =>
      if (Token.value :: ends).contains t then do
        skip
        pure absent
      else read
    | none => failure
  return .mapping none none [(key, ← readValue ends read)]

def readFlowItems (read : Reader Node) (isFirst : Bool) : (fuel : Nat) → Reader (List Node)
  | 0 => failure
  | fuel + 1 => do
    if (← next?) = some .sequenceClose then
      skip
      return []
    else
      readComma isFirst
      match ← next? with
      | some .sequenceClose =>
        skip
        return []
      | some .key =>
        skip
        let item ← readSingle read
        return item :: (← readFlowItems read false fuel)
      | _ =>
        let item ← read
        return item :: (← readFlowItems read false fuel)

/-- The entries of a mapping in braces. A key without a mark has no value. -/
def readFlowEntries (read : Reader Node) (isFirst : Bool) :
    (fuel : Nat) → Reader (List (Node × Node))
  | 0 => failure
  | fuel + 1 => do
    if (← next?) = some .mappingClose then
      skip
      return []
    else
      readComma isFirst
      match ← next? with
      | some .mappingClose =>
        skip
        return []
      | some .key =>
        skip
        let ends : List Token := [.separator, .mappingClose]
        let key ← readUnless (.value :: ends) read
        let value ← readValue ends read
        return (key, value) :: (← readFlowEntries read false fuel)
      | _ =>
        let key ← read
        return (key, absent) :: (← readFlowEntries read false fuel)

/-! ### Values -/

/-- Where a value stands. -/
inductive Position where
  /-- A document or an item that is indented. -/
  | block
  /-- A key or a value of a mapping that is indented. A sequence may begin at its column. -/
  | entry
  /-- A part of a collection in brackets or braces. -/
  | flow
  deriving DecidableEq, Repr

inductive Form where
  | sequence
  | flushSequence
  | mapping
  | flowSequence
  | flowMapping
  deriving DecidableEq, Repr

def Form.of? (position : Position) : Token → Option Form
  | .sequenceOpen => some .flowSequence
  | .mappingOpen => some .flowMapping
  | .indentedSequence => if position = .flow then none else some .sequence
  | .indentedMapping => if position = .flow then none else some .mapping
  | .item => if position = .entry then some .flushSequence else none
  | _ => none

def readCollection (read : Position → Reader Node) (p : Properties) (form : Form) :
    Reader Node := do
  let fuel := (← get).tokens.length + 1
  if form ≠ .flushSequence then skip
  match form with
  | .sequence => return .sequence p.anchor p.tag (← readItems (read .block) fuel)
  | .flushSequence => return .sequence p.anchor p.tag (← readFlushItems (read .block) fuel)
  | .mapping => return .mapping p.anchor p.tag (← readEntries (read .entry) fuel)
  | .flowSequence => return .sequence p.anchor p.tag (← readFlowItems (read .flow) true fuel)
  | .flowMapping => return .mapping p.anchor p.tag (← readFlowEntries (read .flow) true fuel)

def readReference (name : List Char) : Reader Node := do
  match (← get).anchors.lookup name with
  | some n => return .reference n
  | none => failure

/-- Reads a value in which at most `depth` collections are nested. An anchor or a tag alone is an
absent value with that anchor or tag, and the tag `!` tells nothing about a scalar. -/
def read : (depth : Nat) → Position → Reader Node
  | depth, position => do
    match ← next? with
    | some (.alias name) =>
      skip
      readReference name
    | _ =>
      let p ← readProperties
      match ← next? with
      | some (.scalar isPlain content) =>
        skip
        return .scalar p.anchor (p.tag.filter (· ≠ .own "")) isPlain content
      | token =>
        match token >>= Form.of? position, depth with
        | some form, depth + 1 => readCollection (read depth) p form
        | some _, 0 => failure
        | none, _ =>
          guard (p.anchor.isSome || p.tag.isSome)
          return .scalar p.anchor p.tag true []

/-! ### Documents -/

/-- Values are nested at most this deep. -/
def depthLimit : Nat := 128

def cutDirectives : List Token → List Directive × List Token
  | .directive d :: rest =>
    let (ds, rest) := cutDirectives rest
    (d :: ds, rest)
  | rest => ([], rest)

/-- The document that is begun by a mark. It may be empty. -/
def readMarked : Reader Node := do
  match ← next? with
  | some (.directive _) => return absent
  | some .documentStart => return absent
  | some .documentEnd => return absent
  | none => return absent
  | _ => read depthLimit .block

/-- The one document of a text, given its tokens. No tokens are an absent value. -/
def ofTokens? (tokens : List Token) : Option Node := do
  let (ds, rest) := cutDirectives tokens
  let (node, stream) ←
    match ds, rest with
    | [], [] => some (absent, { tokens := [] })
    | _, .documentStart :: rest => do
      readMarked.run { tokens := rest, shorthands := ← Shorthands.ofDirectives? ds }
    | [], _ => (read depthLimit .block).run { tokens }
    | _, _ => none
  guard (stream.tokens.all (· = .documentEnd))
  return node

end Node

end TableScan.Document
