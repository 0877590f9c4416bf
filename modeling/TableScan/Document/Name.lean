import TableScan.Document.Plain
import TableScan.Text.Numeral

/-!
# Names in documents

The names by which documents refer to things: anchors, and tags, which are a handle and a suffix.
A tag may spell any byte by `%` and two hexadecimal digits, as long as bytes outside of ASCII come
in groups like those of UTF-8.
-/

namespace TableScan.Document

/-- The characters of words: letters, digits, `-` and `_`. -/
def isWordChar (c : Char) : Bool := c.isAlphanum || c = '-' || c = '_'

def cutWord (s : List Char) : List Char × List Char := s.span isWordChar

/-! ### Anchors -/

/-- The name of an anchor and the text after it, given the text after its mark. -/
def anchorName? (s : List Char) : Option (List Char × List Char) :=
  let (name, rest) := cutWord s
  let isEnded := endsWord rest || rest.head?.elim false fun c =>
    "?:,]\x7d%@".toList.contains c || c.toNat = 0x60
  if name ≠ [] ∧ isEnded then some (name, rest) else none

/-! ### Tags -/

/-- The characters of tags. Those between `<` and `>` may also hold marks of sequences. -/
def isTagChar (isVerbatim : Bool) (c : Char) : Bool :=
  isWordChar c || ";/?:@&=+$.!~*'()".toList.contains c ||
    (isVerbatim && (c = ',' || c = '[' || c = ']'))

/-- The number of bytes in the group that a byte begins, if it begins one. -/
def groupLength? (b : Nat) : Option Nat :=
  if b < 0x80 then some 1
  else if b < 0xC0 then none
  else if b < 0xE0 then some 2
  else if b < 0xF0 then some 3
  else if b < 0xF8 then some 4
  else none

/-- The bytes that the head of a text spells and the text after it. `pending` is the number of bytes
that a group still lacks. -/
def tagBytes? (isVerbatim : Bool) (pending : Nat) : List Char → Option (List UInt8 × List Char)
  | '%' :: a :: b :: rest => do
    let n := 16 * (← Text.hexDigit? a) + (← Text.hexDigit? b)
    let pending ←
      if pending = 0 then (groupLength? n).map (· - 1)
      else if n / 64 = 2 then some (pending - 1)
      else none
    let (bytes, after) ← tagBytes? isVerbatim pending rest
    return (UInt8.ofNat n :: bytes, after)
  | c :: rest =>
    if pending ≠ 0 ∨ c = '%' then none
    else if isTagChar isVerbatim c then do
      let (bytes, after) ← tagBytes? isVerbatim 0 rest
      return (UInt8.ofNat c.toNat :: bytes, after)
    else some ([], c :: rest)
  | [] => if pending = 0 then some ([], []) else none

/-- A tag as it is written: the handle stands for the beginning of the tag. -/
structure TagName where
  /-- Empty if the suffix is the whole tag. -/
  handle : List Char
  suffix : List UInt8
  deriving DecidableEq, Repr

def asciiBytes (s : List Char) : List UInt8 := s.map fun c => UInt8.ofNat c.toNat

/-- The handle at the head of a text after `!`, without that mark: empty, or a word and perhaps a
second mark. -/
def cutHandle (s : List Char) : List Char × List Char :=
  match cutWord s with
  | (word, '!' :: rest) => (word ++ ['!'], rest)
  | (word, rest) => (word, rest)

/-- A tag and the text after it, given the text after its mark. -/
def tagName? (s : List Char) : Option (TagName × List Char) :=
  match s with
  | '<' :: s => do
    let (suffix, rest) ← tagBytes? true 0 s
    match rest with
    | '>' :: rest => if suffix = [] then none else some (⟨[], suffix⟩, rest)
    | _ => none
  | s => do
    let (word, after) := cutHandle s
    let (bytes, rest) ← tagBytes? false 0 after
    if word.getLast? = some '!' then
      if bytes = [] then none else some (⟨'!' :: word, bytes⟩, rest)
    else
      let suffix := asciiBytes word ++ bytes
      some (if suffix = [] then ⟨[], asciiBytes ['!']⟩ else ⟨['!'], suffix⟩, rest)

/-- A tag ends where a word ends, in brackets also before a comma. -/
def endsTag (inFlow : Bool) (s : List Char) : Bool :=
  endsWord s || (inFlow && s.head? = some ',')

/-! ### Directives -/

inductive Directive where
  | version (major minor : Nat)
  /-- What a handle stands for. -/
  | shorthand (handle : List Char) (start : List UInt8)
  deriving DecidableEq, Repr

/-- A number of at most nine digits, and the text after it. -/
def versionNumber? (s : List Char) : Option (Nat × List Char) :=
  let (digits, rest) := s.span Char.isDigit
  if digits = [] ∨ 9 < digits.length then none
  else (Text.digitsValue? 10 0 digits).map (·, rest)

/-- A directive and the text after it, given the text after `%`. -/
def directive? (s : List Char) : Option (Directive × List Char) := do
  let (name, rest) := cutWord s
  guard (endsWord rest)
  let rest := rest.dropWhile isBlank
  if name = "YAML".toList then
    match ← versionNumber? rest with
    | (major, '.' :: rest) =>
      let (minor, rest) ← versionNumber? rest
      return (.version major minor, rest)
    | _ => none
  else if name = "TAG".toList then
    match rest with
    | '!' :: rest =>
      let (word, rest) := cutHandle rest
      guard (word = [] || word.getLast? = some '!')
      guard (rest.head?.elim false isBlank)
      let (start, rest) ← tagBytes? true 0 (rest.dropWhile isBlank)
      guard (start ≠ [] && endsWord rest)
      return (.shorthand ('!' :: word) start, rest)
    | _ => none
  else none

end TableScan.Document
