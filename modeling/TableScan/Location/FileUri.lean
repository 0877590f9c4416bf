import TableScan.Location.UriHost

/-!
# File URIs

The host path that a `file:` URI names, after the rules of the URL Standard: tabs and line ends
are dropped, `\` counts as `/`, dot segments are resolved also when they are percent-encoded, the
query and the fragment are cut off, and a host must be empty or `localhost`. A letter with `:` or
`|` after it names a drive: as a segment it is not removed again, and at the head of a path it
stands in the place of the host.
-/

namespace TableScan.FileUri

open UriHost (Fault percentDecode)

/-! ### Characters -/

structure UriChar where
  char : Char
  /-- A tab or a line end was dropped before it. -/
  apart : Bool := false
  deriving DecidableEq, Repr

/-- The characters of a URI without tabs and line ends; `apart` tells of one before them. -/
def uriChars (apart : Bool) : List Char → List UriChar
  | [] => []
  | c :: rest =>
    if c = '\t' ∨ c = '\n' ∨ c = '\r' then uriChars true rest
    else { char := c, apart } :: uriChars false rest

abbrev Segment := List UriChar

def Segment.text (s : Segment) : List Char := s.map (·.char)

def UriChar.isSlash (c : UriChar) : Bool := c.char = '/' || c.char = '\\'

/-- The segments of a path; `\` separates like `/`. -/
def segments : List UriChar → List Segment
  | [] => [[]]
  | c :: rest => if c.isSlash then [] :: segments rest else (segments rest).modifyHead (c :: ·)

/-! ### Paths -/

/-- A letter with `:` or `|` after it. -/
def isDrive : List Char → Bool
  | [a, b] => a.isAlpha && (b = ':' || b = '|')
  | _ => false

/-- A segment with each `%2e` read as the dot it stands for. -/
def undotted : List Char → List Char
  | '%' :: '2' :: 'e' :: rest => '.' :: undotted rest
  | '%' :: '2' :: 'E' :: rest => '.' :: undotted rest
  | c :: rest => c :: undotted rest
  | [] => []

/-- A path of which the dot segments are resolved. -/
structure Resolved where
  segments : List (List Char) := []
  /-- A drive was the first segment at some time. -/
  onDrive : Bool := false
  deriving DecidableEq, Repr

namespace Resolved

def add (r : Resolved) (s : List Char) : Resolved :=
  { segments := r.segments ++ [s], onDrive := r.onDrive || (r.segments = [] && isDrive s) }

def parent (r : Resolved) : Resolved :=
  match r.segments.getLast? with
  | some last => if isDrive last then r else { r with segments := r.segments.dropLast }
  | none => r

/-- A first segment that is cut after a drive letter and `:`, because something was dropped
there. -/
def cutDrive? (r : Resolved) (s : Segment) : Option (List Char × List Char) :=
  match r.segments, s with
  | [], a :: b :: c :: rest =>
    if a.char.isAlpha ∧ b.char = ':' ∧ c.apart then
      some ([a.char, b.char], Segment.text (c :: rest))
    else none
  | _, _ => none

/-- Resolves the segments that follow. A dot segment at the end leaves an empty one. -/
def addAll (r : Resolved) : List Segment → Resolved
  | [] => r
  | s :: rest =>
    let isLast := rest = []
    match r.cutDrive? s with
    | some (drive, more) => addAll { r with segments := [drive, more] } rest
    | none =>
      if undotted s.text = ['.', '.'] then
        addAll (if isLast then r.parent.add [] else r.parent) rest
      else if undotted s.text = ['.'] then addAll (if isLast then r.add [] else r) rest
      else addAll (r.add s.text) rest

/-- The host path that a path names. Empty segments at its head are dropped. -/
def hostPath (r : Resolved) : List UInt8 :=
  let kept := r.segments.dropWhile (· = [])
  let kept := if kept = [] then [[]] else kept
  let bytes := kept.flatMap fun s => String.utf8EncodeChar '/' ++ percentDecode s
  match bytes.reverse with
  | b :: a :: _ :: _ =>
    if (Char.ofNat a.toNat).isAlpha && (b = 58 || b = 124) then bytes ++ [47] else bytes
  | _ => bytes

end Resolved

/-! ### URIs -/

def authority (rest : List UriChar) : List UriChar × List Char :=
  match rest with
  | a :: b :: rest' =>
    if a.isSlash && b.isSlash then
      let host := (rest'.takeWhile fun c => !c.isSlash).map (·.char)
      let path := rest'.dropWhile fun c => !c.isSlash
      if isDrive host then (rest', []) else (path.drop 1, host)
    else if a.isSlash then (b :: rest', []) else (rest, [])
  | [a] => if a.isSlash then ([], []) else (rest, [])
  | [] => ([], [])

/-- The host path of a URI given by the text after `file:`, or `none` if it is on another host. -/
def toHostPath (afterScheme : List Char) : Except Fault (Option (List UInt8)) := do
  let ended := (afterScheme.reverse.dropWhile fun c => c.toNat ≤ 0x20).reverse
  let kept := (uriChars false ended).takeWhile fun c => c.char ≠ '?' && c.char ≠ '#'
  let (path, host) := authority kept
  let isLocal ← UriHost.isLocal host
  let resolved := ({} : Resolved).addAll (segments path)
  return if isLocal || resolved.onDrive then some resolved.hostPath else none

end TableScan.FileUri
