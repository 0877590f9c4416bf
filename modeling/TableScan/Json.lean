import TableScan.SortedMap

/-!
# JSON text

The part of JSON that rows and map cells are written in: nulls, strings, and objects whose members
stand in key order. Quotes, backslashes and control characters are escaped, nothing else.
-/

namespace TableScan

inductive Json where
  | null
  | text (s : String)
  | object (members : List (String × Json))

namespace Json

def hex4 (n : Nat) : List Char :=
  let digits := Nat.toDigits 16 n
  List.replicate (4 - digits.length) '0' ++ digits

/-- A character inside a JSON string. -/
def escape (c : Char) : List Char :=
  if c = '"' then ['\\', '"']
  else if c = '\\' then ['\\', '\\']
  else if c = '\n' then ['\\', 'n']
  else if c = '\r' then ['\\', 'r']
  else if c = '\t' then ['\\', 't']
  else if c.toNat = 8 then ['\\', 'b']
  else if c.toNat = 12 then ['\\', 'f']
  else if c.toNat < 32 then '\\' :: 'u' :: hex4 c.toNat
  else [c]

def quoted (s : String) : List Char := '"' :: (s.toList.flatMap escape ++ ['"'])

mutual

/-- The text of a value, without spaces. -/
def chars : Json → List Char
  | null => ['n', 'u', 'l', 'l']
  | text s => quoted s
  | object members => '\x7b' :: (memberChars members ++ ['\x7d'])

def memberChars : List (String × Json) → List Char
  | [] => []
  | [(key, value)] => quoted key ++ ':' :: value.chars
  | (key, value) :: member :: members =>
    quoted key ++ ':' :: (value.chars ++ ',' :: memberChars (member :: members))

end

def render (j : Json) : String := String.ofList j.chars

end Json

end TableScan
