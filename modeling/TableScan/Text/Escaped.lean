import TableScan.Text.Coded

/-!
# Escaped text

Text between double quotes, as a diagnostic shows it: quotes, backslashes and line ends are written
after a backslash, and a character that has no glyph of its own is written as its code.
-/

namespace TableScan.Text

/-- A character as it stands between double quotes. -/
def escapedChar (c : Char) : List Char :=
  if c = '"' ∨ c = '\\' then ['\\', c]
  else if c = '\n' then ['\\', 'n']
  else if c = '\r' then ['\\', 'r']
  else if c = '\t' then ['\\', 't']
  else if c.toNat = 0 then ['\\', '0']
  else if isCoded c then '\\' :: 'u' :: '\x7b' :: (Nat.toDigits 16 c.toNat ++ ['\x7d'])
  else [c]

def quoted (s : String) : String :=
  String.ofList ('"' :: (s.toList.flatMap escapedChar ++ ['"']))

end TableScan.Text
