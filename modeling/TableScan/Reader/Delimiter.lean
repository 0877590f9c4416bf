import TableScan.Error
import TableScan.Text.Numeral

/-!
# Delimiters of text cells

A delimiter is one ASCII byte that ends no line. It is spelled as the character itself or as an
escape: `\t`, `\\`, up to three octal digits, or hexadecimal digits after `\x` or `\u`.
-/

namespace TableScan

structure Delimiter where
  byte : UInt8
  isAscii : byte < 0x80 := by decide
  notLineFeed : byte ≠ 10 := by decide
  notReturn : byte ≠ 13 := by decide
  deriving DecidableEq, Repr

namespace Delimiter

/-- Control-A, the delimiter of a table that names none. -/
def controlA : Delimiter := { byte := 1 }

def char (d : Delimiter) : Char := Char.ofNat d.byte.toNat

/-- The code that an escape stands for, given the text after the backslash. -/
def escapeCode? (escape : List Char) : Option Nat :=
  match escape with
  | ['t'] => some 9
  | ['\\'] => some 92
  | 'u' :: digits => Text.numeral? 16 Text.maxWord32 digits
  | 'x' :: digits => Text.numeral? 16 Text.maxWord32 digits
  | digits =>
    if digits.length ≤ 3 ∧ digits.all (fun c => (Text.digit? 8 c).isSome) then
      Text.numeral? 8 Text.maxWord32 digits
    else none

def code (spelling : String) : Except ConfigFault Nat :=
  match spelling.toList with
  | [c] => .ok c.toNat
  | '\\' :: escape =>
    match escapeCode? escape with
    | some n => .ok n
    | none => .error (.unknownDelimiterEscape spelling)
  | _ => .error (.delimiterNotOneCharacter spelling)

def ofCode (spelling : String) (n : Nat) : Except ConfigFault Delimiter :=
  if n = 10 ∨ n = 13 then .error .delimiterEndsLines
  else
    let byte := UInt8.ofNat n
    if h : n < 0x80 ∧ byte < 0x80 ∧ byte ≠ 10 ∧ byte ≠ 13 then
      .ok { byte, isAscii := h.2.1, notLineFeed := h.2.2.1, notReturn := h.2.2.2 }
    else .error (.delimiterNotOneByte spelling)

/-- The delimiter with a spelling; an absent or empty one stands for control-A. -/
def parse (spelling : Option String) : Except Error Delimiter :=
  match spelling with
  | none => .ok controlA
  | some s =>
    if s = "" then .ok controlA
    else
      match code s >>= ofCode s with
      | .ok d => .ok d
      | .error fault => .error (.config fault)

end Delimiter

end TableScan
