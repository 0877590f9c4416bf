/-!
# UTF-8

Bytes as text. `decode` accepts exactly the well-formed byte sequences of UTF-8 (no surrogates, no
overlong forms, nothing above U+10FFFF) and otherwise says where the first bad sequence begins and
how many bytes make it bad.
-/

namespace TableScan.Text

def encode (s : List Char) : List UInt8 := s.flatMap String.utf8EncodeChar

def bytesOf (s : String) : List UInt8 := encode s.toList

namespace Utf8

/-- Where bytes stop being UTF-8. -/
structure Fault where
  /-- The number of bytes before the bad sequence, all of them well formed. -/
  index : Nat
  /-- The length of the bad sequence, or `none` if the bytes end inside a character. -/
  length : Option Nat
  deriving DecidableEq, Repr

def Fault.message (f : Fault) : String :=
  match f.length with
  | some n => s!"invalid utf-8 sequence of {n} bytes from index {f.index}"
  | none => s!"incomplete utf-8 byte sequence from index {f.index}"

/-- Bytes that continue a character. -/
def isContinuation (b : UInt8) : Bool := 0x80 ≤ b && b ≤ 0xBF

/-- Whether `b` may follow `lead` in a three-byte character: no overlong form, no surrogate. -/
def isSecondOfThree (lead b : UInt8) : Bool :=
  isContinuation b && (lead ≠ 0xE0 || 0xA0 ≤ b) && (lead ≠ 0xED || b ≤ 0x9F)

/-- Whether `b` may follow `lead` in a four-byte character: no overlong form, none too large. -/
def isSecondOfFour (lead b : UInt8) : Bool :=
  isContinuation b && (lead ≠ 0xF0 || 0x90 ≤ b) && (lead ≠ 0xF4 || b ≤ 0x8F)

/-- The low six bits of a continuation byte. -/
def payload (b : UInt8) : Nat := b.toNat % 64

/-- Decodes bytes that begin at `index` of a longer sequence. -/
def decodeFrom (index : Nat) : List UInt8 → Except Fault (List Char)
  | [] => .ok []
  | a :: rest =>
    if a < 0x80 then (decodeFrom (index + 1) rest).map (Char.ofNat a.toNat :: ·)
    else if 0xC2 ≤ a ∧ a ≤ 0xDF then
      match rest with
      | [] => .error ⟨index, none⟩
      | b :: rest =>
        if isContinuation b then
          (decodeFrom (index + 2) rest).map (Char.ofNat (a.toNat % 32 * 64 + payload b) :: ·)
        else .error ⟨index, some 1⟩
    else if 0xE0 ≤ a ∧ a ≤ 0xEF then
      match rest with
      | [] => .error ⟨index, none⟩
      | b :: rest =>
        if isSecondOfThree a b then
          match rest with
          | [] => .error ⟨index, none⟩
          | c :: rest =>
            if isContinuation c then
              (decodeFrom (index + 3) rest).map
                (Char.ofNat ((a.toNat % 16 * 64 + payload b) * 64 + payload c) :: ·)
            else .error ⟨index, some 2⟩
        else .error ⟨index, some 1⟩
    else if 0xF0 ≤ a ∧ a ≤ 0xF4 then
      match rest with
      | [] => .error ⟨index, none⟩
      | b :: rest =>
        if isSecondOfFour a b then
          match rest with
          | [] => .error ⟨index, none⟩
          | c :: rest =>
            if isContinuation c then
              match rest with
              | [] => .error ⟨index, none⟩
              | d :: rest =>
                if isContinuation d then
                  (decodeFrom (index + 4) rest).map
                    (Char.ofNat (((a.toNat % 8 * 64 + payload b) * 64 + payload c) * 64
                      + payload d) :: ·)
                else .error ⟨index, some 3⟩
            else .error ⟨index, some 2⟩
        else .error ⟨index, some 1⟩
    else .error ⟨index, some 1⟩

/-- The text of bytes, or the first place where they are not UTF-8. -/
def decode (bytes : List UInt8) : Except Fault (List Char) := decodeFrom 0 bytes

end Utf8

def ofBytes? (bytes : List UInt8) : Option String :=
  match Utf8.decode bytes with
  | .ok s => some (String.ofList s)
  | .error _ => none

/-- The text of bytes with the replacement character U+FFFD for each maximal bad sequence. -/
def ofBytesLossy (bytes : List UInt8) : String :=
  String.ofList (go bytes.length bytes)
where
  /-- Decodes up to each bad sequence; `fuel` bounds the number of sequences. -/
  go : Nat → List UInt8 → List Char
    | 0, _ => []
    | fuel + 1, bytes =>
      match Utf8.decode bytes with
      | .ok s => s
      | .error f =>
        let good := match Utf8.decode (bytes.take f.index) with
          | .ok s => s
          | .error _ => []
        match f.length with
        | none => good ++ ['\uFFFD']
        | some n => good ++ '\uFFFD' :: go fuel (bytes.drop (f.index + n))

end TableScan.Text
