import TableScan.File.Cursor

/-!
# Lines of a byte range

A range from `start` to `stop` owns every line whose first byte lies in it, `stop` included. A
range that does not begin with the file skips the line it starts inside of, which belongs to the
range before, and reading stops after the first line feed at or beyond `stop`. Over consecutive
ranges of a file every line is therefore read exactly once.
-/

namespace TableScan.File

/-- The lines of a byte range, as a source of bytes. -/
structure LineRange where
  input : Buffered Cursor
  /-- The offset of the next byte to be handed on. -/
  position : Nat
  stop : Nat
  /-- The last byte of the range has been handed on. -/
  done : Bool

namespace LineRange

def ofCursor (cursor : Cursor) (start stop capacity : Nat) : Except IoError LineRange :=
  match cursor.seek (.fromStart start) with
  | (.error e, _) => .error e
  | (.ok _, cursor) =>
    let input := Buffered.ofSource (max capacity 1) cursor
    if start = 0 then .ok { input, position := 0, stop, done := false }
    else
      match input.takeLine with
      | (.error e, _) => .error e
      | (.ok partialLine, input) =>
        let position := start + partialLine.length
        .ok { input, position, stop, done := stop < position }

/-- The number of bytes through the first line feed that has at least `skip` bytes before it. -/
def lengthThroughLineFeed? (skip : Nat) (bytes : List UInt8) : Option Nat :=
  ((bytes.drop skip).findIdx? (· = lineFeed)).map (skip + · + 1)

def read (r : LineRange) (count : Nat) : Except IoError (List UInt8) × LineRange :=
  if r.done ∨ count = 0 then (.ok [], r)
  else
    match r.input.fill with
    | (.error e, input) => (.error e, { r with input })
    | (.ok (), input) =>
      if input.buffer = [] then (.ok [], { r with input, done := true })
      else
        let available := input.buffer.take count
        -- line feeds before `stop` do not end the range
        let last? := lengthThroughLineFeed? (r.stop - r.position) available
        let given := available.take (last?.getD available.length)
        (.ok given,
          { r with
            input := { input with buffer := input.buffer.drop given.length }
            position := r.position + given.length
            done := last?.isSome })

instance : ByteReader LineRange where
  read := read
  left r := r.input.left
  left_read {r r' count bytes} h := by
    unfold read at h
    split at h
    · simp only [Prod.mk.injEq, Except.ok.injEq] at h
      obtain ⟨rfl, rfl⟩ := h
      simp
    · split at h
      · simp at h
      · rename_i input hf
        have := Buffered.left_fill hf
        split at h
        · simp only [Prod.mk.injEq, Except.ok.injEq] at h
          obtain ⟨rfl, rfl⟩ := h
          simpa using this
        · simp only [Prod.mk.injEq, Except.ok.injEq] at h
          obtain ⟨rfl, rfl⟩ := h
          simp only [Buffered.left, List.length_drop, List.length_take] at this ⊢
          omega

end LineRange

end TableScan.File
