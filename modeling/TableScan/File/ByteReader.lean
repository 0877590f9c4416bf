import TableScan.IoError

/-!
# Byte readers

Sources of bytes that are read from their head on, and buffers over them. A reader has a measure
of what it can still give, which every read lowers by the bytes given; reading to a line end or to
the end of the source therefore comes to an end.
-/

namespace TableScan.File

/-- The byte that ends a line. -/
def lineFeed : UInt8 := 10

/-- Sources of bytes. -/
class ByteReader (σ : Type) where
  /-- Reads at most `count` bytes; none are given at the end of the source. -/
  read : σ → (count : Nat) → Except IoError (List UInt8) × σ
  /-- A bound on the bytes still to come. -/
  left : σ → Nat
  /-- Bytes given are no longer to come. -/
  left_read : ∀ {s s' : σ} {count : Nat} {bytes : List UInt8},
    read s count = (.ok bytes, s') → left s' + bytes.length ≤ left s

namespace ByteReader

variable {σ : Type} [ByteReader σ]

/-- Reads pieces of at most `piece` bytes until the source ends. -/
def readToEnd (piece : Nat) (s : σ) : Except IoError (List UInt8) × σ :=
  match _h : read s piece with
  | (.error e, s') => (.error e, s')
  | (.ok [], s') => (.ok [], s')
  | (.ok (b :: bytes), s') =>
    match readToEnd piece s' with
    | (.ok more, s'') => (.ok (b :: bytes ++ more), s'')
    | (.error e, s'') => (.error e, s'')
termination_by left s
decreasing_by
  have := left_read _h
  simp only [List.length_cons] at this
  omega

/-- Reads until `count` bytes are there or the source ends. -/
def readUpTo (count : Nat) (s : σ) : Except IoError (List UInt8) × σ :=
  if count = 0 then (.ok [], s)
  else
    match _h : read s count with
    | (.error e, s') => (.error e, s')
    | (.ok [], s') => (.ok [], s')
    | (.ok (b :: bytes), s') =>
      match readUpTo (count - (bytes.length + 1)) s' with
      | (.ok more, s'') => (.ok (b :: bytes ++ more), s'')
      | (.error e, s'') => (.error e, s'')
termination_by left s
decreasing_by
  have := left_read _h
  simp only [List.length_cons] at this
  omega

end ByteReader

/-- A buffer over a source: bytes read from it and not yet handed on. -/
structure Buffered (σ : Type) where
  source : σ
  /-- The bytes asked of the source at a time. -/
  capacity : Nat
  buffer : List UInt8

/-- The bytes through the first line feed, and those after it if there is one. -/
def cutAfterLineFeed : List UInt8 → List UInt8 × Option (List UInt8)
  | [] => ([], none)
  | b :: l =>
    if b = lineFeed then ([b], some l)
    else
      let (line, rest) := cutAfterLineFeed l
      (b :: line, rest)

namespace Buffered

variable {σ : Type} [ByteReader σ]

def ofSource (capacity : Nat) (source : σ) : Buffered σ := { source, capacity, buffer := [] }

def fill (b : Buffered σ) : Except IoError Unit × Buffered σ :=
  match b.buffer with
  | _ :: _ => (.ok (), b)
  | [] =>
    match ByteReader.read b.source b.capacity with
    | (.ok bytes, source) => (.ok (), { b with source, buffer := bytes })
    | (.error e, source) => (.error e, { b with source })

def left (b : Buffered σ) : Nat := ByteReader.left b.source + b.buffer.length

theorem left_fill {b b' : Buffered σ} (h : b.fill = (.ok (), b')) : b'.left ≤ b.left := by
  unfold fill at h
  split at h
  · simp_all
  · rename_i hb
    split at h
    · rename_i bytes source hr
      have := ByteReader.left_read hr
      simp only [Prod.mk.injEq, true_and] at h
      subst h
      simp only [left, hb, List.length_nil]
      omega
    · simp at h

/-- Hands on at most `count` bytes of the buffer, filling it first if it is empty. -/
def read (b : Buffered σ) (count : Nat) : Except IoError (List UInt8) × Buffered σ :=
  match b.fill with
  | (.ok (), b) => (.ok (b.buffer.take count), { b with buffer := b.buffer.drop count })
  | (.error e, b) => (.error e, b)

instance : ByteReader (Buffered σ) where
  read := read
  left := left
  left_read {b b' count bytes} h := by
    unfold read at h
    split at h
    · rename_i b₁ hf
      have := left_fill hf
      simp only [Prod.mk.injEq, Except.ok.injEq] at h
      obtain ⟨rfl, rfl⟩ := h
      simp only [left, List.length_drop, List.length_take] at this ⊢
      omega
    · simp at h

/-- The bytes through the next line feed, or all that are left if there is none. -/
def takeLine (b : Buffered σ) : Except IoError (List UInt8) × Buffered σ :=
  match cutAfterLineFeed b.buffer with
  | (line, some rest) => (.ok line, { b with buffer := rest })
  | (start, none) =>
    match _h : ByteReader.read b.source b.capacity with
    | (.error e, source) => (.error e, { b with source, buffer := [] })
    | (.ok [], source) => (.ok start, { b with source, buffer := [] })
    | (.ok (c :: bytes), source) =>
      match takeLine { b with source, buffer := c :: bytes } with
      | (.ok more, b') => (.ok (start ++ more), b')
      | (.error e, b') => (.error e, b')
termination_by ByteReader.left b.source
decreasing_by
  have := ByteReader.left_read _h
  simp only [List.length_cons] at this
  omega

theorem length_cutAfterLineFeed (l : List UInt8) :
    (cutAfterLineFeed l).1.length + ((cutAfterLineFeed l).2.getD []).length = l.length := by
  induction l with
  | nil => rfl
  | cons b l ih =>
    unfold cutAfterLineFeed
    split
    · simp; omega
    · simp only [List.length_cons] at ih ⊢
      omega

theorem left_takeLine {b b' : Buffered σ} {line : List UInt8} (h : b.takeLine = (.ok line, b')) :
    b'.left + line.length ≤ b.left := by
  fun_induction takeLine b generalizing line b' with
  | case1 b l rest hc =>
    have hl := length_cutAfterLineFeed b.buffer
    simp only [hc, Option.getD_some] at hl
    simp only [Prod.mk.injEq, Except.ok.injEq] at h
    obtain ⟨rfl, rfl⟩ := h
    simp only [left]
    omega
  | case2 => simp at h
  | case3 b start hc source hr =>
    have hl := length_cutAfterLineFeed b.buffer
    have := ByteReader.left_read hr
    simp only [hc, Option.getD_none] at hl
    simp only [Prod.mk.injEq, Except.ok.injEq] at h
    obtain ⟨rfl, rfl⟩ := h
    simp only [left, List.length_nil] at *
    omega
  | case4 b start hc c bytes source hr more b₁ ht ih =>
    have hl := length_cutAfterLineFeed b.buffer
    have := ByteReader.left_read hr
    have := ih ht
    simp only [hc, Option.getD_none] at hl
    simp only [Prod.mk.injEq, Except.ok.injEq] at h
    obtain ⟨rfl, rfl⟩ := h
    simp only [left, List.length_nil, List.length_cons, List.length_append] at *
    omega
  | case5 => simp at h

end Buffered

end TableScan.File
