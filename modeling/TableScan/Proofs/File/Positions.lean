import TableScan.Proofs.File.Chunks

/-!
# Positions

A cursor is moved by seeks and by reads. What it answers is told by a position over the integers
alone (`Answered`): a seek leads to its target if that is an offset and is refused otherwise, a read
gives bytes of the content and moves past them. One request is answered so (`answered`), hence a
whole run of them is (`follows_trace`), however few bytes the file gives at a time.

Offsets are words of 64 bits and differences are signed words. `WordSeek.target?` finds a target in
their arithmetic, by the carry of the addition, and it is the target over the integers
(`target?_eq_some_iff`).
-/

namespace TableScan.File

open ByteReader

/-- Where a seek leads in a file of `size` bytes, over the integers. -/
def Seek.target (size position : Nat) : Seek → Int
  | fromStart offset => offset
  | fromEnd delta => size + delta
  | fromHere delta => position + delta

namespace Cursor

variable {c : Cursor} {content : List UInt8} {piece : Nat}

inductive Request where
  | seek (s : Seek)
  | read (count : Nat)
  /-- All that is left, in pieces of at most `piece` bytes. -/
  | rest (piece : Nat)

inductive Answer where
  | moved (result : Except IoError Nat)
  | given (result : Except IoError (List UInt8))

def answer (c : Cursor) : Request → Answer × Cursor
  | .seek s => (.moved (c.seek s).1, (c.seek s).2)
  | .read count => (.given (c.read count).1, (c.read count).2)
  | .rest piece => (.given (readToEnd piece c).1, (readToEnd piece c).2)

/-- The answers to requests made one after the other, each with the position after it. -/
def trace (c : Cursor) : List Request → List (Answer × Nat)
  | [] => []
  | request :: requests =>
    let (answer, c) := c.answer request
    (answer, c.offset) :: c.trace requests

/-- What a request may be answered at a position of a file, and the position after it. -/
inductive Answered (content : List UInt8) (size position : Nat) : Request → Answer → Nat → Prop where
  | moved {s : Seek} {next : Nat} : s.target size position = next → next ≤ maxOffset →
      Answered content size position (.seek s) (.moved (.ok next)) next
  | refused {s : Seek} {e : IoError} :
      s.target size position < 0 ∨ maxOffset < s.target size position →
      e.kind = .invalidInput → e.message = "seek before start of file" →
      Answered content size position (.seek s) (.moved (.error e)) position
  | given {count : Nat} {bytes : List UInt8} : bytes <+: content.drop position →
      bytes.length ≤ count → (bytes = [] → count = 0 ∨ content.length ≤ position) →
      Answered content size position (.read count) (.given (.ok bytes)) (position + bytes.length)
  | rest {piece : Nat} {bytes : List UInt8} : bytes = content.drop position →
      Answered content size position (.rest piece) (.given (.ok bytes)) (position + bytes.length)

/-- Requests are answered as at a position that begins at `position`, and it stays an offset. -/
inductive Follows (content : List UInt8) (size : Nat) :
    (position : Nat) → List Request → List (Answer × Nat) → Prop where
  | nil {position : Nat} : Follows content size position [] []
  | cons {position next : Nat} {request : Request} {answer : Answer} {requests : List Request}
      {steps : List (Answer × Nat)} : Answered content size position request answer next →
      next ≤ maxOffset → Follows content size next requests steps →
      Follows content size position (request :: requests) ((answer, next) :: steps)

/-! ### One request -/

theorem seek_cases (c : Cursor) (s : Seek) :
    (∃ next ≤ maxOffset, s.target c.handle.size c.offset = next ∧
      c.seek s = (.ok next, { c with offset := next })) ∨
    (s.target c.handle.size c.offset < 0 ∨ maxOffset < s.target c.handle.size c.offset) ∧
      c.seek s = (.error .seekBeforeStart, c) := by
  have htarget : c.target s = s.target c.handle.size c.offset := by cases s <;> rfl
  rw [← htarget]
  by_cases hoffset : 0 ≤ c.target s ∧ c.target s ≤ maxOffset
  · exact .inl ⟨_, Int.toNat_le.2 hoffset.2, (Int.toNat_of_nonneg hoffset.1).symm, if_pos hoffset⟩
  · exact .inr ⟨by omega, if_neg hoffset⟩

/-- A read of at most `count` bytes has given `bytes` of the content and moved the cursor past
them. -/
structure Served (content : List UInt8) (c : Cursor) (count : Nat) (bytes : List UInt8)
    (c' : Cursor) : Prop where
  handle : c'.handle = c.handle
  offset : c'.offset = c.offset + bytes.length
  inReach : c'.offset ≤ maxOffset
  next : bytes ++ content.drop c'.offset = content.drop c.offset
  length_le : bytes.length ≤ count
  ended : bytes = [] → count = 0 ∨ content.length ≤ c.offset

section

variable (serves : c.handle.ServesInReach content) (fits : content.length ≤ maxOffset)
  (inReach : c.offset ≤ maxOffset)
include serves fits inReach

theorem exists_served (count : Nat) :
    ∃ bytes c', c.read count = (.ok bytes, c') ∧ Served content c count bytes c' := by
  obtain ⟨k, hread, hk, hpos⟩ := serves c.requests c.offset count inReach
  have hlength : ((content.drop c.offset).take k).length = min k (content.length - c.offset) := by
    rw [List.length_take, List.length_drop]
  have hnext := List.prefix_iff_eq_append.1 (List.take_prefix k (content.drop c.offset))
  rw [List.drop_drop] at hnext
  refine ⟨_, _, read_of_readAt fits hk hread, rfl, rfl, ?_, hnext, by omega, fun hnone => ?_⟩
  · show c.offset + _ ≤ maxOffset
    omega
  · rw [List.take_eq_nil_iff, List.drop_eq_nil_iff] at hnone
    omega

theorem gives_inReach : Gives c (content.drop c.offset) none := by
  refine ⟨fun c l e => c.handle.ServesInReach content ∧ c.offset ≤ maxOffset ∧
    l = content.drop c.offset ∧ e = none, ?_, serves, inReach, rfl, rfl⟩
  rintro c _ _ count ⟨serves, inReach, rfl, rfl⟩ positive
  obtain ⟨bytes, c', hread, hserved⟩ := exists_served serves fits inReach count
  have hfirst : ByteReader.read c count = (.ok bytes, c') := hread
  rw [hfirst]
  refine ⟨content.drop c'.offset, ?_, hserved.handle ▸ serves, hserved.inReach, rfl, rfl⟩
  cases bytes with
  | nil =>
    have hend : content.drop c.offset = [] :=
      List.drop_of_length_le ((hserved.ended rfl).resolve_left (Nat.ne_of_gt positive))
    have hrest : content.drop c'.offset = [] := hserved.next.trans hend
    rw [hend, hrest]
    exact .ended .atEnd
  | cons b bytes =>
    rw [← hserved.next]
    exact .bytes (List.cons_ne_nil b bytes) hserved.length_le

theorem readToEnd_served (positive : 0 < piece) :
    ∃ c', readToEnd piece c = (.ok (content.drop c.offset), c') ∧ c'.handle = c.handle ∧
      c'.offset = c.offset + (content.drop c.offset).length ∧ c'.offset ≤ maxOffset := by
  fun_induction readToEnd piece c with
  | case1 c e c' hread =>
    obtain ⟨bytes, next, hok, -⟩ := exists_served serves fits inReach piece
    cases hread.symm.trans hok
  | case2 c c' hread =>
    obtain ⟨bytes, next, hok, hserved⟩ := exists_served serves fits inReach piece
    cases hread.symm.trans hok
    have hend := (hserved.ended rfl).resolve_left (Nat.ne_of_gt positive)
    rw [List.drop_of_length_le hend]
    exact ⟨c', rfl, hserved.handle, hserved.offset, hserved.inReach⟩
  | case3 c b bytes c' hread more c'' hmore ih =>
    obtain ⟨_, next, hok, hserved⟩ := exists_served serves fits inReach piece
    cases hread.symm.trans hok
    obtain ⟨last, hall, hhandle, hoffset, hlast⟩ :=
      ih (hserved.handle ▸ serves) hserved.inReach
    cases hmore.symm.trans hall
    rw [← hserved.next, List.length_append, ← Nat.add_assoc, ← hserved.offset]
    exact ⟨_, rfl, hhandle.trans hserved.handle, hoffset, hlast⟩
  | case4 c b bytes c' hread e c'' hmore ih =>
    obtain ⟨_, next, hok, hserved⟩ := exists_served serves fits inReach piece
    cases hread.symm.trans hok
    obtain ⟨last, hall, -⟩ := ih (hserved.handle ▸ serves) hserved.inReach
    cases hmore.symm.trans hall

/-- A request is answered as at the cursor's position, and leaves the cursor on its file. -/
theorem answered (request : Request) (positive : ∀ piece, request = .rest piece → 0 < piece) :
    Answered content c.handle.size c.offset request (c.answer request).1
        (c.answer request).2.offset ∧
      (c.answer request).2.handle = c.handle ∧ (c.answer request).2.offset ≤ maxOffset := by
  cases request with
  | seek s =>
    obtain ⟨next, hnext, htarget, hseek⟩ | ⟨hrefused, hseek⟩ := seek_cases c s
    · rw [answer, hseek]
      exact ⟨.moved htarget hnext, rfl, hnext⟩
    · rw [answer, hseek]
      exact ⟨.refused hrefused rfl rfl, rfl, inReach⟩
  | read count =>
    obtain ⟨bytes, c', hread, hserved⟩ := exists_served serves fits inReach count
    rw [answer, hread]
    refine ⟨?_, hserved.handle, hserved.inReach⟩
    rw [hserved.offset]
    exact .given ⟨_, hserved.next⟩ hserved.length_le hserved.ended
  | rest piece =>
    obtain ⟨c', hread, hhandle, hoffset, hnext⟩ :=
      readToEnd_served serves fits inReach (positive piece rfl)
    rw [answer, hread]
    refine ⟨?_, hhandle, hnext⟩
    rw [hoffset]
    exact .rest rfl

/-! ### Many requests -/

/-- Requests one after the other are answered as at a position over the integers. -/
theorem follows_trace (requests : List Request)
    (positive : ∀ piece, .rest piece ∈ requests → 0 < piece) :
    Follows content c.handle.size c.offset requests (c.trace requests) := by
  induction requests generalizing c with
  | nil => exact .nil
  | cons request requests ih =>
    obtain ⟨hanswered, hhandle, hnext⟩ := answered serves fits inReach request
      fun piece hpiece => positive piece (hpiece ▸ List.mem_cons_self)
    have hrest := ih (hhandle ▸ serves) hnext fun piece hpiece =>
      positive piece (List.mem_cons_of_mem _ hpiece)
    exact .cons hanswered hnext (hhandle ▸ hrest)

end

end Cursor

/-! ### Words -/

/-- A target of a seek, in words of 64 bits. -/
inductive WordSeek where
  | fromStart (offset : UInt64)
  | fromEnd (delta : Int64)
  | fromHere (delta : Int64)

namespace WordSeek

def toSeek : WordSeek → Seek
  | fromStart offset => .fromStart offset.toNat
  | fromEnd delta => .fromEnd delta.toInt
  | fromHere delta => .fromHere delta.toInt

/-- The sum of an offset and a difference, if it is an offset. A negative difference is added as its
complement, so there has to be a carry if it is negative, and none otherwise. -/
def addSigned? (base : UInt64) (delta : Int64) : Option UInt64 :=
  let sum := base + delta.toUInt64
  if sum < base ↔ delta < 0 then some sum else none

/-- The offset that a seek leads to, if there is one. -/
def target? (size position : UInt64) : WordSeek → Option UInt64
  | fromStart offset => some offset
  | fromEnd delta => addSigned? size delta
  | fromHere delta => addSigned? position delta

theorem addSigned?_eq_some_iff {base sum : UInt64} {delta : Int64} :
    addSigned? base delta = some sum ↔ base.toNat + delta.toInt = sum.toNat := by
  have hdelta : delta.toInt = if 2 * delta.toUInt64.toNat < 2 ^ 64 then
      (delta.toUInt64.toNat : Int) else delta.toUInt64.toNat - (2 ^ 64 : Nat) :=
    BitVec.toInt_eq_toNat_cond _
  have hadd : (base + delta.toUInt64).toNat = (base.toNat + delta.toUInt64.toNat) % 2 ^ 64 :=
    UInt64.toNat_add ..
  have hnegative : delta < 0 ↔ delta.toInt < 0 := Int64.lt_iff_toInt_lt
  have hbase := base.toNat_lt
  have hword := delta.toUInt64.toNat_lt
  have hsum := sum.toNat_lt
  unfold addSigned?
  simp only [UInt64.lt_iff_toNat_lt, hnegative]
  split
  · rw [Option.some.injEq, ← UInt64.toNat_inj]
    omega
  · simp only [reduceCtorEq, false_iff]
    omega

/-- A target found in words is the target over the integers. -/
theorem target?_eq_some_iff {size position next : UInt64} {s : WordSeek} :
    s.target? size position = some next ↔
      s.toSeek.target size.toNat position.toNat = next.toNat := by
  cases s with
  | fromStart offset =>
    rw [target?, Option.some.injEq, ← UInt64.toNat_inj]
    exact Int.ofNat_inj.symm
  | fromEnd delta => exact addSigned?_eq_some_iff
  | fromHere delta => exact addSigned?_eq_some_iff

end WordSeek

namespace Cursor

variable {c : Cursor} {content : List UInt8}

theorem seek_toSeek {size position : UInt64} (hsize : c.handle.size = size.toNat)
    (hposition : c.offset = position.toNat) (s : WordSeek) :
    (c.seek s.toSeek).1 = match s.target? size position with
      | some next => .ok next.toNat
      | none => .error .seekBeforeStart := by
  obtain ⟨next, hnext, htarget, hseek⟩ | ⟨hrefused, hseek⟩ := seek_cases c s.toSeek
  · rw [hsize, hposition] at htarget
    have hword : (UInt64.ofNat next).toNat = next :=
      UInt64.toNat_ofNat_of_lt' (Nat.lt_succ_of_le hnext)
    rw [← hword, ← WordSeek.target?_eq_some_iff] at htarget
    rw [hseek, htarget]
    exact congrArg Except.ok hword.symm
  · cases htarget : s.target? size position with
    | none => rw [hseek]
    | some next =>
      rw [WordSeek.target?_eq_some_iff, ← hsize, ← hposition] at htarget
      have hlt := next.toNat_lt
      unfold maxOffset at hrefused
      omega

/-- Whatever it is asked, one after the other, a cursor answers as at a position over the integers,
and it stands there. However its bytes are asked for, it has given the rest of the content once a
read of some bytes gives none, and one soon does. A target is found in words of 64 bits just if it
is an offset. -/
theorem answers_as_over_integers (serves : c.handle.ServesInReach content)
    (fits : content.length ≤ maxOffset) (inReach : c.offset ≤ maxOffset) :
    (∀ requests : List Request, (∀ piece, .rest piece ∈ requests → 0 < piece) →
      Follows content c.handle.size c.offset requests (c.trace requests)) ∧
    (∀ counts : List Nat, (∀ count ∈ counts, 0 < count) →
      ∃ (pieces : List (List UInt8)) (c' : Cursor),
        reads c counts = (pieces.map .ok, c') ∧ pieces.flatten <+: content.drop c.offset ∧
        ([] ∈ pieces → pieces.flatten = content.drop c.offset) ∧
        ((content.drop c.offset).length < counts.length → [] ∈ pieces)) ∧
    ∀ (size position : UInt64) (s : WordSeek), c.handle.size = size.toNat →
      c.offset = position.toNat →
      (c.seek s.toSeek).1 = match s.target? size position with
        | some next => .ok next.toNat
        | none => .error .seekBeforeStart :=
  ⟨fun requests positive => follows_trace serves fits inReach requests positive,
    fun _ positive => (gives_inReach serves fits inReach).reads_through positive,
    fun _ _ s hsize hposition => seek_toSeek hsize hposition s⟩

/-- The greeting "hello world", served two bytes at a time. -/
theorem answers_as_over_integers_of_greeting :
    let file : Stored :=
      { content := [104, 101, 108, 108, 111, 32, 119, 111, 114, 108, 100], piece := some 2 }
    let c : Cursor := .ofHandle file.handle 0
    let requests : List Request :=
      [.seek (.fromEnd (-5)), .read 4, .seek (.fromHere (-9)), .seek (.fromStart 20), .read 4,
        .seek (.fromStart maxOffset), .seek (.fromHere 1)]
    c.handle.ServesInReach file.content ∧ file.content.length ≤ maxOffset ∧
      c.offset ≤ maxOffset ∧ (∀ piece, .rest piece ∈ requests ++ [.rest 32] → 0 < piece) ∧
      Follows file.content 11 0 (requests ++ [.rest 32]) (c.trace (requests ++ [.rest 32])) ∧
      c.trace requests =
        [(.moved (.ok 6), 6), (.given (.ok [119, 111]), 8), (.moved (.error .seekBeforeStart), 8),
          (.moved (.ok 20), 20), (.given (.ok []), 20), (.moved (.ok maxOffset), maxOffset),
          (.moved (.error .seekBeforeStart), maxOffset)] ∧
      (readToEnd 32 c).1 = .ok file.content := by
  intro file c requests
  have serves : c.handle.ServesInReach file.content := (Stored.serves_handle rfl (by decide)).inReach
  have positive : ∀ piece, .rest piece ∈ requests ++ [.rest 32] → 0 < piece := by simp [requests]
  obtain ⟨hfollows, -, -⟩ := answers_as_over_integers serves (by decide) (by decide)
  obtain ⟨c', hrest, -⟩ := readToEnd_served serves (by decide) (by decide) (show 0 < 32 by decide)
  refine ⟨serves, by decide, by decide, positive, hfollows _ positive, ?_,
    congrArg Prod.fst hrest⟩
  simp only [file, c, requests]
  rfl

end Cursor

end TableScan.File
