import Mathlib.Data.List.Basic
import TableScan.Proofs.Text.Utf8
import TableScan.Text.Pieces

/-!
# Bytes cut at an ASCII character

A byte below 0x80 is never a part of a longer character, so cutting the bytes of a text at one is
cutting the text at a character (`pieces_encode`), and so is taking it off the end
(`withoutLast_encode`). The ranges of bytes that a pass over the bytes notes between the cuts
(`byteRanges`) therefore begin and end between characters, and hold the pieces of the text
(`slices_byteRanges`).
-/

namespace TableScan.Text

/-! ### The end of a list -/

section Last

variable {α : Type} [DecidableEq α] {b c : α}

/-- A list without `b` at its end. -/
def withoutLast (b : α) (l : List α) : List α :=
  if l.getLast? = some b then l.dropLast else l

theorem withoutLast_of_eq {l : List α} (h : l.getLast? = some b) :
    withoutLast b l = l.dropLast := if_pos h

theorem withoutLast_of_ne {l : List α} (h : l.getLast? ≠ some b) : withoutLast b l = l := if_neg h

theorem withoutLast_concat (b : α) (l : List α) : withoutLast b (l ++ [b]) = l := by
  rw [withoutLast_of_eq List.getLast?_concat, List.dropLast_concat]

theorem withoutLast_append_cons (h : c ≠ b) (a l : List α) :
    withoutLast b (a ++ c :: l) = a ++ c :: withoutLast b l := by
  obtain rfl | ⟨init, last, rfl⟩ := List.eq_nil_or_concat' l
  · rw [withoutLast_of_ne (by simpa using h)]
    rfl
  · have happend : a ++ c :: (init ++ [last]) = (a ++ c :: init) ++ [last] := by simp
    rw [happend]
    by_cases hlast : last = b
    · rw [hlast, withoutLast_concat, withoutLast_concat]
    · have hne : ∀ l : List α, (l ++ [last]).getLast? ≠ some b := fun l => by
        rw [List.getLast?_concat]
        exact fun h => hlast (Option.some.inj h)
      rw [withoutLast_of_ne (hne _), withoutLast_of_ne (hne _), happend]

end Last

/-! ### Bytes and characters -/

section Cut

variable {sep : UInt8} (ascii : sep.toNat < 0x80)
include ascii

theorem encode_ofNat : encode [Char.ofNat sep.toNat] = [sep] := by
  rw [encode, List.flatMap_singleton, Utf8.encodeChar_one ascii]

theorem not_mem_encode_of_ne {c : Char} (h : c ≠ Char.ofNat sep.toNat) : sep ∉ encode [c] :=
  fun hm => h (List.mem_singleton.1 (mem_of_mem_encode ascii hm)).symm

/-- Cutting bytes at an ASCII byte and cutting the text at its character come to the same. -/
theorem pieces_encode (s : List Char) :
    pieces sep (encode s) = (pieces (Char.ofNat sep.toNat) s).map encode := by
  induction s with
  | nil => rfl
  | cons c s ih =>
    have hfirst : encode (c :: s) = encode [c] ++ encode s := by simp [encode]
    by_cases hc : c = Char.ofNat sep.toNat
    · rw [hfirst, hc, encode_ofNat ascii, List.singleton_append, pieces, if_pos rfl, ih, pieces,
        if_pos rfl]
      rfl
    · rw [hfirst, pieces_append_of_not_mem (not_mem_encode_of_ne ascii hc), ih, pieces, if_neg hc]
      obtain ⟨p, ps, hp⟩ := List.exists_cons_of_ne_nil (pieces_ne_nil (Char.ofNat sep.toNat) s)
      rw [hp]
      simp [encode]

theorem withoutLast_encode (s : List Char) :
    withoutLast sep (encode s) = encode (withoutLast (Char.ofNat sep.toNat) s) := by
  obtain rfl | ⟨init, last, rfl⟩ := List.eq_nil_or_concat' s
  · rfl
  · by_cases hlast : last = Char.ofNat sep.toNat
    · rw [hlast, encode_append, encode_ofNat ascii, withoutLast_concat, withoutLast_concat]
    · have hno : sep ∉ encode [last] := not_mem_encode_of_ne ascii hlast
      have hne : encode [last] ≠ [] := encode_ne_nil (List.cons_ne_nil last [])
      have hbytes : (encode (init ++ [last])).getLast? ≠ some sep := by
        rw [encode_append, List.getLast?_append, List.getLast?_eq_some_getLast hne, Option.some_or]
        exact fun h => hno (Option.some.inj h ▸ List.getLast_mem hne)
      rw [withoutLast_of_ne hbytes, withoutLast_of_ne (by simpa using hlast)]

end Cut

/-! ### Ranges of bytes -/

/-- The ranges between the separators, as one pass finds them: the current range began at `start`,
and the next byte stands at `place`. -/
def rangesFrom (sep : UInt8) (start place : Nat) : List UInt8 → List (Nat × Nat)
  | [] => [(start, place)]
  | b :: bytes =>
    if b = sep then (start, place) :: rangesFrom sep (place + 1) (place + 1) bytes
    else rangesFrom sep start (place + 1) bytes

def byteRanges (sep : UInt8) (bytes : List UInt8) : List (Nat × Nat) := rangesFrom sep 0 0 bytes

/-- The ranges of pieces that stand one after the other from `start` on, one byte apart. -/
def spans (start : Nat) : List (List UInt8) → List (Nat × Nat)
  | [] => []
  | p :: ps => (start, start + p.length) :: spans (start + p.length + 1) ps

/-- A range of bytes of a text that begins and ends between characters, with `part` in it. -/
def Slices (text part : List Char) (range : Nat × Nat) : Prop :=
  ∃ before after, text = before ++ part ++ after ∧ range.1 = (encode before).length ∧
    range.2 = (encode (before ++ part)).length

theorem length_spans (start : Nat) (ps : List (List UInt8)) :
    (spans start ps).length = ps.length := by
  induction ps generalizing start with
  | nil => rfl
  | cons p ps ih => rw [spans, List.length_cons, ih, List.length_cons]

/-- The pass notes where the pieces stand. The current piece has `place - start` bytes so far. -/
theorem rangesFrom_eq (sep : UInt8) {start place : Nat} (bytes : List UInt8) {p : List UInt8}
    {ps : List (List UInt8)} (h : pieces sep bytes = p :: ps) :
    rangesFrom sep start place bytes =
      (start, place + p.length) :: spans (place + p.length + 1) ps := by
  induction bytes generalizing start place p ps with
  | nil =>
    cases h
    rfl
  | cons b bytes ih =>
    obtain ⟨q, qs, hq⟩ := List.exists_cons_of_ne_nil (pieces_ne_nil sep bytes)
    rw [pieces, hq] at h
    by_cases hb : b = sep
    · rw [if_pos hb] at h
      cases h
      rw [rangesFrom, if_pos hb, ih hq]
      rfl
    · rw [if_neg hb] at h
      cases h
      rw [rangesFrom, if_neg hb, ih hq, List.length_cons, Nat.add_assoc, Nat.add_comm 1]

theorem byteRanges_eq (sep : UInt8) (bytes : List UInt8) :
    byteRanges sep bytes = spans 0 (pieces sep bytes) := by
  obtain ⟨p, ps, hp⟩ := List.exists_cons_of_ne_nil (pieces_ne_nil sep bytes)
  rw [byteRanges, rangesFrom_eq sep bytes hp, hp, spans]

theorem exists_joined_cons (sep : Char) (p : List Char) (ps : List (List Char)) :
    ∃ after, joined sep (p :: ps) = p ++ after := by
  cases ps with
  | nil => exact ⟨[], (List.append_nil p).symm⟩
  | cons q ps => exact ⟨_, rfl⟩

theorem slices_spans {sep : Char} (one : (encode [sep]).length = 1) {text before : List Char}
    {parts : List (List Char)} (h : text = before ++ joined sep parts) {i : Nat} {part : List Char}
    {range : Nat × Nat} (hpart : parts[i]? = some part)
    (hrange : (spans (encode before).length (parts.map encode))[i]? = some range) :
    Slices text part range := by
  induction parts generalizing before i with
  | nil => cases hpart
  | cons p parts ih =>
    cases i with
    | zero =>
      obtain rfl : p = part := by simpa using hpart
      cases hrange
      obtain ⟨after, hafter⟩ := exists_joined_cons sep p parts
      refine ⟨before, after, ?_, rfl, ?_⟩
      · rw [h, hafter, List.append_assoc]
      · rw [encode_append, List.length_append]
    | succ i =>
      have hne : parts ≠ [] := by
        rintro rfl
        cases hpart
      have hbefore : text = (before ++ p ++ [sep]) ++ joined sep parts := by
        rw [h, joined_cons hne]
        simp
      have hlength : (encode (before ++ p ++ [sep])).length =
          (encode before).length + (encode p).length + 1 := by
        rw [encode_append, encode_append, List.length_append, List.length_append, one]
      refine ih hbefore hpart ?_
      rw [hlength]
      exact hrange

theorem slices_byteRanges {sep : UInt8} (ascii : sep.toNat < 0x80) (text : List Char) :
    (byteRanges sep (encode text)).length = (pieces (Char.ofNat sep.toNat) text).length ∧
      ∀ (i : Nat) part range, (pieces (Char.ofNat sep.toNat) text)[i]? = some part →
        (byteRanges sep (encode text))[i]? = some range → Slices text part range := by
  have hspans : byteRanges sep (encode text) =
      spans 0 ((pieces (Char.ofNat sep.toNat) text).map encode) := by
    rw [byteRanges_eq, pieces_encode ascii]
  rw [hspans, length_spans, List.length_map]
  refine ⟨rfl, fun i part range hpart hrange => ?_⟩
  have one : (encode [Char.ofNat sep.toNat]).length = 1 := by
    rw [encode_ofNat ascii]
    rfl
  have whole : text = [] ++ joined (Char.ofNat sep.toNat) (pieces (Char.ofNat sep.toNat) text) :=
    (joined_pieces _ text).symm
  exact slices_spans one whole hpart hrange

end TableScan.Text
