import TableScan.Proofs.Outcome
import TableScan.Text.Utf8

/-!
# Text comes back from its bytes

`decode` undoes `encode` (`decode_encode`) and reads nothing else (`decode_eq_ok_iff`), and a byte
below 0x80 stands for a character of its own (`mem_of_mem_encode`).
-/

namespace TableScan.Text

namespace Utf8

theorem isContinuation_iff {b : UInt8} :
    isContinuation b = true ↔ 0x80 ≤ b.toNat ∧ b.toNat ≤ 0xBF := by
  simp [isContinuation, UInt8.le_iff_toNat_le]

theorem isSecondOfThree_iff {lead b : UInt8} :
    isSecondOfThree lead b = true ↔ (0x80 ≤ b.toNat ∧ b.toNat ≤ 0xBF) ∧
      (lead.toNat ≠ 0xE0 ∨ 0xA0 ≤ b.toNat) ∧ (lead.toNat ≠ 0xED ∨ b.toNat ≤ 0x9F) := by
  simp [isSecondOfThree, isContinuation, UInt8.le_iff_toNat_le, ← UInt8.toNat_inj, and_assoc]

theorem isSecondOfFour_iff {lead b : UInt8} :
    isSecondOfFour lead b = true ↔ (0x80 ≤ b.toNat ∧ b.toNat ≤ 0xBF) ∧
      (lead.toNat ≠ 0xF0 ∨ 0x90 ≤ b.toNat) ∧ (lead.toNat ≠ 0xF4 ∨ b.toNat ≤ 0x8F) := by
  simp [isSecondOfFour, isContinuation, UInt8.le_iff_toNat_le, ← UInt8.toNat_inj, and_assoc]

variable (index : Nat) (rest : List UInt8) {a b c d : UInt8}

theorem decodeFrom_one (ha : a.toNat < 0x80) :
    decodeFrom index (a :: rest) =
      (decodeFrom (index + 1) rest).map (Char.ofNat a.toNat :: ·) := by
  rw [decodeFrom.eq_def]
  simp only [UInt8.lt_iff_toNat_lt]
  exact if_pos ha

theorem decodeFrom_two (ha : 0xC2 ≤ a.toNat ∧ a.toNat ≤ 0xDF) (hb : isContinuation b = true) :
    decodeFrom index (a :: b :: rest) =
      (decodeFrom (index + 2) rest).map (Char.ofNat (a.toNat % 32 * 64 + payload b) :: ·) := by
  rw [decodeFrom.eq_def]
  simp only [UInt8.lt_iff_toNat_lt, UInt8.le_iff_toNat_le, UInt8.reduceToNat, hb, ↓reduceIte]
  rw [if_neg (show ¬ a.toNat < 0x80 by omega)]
  exact if_pos ha

theorem decodeFrom_three (ha : 0xE0 ≤ a.toNat ∧ a.toNat ≤ 0xEF)
    (hb : isSecondOfThree a b = true) (hc : isContinuation c = true) :
    decodeFrom index (a :: b :: c :: rest) =
      (decodeFrom (index + 3) rest).map
        (Char.ofNat ((a.toNat % 16 * 64 + payload b) * 64 + payload c) :: ·) := by
  rw [decodeFrom.eq_def]
  simp only [UInt8.lt_iff_toNat_lt, UInt8.le_iff_toNat_le, UInt8.reduceToNat, hb, hc, ↓reduceIte]
  rw [if_neg (show ¬ a.toNat < 0x80 by omega),
    if_neg (show ¬ (0xC2 ≤ a.toNat ∧ a.toNat ≤ 0xDF) by omega)]
  exact if_pos ha

theorem decodeFrom_four (ha : 0xF0 ≤ a.toNat ∧ a.toNat ≤ 0xF4)
    (hb : isSecondOfFour a b = true) (hc : isContinuation c = true)
    (hd : isContinuation d = true) :
    decodeFrom index (a :: b :: c :: d :: rest) =
      (decodeFrom (index + 4) rest).map
        (Char.ofNat (((a.toNat % 8 * 64 + payload b) * 64 + payload c) * 64 + payload d)
          :: ·) := by
  rw [decodeFrom.eq_def]
  simp only [UInt8.lt_iff_toNat_lt, UInt8.le_iff_toNat_le, UInt8.reduceToNat, hb, hc, hd,
    ↓reduceIte]
  rw [if_neg (show ¬ a.toNat < 0x80 by omega),
    if_neg (show ¬ (0xC2 ≤ a.toNat ∧ a.toNat ≤ 0xDF) by omega),
    if_neg (show ¬ (0xE0 ≤ a.toNat ∧ a.toNat ≤ 0xEF) by omega)]
  exact if_pos ha

theorem toNat_continuation (n : Nat) : (UInt8.ofNat (n % 64 + 128)).toNat = n % 64 + 128 := by
  rw [UInt8.toNat_ofNat']
  omega

theorem isContinuation_continuation (n : Nat) :
    isContinuation (UInt8.ofNat (n % 64 + 128)) = true := by
  rw [isContinuation_iff, toNat_continuation]
  omega

theorem payload_continuation (n : Nat) : payload (UInt8.ofNat (n % 64 + 128)) = n % 64 := by
  rw [payload, toNat_continuation]
  omega

theorem utf8EncodeChar_cases (ch : Char) :
    let v := ch.toNat
    let bytes := String.utf8EncodeChar ch
    v ≤ 0x7F ∧ bytes = [UInt8.ofNat v] ∨
      0x80 ≤ v ∧ v ≤ 0x7FF ∧
        bytes = [UInt8.ofNat (v / 64 % 32 + 0xC0), UInt8.ofNat (v % 64 + 128)] ∨
      0x800 ≤ v ∧ v ≤ 0xFFFF ∧
        bytes = [UInt8.ofNat (v / 4096 % 16 + 0xE0), UInt8.ofNat (v / 64 % 64 + 128),
          UInt8.ofNat (v % 64 + 128)] ∨
      0x10000 ≤ v ∧
        bytes = [UInt8.ofNat (v / 262144 % 8 + 0xF0), UInt8.ofNat (v / 4096 % 64 + 128),
          UInt8.ofNat (v / 64 % 64 + 128), UInt8.ofNat (v % 64 + 128)] := by
  intro v bytes
  have hbytes : bytes = _ := String.utf8EncodeChar.eq_def ch
  dsimp only at hbytes
  change bytes = if v ≤ 127 then _ else if v ≤ 2047 then _ else if v ≤ 65535 then _ else _ at hbytes
  by_cases h₁ : v ≤ 127
  · exact .inl ⟨h₁, hbytes.trans (if_pos h₁)⟩
  rw [if_neg h₁] at hbytes
  by_cases h₂ : v ≤ 2047
  · exact .inr (.inl ⟨by omega, h₂, hbytes.trans (if_pos h₂)⟩)
  rw [if_neg h₂] at hbytes
  by_cases h₃ : v ≤ 65535
  · exact .inr (.inr (.inl ⟨by omega, h₃, hbytes.trans (if_pos h₃)⟩))
  · exact .inr (.inr (.inr ⟨by omega, hbytes.trans (if_neg h₃)⟩))

theorem decodeFrom_encodeChar (ch : Char) :
    decodeFrom index (String.utf8EncodeChar ch ++ rest) =
      (decodeFrom (index + (String.utf8EncodeChar ch).length) rest).map (ch :: ·) := by
  have hchar : Char.ofNat ch.toNat = ch := Char.ofNat_toNat ch
  have hvalid : ch.toNat < 0xD800 ∨ 0xDFFF < ch.toNat ∧ ch.toNat < 0x110000 := ch.valid
  have hcases := utf8EncodeChar_cases ch
  -- in each form the bounds of the bytes and the code put together again are arithmetic on `v`
  generalize ch.toNat = v at hchar hvalid hcases
  obtain ⟨h, hbytes⟩ | ⟨h, h', hbytes⟩ | ⟨h, h', hbytes⟩ | ⟨h, hbytes⟩ := hcases
  · have ha : (UInt8.ofNat v).toNat = v := by
      rw [UInt8.toNat_ofNat']
      omega
    rw [hbytes, List.singleton_append, decodeFrom_one index rest (by omega), ha, hchar]
    rfl
  · have ha : (UInt8.ofNat (v / 64 % 32 + 0xC0)).toNat = v / 64 % 32 + 0xC0 := by
      rw [UInt8.toNat_ofNat']
      omega
    have hcode : (v / 64 % 32 + 0xC0) % 32 * 64 + v % 64 = v := by omega
    simp only [hbytes, List.cons_append, List.nil_append]
    rw [decodeFrom_two index rest (by omega) (isContinuation_continuation v), ha,
      payload_continuation, hcode, hchar]
    rfl
  · have ha : (UInt8.ofNat (v / 4096 % 16 + 0xE0)).toNat = v / 4096 % 16 + 0xE0 := by
      rw [UInt8.toNat_ofNat']
      omega
    have hcode : ((v / 4096 % 16 + 0xE0) % 16 * 64 + v / 64 % 64) * 64 + v % 64 = v := by omega
    have hb := toNat_continuation (v / 64)
    simp only [hbytes, List.cons_append, List.nil_append]
    rw [decodeFrom_three index rest (by omega) (isSecondOfThree_iff.2 (by omega))
      (isContinuation_continuation v), ha, payload_continuation, payload_continuation, hcode, hchar]
    rfl
  · have ha : (UInt8.ofNat (v / 262144 % 8 + 0xF0)).toNat = v / 262144 % 8 + 0xF0 := by
      rw [UInt8.toNat_ofNat']
      omega
    have hcode : (((v / 262144 % 8 + 0xF0) % 8 * 64 + v / 4096 % 64) * 64 + v / 64 % 64) * 64 +
        v % 64 = v := by omega
    have hb := toNat_continuation (v / 4096)
    simp only [hbytes, List.cons_append, List.nil_append]
    rw [decodeFrom_four index rest (by omega) (isSecondOfFour_iff.2 (by omega))
      (isContinuation_continuation (v / 64)) (isContinuation_continuation v), ha,
      payload_continuation, payload_continuation, payload_continuation, hcode, hchar]
    rfl

theorem decodeFrom_encode (s : List Char) : decodeFrom index (encode s) = .ok s := by
  induction s generalizing index with
  | nil => rw [encode, List.flatMap_nil, decodeFrom]
  | cons c s ih =>
    rw [encode, List.flatMap_cons, decodeFrom_encodeChar, ← encode, ih]
    rfl

theorem decode_encode (s : List Char) : decode (encode s) = .ok s := decodeFrom_encode 0 s

theorem toNat_ofNat {v : Nat} (h : v < 0xD800 ∨ 0xDFFF < v ∧ v < 0x110000) :
    (Char.ofNat v).toNat = v := by
  rw [Char.ofNat, dif_pos h]
  exact UInt32.toNat_ofNatLT ..

theorem eq_ofNat {b : UInt8} {n : Nat} (h : n % 256 = b.toNat) : UInt8.ofNat n = b :=
  UInt8.toNat_inj.1 (by rw [UInt8.toNat_ofNat', h])

/-! ### Bytes come back from their text -/

theorem encodeChar_one {a : UInt8} (ha : a.toNat < 0x80) :
    String.utf8EncodeChar (Char.ofNat a.toNat) = [a] := by
  have hv : (Char.ofNat a.toNat).toNat = a.toNat := toNat_ofNat (by omega)
  obtain ⟨h, hbytes⟩ | ⟨h, -⟩ | ⟨h, -⟩ | ⟨h, -⟩ := utf8EncodeChar_cases (Char.ofNat a.toNat)
  · rw [hbytes, hv, UInt8.ofNat_toNat]
  all_goals omega

theorem encodeChar_two {a b : UInt8} (ha : 0xC2 ≤ a.toNat ∧ a.toNat ≤ 0xDF)
    (hb : isContinuation b = true) :
    String.utf8EncodeChar (Char.ofNat (a.toNat % 32 * 64 + payload b)) = [a, b] := by
  rw [isContinuation_iff] at hb
  have hv : (Char.ofNat (a.toNat % 32 * 64 + payload b)).toNat = a.toNat % 32 * 64 + payload b :=
    toNat_ofNat (by unfold payload; omega)
  have hcases := utf8EncodeChar_cases (Char.ofNat (a.toNat % 32 * 64 + payload b))
  rw [hv] at hcases
  unfold payload at *
  obtain ⟨h, -⟩ | ⟨-, -, hbytes⟩ | ⟨h, -⟩ | ⟨h, -⟩ := hcases
  · omega
  · rw [hbytes, eq_ofNat (b := a) (by omega), eq_ofNat (b := b) (by omega)]
  · omega
  · omega

theorem encodeChar_three {a b c : UInt8} (ha : 0xE0 ≤ a.toNat ∧ a.toNat ≤ 0xEF)
    (hb : isSecondOfThree a b = true) (hc : isContinuation c = true) :
    String.utf8EncodeChar (Char.ofNat ((a.toNat % 16 * 64 + payload b) * 64 + payload c)) =
      [a, b, c] := by
  rw [isContinuation_iff] at hc
  rw [isSecondOfThree_iff] at hb
  have hv : (Char.ofNat ((a.toNat % 16 * 64 + payload b) * 64 + payload c)).toNat =
      (a.toNat % 16 * 64 + payload b) * 64 + payload c :=
    toNat_ofNat (by unfold payload; omega)
  have hcases :=
    utf8EncodeChar_cases (Char.ofNat ((a.toNat % 16 * 64 + payload b) * 64 + payload c))
  rw [hv] at hcases
  unfold payload at *
  obtain ⟨h, -⟩ | ⟨-, h, -⟩ | ⟨-, -, hbytes⟩ | ⟨h, -⟩ := hcases
  · omega
  · omega
  · rw [hbytes, eq_ofNat (b := a) (by omega), eq_ofNat (b := b) (by omega),
      eq_ofNat (b := c) (by omega)]
  · omega

theorem encodeChar_four {a b c d : UInt8} (ha : 0xF0 ≤ a.toNat ∧ a.toNat ≤ 0xF4)
    (hb : isSecondOfFour a b = true) (hc : isContinuation c = true)
    (hd : isContinuation d = true) :
    String.utf8EncodeChar (Char.ofNat (((a.toNat % 8 * 64 + payload b) * 64 + payload c) * 64 +
      payload d)) = [a, b, c, d] := by
  rw [isContinuation_iff] at hc hd
  rw [isSecondOfFour_iff] at hb
  have hv : (Char.ofNat (((a.toNat % 8 * 64 + payload b) * 64 + payload c) * 64 +
      payload d)).toNat = ((a.toNat % 8 * 64 + payload b) * 64 + payload c) * 64 + payload d :=
    toNat_ofNat (by unfold payload; omega)
  have hcases := utf8EncodeChar_cases
    (Char.ofNat (((a.toNat % 8 * 64 + payload b) * 64 + payload c) * 64 + payload d))
  rw [hv] at hcases
  unfold payload at *
  obtain ⟨h, -⟩ | ⟨-, h, -⟩ | ⟨-, h, -⟩ | ⟨-, hbytes⟩ := hcases
  · omega
  · omega
  · omega
  · rw [hbytes, eq_ofNat (b := a) (by omega), eq_ofNat (b := b) (by omega),
      eq_ofNat (b := c) (by omega), eq_ofNat (b := d) (by omega)]

theorem encode_of_decodeFrom {index : Nat} {bytes : List UInt8} {s : List Char}
    (h : decodeFrom index bytes = .ok s) : encode s = bytes := by
  fun_induction decodeFrom index bytes generalizing s with
  | case1 =>
    cases h
    rfl
  | case2 index a rest ha ih =>
    obtain ⟨s, hs, rfl⟩ := map_eq_ok h
    rw [encode, List.flatMap_cons, encodeChar_one (UInt8.lt_iff_toNat_lt.1 ha), ← encode, ih hs]
    rfl
  | case4 index a _ ha b rest hb ih =>
    obtain ⟨s, hs, rfl⟩ := map_eq_ok h
    simp only [UInt8.le_iff_toNat_le] at ha
    rw [encode, List.flatMap_cons, encodeChar_two ha hb, ← encode, ih hs]
    rfl
  | case8 index a _ _ ha b hb c rest hc ih =>
    obtain ⟨s, hs, rfl⟩ := map_eq_ok h
    simp only [UInt8.le_iff_toNat_le] at ha
    rw [encode, List.flatMap_cons, encodeChar_three ha hb hc, ← encode, ih hs]
    rfl
  | case14 index a _ _ _ ha b hb c hc d rest hd ih =>
    obtain ⟨s, hs, rfl⟩ := map_eq_ok h
    simp only [UInt8.le_iff_toNat_le] at ha
    rw [encode, List.flatMap_cons, encodeChar_four ha hb hc hd, ← encode, ih hs]
    rfl
  | _ => cases h

/-- Bytes are read as a text exactly if they are the bytes of that text. -/
theorem decode_eq_ok_iff {bytes : List UInt8} {s : List Char} :
    decode bytes = .ok s ↔ encode s = bytes :=
  ⟨encode_of_decodeFrom, fun h => h ▸ decode_encode s⟩

end Utf8

theorem encode_append (a b : List Char) : encode (a ++ b) = encode a ++ encode b :=
  List.flatMap_append

theorem encode_injective {a b : List Char} (h : encode a = encode b) : a = b := by
  have hd := Utf8.decode_encode a
  rw [h, Utf8.decode_encode] at hd
  exact (Except.ok.inj hd).symm

theorem encode_ne_nil {s : List Char} (h : s ≠ []) : encode s ≠ [] :=
  fun hnil => h (encode_injective hnil)

theorem ofBytesLossy_bytesOf (text : String) : ofBytesLossy (bytesOf text) = text := by
  have hgo (fuel : Nat) (h : (bytesOf text).length ≤ fuel) :
      ofBytesLossy.go fuel (bytesOf text) = text.toList := by
    cases fuel with
    | zero =>
      have hempty : encode text.toList = encode [] :=
        List.length_eq_zero_iff.1 (Nat.le_zero.1 h)
      rw [bytesOf, encode_injective hempty]
      rfl
    | succ fuel => rw [ofBytesLossy.go, bytesOf, Utf8.decode_encode]
  rw [ofBytesLossy, hgo _ (Nat.le_refl _), String.ofList_toList]

/-- A byte below 0x80 is the whole of a character, the one with its code. -/
theorem mem_of_mem_encode {b : UInt8} {s : List Char} (hb : b.toNat < 0x80) (h : b ∈ encode s) :
    Char.ofNat b.toNat ∈ s := by
  obtain ⟨c, hc, hmem⟩ := List.mem_flatMap.1 h
  have hcases := Utf8.utf8EncodeChar_cases c
  -- the bytes of longer characters are 0x80 or above
  obtain ⟨h, hbytes⟩ | ⟨h, h', hbytes⟩ | ⟨h, h', hbytes⟩ | ⟨h, hbytes⟩ := hcases
  · rw [hbytes, List.mem_singleton] at hmem
    have hcode : b.toNat = c.toNat := by
      rw [hmem, UInt8.toNat_ofNat']
      omega
    rw [hcode, Char.ofNat_toNat]
    exact hc
  · simp only [hbytes, List.mem_cons, List.not_mem_nil, or_false] at hmem
    obtain rfl | rfl := hmem <;> (rw [UInt8.toNat_ofNat'] at hb; omega)
  · simp only [hbytes, List.mem_cons, List.not_mem_nil, or_false] at hmem
    obtain rfl | rfl | rfl := hmem <;> (rw [UInt8.toNat_ofNat'] at hb; omega)
  · simp only [hbytes, List.mem_cons, List.not_mem_nil, or_false] at hmem
    obtain rfl | rfl | rfl | rfl := hmem <;> (rw [UInt8.toNat_ofNat'] at hb; omega)

end TableScan.Text
