import Mathlib.Data.List.Forall2
import Mathlib.Data.Nat.Digits.Defs
import TableScan.Text.Numeral

/-!
# Values of numerals

The value of a digit is its place in `0123456789abcdef`, and a numeral has the value that its digits
have in its base. That is what reading one gives (`digitsValue?_eq_some_iff`); before the digits
there may be a plus sign (`numeral?_eq_some_iff`).
-/

namespace TableScan.Text

/-- `c` is the digit of value `d` in a base. Letters may be small or large. -/
def IsDigit (base : Nat) (c : Char) (d : Nat) : Prop :=
  d < base ∧ ("0123456789abcdef".toList[d]? = some c ∨ "0123456789ABCDEF".toList[d]? = some c)

/-- A text of one digit or more, the most significant first, that has the value `n`. -/
def IsNumeral (base : Nat) (digits : List Char) (n : Nat) : Prop :=
  digits ≠ [] ∧ ∃ ds, List.Forall₂ (IsDigit base) digits ds ∧ Nat.ofDigits base ds.reverse = n

variable {base bound acc n d : Nat} {c : Char} {l s : List Char}

/-! ### Digits -/

theorem toNat_lt_of_hexDigit? (h : hexDigit? c = some d) : c.toNat < 128 := by
  unfold hexDigit? at h
  split at h
  · rename_i hc
    exact Nat.lt_of_le_of_lt hc.2 (by decide)
  · split at h
    · rename_i hc
      exact Nat.lt_of_le_of_lt hc.2 (by decide)
    · split at h
      · rename_i hc
        exact Nat.lt_of_le_of_lt hc.2 (by decide)
      · cases h

theorem hexDigit?_eq_some_iff :
    hexDigit? c = some d ↔
      "0123456789abcdef".toList[d]? = some c ∨ "0123456789ABCDEF".toList[d]? = some c := by
  constructor
  · intro h
    have hascii : ∀ n < 128, ∀ d ∈ hexDigit? (Char.ofNat n),
        "0123456789abcdef".toList[d]? = some (Char.ofNat n) ∨
          "0123456789ABCDEF".toList[d]? = some (Char.ofNat n) := by decide +kernel
    have hplace := hascii c.toNat (toNat_lt_of_hexDigit? h)
    rw [Char.ofNat_toNat] at hplace
    exact hplace d h
  · have hplace {digits : String} (h : digits.toList[d]? = some c)
        (hdigits : digits.toList.map hexDigit? = (List.range 16).map some) :
        hexDigit? c = some d := by
      have hd := congrArg (fun l => l[d]?) hdigits
      simp only [List.getElem?_map, h, Option.map_some] at hd
      obtain ⟨d', hd', hc⟩ := Option.map_eq_some_iff.1 hd.symm
      obtain ⟨hlt, rfl⟩ := List.getElem?_eq_some_iff.1 hd'
      rw [← hc, List.getElem_range]
    rintro (h | h)
    · exact hplace h (by decide +kernel)
    · exact hplace h (by decide +kernel)

theorem digit?_eq_some_iff : digit? base c = some d ↔ IsDigit base c d := by
  rw [digit?, Option.filter_eq_some_iff, hexDigit?_eq_some_iff, decide_eq_true_eq, IsDigit,
    and_comm]

/-! ### Numerals -/

theorem digitsValue?_eq_some_iff :
    digitsValue? base acc l = some n ↔
      ∃ ds, List.Forall₂ (IsDigit base) l ds ∧ ds.foldl (fun v d => v * base + d) acc = n := by
  induction l generalizing acc with
  | nil => simp [digitsValue?]
  | cons c l ih =>
    simp only [digitsValue?, Option.bind_eq_some_iff, digit?_eq_some_iff, ih,
      List.forall₂_cons_left_iff]
    constructor
    · rintro ⟨d, hd, ds, hds, rfl⟩
      exact ⟨d :: ds, ⟨d, ds, hd, hds, rfl⟩, rfl⟩
    · rintro ⟨_, ⟨d, ds, hd, hds, rfl⟩, rfl⟩
      exact ⟨d, hd, ds, hds, rfl⟩

theorem ofDigits_reverse (base : Nat) (ds : List Nat) :
    Nat.ofDigits base ds.reverse = ds.foldl (fun v d => v * base + d) 0 := by
  rw [Nat.ofDigits_eq_foldr, List.foldr_reverse]
  congr
  funext v d
  rw [Nat.cast_id, Nat.mul_comm, Nat.add_comm]

theorem isNumeral_iff : IsNumeral base l n ↔ l ≠ [] ∧ digitsValue? base 0 l = some n := by
  simp only [IsNumeral, digitsValue?_eq_some_iff, ofDigits_reverse]

instance (base : Nat) (l : List Char) (n : Nat) : Decidable (IsNumeral base l n) :=
  decidable_of_iff _ isNumeral_iff.symm

theorem IsNumeral.isSome_digit? (h : IsNumeral base l n) : ∀ c ∈ l, (digit? base c).isSome := by
  obtain ⟨-, ds, hds, -⟩ := h
  induction hds with
  | nil => nofun
  | cons hd _ ih =>
    rw [List.forall_mem_cons, digit?_eq_some_iff.2 hd]
    exact ⟨rfl, ih⟩

theorem not_isNumeral_plus : ¬ IsNumeral base ('+' :: l) n := by
  intro h
  obtain ⟨d, hd⟩ := Option.isSome_iff_exists.1 (h.isSome_digit? '+' List.mem_cons_self)
  obtain ⟨-, hplus | hplus⟩ := digit?_eq_some_iff.1 hd
  · exact absurd (List.mem_of_getElem? hplus) (by decide)
  · exact absurd (List.mem_of_getElem? hplus) (by decide)

/-- A plus sign may stand before the digits, and no more than one. -/
theorem numeral?_eq_some_iff :
    numeral? base bound s = some n ↔
      (IsNumeral base s n ∨ ∃ digits, s = '+' :: digits ∧ IsNumeral base digits n) ∧ n ≤ bound := by
  have hunsigned (l : List Char) :
      (if l = [] then none else (digitsValue? base 0 l).filter (· ≤ bound)) = some n ↔
        IsNumeral base l n ∧ n ≤ bound := by
    rw [isNumeral_iff]
    split
    · simp [*]
    · simp [*, Option.filter_eq_some_iff]
  unfold numeral?
  split
  · rename_i digits
    simp [hunsigned, not_isNumeral_plus]
  · rename_i hplus
    simp only [hunsigned]
    refine and_congr_left fun _ => ⟨.inl, ?_⟩
    rintro (h | ⟨digits, rfl, -⟩)
    · exact h
    · exact absurd rfl (hplus digits)

end TableScan.Text
