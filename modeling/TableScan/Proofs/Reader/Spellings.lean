import TableScan.Proofs.Text.Numerals
import TableScan.Reader.Delimiter

/-!
# Spellings of delimiters

The spellings of a character are a language of their own (`Spells`): the character itself, two
escapes, octal digits and hexadecimal digits. A delimiter is accepted in just these spellings, if
its code is that of one byte which ends no line, but for one leniency: hexadecimal digits may follow
a plus sign (`SpellsSigned`), which no spelling has.
-/

namespace TableScan.Delimiter

/-- The spellings of a character, with its code. -/
inductive Spells : List Char → Nat → Prop where
  | itself (c : Char) : Spells [c] c.toNat
  | tab : Spells ['\\', 't'] 9
  | backslash : Spells ['\\', '\\'] 92
  | octal {digits : List Char} {n : Nat} : digits.length ≤ 3 → Text.IsNumeral 8 digits n →
      Spells ('\\' :: digits) n
  | hexadecimal {letter : Char} {digits : List Char} {n : Nat} : letter = 'x' ∨ letter = 'u' →
      Text.IsNumeral 16 digits n → Spells ('\\' :: letter :: digits) n

/-- Hexadecimal digits with a plus sign before them. -/
inductive SpellsSigned : List Char → Nat → Prop where
  | hexadecimal {letter : Char} {digits : List Char} {n : Nat} : letter = 'x' ∨ letter = 'u' →
      Text.IsNumeral 16 digits n → SpellsSigned ('\\' :: letter :: '+' :: digits) n

/-- The code of one byte that ends no line. -/
def IsCode (n : Nat) : Prop := n < 0x80 ∧ n ≠ 10 ∧ n ≠ 13

/-- The code that a spelling stands for, an absent and an empty one included. -/
inductive StandsFor : Option String → Nat → Prop where
  | absent : StandsFor none 1
  | empty : StandsFor (some "") 1
  | spelled {s : String} {n : Nat} : Spells s.toList n → IsCode n → StandsFor (some s) n

variable {escape digits : List Char} {s : String} {n : Nat} {d : Delimiter}

/-! ### Escapes -/

theorem escapeCode?_of_octal (hlength : digits.length ≤ 3) (h : Text.IsNumeral 8 digits n)
    (small : n < 0x80) : escapeCode? digits = some n := by
  have hdigits := h.isSome_digit?
  -- none of the characters that begin another escape is an octal digit
  have hother {c : Char} {l : List Char} (hc : Text.digit? 8 c = none) : digits ≠ c :: l := by
    rintro rfl
    simpa [hc] using hdigits c List.mem_cons_self
  unfold escapeCode?
  split
  · exact absurd rfl (hother (by decide))
  · exact absurd rfl (hother (by decide))
  · exact absurd rfl (hother (by decide))
  · exact absurd rfl (hother (by decide))
  · rw [if_pos ⟨hlength, List.all_eq_true.2 hdigits⟩, Text.numeral?_eq_some_iff]
    exact ⟨.inl h, Nat.le_of_lt (small.trans (by decide))⟩

theorem escapeCode?_of_spells (h : Spells ('\\' :: escape) n) (some : escape ≠ [])
    (small : n < 0x80) : escapeCode? escape = .some n := by
  cases h with
  | itself => exact absurd rfl some
  | tab => rfl
  | backslash => rfl
  | octal hlength h => exact escapeCode?_of_octal hlength h small
  | hexadecimal hletter h =>
    have hnumeral := Text.numeral?_eq_some_iff.2
      ⟨.inl h, Nat.le_of_lt (small.trans (show 0x80 < Text.maxWord32 by decide))⟩
    obtain rfl | rfl := hletter
    · exact hnumeral
    · exact hnumeral

theorem escapeCode?_of_spellsSigned (h : SpellsSigned ('\\' :: escape) n) (small : n < 0x80) :
    escapeCode? escape = some n := by
  obtain @⟨letter, digits, _, hletter, h⟩ := h
  have hnumeral := Text.numeral?_eq_some_iff.2
    ⟨.inr ⟨digits, rfl, h⟩, Nat.le_of_lt (small.trans (show 0x80 < Text.maxWord32 by decide))⟩
  obtain rfl | rfl := hletter
  · exact hnumeral
  · exact hnumeral

theorem spells_of_escapeCode? (h : escapeCode? escape = some n) :
    Spells ('\\' :: escape) n ∨ SpellsSigned ('\\' :: escape) n := by
  have hhexadecimal {letter : Char} {digits : List Char} (hletter : letter = 'x' ∨ letter = 'u')
      (h : Text.numeral? 16 Text.maxWord32 digits = some n) :
      Spells ('\\' :: letter :: digits) n ∨ SpellsSigned ('\\' :: letter :: digits) n := by
    obtain ⟨hdigits | ⟨digits, rfl, hdigits⟩, -⟩ := Text.numeral?_eq_some_iff.1 h
    · exact .inl (.hexadecimal hletter hdigits)
    · exact .inr (.hexadecimal hletter hdigits)
  unfold escapeCode? at h
  split at h
  · cases h
    exact .inl .tab
  · cases h
    exact .inl .backslash
  · exact hhexadecimal (.inr rfl) h
  · exact hhexadecimal (.inl rfl) h
  · split at h
    · rename_i hoctal
      obtain ⟨hdigits | ⟨digits, rfl, -⟩, -⟩ := Text.numeral?_eq_some_iff.1 h
      · exact .inl (.octal hoctal.1 hdigits)
      · exact absurd (List.all_eq_true.1 hoctal.2 '+' List.mem_cons_self) (by decide)
    · cases h

/-! ### Codes -/

theorem code_of_spells (h : Spells s.toList n ∨ SpellsSigned s.toList n) (small : n < 0x80) :
    code s = .ok n := by
  unfold code
  split
  · rename_i c hs
    rw [hs] at h
    obtain h | h := h
    · cases h with
      | itself => rfl
      | octal _ hdigits => exact absurd rfl hdigits.1
    · cases h
  · rename_i escape hsome hs
    rw [hs] at h
    have hescape : escapeCode? escape = some n := by
      obtain h | h := h
      · refine escapeCode?_of_spells h ?_ small
        rintro rfl
        exact hsome rfl
      · exact escapeCode?_of_spellsSigned h small
    rw [hescape]
  · rename_i hone hescape
    obtain h | h := h
    · generalize hs : s.toList = l at h
      cases h with
      | itself c => exact absurd hs (hone c)
      | _ => exact absurd hs (hescape _)
    · generalize hs : s.toList = l at h
      cases h
      exact absurd hs (hescape _)

theorem spells_of_code (h : code s = .ok n) : Spells s.toList n ∨ SpellsSigned s.toList n := by
  unfold code at h
  split at h
  · rename_i c hs
    cases h
    rw [hs]
    exact .inl (.itself c)
  · rename_i hs
    rw [hs]
    split at h
    · rename_i hescape
      cases h
      exact spells_of_escapeCode? hescape
    · cases h
  · cases h

theorem ofCode_eq_ok_iff : ofCode s n = .ok d ↔ d.byte.toNat = n := by
  constructor
  · intro h
    unfold ofCode at h
    split at h
    · cases h
    · dsimp only at h
      split at h
      · rename_i hbyte
        cases h
        exact UInt8.toNat_ofNat_of_lt' (hbyte.1.trans (by decide))
      · cases h
  · rintro rfl
    obtain ⟨byte, isAscii, notLineFeed, notReturn⟩ := d
    have hends : ¬ (byte.toNat = 10 ∨ byte.toNat = 13) := by
      rintro (h | h)
      · exact notLineFeed (UInt8.toNat_inj.1 h)
      · exact notReturn (UInt8.toNat_inj.1 h)
    unfold ofCode
    rw [if_neg hends]
    simp only [UInt8.ofNat_toNat]
    exact dif_pos ⟨isAscii, isAscii, notLineFeed, notReturn⟩

theorem isCode_iff : IsCode n ↔ ∃ d : Delimiter, d.byte.toNat = n := by
  constructor
  · rintro ⟨hascii, hfeed, hreturn⟩
    have hbyte : (UInt8.ofNat n).toNat = n := UInt8.toNat_ofNat_of_lt' (hascii.trans (by decide))
    refine ⟨⟨UInt8.ofNat n, ?_, ?_, ?_⟩, hbyte⟩
    · exact UInt8.lt_iff_toNat_lt.2 (hbyte.symm ▸ hascii)
    · exact fun h => hfeed (hbyte.symm.trans (congrArg UInt8.toNat h))
    · exact fun h => hreturn (hbyte.symm.trans (congrArg UInt8.toNat h))
  · rintro ⟨d, rfl⟩
    exact ⟨d.isAscii, fun h => d.notLineFeed (UInt8.toNat_inj.1 h),
      fun h => d.notReturn (UInt8.toNat_inj.1 h)⟩

/-! ### Spellings -/

theorem parse_eq_ok_iff (hs : s ≠ "") : parse (some s) = .ok d ↔ code s = .ok d.byte.toNat := by
  simp only [parse, if_neg hs]
  cases hcode : code s with
  | error fault => exact ⟨nofun, nofun⟩
  | ok n =>
    have hbyte : ofCode s n = .ok d ↔ n = d.byte.toNat := ofCode_eq_ok_iff.trans eq_comm
    rw [Except.ok.injEq, ← hbyte]
    simp only [bind, Except.bind]
    cases ofCode s n with
    | error fault => exact ⟨nofun, nofun⟩
    | ok d' => simp only [Except.ok.injEq]

/-- What is not accepted is an error of configuration. -/
theorem exists_fault_of_parse {spelling : Option String} {e : Error}
    (h : parse spelling = .error e) : ∃ fault, e = .config fault := by
  unfold parse at h
  split at h
  · cases h
  · split at h
    · cases h
    · split at h
      · cases h
      · rename_i fault _
        exact ⟨fault, (Except.error.inj h).symm⟩

/-- A delimiter of a code is accepted in a spelling. -/
def Accepts (spelling : Option String) (n : Nat) : Prop :=
  ∃ d, parse spelling = .ok d ∧ d.byte.toNat = n

theorem accepts_iff_of_controlA {spelling : Option String} (h : parse spelling = .ok controlA) :
    Accepts spelling n ↔ n = 1 := by
  constructor
  · rintro ⟨d, hparse, rfl⟩
    rw [h] at hparse
    cases hparse
    rfl
  · rintro rfl
    exact ⟨controlA, h, rfl⟩

theorem accepts_some_iff (hs : s ≠ "") :
    Accepts (some s) n ↔ (Spells s.toList n ∨ SpellsSigned s.toList n) ∧ IsCode n := by
  constructor
  · rintro ⟨d, hparse, rfl⟩
    exact ⟨spells_of_code ((parse_eq_ok_iff hs).1 hparse), isCode_iff.2 ⟨d, rfl⟩⟩
  · rintro ⟨hspells, hn⟩
    obtain ⟨d, rfl⟩ := isCode_iff.1 hn
    exact ⟨d, (parse_eq_ok_iff hs).2 (code_of_spells hspells hn.1), rfl⟩

theorem standsFor_some_iff (hs : s ≠ "") :
    StandsFor (some s) n ↔ Spells s.toList n ∧ IsCode n := by
  constructor
  · intro h
    cases h with
    | empty => exact absurd rfl hs
    | spelled hspells hn => exact ⟨hspells, hn⟩
  · exact fun h => .spelled h.1 h.2

theorem accepts_iff {spelling : Option String} :
    Accepts spelling n ↔
      StandsFor spelling n ∨ ∃ s, spelling = some s ∧ SpellsSigned s.toList n ∧ IsCode n := by
  cases spelling with
  | none =>
    rw [accepts_iff_of_controlA rfl]
    constructor
    · rintro rfl
      exact .inl .absent
    · rintro (h | ⟨s, hs, -⟩)
      · cases h
        rfl
      · cases hs
  | some s =>
    by_cases hs : s = ""
    · subst hs
      rw [accepts_iff_of_controlA rfl]
      constructor
      · rintro rfl
        exact .inl .empty
      · rintro (h | ⟨s, hs, hsigned, -⟩)
        · cases h with
          | empty => rfl
          | spelled hspells => cases hspells
        · cases hs
          cases hsigned
    · rw [accepts_some_iff hs, standsFor_some_iff hs, or_and_right]
      refine or_congr_right ⟨fun h => ⟨s, rfl, h⟩, ?_⟩
      rintro ⟨_, hsame, h⟩
      cases hsame
      exact h

/-- The spelling has a plus sign before hexadecimal digits. -/
def HasPlusSign (spelling : Option String) : Prop :=
  ∃ s n, spelling = some s ∧ SpellsSigned s.toList n

theorem not_spells_of_spellsSigned {l : List Char} {m : Nat} (h : SpellsSigned l m) :
    ¬ Spells l n := by
  obtain ⟨-, -⟩ := h
  intro hspells
  cases hspells with
  | octal _ h =>
    have hplus := h.isSome_digit? '+' (List.mem_cons_of_mem _ List.mem_cons_self)
    exact absurd hplus (by decide)
  | hexadecimal _ h => exact Text.not_isNumeral_plus h

theorem getElem?_two_of_spellsSigned {l : List Char} (h : SpellsSigned l n) : l[2]? = some '+' := by
  cases h
  rfl

/-- A delimiter is accepted in the spellings of its code, and besides in those that have a plus sign
before hexadecimal digits. So without such a sign a spelling is accepted just for the code that it
stands for, and what is not accepted is an error of configuration. -/
theorem accepted_as_spelled_but_for_plus_sign (spelling : Option String) :
    (∀ n, Accepts spelling n ↔
      StandsFor spelling n ∨ ∃ s, spelling = some s ∧ SpellsSigned s.toList n ∧ IsCode n) ∧
    (¬ HasPlusSign spelling → ∀ n, Accepts spelling n ↔ StandsFor spelling n) ∧
    ((∀ n, ¬ Accepts spelling n) → ∃ fault, parse spelling = .error (.config fault)) := by
  refine ⟨fun n => accepts_iff, fun unsigned n => ?_, fun refused => ?_⟩
  · rw [accepts_iff]
    refine or_iff_left ?_
    rintro ⟨s, hs, hsigned, -⟩
    exact unsigned ⟨s, n, hs, hsigned⟩
  · cases h : parse spelling with
    | ok d => exact absurd ⟨d, h, rfl⟩ (refused d.byte.toNat)
    | error e =>
      obtain ⟨fault, rfl⟩ := exists_fault_of_parse h
      exact ⟨fault, rfl⟩

theorem accepted_as_spelled_but_for_plus_sign_of_escapes :
    StandsFor (some "\\x1F") 31 ∧ Accepts (some "\\x1F") 31 ∧
      (∀ n, ¬ Accepts (some "\\012") n) ∧
        ∃ fault, parse (some "\\012") = .error (.config fault) := by
  obtain ⟨-, hunsigned, -⟩ := accepted_as_spelled_but_for_plus_sign (some "\\x1F")
  obtain ⟨-, -, hrefused⟩ := accepted_as_spelled_but_for_plus_sign (some "\\012")
  have hplus : ¬ HasPlusSign (some "\\x1F") := by
    rintro ⟨s, n, hs, h⟩
    cases hs
    exact absurd (getElem?_two_of_spellsSigned h) (by decide)
  have hspells : Spells "\\x1F".toList 31 := .hexadecimal (.inl rfl) (by decide)
  have hstands : StandsFor (some "\\x1F") 31 := .spelled hspells ⟨by decide, by decide, by decide⟩
  have hnone : ∀ n, ¬ Accepts (some "\\012") n := by
    rintro n ⟨d, h, -⟩
    have herror : (parse (some "\\012")).toOption = none := by decide
    rw [h] at herror
    cases herror
  exact ⟨hstands, (hunsigned hplus 31).2 hstands, hnone, hrefused hnone⟩

/-- Unit separator, with a plus sign before its hexadecimal digits. -/
theorem plus_sign_is_accepted :
    parse (some "\\x+1f") = .ok { byte := 31 } ∧ (∀ n, ¬ StandsFor (some "\\x+1f") n) ∧
      ¬ ∀ spelling n, Accepts spelling n ↔ StandsFor spelling n := by
  have hnone : ∀ n, ¬ StandsFor (some "\\x+1f") n := by
    intro n h
    have hsigned : SpellsSigned "\\x+1f".toList 31 := .hexadecimal (.inl rfl) (by decide)
    exact not_spells_of_spellsSigned hsigned ((standsFor_some_iff (by decide)).1 h).1
  have hparse : parse (some "\\x+1f") = .ok { byte := 31 } := rfl
  exact ⟨hparse, hnone, fun h => hnone 31 ((h _ 31).1 ⟨_, hparse, rfl⟩)⟩

end TableScan.Delimiter
