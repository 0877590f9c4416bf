import Mathlib.Data.List.Basic
import TableScan.Json

/-!
# JSON texts are unambiguous

No two values have one text. Escapes of characters are a prefix code (`escape_append_inj`), and an
escape never begins with a quote, so a string is over where its closing quote stands
(`quoted_append_inj`). By its first character a value is null, a string or an object, and so what
follows a value in a longer text is told from it (`chars_append_inj`). That goes for values with
members in any order and with repeated keys.
-/

namespace TableScan.Json

variable {c c' : Char} {r r' : List Char}

/-! ### Strings -/

/-- The characters that are written with a backslash. -/
def escapedChars : List Char := '"' :: '\\' :: (List.range 32).map Char.ofNat

theorem escape_of_not_mem (h : c ∉ escapedChars) : escape c = [c] := by
  have hne (c' : Char) (h' : c' ∈ escapedChars) : c ≠ c' := by
    rintro rfl
    exact h h'
  have hcontrol : ¬ c.toNat < 32 := by
    intro hlt
    apply hne (Char.ofNat c.toNat)
    · exact List.mem_cons_of_mem _ (List.mem_cons_of_mem _
        (List.mem_map_of_mem (List.mem_range.2 hlt)))
    · exact (Char.ofNat_toNat c).symm
  unfold escape
  rw [if_neg (hne '"' (by decide)), if_neg (hne '\\' (by decide)), if_neg (hne '\n' (by decide)),
    if_neg (hne '\r' (by decide)), if_neg (hne '\t' (by decide)), if_neg (by omega),
    if_neg (by omega), if_neg hcontrol]

theorem exists_escape_of_mem (h : c ∈ escapedChars) : ∃ w, escape c = '\\' :: w := by
  have hall : (escapedChars.all fun c => (escape c).head? = some '\\') = true := by decide +kernel
  have hhead := of_decide_eq_true (List.all_eq_true.1 hall c h)
  obtain ⟨w, hw⟩ := List.head?_eq_some_iff.1 hhead
  exact ⟨w, hw⟩

theorem eq_of_isPrefix_escape (h : c ∈ escapedChars) (h' : c' ∈ escapedChars)
    (hbegins : escape c <+: escape c') : c = c' := by
  have hall : (escapedChars.all fun c => escapedChars.all fun c' =>
      (escape c).isPrefixOf (escape c') → c = c') = true := by decide +kernel
  have hfirst := List.all_eq_true.1 hall c h
  exact of_decide_eq_true (List.all_eq_true.1 hfirst c' h') (List.isPrefixOf_iff_prefix.2 hbegins)

theorem escape_append_inj (h : escape c ++ r = escape c' ++ r') : c = c' ∧ r = r' := by
  have hc : c = c' := by
    by_cases hm : c ∈ escapedChars
    · by_cases hm' : c' ∈ escapedChars
      · have hbegins : escape c <+: escape c' ++ r' := ⟨r, h⟩
        obtain hp | hp := List.prefix_or_prefix_of_prefix hbegins (List.prefix_append _ r')
        · exact eq_of_isPrefix_escape hm hm' hp
        · exact (eq_of_isPrefix_escape hm' hm hp).symm
      · obtain ⟨w, hw⟩ := exists_escape_of_mem hm
        rw [hw, escape_of_not_mem hm'] at h
        exact absurd (List.cons.inj h).1 fun heq => hm' (heq ▸ by decide)
    · by_cases hm' : c' ∈ escapedChars
      · obtain ⟨w, hw⟩ := exists_escape_of_mem hm'
        rw [hw, escape_of_not_mem hm] at h
        exact absurd (List.cons.inj h).1 fun heq => hm (heq ▸ by decide)
      · rw [escape_of_not_mem hm, escape_of_not_mem hm'] at h
        exact (List.cons.inj h).1
  subst hc
  exact ⟨rfl, List.append_cancel_left h⟩

theorem exists_escape (c : Char) : ∃ a w, escape c = a :: w ∧ a ≠ '"' := by
  by_cases hm : c ∈ escapedChars
  · obtain ⟨w, hw⟩ := exists_escape_of_mem hm
    exact ⟨_, w, hw, by decide⟩
  · exact ⟨c, [], escape_of_not_mem hm, fun heq => hm (heq ▸ by decide)⟩

theorem flatMap_escape_append_inj {l l' : List Char}
    (h : l.flatMap escape ++ '"' :: r = l'.flatMap escape ++ '"' :: r') : l = l' ∧ r = r' := by
  induction l generalizing l' with
  | nil =>
    cases l' with
    | nil => exact ⟨rfl, (List.cons.inj h).2⟩
    | cons c' l' =>
      obtain ⟨a, w, hw, ha⟩ := exists_escape c'
      rw [List.flatMap_cons, hw] at h
      exact absurd (List.cons.inj h).1.symm ha
  | cons c l ih =>
    cases l' with
    | nil =>
      obtain ⟨a, w, hw, ha⟩ := exists_escape c
      rw [List.flatMap_cons, hw] at h
      exact absurd (List.cons.inj h).1 ha
    | cons c' l' =>
      rw [List.flatMap_cons, List.flatMap_cons, List.append_assoc, List.append_assoc] at h
      obtain ⟨rfl, hrest⟩ := escape_append_inj h
      obtain ⟨rfl, hr⟩ := ih hrest
      exact ⟨rfl, hr⟩

theorem quoted_append_inj {s s' : String} (h : quoted s ++ r = quoted s' ++ r') :
    s = s' ∧ r = r' := by
  rw [quoted, quoted, List.cons_append, List.cons_append, List.append_assoc, List.append_assoc] at h
  obtain ⟨hs, hr⟩ := flatMap_escape_append_inj (List.cons.inj h).2
  exact ⟨String.toList_inj.1 hs, hr⟩

/-! ### Values -/

def moreChars : List (String × Json) → List Char
  | [] => []
  | member :: members => ',' :: memberChars (member :: members)

theorem memberChars_cons (key : String) (value : Json) (members : List (String × Json)) :
    memberChars ((key, value) :: members) =
      quoted key ++ ':' :: (value.chars ++ moreChars members) := by
  cases members with
  | nil => simp [memberChars, moreChars]
  | cons member members => rw [memberChars, moreChars]

mutual

/-- A value ends where its text ends, whatever comes after it. -/
theorem chars_append_inj : ∀ (j j' : Json) {r r' : List Char},
    j.chars ++ r = j'.chars ++ r' → j = j' ∧ r = r'
  | .null, j', r, r', h => by
    cases j' with
    | null => exact ⟨rfl, by simpa [chars] using h⟩
    | text s' => simp [chars, quoted] at h
    | object members' => simp [chars] at h
  | .text s, j', r, r', h => by
    cases j' with
    | null => simp [chars, quoted] at h
    | text s' =>
      rw [chars, chars] at h
      obtain ⟨rfl, hr⟩ := quoted_append_inj h
      exact ⟨rfl, hr⟩
    | object members' => simp [chars, quoted] at h
  | .object members, j', r, r', h => by
    cases j' with
    | null => simp [chars] at h
    | text s' => simp [chars, quoted] at h
    | object members' =>
      rw [chars, chars] at h
      obtain ⟨rfl, hr⟩ := memberChars_append_inj members members' (by simpa using h)
      exact ⟨rfl, hr⟩

theorem memberChars_append_inj : ∀ (members members' : List (String × Json)) {r r' : List Char},
    memberChars members ++ '\x7d' :: r = memberChars members' ++ '\x7d' :: r' →
      members = members' ∧ r = r'
  | [], [], r, r', h => ⟨rfl, (List.cons.inj h).2⟩
  | [], (key', value') :: members', r, r', h => by
    simp [memberChars_cons, quoted, memberChars] at h
  | (key, value) :: members, [], r, r', h => by
    simp [memberChars_cons, quoted, memberChars] at h
  | (key, value) :: members, (key', value') :: members', r, r', h => by
    rw [memberChars_cons, memberChars_cons, List.append_assoc, List.append_assoc] at h
    obtain ⟨rfl, hvalue⟩ := quoted_append_inj h
    rw [List.cons_append, List.cons_append, List.append_assoc, List.append_assoc] at hvalue
    obtain ⟨rfl, hmore⟩ := chars_append_inj value value' (List.cons.inj hvalue).2
    cases members with
    | nil =>
      cases members' with
      | nil => exact ⟨rfl, (List.cons.inj hmore).2⟩
      | cons member' members' => simp [moreChars] at hmore
    | cons member members =>
      cases members' with
      | nil => simp [moreChars] at hmore
      | cons member' members' =>
        obtain ⟨hmembers, hr⟩ :=
          memberChars_append_inj (member :: members) (member' :: members') (List.cons.inj hmore).2
        exact ⟨by rw [hmembers], hr⟩

end

/-- No two values have one text. -/
theorem render_inj {j j' : Json} : j.render = j'.render ↔ j = j' := by
  constructor
  · intro h
    have hchars : j.chars = j'.chars := by
      rw [← String.toList_ofList (l := j.chars), ← String.toList_ofList (l := j'.chars)]
      exact congrArg String.toList h
    exact (chars_append_inj j j' (congrArg (· ++ []) hchars)).1
  · rintro rfl
    rfl

end TableScan.Json
