import TableScan.Proofs.Descriptor.Entries

/-!
# Descriptors without a wrapper

The entries of a descriptor may stand alone, without `struct<` before and `>` after them. The body
of a descriptor, though, is told by angle brackets only: it is what stands between the first `<` and
the last `>`. So a bare list of entries is its own body if no `>` stands after a `<` in it, and
otherwise a part of it is taken for the body (`body_cases`), which is too short to hold the fields
(`length_joined_entries_le`). In a wrapper the fields are found again whatever they are.
-/

namespace TableScan

theorem Text.length_trim_le (s : List Char) : (trim s).length ≤ s.length := by
  obtain ⟨before, after, -, -, hs⟩ := exists_trim s
  have := congrArg List.length hs
  simp only [List.length_append] at this
  omega

theorem Text.isTrimmed_joined (sep : Char) {ps : List (List Char)}
    (h : ∀ p ∈ ps, p ≠ [] ∧ IsTrimmed p) : IsTrimmed (joined sep ps) := by
  induction ps with
  | nil => exact trim_eq_self_iff.1 rfl
  | cons p ps ih =>
    rw [List.forall_mem_cons] at h
    cases ps with
    | nil => exact h.1.2
    | cons q ps =>
      have hne : joined sep (q :: ps) ≠ [] := by
        rw [Ne, joined_eq_nil_iff]
        rintro (hnil | hnil)
        · cases hnil
        · cases hnil
          exact (h.2 [] List.mem_cons_self).1 rfl
      have hrest := h.1.2.append_append (ih h.2) h.1.1 hne [sep]
      rwa [List.append_assoc] at hrest

namespace Descriptor

/-! ### Bodies -/

/-- Some `>` stands after some `<`. -/
def HasAngles (s : List Char) : Prop := ['<', '>'].Sublist s

instance : DecidablePred HasAngles := fun _ => inferInstanceAs (Decidable (List.Sublist _ _))

variable {s a b : List Char} {fs : List PhysicalField}

theorem hasAngles_append_cons_iff (h : '<' ∉ a) : HasAngles (a ++ '<' :: b) ↔ '>' ∈ b := by
  constructor
  · intro hangles
    obtain ⟨l₁, l₂, heq, h₁, h₂⟩ := List.sublist_append_iff.1 hangles
    cases l₁ with
    | nil =>
      cases heq
      exact List.singleton_sublist.1 (List.cons_sublist_cons.1 h₂)
    | cons c l₁ =>
      obtain ⟨rfl, -⟩ := List.cons.inj heq
      exact absurd (h₁.subset List.mem_cons_self) h
  · intro hb
    exact (List.cons_sublist_cons.2 (List.singleton_sublist.2 hb)).trans
      (List.sublist_append_right a _)

/-- A text without blanks at its ends is its own body, or a shorter part of it is. -/
theorem body_cases (h : Text.trim s = s) :
    (¬ HasAngles s ∧ body s = s) ∨ HasAngles s ∧ (body s).length < s.length := by
  unfold body
  rw [h]
  cases hfirst : Text.cutAtFirst? '<' s with
  | none =>
    simp only [hfirst]
    refine .inl ⟨fun hangles => ?_, trivial⟩
    exact Text.cutAtFirst?_eq_none_iff.1 hfirst (hangles.subset List.mem_cons_self)
  | some cut =>
    obtain ⟨a, inner⟩ := cut
    simp only [hfirst]
    obtain ⟨rfl, ha⟩ := Text.eq_of_cutAtFirst? hfirst
    rw [hasAngles_append_cons_iff ha]
    cases hlast : Text.cutAtLast? '>' inner with
    | none => exact .inl ⟨Text.cutAtLast?_eq_none_iff.1 hlast, rfl⟩
    | some cut =>
      obtain ⟨inside, c⟩ := cut
      obtain ⟨rfl, -⟩ := Text.eq_of_cutAtLast? hlast
      refine .inr ⟨by simp, ?_⟩
      simp only [List.length_append, List.length_cons]
      omega

/-! ### Fields -/

theorem length_entry_le {w : List Char} {f : PhysicalField} (h : field? w = some f) :
    (entry f).length ≤ w.length := by
  obtain ⟨name, type, rfl, -, hname, -, htype, -⟩ := exists_of_field? h
  have := Text.length_trim_le name
  have := Text.length_trim_le type
  rw [entry, hname, htype]
  simp only [List.length_append, List.length_cons]
  omega

theorem length_flatMap_entries_le (ps : List (List Char)) :
    ((((ps.map Text.trim).filterMap field?).map entry).flatMap (· ++ [','])).length ≤
      (ps.flatMap (· ++ [','])).length := by
  induction ps with
  | nil => exact Nat.le_refl 0
  | cons p ps ih =>
    rw [List.map_cons, List.flatMap_cons, List.length_append, List.length_append]
    cases hf : field? (Text.trim p) with
    | none =>
      rw [List.filterMap_cons_none hf]
      omega
    | some f =>
      have := length_entry_le hf
      have := Text.length_trim_le p
      rw [List.filterMap_cons_some hf, List.map_cons, List.flatMap_cons, List.length_append,
        List.length_append]
      omega

/-- The entries of the fields that are read from a body are together no longer than the body. -/
theorem length_joined_entries_le (body : List Char) :
    (Text.joined ',' ((fieldsOfBody body).map entry)).length ≤ body.length := by
  rw [fieldsOfBody_eq, topLevelPieces]
  by_cases hnone : ((rawPieces ',' {} body).map Text.trim).filterMap field? = []
  · rw [hnone]
    exact Nat.zero_le _
  · have hbody := Text.joined_append_singleton ',' (rawPieces_ne_nil ',' {} body)
    have hentries := Text.joined_append_singleton ','
      (mt (List.map_eq_nil_iff (f := entry)).1 hnone)
    have hle := length_flatMap_entries_le (rawPieces ',' {} body)
    rw [← hbody, ← hentries, joined_rawPieces, List.length_append, List.length_append] at hle
    exact Nat.le_of_add_le_add_right hle

structure IsWord (w : List Char) : Prop where
  ne_nil : w ≠ []
  trimmed : Text.IsTrimmed w
  closed : IsClosed w
  no_comma : topPlaces ',' {} w = []
  no_colon : topPlaces ':' {} w = []

theorem isWord_iff {w : List Char} : IsWord w ↔
    w ≠ [] ∧ Text.trim w = w ∧ IsClosed w ∧ topPlaces ',' {} w = [] ∧ topPlaces ':' {} w = [] := by
  rw [Text.trim_eq_self_iff]
  exact ⟨fun ⟨h₁, h₂, h₃, h₄, h₅⟩ => ⟨h₁, h₂, h₃, h₄, h₅⟩,
    fun ⟨h₁, h₂, h₃, h₄, h₅⟩ => ⟨h₁, h₂, h₃, h₄, h₅⟩⟩

instance : DecidablePred IsWord := fun _ => decidable_of_iff' _ isWord_iff

/-- The name and the type of a field are such texts. -/
structure HasWords (f : PhysicalField) : Prop where
  name : IsWord f.name.toList
  type : IsWord f.typeName.toList

instance : DecidablePred HasWords := fun f =>
  decidable_of_iff (IsWord f.name.toList ∧ IsWord f.typeName.toList)
    ⟨fun h => ⟨h.1, h.2⟩, fun h => ⟨h.name, h.type⟩⟩

theorem IsWord.passesOver {w : List Char} (h : IsWord w) : PassesOver ',' {} w :=
  ⟨(isUncut_iff (by decide)).2 h.no_comma, h.closed⟩

theorem HasWords.isLegible {f : PhysicalField} (h : HasWords f) : IsLegible f where
  name := ⟨(isUncut_iff (by decide)).2 h.name.no_colon, h.name.closed⟩
  name_ne_nil := h.name.ne_nil
  name_trimmed := h.name.trimmed
  type := (isUncut_iff (by decide)).2 h.type.no_colon
  type_ne_nil := h.type.ne_nil
  type_trimmed := h.type.trimmed

/-- The entries of a list of fields, with nothing around them. -/
def bare (fields : List PhysicalField) : String :=
  ",".intercalate (fields.map fun f => f.name ++ ":" ++ f.typeName)

theorem render_eq (fs : List PhysicalField) : render fs = wrapped (bare fs) := rfl

theorem toList_bare (fs : List PhysicalField) :
    (bare fs).toList = Text.joined ',' (fs.map entry) := by
  rw [← body_render, render_eq, wrapped, String.toList_append, String.toList_append, body_struct]

theorem fields_wrapped_bare (h : ∀ f ∈ fs, HasWords f) : fields (wrapped (bare fs)) = fs :=
  fields_render_of_passesOver (fun f hf => (h f hf).isLegible)
    (fun f hf => (h f hf).name.passesOver) fun f hf => (h f hf).type.passesOver

theorem trim_bare (h : ∀ f ∈ fs, HasWords f) : Text.trim (bare fs).toList = (bare fs).toList := by
  rw [Text.trim_eq_self_iff, toList_bare]
  apply Text.isTrimmed_joined
  refine List.forall_mem_map.2 fun f hf => ⟨?_, (h f hf).isLegible.isTrimmed_entry⟩
  simp [entry]

theorem fields_bare_eq_iff (h : ∀ f ∈ fs, HasWords f) :
    fields (bare fs) = fs ↔ ¬ HasAngles (bare fs).toList := by
  obtain ⟨hangles, hbody⟩ | ⟨hangles, hbody⟩ := body_cases (trim_bare h)
  · refine iff_of_true ?_ hangles
    have hwrapped := fields_wrapped_bare h
    rw [fields_wrapped, ← fieldsOfBody_eq] at hwrapped
    rw [fields, hbody, hwrapped]
  · refine iff_of_false (fun hfields => ?_) (not_not.2 hangles)
    -- the fields would take up the whole text, and not only the part in the angle brackets
    have hlength := length_joined_entries_le (body (bare fs).toList)
    rw [show fieldsOfBody (body (bare fs).toList) = fs from hfields, ← toList_bare] at hlength
    omega

theorem hasAngles_bare {f : PhysicalField} (hf : f ∈ fs) (h : HasAngles f.typeName.toList) :
    HasAngles (bare fs).toList := by
  have hentry : f.typeName.toList.Sublist (entry f) :=
    ((List.Sublist.refl _).cons ':').trans (List.sublist_append_right f.name.toList _)
  rw [toList_bare]
  exact h.trans (hentry.trans (Text.sublist_joined ',' (List.mem_map_of_mem hf)))

/-- In a wrapper the fields are read back. Without one they are read back just if no `>` stands
after a `<` in their names and types, so never if one of their types is nested in angle brackets. -/
theorem wrapper_may_be_left_out_without_angles (fs : List PhysicalField)
    (h : ∀ f ∈ fs, HasWords f) :
    fields (wrapped (bare fs)) = fs ∧
      (fields (bare fs) = fs ↔ ¬ HasAngles (bare fs).toList) ∧
      ((∃ f ∈ fs, HasAngles f.typeName.toList) → fields (bare fs) ≠ fs) := by
  refine ⟨fields_wrapped_bare h, fields_bare_eq_iff h, ?_⟩
  rintro ⟨f, hf, hangles⟩
  exact mt (fields_bare_eq_iff h).1 (not_not.2 (hasAngles_bare hf hangles))

/-- Types in round and square brackets with commas and colons in them, and a quoted name; and a map
in second place. -/
theorem wrapper_may_be_left_out_without_angles_of_bracketed_types :
    let flat : List PhysicalField := [⟨"price", "decimal(10,2)"⟩, ⟨"'a,b:c'", "array[map(k:v)]"⟩]
    let nested : List PhysicalField := [⟨"id", "bigint"⟩, ⟨"tags", "map<string,int>"⟩]
    ((∀ f ∈ flat, HasWords f) ∧ fields (wrapped (bare flat)) = flat ∧ fields (bare flat) = flat) ∧
      (∀ f ∈ nested, HasWords f) ∧ fields (wrapped (bare nested)) = nested ∧
      fields (bare nested) ≠ nested := by
  intro flat nested
  have hflat : ∀ f ∈ flat, HasWords f := by decide
  have hnested : ∀ f ∈ nested, HasWords f := by decide
  obtain ⟨hwrapped, hbare, -⟩ := wrapper_may_be_left_out_without_angles flat hflat
  obtain ⟨hwrapped', -, hangles⟩ := wrapper_may_be_left_out_without_angles nested hnested
  refine ⟨⟨hflat, hwrapped, hbare.2 (by decide)⟩, hnested, hwrapped', hangles ?_⟩
  exact ⟨⟨"tags", "map<string,int>"⟩, by simp [nested], by decide⟩

/-- What stands between the angle brackets of a map is taken for the body, which has no fields. -/
theorem map_is_taken_for_wrapper :
    let scores : PhysicalField := ⟨"m", "map<string,int>"⟩
    HasWords scores ∧
      (∀ c ∈ scores.name.toList, Nesting.isOpening c = false ∧ Nesting.isClosing c = false) ∧
      fields (wrapped (bare [scores])) = [scores] ∧ fields (bare [scores]) = [] := by
  intro scores
  have hname : scores.name.toList = ['m'] := by decide
  rw [hname]
  exact ⟨by decide, List.forall_mem_singleton.2 ⟨rfl, rfl⟩, by decide, by decide⟩

end Descriptor

end TableScan
