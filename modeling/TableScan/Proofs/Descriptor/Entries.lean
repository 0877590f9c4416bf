import TableScan.Proofs.Descriptor.Rereading
import TableScan.Proofs.Descriptor.TopLevel

/-!
# Entries of descriptors

What an entry of a descriptor declares does not depend on the entries around it, as long as those
before it close their brackets and quotes (`fields_wrapped_append`). An entry by itself declares a
field if it has one colon at its top level with text on both sides (`HasOneColon`), and nothing
otherwise (`field?_eq_none`).
-/

namespace TableScan.Descriptor

def wrapped (body : String) : String := "struct<" ++ body ++ ">"

/-- The only colon at the top level of an entry is at `i`, and there is text on both sides of it. -/
structure HasOneColon (entry : List Char) (i : Nat) : Prop where
  only : topPlaces ':' {} entry = [i]
  name : ∃ c ∈ entry.take i, Text.isBlank c = false
  type : ∃ c ∈ entry.drop (i + 1), Text.isBlank c = false

def fieldAt (entry : List Char) (i : Nat) : PhysicalField where
  name := String.ofList (Text.trim (entry.take i))
  typeName := String.ofList (Text.trim (entry.drop (i + 1)))

variable {entry : List Char} {i : Nat}

/-! ### One entry -/

theorem field?_trim (entry : List Char) : field? (Text.trim entry) = field? entry := by
  rw [field?, field?, topLevelPieces_trim (by decide)]

theorem topLevelPieces_of_topPlaces (h : topPlaces ':' {} entry = [i]) :
    topLevelPieces ':' entry = [Text.trim (entry.take i), Text.trim (entry.drop (i + 1))] := by
  rw [topLevelPieces, rawPieces_of_topPlaces (by decide) h]
  rfl

theorem trim_ne_nil_iff {w : List Char} :
    Text.trim w ≠ [] ↔ ∃ c ∈ w, Text.isBlank c = false := by
  simp [Text.trim_eq_nil_iff]

theorem field?_of_hasOneColon (h : HasOneColon entry i) :
    field? entry = some (fieldAt entry i) := by
  rw [field?, topLevelPieces_of_topPlaces h.only]
  exact if_neg (not_or.2 ⟨trim_ne_nil_iff.2 h.name, trim_ne_nil_iff.2 h.type⟩)

theorem field?_eq_none (h : ∀ i, ¬ HasOneColon entry i) : field? entry = none := by
  unfold field?
  split
  · rename_i name type hpieces
    have hcolon : cutsAt ':' {} ':' = true := by decide
    have hlength := length_rawPieces hcolon {} entry
    rw [← List.length_map Text.trim, ← topLevelPieces, hpieces] at hlength
    obtain ⟨i, hi⟩ := List.length_eq_one_iff.1 (Nat.succ.inj hlength).symm
    rw [topLevelPieces_of_topPlaces hi] at hpieces
    cases hpieces
    refine if_pos (Decidable.byContradiction fun hne => h i ⟨hi, ?_, ?_⟩)
    · exact trim_ne_nil_iff.1 (not_or.1 hne).1
    · exact trim_ne_nil_iff.1 (not_or.1 hne).2
  · rfl

/-! ### Bodies -/

theorem fields_wrapped (body : String) :
    fields (wrapped body) = (topLevelPieces ',' body.toList).filterMap field? := by
  rw [fields, wrapped, String.toList_append, String.toList_append, body_struct, fieldsOfBody_eq]

theorem fields_wrapped_append {x : String} (hx : IsClosed x.toList) (y : String) :
    fields (wrapped (x ++ "," ++ y)) = fields (wrapped x) ++ fields (wrapped y) := by
  have hbody : (x ++ "," ++ y).toList = x.toList ++ ',' :: y.toList := by simp
  simp only [fields_wrapped, hbody]
  rw [topLevelPieces_append_cons (by decide) hx, List.filterMap_append]

theorem fields_wrapped_intercalate {entries : List String}
    (h : ∀ entry ∈ entries, IsClosed entry.toList) :
    fields (wrapped (",".intercalate entries)) =
      entries.flatMap fun entry => fields (wrapped entry) := by
  induction entries with
  | nil => rfl
  | cons entry entries ih =>
    rw [List.forall_mem_cons] at h
    cases entries with
    | nil => simp
    | cons next entries =>
      have hrest := ih h.2
      simp only [fields_wrapped, toList_intercalate_comma] at hrest ⊢
      rw [List.map_cons, Text.joined_cons (by simp), topLevelPieces_append_cons (by decide) h.1,
        List.filterMap_append, hrest]
      rfl

theorem fields_wrapped_entry {entry : String} (h : topPlaces ',' {} entry.toList = []) :
    fields (wrapped entry) = (field? entry.toList).toList := by
  have huncut := (isUncut_iff (by decide)).2 h
  rw [fields_wrapped, topLevelPieces, huncut, List.map_singleton, ← field?_trim]
  cases hf : field? (Text.trim entry.toList) with
  | none => exact List.filterMap_cons_none hf
  | some f => exact List.filterMap_cons_some hf

/-- Each entry of a descriptor is read by itself, as if it were the only one, if the entries before
it are closed. It declares one field if it has one colon at its top level with text on both sides,
and none otherwise, so a malformed entry is left out and makes no difference to its neighbours. -/
theorem entries_are_read_by_themselves :
    (∀ x y : String, IsClosed x.toList →
      fields (wrapped (x ++ "," ++ y)) = fields (wrapped x) ++ fields (wrapped y)) ∧
    (∀ entries : List String, (∀ entry ∈ entries, IsClosed entry.toList) →
      fields (wrapped (",".intercalate entries)) =
        entries.flatMap fun entry => fields (wrapped entry)) ∧
    ∀ entry : String, topPlaces ',' {} entry.toList = [] →
      (∀ i, HasOneColon entry.toList i → fields (wrapped entry) = [fieldAt entry.toList i]) ∧
      ((∀ i, ¬ HasOneColon entry.toList i) → fields (wrapped entry) = []) := by
  refine ⟨fun x y hx => fields_wrapped_append hx y, fun entries => fields_wrapped_intercalate,
    fun entry hentry => ⟨fun i hi => ?_, fun hnone => ?_⟩⟩
  · rw [fields_wrapped_entry hentry, field?_of_hasOneColon hi]
    rfl
  · rw [fields_wrapped_entry hentry, field?_eq_none hnone]
    rfl

/-- A stray bracket before the cut and open ones after it; two colons, of which one has no text
before it; and an entry whose other colons and commas are in quotes and brackets. -/
theorem entries_are_read_by_themselves_of_malformed_ones :
    let quoted := " 'k:v' : map<a,b:c> "
    let twice := ":int:"
    (IsClosed "a>:b)".toList ∧ fields (wrapped ("a>:b)" ++ "," ++ "c:d<,'")) =
      fields (wrapped "a>:b)") ++ fields (wrapped "c:d<,'")) ∧
    fields (wrapped (",".intercalate [quoted, twice, quoted])) =
      [⟨"'k:v'", "map<a,b:c>"⟩, ⟨"'k:v'", "map<a,b:c>"⟩] := by
  intro quoted twice
  obtain ⟨hcut, hlist, hentry⟩ := entries_are_read_by_themselves
  have hclosed : IsClosed "a>:b)".toList := by decide
  refine ⟨⟨hclosed, hcut _ "c:d<,'" hclosed⟩, ?_⟩
  have hquoted : fields (wrapped quoted) = [⟨"'k:v'", "map<a,b:c>"⟩] := by
    have hone : HasOneColon quoted.toList 7 :=
      ⟨by decide, ⟨'k', by decide, rfl⟩, ⟨'m', by decide, rfl⟩⟩
    rw [(hentry quoted (by decide)).1 7 hone]
    decide
  have htwice : fields (wrapped twice) = [] := by
    have hplaces : topPlaces ':' {} twice.toList = [0, 4] := by decide
    refine (hentry twice (by decide)).2 fun i hi => ?_
    rw [hi.only] at hplaces
    cases hplaces
  rw [hlist [quoted, twice, quoted] (by decide)]
  simp [hquoted, htwice]

end TableScan.Descriptor
