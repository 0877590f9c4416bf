import TableScan.Proofs.Descriptor.Pieces

/-!
# Descriptors that were read

Reading a descriptor leaves out what is no field and keeps the rest, whatever the text is: brackets
may be unbalanced and quotes may be left open. What is kept can be rendered and is read again as it
was. The parts of an entry are found again in it (`isLegible_of_field?`), and a scan for commas
takes the entry as it took the text that the entry was read from (`isUncut_entry`,
`foldl_after_entry`). So of the entries that are kept only the last can leave a bracket or a quote
open, as of all the pieces of the descriptor (`wholePieces_filterMap`).
-/

namespace TableScan.Descriptor

variable {sep : Char} {n : Nesting} {f : PhysicalField} {w : List Char} {ps : List (List Char)}

/-! ### One entry -/

theorem exists_of_field? (h : field? w = some f) :
    ∃ name type, w = name ++ ':' :: type ∧ WholePieces ':' {} [name, type] ∧
      f.name.toList = Text.trim name ∧ Text.trim name ≠ [] ∧
      f.typeName.toList = Text.trim type ∧ Text.trim type ≠ [] := by
  unfold field? at h
  split at h
  · rename_i name type hpieces
    split at h
    · cases h
    · rename_i hne
      cases h
      rw [not_or] at hne
      obtain ⟨rawName, rest, hraw, rfl, hrest⟩ := List.map_eq_cons_iff.1 hpieces
      obtain ⟨rawType, rest, rfl, rfl, hnil⟩ := List.map_eq_cons_iff.1 hrest
      obtain rfl := List.map_eq_nil_iff.1 hnil
      refine ⟨rawName, rawType, ?_, ?_, String.toList_ofList, hne.1, String.toList_ofList, hne.2⟩
      · have hjoined := joined_rawPieces ':' {} w
        rw [hraw] at hjoined
        exact hjoined.symm
      · rw [← hraw]
        exact wholePieces_rawPieces ':' {} w
  · cases h

theorem isLegible_of_field? (h : field? w = some f) : IsLegible f := by
  obtain ⟨name, type, -, hwhole, hname, hname₀, htype, htype₀⟩ := exists_of_field? h
  obtain - | ⟨hnameUncut, hreturns, - | ⟨htypeUncut, -, -⟩⟩ := hwhole
  constructor
  · rw [hname]
    constructor
    · exact hnameUncut.trim Nesting.isProper_top
    · rw [foldl_after_trim Nesting.isProper_top]
      exact hreturns (List.cons_ne_nil type [])
  · rwa [hname]
  · rw [hname]
    exact Text.isTrimmed_trim name
  · rw [htype]
    exact htypeUncut.trim Nesting.isProper_top
  · rwa [htype]
  · rw [htype]
    exact Text.isTrimmed_trim type

/-- A scan takes the entry of a field as it takes the text that the field was read from. -/
theorem scan_entry (h : field? w = some f) :
    (IsUncut ',' {} w → IsUncut ',' {} (entry f)) ∧
      (entry f).foldl Nesting.after {} = w.foldl Nesting.after {} := by
  obtain ⟨name, type, rfl, hwhole, hname, -, htype, -⟩ := exists_of_field? h
  obtain - | ⟨-, hreturns, -⟩ := hwhole
  have hname' := foldl_after_trim Nesting.isProper_top name
  have htop := hreturns (List.cons_ne_nil type [])
  have hcolon : ({} : Nesting).after ':' = {} := by decide
  rw [entry, hname, htype]
  constructor
  · intro huncut
    rw [isUncut_append, htop, isUncut_cons, hcolon] at huncut
    rw [isUncut_append, hname', htop, isUncut_cons, hcolon]
    obtain ⟨hnameUncut, hcut, htypeUncut⟩ := huncut
    exact ⟨hnameUncut.trim Nesting.isProper_top, hcut, htypeUncut.trim Nesting.isProper_top⟩
  · rw [List.foldl_append, hname', htop, List.foldl_cons, hcolon, List.foldl_append, htop,
      List.foldl_cons, hcolon, foldl_after_trim Nesting.isProper_top]

/-! ### All entries -/

theorem WholePieces.map_trim (h : WholePieces sep n ps) (proper : n.IsProper) :
    WholePieces sep n (ps.map Text.trim) := by
  induction h with
  | nil => exact .nil
  | cons huncut hreturns _ ih =>
    refine .cons (huncut.trim proper) (fun hne => ?_) (ih Nesting.isProper_top)
    rw [foldl_after_trim proper]
    exact hreturns fun hnil => hne (List.map_eq_nil_iff.2 hnil)

theorem wholePieces_filterMap (h : WholePieces ',' {} ps) :
    WholePieces ',' {} ((ps.filterMap field?).map entry) := by
  induction ps with
  | nil => exact .nil
  | cons w ps ih =>
    obtain - | ⟨huncut, hreturns, hrest⟩ := h
    cases hf : field? w with
    | none =>
      rw [List.filterMap_cons_none hf]
      exact ih hrest
    | some f =>
      obtain ⟨hentry, hafter⟩ := scan_entry hf
      rw [List.filterMap_cons_some hf, List.map_cons]
      refine .cons (hentry huncut) (fun hne => ?_) (ih hrest)
      rw [hafter]
      apply hreturns
      rintro rfl
      exact hne rfl

theorem fieldsOfBody_eq (body : List Char) :
    fieldsOfBody body = (topLevelPieces ',' body).filterMap field? := by
  unfold fieldsOfBody
  split
  · rename_i hnil
    rw [hnil]
    rfl
  · rfl

/-- What was read from a text, well formed or not, is read again from its descriptor: nothing is
lost and nothing else comes in. -/
theorem fields_render_fields (s : String) : fields (render (fields s)) = fields s := by
  have hfields := fieldsOfBody_eq (body s.toList)
  apply fields_render_of_isLegible
  · rw [fields, hfields]
    apply wholePieces_filterMap
    exact (wholePieces_rawPieces ',' {} (body s.toList)).map_trim Nesting.isProper_top
  · intro f hf
    rw [fields, hfields] at hf
    obtain ⟨w, -, hw⟩ := List.mem_filterMap.1 hf
    exact isLegible_of_field? hw

/-- A stray bracket, an entry without a colon, and a quote that is left open. -/
example :
    fields " x : a>b , c, y:'d<," = [⟨"x", "a>b"⟩, ⟨"y", "'d<,"⟩] ∧
      render (fields " x : a>b , c, y:'d<,") = "struct<x:a>b,y:'d<,>" := by
  decide +kernel

end TableScan.Descriptor
