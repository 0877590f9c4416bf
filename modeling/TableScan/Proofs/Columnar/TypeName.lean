import Mathlib.Data.List.Basic
import TableScan.Columnar.Type
import TableScan.Proofs.Descriptor.Pieces

/-!
# Names of column types

Whatever a column type is made of, its name has all its commas and colons inside of brackets, and
its brackets match. So the descriptor of a columnar file whose columns have plain names reads back
as the list of its columns.
-/

namespace TableScan.Columnar

open Descriptor (IsPart StandsFrom isInert isPlainName HasParts)

mutual

/-- The fields inside a type, at every level, have plain names. -/
def ColumnType.isWellNamed : ColumnType → Bool
  | .list item => item.isWellNamed
  | .struct fields => areWellNamed fields
  | .map entries => entries.isWellNamed
  | .dictionary key value => key.isWellNamed && value.isWellNamed
  | _ => true

/-- The fields and those inside their types have plain names. -/
def areWellNamed : List (String × ColumnType) → Bool
  | [] => true
  | (name, type) :: fields => isPlainName name && type.isWellNamed && areWellNamed fields

end

/-! ### Words and numbers -/

theorem isPart_integerWidth (width : IntegerWidth) : IsPart width.name.toList :=
  .of_isPlainName (by cases width <;> decide)

theorem isPart_floatWidth (width : FloatWidth) : IsPart width.name.toList :=
  .of_isPlainName (by cases width <;> decide)

theorem isPart_unitName (unit : Calendar.TimeUnit) : IsPart (unitName unit).toList :=
  .of_isPlainName (by cases unit <;> decide)

theorem isPart_intervalKind (kind : IntervalKind) : IsPart kind.name.toList :=
  .of_isPlainName (by cases kind <;> decide)

theorem isInert_of_isDigit {c : Char} (h : c.isDigit = true) : isInert c = true := by
  have hdigits : ∀ n < 58, 48 ≤ n → isInert (Char.ofNat n) = true := by decide
  simp only [Char.isDigit, Bool.and_eq_true, decide_eq_true_eq] at h
  have hc := hdigits c.toNat (Nat.lt_succ_of_le h.2) h.1
  rwa [Char.ofNat_toNat] at hc

theorem standsFrom_toString_nat (n : Nat) : StandsFrom 0 (toString n).toList := by
  refine StandsFrom.of_inert fun c hc => isInert_of_isDigit ?_
  rw [Nat.toString_eq_repr, Nat.toList_repr] at hc
  exact Nat.isDigit_of_mem_toDigits (by decide) (by decide) hc

theorem standsFrom_toString_int (i : Int) : StandsFrom 0 (toString i).toList := by
  cases i with
  | ofNat n => exact standsFrom_toString_nat n
  | negSucc n =>
    have hminus : IsPart "-".toList := .of_isPlainName (by decide)
    have happend := hminus.stands.append (standsFrom_toString_nat (n + 1))
    rwa [← String.toList_append] at happend

/-! ### Brackets -/

variable {head inner : String}

theorem isPart_bracketed (hhead : isPlainName head = true) (hinner : StandsFrom 1 inner.toList) :
    IsPart (bracketed head inner).toList := by
  have henclosed := (IsPart.of_isPlainName hhead).enclosed (o := '<') (c := '>') rfl rfl hinner
  simpa [bracketed] using henclosed

theorem isPart_applied (hhead : isPlainName head = true) (hinner : StandsFrom 1 inner.toList) :
    IsPart (applied head inner).toList := by
  have henclosed := (IsPart.of_isPlainName hhead).enclosed (o := '(') (c := ')') rfl rfl hinner
  simpa [applied] using henclosed

theorem standsFrom_separated {sep v w : String} (hsep : sep = "," ∨ sep = ":")
    (hv : StandsFrom 1 v.toList) (hw : StandsFrom 1 w.toList) :
    StandsFrom 1 (v ++ sep ++ w).toList := by
  have hseparator : StandsFrom 1 sep.toList := by
    obtain rfl | rfl := hsep
    · exact StandsFrom.separator (.inl rfl)
    · exact StandsFrom.separator (.inr rfl)
  rw [String.toList_append, String.toList_append]
  exact (hv.append hseparator).append hw

/-! ### Types -/

/-- The induction is the one that makes the names, so that a map of keys and values and any other
map are two cases. -/
theorem isPart_typeName_and_standsFrom_fieldNames :
    (∀ type : ColumnType, type.isWellNamed = true → IsPart type.typeName.toList) ∧
      ∀ fields, areWellNamed fields = true →
        ∀ entry ∈ fieldNames fields, StandsFrom 1 entry.toList := by
  refine ColumnType.typeName.mutual_induct_unfolding
    (fun type name => type.isWellNamed = true → IsPart name.toList)
    (fun fields names => areWellNamed fields = true →
      ∀ entry ∈ names, StandsFrom 1 entry.toList)
    ?null ?boolean ?integer ?float ?text ?textView ?binary ?date32 ?date64 ?timestamp
    ?time32 ?time64 ?duration ?interval ?decimal ?list ?struct ?mapOfPairs ?mapOfOthers
    ?dictionary ?nil ?cons
  case null | boolean | text | textView | binary | date32 | date64 | timestamp =>
    intros
    exact .of_isPlainName (by decide)
  case integer => exact fun width _ => isPart_integerWidth width
  case float => exact fun width _ => isPart_floatWidth width
  case time32 | time64 | duration =>
    exact fun unit _ => isPart_applied (by decide) ((isPart_unitName unit).stands.mono 1)
  case interval =>
    exact fun kind _ => isPart_applied (by decide) ((isPart_intervalKind kind).stands.mono 1)
  case decimal =>
    intro precision scale _
    exact isPart_applied (by decide) (standsFrom_separated (.inl rfl)
      ((standsFrom_toString_nat precision).mono 1) ((standsFrom_toString_int scale).mono 1))
  case list =>
    intro item ih h
    rw [ColumnType.isWellNamed] at h
    exact isPart_bracketed (by decide) ((ih h).stands.mono 1)
  case struct =>
    intro fields ih h
    rw [ColumnType.isWellNamed] at h
    refine isPart_bracketed (by decide) ?_
    rw [Descriptor.toList_intercalate_comma]
    exact StandsFrom.joined (List.forall_mem_map.2 (ih h))
  case mapOfPairs =>
    intro _ key _ value ihKey ihValue h
    simp only [ColumnType.isWellNamed, areWellNamed, Bool.and_eq_true] at h
    obtain ⟨⟨_, hkey⟩, ⟨_, hvalue⟩, _⟩ := h
    exact isPart_bracketed (by decide) (standsFrom_separated (.inl rfl)
      ((ihKey hkey).stands.mono 1) ((ihValue hvalue).stands.mono 1))
  case mapOfOthers =>
    intro entries _ ih h
    rw [ColumnType.isWellNamed] at h
    exact isPart_bracketed (by decide) ((ih h).stands.mono 1)
  case dictionary =>
    intro key value ih h
    rw [ColumnType.isWellNamed, Bool.and_eq_true] at h
    exact ih h.2
  case nil => simp
  case cons =>
    intro name type fields ihType ihFields h
    simp only [areWellNamed, Bool.and_eq_true] at h
    obtain ⟨⟨hname, htype⟩, hfields⟩ := h
    have hentry := standsFrom_separated (.inr rfl) ((IsPart.of_isPlainName hname).stands.mono 1)
      ((ihType htype).stands.mono 1)
    exact List.forall_mem_cons.2 ⟨hentry, ihFields hfields⟩

theorem isWellNamed_of_mem {fields : List (String × ColumnType)} (h : areWellNamed fields = true) :
    ∀ field ∈ fields, isPlainName field.1 = true ∧ field.2.isWellNamed = true := by
  induction fields with
  | nil => simp
  | cons field fields ih =>
    simp only [areWellNamed, Bool.and_eq_true] at h
    exact List.forall_mem_cons.2 ⟨h.1, ih h.2⟩

theorem hasParts_of_mem_physicalFields {schema : Schema} (h : areWellNamed schema = true) :
    ∀ f ∈ physicalFields schema, HasParts f := by
  refine List.forall_mem_map.2 fun field hfield => ?_
  obtain ⟨hname, htype⟩ := isWellNamed_of_mem h field hfield
  exact ⟨.of_isPlainName hname, isPart_typeName_and_standsFrom_fieldNames.1 field.2 htype⟩

/-- The descriptor of a columnar file reads back as the list of its columns. -/
theorem fields_render_physicalFields {schema : Schema} (h : areWellNamed schema = true) :
    Descriptor.fields (Descriptor.render (physicalFields schema)) = physicalFields schema :=
  Descriptor.fields_render_of_hasParts (hasParts_of_mem_physicalFields h)

/-- Columns whose types nest in every way. -/
def nestedColumns : Schema :=
  [("id", .integer .w64),
    ("price", .decimal 12 (-2)),
    ("tags", .mapOf .text (.list (.struct [("at", .timestamp .second none), ("né", .float .w16)]))),
    ("pairs", .map (.struct [("k", .text), ("v", .text), ("w", .dictionary (.integer .w8) .null)])),
    ("clock", .struct [("t", .time .w32 .millisecond), ("d", .duration .nanosecond)]),
    ("none", .struct []),
    ("gap", .list (.interval .monthDayNano))]

theorem fields_render_physicalFields_of_nested_columns :
    areWellNamed nestedColumns = true ∧
      Descriptor.render (physicalFields nestedColumns) =
        "struct<id:bigint,price:decimal(12,-2)," ++
          "tags:map<string,array<struct<at:timestamp,né:float>>>," ++
          "pairs:map<struct<k:string,v:string,w:void>>," ++
          "clock:struct<t:time32(millisecond),d:duration(nanosecond)>,none:struct<>," ++
          "gap:array<interval(monthdaynano)>>" ∧
      Descriptor.fields (Descriptor.render (physicalFields nestedColumns)) =
        physicalFields nestedColumns :=
  have h : areWellNamed nestedColumns = true := by decide
  ⟨h, by decide +kernel, fields_render_physicalFields h⟩

end TableScan.Columnar
