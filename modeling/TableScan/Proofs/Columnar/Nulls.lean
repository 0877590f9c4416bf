import TableScan.Proofs.Session.UnshownRow

/-!
# Nulls of columnar files

A cell is null if it has no value, and a column may or may not keep a mark for that. A column of
the null type has no marks at all, and the codes of a dictionary have none for a value that the
dictionary lacks. A null with a mark has no text, and nothing else has none
(`cellText_eq_none_iff`); a null without one is shown as the empty text (`eq_of_isNull`). The
members of the object that a map is shown as are the values of its entries, each shown on its own,
at any depth (`at?_of_toJson`), so marked nulls inside of maps are nulls of JSON.
-/

namespace TableScan

/-- The value that stands in a nest of objects under some keys, the outermost first. -/
def Json.at? : Json → List String → Option Json
  | j, [] => some j
  | .object members, key :: keys => (SortedMap.get? members key).bind (at? · keys)
  | _, _ :: _ => none

namespace Columnar

/-- A cell without a value. All cells of the null type are, and so is a code for which the
dictionary has no value. -/
def isNull : ColumnType → Cell → Bool
  | .null, _ => true
  | _, .null => true
  | .dictionary _ value, .coded cell => isNull value cell
  | _, _ => false

/-- A null that the column itself has a mark for. -/
def isMarked : ColumnType → Cell → Bool
  | .null, _ => false
  | _, .null => true
  | _, _ => false

/-- The text that a key of a map stands under; that of a null is empty. -/
def keyText (key : ColumnType) (k : Cell) : Except Fault String := (cellText key k).map (·.getD "")

/-- The value of the last entry whose key has the given text. -/
def lastValue? (key : ColumnType) (entries : List (Cell × Cell)) (text : String) : Option Cell :=
  (entries.reverse.find? fun e => (keyText key e.1).toOption = some text).map (·.2)

/-- The cell that stands in a nest of maps under some keys, with its type. -/
def valueAt? : ColumnType → Cell → List String → Option (ColumnType × Cell)
  | type, cell, [] => some (type, cell)
  | .map (.struct ((_, key) :: (_, value) :: _)), .map entries, text :: texts =>
    (lastValue? key entries text).bind (valueAt? value · texts)
  | _, _, _ :: _ => none

/-- One entry of a map, put among the members of an object. -/
def putEntry (key value : ColumnType) (members : SortedMap Json) (e : Cell × Cell) :
    Except Fault (SortedMap Json) := do
  let text ← keyText key e.1
  let j ← toJson value e.2
  return SortedMap.insert text j members

variable {type key value : ColumnType} {cell : Cell} {entries : List (Cell × Cell)} {j : Json}

theorem keyText_text (text : String) : keyText .text (.text text) = .ok text := by
  rw [keyText, cellText, toJson]
  rfl

/-! ### Marks -/

theorem isNull_of_isMarked (h : isMarked type cell = true) : isNull type cell = true := by
  unfold isMarked at h
  split at h
  · cases h
  · unfold isNull
    split <;> simp_all
  · cases h

theorem isMarked_iff : isMarked type cell = true ↔ type ≠ .null ∧ cell = .null := by
  unfold isMarked
  split <;> simp_all

theorem display_of_isNull (h : isNull type cell = true) : display type cell = .whole "" := by
  fun_induction isNull type cell with
  | case1 => simp [display]
  | case2 => simp [display]
  | case3 _ value cell ih => simpa [display] using ih h
  | case4 => cases h

theorem textOfJson_eq_none_iff : textOfJson j = none ↔ j = .null := by
  cases j <;> simp [textOfJson]

/-! ### The form of a cell -/

theorem toJson_map (n₁ n₂ : String) (more : List (String × ColumnType)) :
    toJson (.map (.struct ((n₁, key) :: (n₂, value) :: more))) (.map entries) =
      (entries.foldlM (putEntry key value) []).map .object := by
  have hstep : putEntry key value = fun members (e : Cell × Cell) => do
      let k ← toJson key e.1
      let v ← toJson value e.2
      return SortedMap.insert ((textOfJson k).getD "") v members := by
    funext members e
    unfold putEntry keyText cellText
    cases toJson key e.1 <;> rfl
  rw [toJson, hstep]
  cases h : entries.foldlM (m := Except Fault) _ _ <;> rfl

theorem toJson_cases (type : ColumnType) (cell : Cell) :
    (isMarked type cell = true ∧ toJson type cell = .ok .null) ∨
      (∃ n₁ key n₂ value more entries,
        type = .map (.struct ((n₁, key) :: (n₂, value) :: more)) ∧ cell = .map entries) ∨
      isMarked type cell = false ∧ (∃ text, toJson type cell = Except.map Json.text text) ∧
        ∀ text texts, valueAt? type cell (text :: texts) = none := by
  fun_cases toJson type cell with
  | case1 => exact .inr (.inr ⟨rfl, ⟨.ok "", rfl⟩, fun _ _ => rfl⟩)
  | case2 type hne => exact .inl ⟨isMarked_iff.2 ⟨hne, rfl⟩, rfl⟩
  | case3 s => exact .inr (.inr ⟨rfl, ⟨.ok s, rfl⟩, fun _ _ => rfl⟩)
  | case4 n₁ key n₂ value more entries => exact .inr (.inl ⟨_, _, _, _, _, _, rfl, rfl⟩)
  | case5 type cell hne hcell _ hmap =>
    refine .inr (.inr ⟨?_, ⟨_, rfl⟩, fun text texts => ?_⟩)
    · rw [Bool.eq_false_iff, Ne, isMarked_iff]
      exact fun h => hcell h.2
    · unfold valueAt?
      split
      · contradiction
      · exact absurd rfl (hmap _ _ _ _ _ _ rfl)
      · rfl

theorem toJson_eq_null_iff : toJson type cell = .ok .null ↔ isMarked type cell = true := by
  rcases toJson_cases type cell with ⟨hm, hj⟩ | ⟨n₁, key, n₂, value, more, entries, rfl, rfl⟩ |
    ⟨hm, ⟨text, hj⟩, -⟩
  · simp only [hm, hj]
  · rw [toJson_map]
    cases entries.foldlM (putEntry key value) [] <;> simp [Except.map, isMarked]
  · rw [hj, hm]
    cases text <;> simp [Except.map]

/-- Nothing but a null with a mark has no text. -/
theorem cellText_eq_none_iff : cellText type cell = .ok none ↔ isMarked type cell = true := by
  rw [← toJson_eq_null_iff, cellText]
  cases toJson type cell <;> simp [Except.map, textOfJson_eq_none_iff]

theorem eq_of_isNull (h : toJson type cell = .ok j) (hn : isNull type cell = true)
    (hm : isMarked type cell = false) : j = .text "" := by
  revert h
  fun_cases toJson type cell with
  | case1 => exact fun h => (Except.ok.inj h).symm
  | case2 type hne => exact absurd (isMarked_iff.2 ⟨hne, rfl⟩) (Bool.eq_false_iff.1 hm)
  | case3 => cases hn
  | case4 => cases hn
  | case5 =>
    intro h
    obtain ⟨text, htext, rfl⟩ := map_eq_ok h
    unfold displayText at htext
    split at htext
    · cases htext
    · cases htext
      rw [display_of_isNull hn]
      rfl

theorem eq_of_cellText {text : Option String} (h : cellText type cell = .ok text)
    (hn : isNull type cell = true) (hm : isMarked type cell = false) : text = some "" := by
  obtain ⟨j, hj, rfl⟩ := map_eq_ok h
  rw [eq_of_isNull hj hn hm]
  rfl

/-! ### Nests of maps -/

theorem lastValue?_cons (e : Cell × Cell) (text : String) :
    lastValue? key (e :: entries) text =
      (lastValue? key entries text).or
        (if (keyText key e.1).toOption = some text then some e.2 else none) := by
  unfold lastValue?
  rw [List.reverse_cons, List.find?_append, Option.map_or]
  congr 1
  by_cases h : (keyText key e.1).toOption = some text <;> simp [h]

/-- What is found under a text is the value of the last entry whose key has it. -/
theorem get?_of_foldlM {members members' : SortedMap Json}
    (h : entries.foldlM (putEntry key value) members = .ok members') (text : String) :
    (members'.get? text).map Except.ok =
      ((lastValue? key entries text).map (toJson value)).or ((members.get? text).map .ok) := by
  induction entries generalizing members with
  | nil =>
    cases h
    rfl
  | cons e entries ih =>
    rw [List.foldlM_cons] at h
    obtain ⟨m, hm, h⟩ := bind_eq_ok h
    obtain ⟨text', htext, hm⟩ := bind_eq_ok hm
    obtain ⟨j, hj, hm⟩ := bind_eq_ok hm
    cases hm
    rw [ih h, SortedMap.get?_insert, lastValue?_cons, htext, Option.map_or, Option.or_assoc]
    congr 1
    by_cases heq : text = text'
    · simp [heq, Except.toOption, hj]
    · simp [heq, Except.toOption, Ne.symm heq]

/-- Everything inside of a map is shown on its own. -/
theorem at?_of_toJson (h : toJson type cell = .ok j) (texts : List String) :
    (j.at? texts).map Except.ok = (valueAt? type cell texts).map fun v => toJson v.1 v.2 := by
  induction texts generalizing type cell j with
  | nil => simp [Json.at?, valueAt?, h]
  | cons text texts ih =>
    rcases toJson_cases type cell with ⟨hm, hj⟩ | ⟨n₁, key, n₂, value, more, entries, rfl, rfl⟩ |
      ⟨-, ⟨text', hj⟩, hnone⟩
    · obtain ⟨-, rfl⟩ := isMarked_iff.1 hm
      rw [hj] at h
      cases h
      simp [Json.at?, valueAt?]
    · rw [toJson_map] at h
      obtain ⟨members, hmembers, rfl⟩ := map_eq_ok h
      have hget := get?_of_foldlM hmembers text
      rw [show SortedMap.get? ([] : SortedMap Json) text = none from rfl] at hget
      rw [Json.at?, valueAt?]
      cases hlast : lastValue? key entries text with
      | none =>
        rw [hlast] at hget
        have : members.get? text = none := by simpa using hget
        rw [this]
        rfl
      | some v =>
        rw [hlast] at hget
        obtain ⟨j', hj', hv⟩ : ∃ j', members.get? text = some j' ∧ Except.ok j' = toJson value v := by
          simpa using hget
        rw [hj']
        exact ih hv.symm
    · rw [hj] at h
      obtain ⟨s, -, rfl⟩ := map_eq_ok h
      rw [hnone]
      rfl

/-- Where every zone is known, every cell can be shown. -/
theorem exists_toJson (cell : Cell) (h : unknownZone? type = none) :
    ∃ j, toJson type cell = .ok j := by
  cases hj : toJson type cell with
  | ok j => exact ⟨j, rfl⟩
  | error fault =>
    exfalso
    fun_induction toJson type cell with
    | case1 => cases hj
    | case2 => cases hj
    | case3 => cases hj
    | case4 _ key _ value _ entries ihkey ihvalue =>
      simp only [unknownZone?, unknownZoneOf?, Option.or_eq_none_iff] at h
      obtain hj | ⟨members, -, hj⟩ := bind_eq_error hj
      · obtain ⟨members, ⟨k, v⟩, -, hj⟩ := exists_of_foldlM_eq_error hj
        obtain hj | ⟨_, -, hj⟩ := bind_eq_error hj
        · exact ihkey k h.1 hj
        · obtain hj | ⟨_, -, hj⟩ := bind_eq_error hj
          · exact ihvalue v h.2.1 hj
          · cases hj
      · cases hj
    | case5 type cell =>
      have := map_eq_error hj
      rw [displayText, h] at this
      cases this

/-! ### Rows -/

/-- The cell of column `i` in the row that a cursor stands on, with its type. -/
def Cursor.cell? (c : Cursor) (i : Nat) : Option (ColumnType × Cell) :=
  match c.current with
  | [] => none
  | row :: _ => c.schema[i]?.map fun column => (column.2, row[i]?.getD .null)

theorem Cursor.cellText_of_fieldValue {c : Cursor} {i : Nat} {text : Option String}
    (h : c.fieldValue i = .ok text) (hc : c.cell? i = some (type, cell)) :
    cellText type cell = .ok text := by
  unfold cell? at hc
  unfold fieldValue at h
  split at hc
  · cases hc
  · rename_i hrow
    obtain ⟨⟨name, type'⟩, hcolumn, hpair⟩ := Option.map_eq_some_iff.1 hc
    cases hpair
    simp only [hrow, hcolumn] at h
    split at h
    · cases h
      assumption
    · cases h

end Columnar

theorem Session.cellText_of_readNext {s s' : Session} {row : Row} {index k i : Nat}
    {c : Columnar.Cursor} {values : List (Option String)} {positioned : Bool}
    {type : Columnar.ColumnType} {cell : Columnar.Cell} (h : s.readNext = (.ok row, s'))
    (hp : s.scan.position = .reading index (.columnar c) values positioned)
    (hk : s.table.plan[k]? = some (.data i)) (hc : c.cell? i = some (type, cell)) :
    ∃ text, row[k]? = some text ∧ Columnar.cellText type cell = .ok text := by
  have hrow : Scan.currentRow s.table s.scan = .ok row := (Prod.mk.inj (call_eq_ok h)).1
  unfold Scan.currentRow at hrow
  rw [hp] at hrow
  cases positioned with
  | false => cases hrow
  | true =>
    obtain ⟨-, hcells⟩ := getElem?_of_mapM_eq_ok hrow
    obtain ⟨text, htext, hfield⟩ := hcells k _ hk
    exact ⟨text, htext, c.cellText_of_fieldValue hfield hc⟩

namespace Columnar

/-- A cell has no text if it is a null with a mark, and otherwise it has one, if every zone is
known. A null without a mark has the empty text. The same holds of what stands at any depth in the
object that a map is shown as, and of the rows that a session gives of a columnar file. -/
theorem marked_nulls_stay_nulls (type : ColumnType) (cell : Cell) :
    ((cellText type cell = .ok none ↔ isMarked type cell = true) ∧
      (isMarked type cell = true → isNull type cell = true) ∧
      (isNull type cell = true → isMarked type cell = false →
        ∀ text, cellText type cell = .ok text → text = some "") ∧
      (unknownZone? type = none → ∃ text, cellText type cell = .ok text)) ∧
    (∀ j, toJson type cell = .ok j → cellText type cell = .ok (textOfJson j) ∧
      ∀ (texts : List String) (type' : ColumnType) (cell' : Cell),
        valueAt? type cell texts = some (type', cell') →
          ∃ j', j.at? texts = some j' ∧ (j' = .null ↔ isMarked type' cell' = true) ∧
            (isNull type' cell' = true → isMarked type' cell' = false → j' = .text "")) ∧
    ∀ (s s' : Session) (row : Row) (index : Nat) (c : Cursor) (values : List (Option String))
      (positioned : Bool),
      s.readNext = (.ok row, s') →
      s.scan.position = .reading index (.columnar c) values positioned →
      ∀ (k i : Nat), s.table.plan[k]? = some (.data i) → c.cell? i = some (type, cell) →
        (row[k]? = some none ↔ isMarked type cell = true) ∧
          (isNull type cell = true → isMarked type cell = false → row[k]? = some (some "")) := by
  refine ⟨⟨cellText_eq_none_iff, isNull_of_isMarked, ?_, ?_⟩, ?_, ?_⟩
  · intro hn hm text h
    exact eq_of_cellText h hn hm
  · intro h
    obtain ⟨j, hj⟩ := exists_toJson cell h
    exact ⟨textOfJson j, by rw [cellText, hj]; rfl⟩
  · intro j h
    refine ⟨by rw [cellText, h]; rfl, fun texts type' cell' hv => ?_⟩
    have hat := at?_of_toJson h texts
    rw [hv, Option.map_some] at hat
    obtain ⟨j', hj', hshown⟩ := Option.map_eq_some_iff.1 hat
    refine ⟨j', hj', ?_, fun hn hm => eq_of_isNull hshown.symm hn hm⟩
    rw [← toJson_eq_null_iff, ← hshown, Except.ok.injEq]
  · intro s s' row index c values positioned h hp k i hk hc
    obtain ⟨text, htext, hcell⟩ := Session.cellText_of_readNext h hp hk hc
    rw [htext]
    constructor
    · rw [← cellText_eq_none_iff, hcell, Option.some.injEq, Except.ok.injEq]
    · intro hn hm
      rw [eq_of_cellText hcell hn hm]

/-- A row with a marked null, a null without a mark, and a map that holds nulls of both kinds. -/
def voidImage : Image :=
  { encoding := .parquet
    schema := [("s", .text), ("n", .null),
      ("m", .mapOf .text (.mapOf .text (.dictionary (.integer .w8) .text)))]
    rows := [[.null, .null, .map [(.text "a", .null), (.text "b", .map [(.text "x", .null),
      (.text "y", .coded .null), (.text "z", .coded (.text "1"))])]]] }

def voidFile : MemoryStore :=
  { files :=
      [{ path := "/t/a", data := { content := [0], image := some voidImage }, length := 1 }] }

def beforeVoidRow : Session :=
  Session.ofTable
    { format := .columnar .parquet
      params := { location := "/t", dataColumns := ["s", "n", "m"] }
      settings := { text := {}, batchSize := 2, textSchema := [] } } .current

def onVoidRow : Session :=
  let reader : SplitReader :=
    .columnar { path := "/t/a", schema := voidImage.schema, pending := []
                current := voidImage.rows }
  { beforeVoidRow with scan := { position := .reading 0 reader [] true } }

theorem marked_nulls_stay_nulls_of_void_column :
    let map : ColumnType := .mapOf .text (.mapOf .text (.dictionary (.integer .w8) .text))
    let cell : Cell := .map [(.text "a", .null), (.text "b", .map [(.text "x", .null),
      (.text "y", .coded .null), (.text "z", .coded (.text "1"))])]
    let fs := voidFile.fileSystem
    ∃ row j, ((beforeVoidRow.configure fs).2.reachedEnd fs).2.readNext.1 = .ok row ∧
      onVoidRow.readNext.1 = .ok row ∧ row[0]? = some none ∧ row[1]? = some (some "") ∧
      row[2]? = some (textOfJson j) ∧ toJson map cell = .ok j ∧ j.at? ["a"] = some .null ∧
      j.at? ["b", "x"] = some .null ∧ j.at? ["b", "y"] = some (.text "") := by
  intro map cell fs
  obtain ⟨j, hj⟩ : ∃ j, toJson map cell = .ok j := exists_toJson cell (by decide +kernel)
  obtain ⟨row, hrow⟩ : ∃ row, onVoidRow.readNext = (.ok row, onVoidRow.readNext.2) :=
    exists_eq_ok_of_isOk (by decide +kernel)
  have hran : ((beforeVoidRow.configure fs).2.reachedEnd fs).2.readNext.1.toOption =
      onVoidRow.readNext.1.toOption := by decide +kernel
  rw [hrow] at hran
  obtain ⟨-, -, htexts⟩ := marked_nulls_stay_nulls .text .null
  obtain ⟨-, -, hvoids⟩ := marked_nulls_stay_nulls .null .null
  obtain ⟨-, hmaps, -⟩ := marked_nulls_stay_nulls map cell
  obtain ⟨text, htext, hcell⟩ := Session.cellText_of_readNext hrow rfl (k := 2) (i := 2) rfl rfl
  obtain ⟨hshown, hinside⟩ := hmaps j hj
  have hnull (texts : List String) (type : ColumnType)
      (h : valueAt? map cell texts = some (type, .null)) (hm : isMarked type .null = true) :
      j.at? texts = some .null := by
    obtain ⟨j', hat, hj', -⟩ := hinside texts type .null h
    rw [hat, hj'.2 hm]
  obtain ⟨y, hat, -, hy⟩ := hinside ["b", "y"] (.dictionary (.integer .w8) .text) (.coded .null)
    (by simp [map, cell, ColumnType.mapOf, valueAt?, lastValue?, keyText_text, Except.toOption])
  refine ⟨row, j, eq_ok_of_toOption hran, by rw [hrow],
    (htexts _ _ row _ _ _ _ hrow rfl 0 0 rfl rfl).1.2 rfl,
    (hvoids _ _ row _ _ _ _ hrow rfl 1 1 rfl rfl).2 rfl rfl, ?_, hj,
    hnull ["a"] (.mapOf .text (.dictionary (.integer .w8) .text)) ?_ rfl,
    hnull ["b", "x"] (.dictionary (.integer .w8) .text) ?_ rfl, by rw [hat, hy rfl rfl]⟩
  · rw [htext, ← Except.ok.inj (hshown.symm.trans hcell)]
  · simp [map, cell, ColumnType.mapOf, valueAt?, lastValue?, keyText_text, Except.toOption]
  · simp [map, cell, ColumnType.mapOf, valueAt?, lastValue?, keyText_text, Except.toOption]

/-- It is not so that all nulls have no text. -/
theorem null_without_mark_has_text :
    ¬ ∀ (type : ColumnType) (cell : Cell),
      cellText type cell = .ok none ↔ isNull type cell = true := by
  intro h
  have : cellText .null .null = .ok none := (h .null .null).2 rfl
  rw [cellText_eq_none_iff] at this
  cases this

end Columnar

end TableScan
