import TableScan.Partition

/-!
# Partition values read back

A path spells a value of a column if the last of its segments `column=…` does. Such values are read
as they were written, whatever other segments stand before, between and behind
(`written_values_are_read_back`). What is read depends on the segments of the declared columns alone
(`lastAssigned_congr`), since a segment is an assignment to a column exactly if it begins with the
name of the column and `=` (`assignment?_eq_some_iff`).
-/

namespace TableScan

namespace Partition

def segments (path : String) : List (List Char) := Text.pieces '/' path.toList

/-- Whether a segment is of the form `column=…`. -/
def assigns (column : String) (segment : List Char) : Bool :=
  (column.toList ++ ['=']).isPrefixOf segment

/-- Whether a segment is of that form for one of the columns. -/
def assignsAny (columns : List String) (segment : List Char) : Bool :=
  columns.any (assigns · segment)

def spelling : Option String → String
  | none => nullName
  | some value => value

def written (column : String) (value : Option String) : List Char :=
  column.toList ++ '=' :: (spelling value).toList

/-- The last segment of the form `column=…` is `column=value`. -/
def Spells (path column : String) (value : Option String) : Prop :=
  ∃ before after, segments path = before ++ written column value :: after ∧
    ∀ segment ∈ after, assigns column segment = false

variable {path path' column : String} {segment : List Char} {value : Option String}

theorem assigns_iff : assigns column segment = true ↔ ∃ v, segment = column.toList ++ '=' :: v := by
  rw [assigns, List.isPrefixOf_iff_prefix]
  constructor
  · rintro ⟨v, rfl⟩
    exact ⟨v, by simp⟩
  · rintro ⟨v, rfl⟩
    exact ⟨v, by simp⟩

/-- A segment assigns to a column what stands behind the name of the column and the first `=`. -/
theorem assignment?_eq_some_iff {v : String} :
    assignment? segment = some (column, v) ↔
      column ≠ "" ∧ '=' ∉ column.toList ∧ segment = column.toList ++ '=' :: v.toList := by
  constructor
  · intro h
    unfold assignment? at h
    split at h
    · cases h
    · rename_i key rest hne hcut
      cases h
      obtain ⟨rfl, hkey⟩ := Text.eq_of_cutAtFirst? hcut
      refine ⟨fun hempty => hne ?_, by simpa using hkey, by simp⟩
      simpa using congrArg String.toList hempty
    · cases h
  · rintro ⟨hne, hkey, rfl⟩
    obtain ⟨c, key, hname⟩ : ∃ c key, column.toList = c :: key :=
      List.exists_cons_of_ne_nil (by simpa using hne)
    have hcut := Text.cutAtFirst?_append_cons hkey v.toList
    rw [assignment?, hcut, hname]
    simp only [← hname, String.ofList_toList]

theorem assigns_of_assignment? {v : String} (h : assignment? segment = some (column, v)) :
    assigns column segment = true :=
  assigns_iff.2 ⟨v.toList, (assignment?_eq_some_iff.1 h).2.2⟩

theorem assignment?_written (hne : column ≠ "") (hname : '=' ∉ column.toList)
    (value : Option String) :
    assignment? (written column value) = some (column, spelling value) :=
  assignment?_eq_some_iff.2 ⟨hne, hname, rfl⟩

theorem not_mem_keys_of_not_assigns {l : List (List Char)}
    (h : ∀ segment ∈ l, assigns column segment = false) :
    column ∉ (l.filterMap assignment?).map (·.1) := by
  intro hmem
  obtain ⟨⟨_, v⟩, hassigned, rfl⟩ := List.mem_map.1 hmem
  obtain ⟨segment, hsegment, hv⟩ := List.mem_filterMap.1 hassigned
  have := assigns_of_assignment? hv
  rw [h segment hsegment] at this
  cases this

/-- The last assignment is what the map of all assignments has for the column. -/
theorem lastAssigned_eq (path column : String) :
    lastAssigned path column = (values path).get? column :=
  (SortedMap.get?_ofList _ _).symm

theorem lastAssigned_of_spells (hne : column ≠ "") (hname : '=' ∉ column.toList)
    (h : Spells path column value) : lastAssigned path column = some (spelling value) := by
  obtain ⟨before, after, hpath, hlast⟩ := h
  have hassignments : assignments path = before.filterMap assignment? ++
      (column, spelling value) :: after.filterMap assignment? := by
    rw [assignments, ← segments, hpath, List.filterMap_append,
      List.filterMap_cons_some (assignment?_written hne hname value)]
  rw [lastAssigned_eq, values, hassignments]
  exact SortedMap.get?_ofList_append_cons (not_mem_keys_of_not_assigns hlast)

theorem lastAssigned_eq_none (h : ∀ segment ∈ segments path, assigns column segment = false) :
    lastAssigned path column = none := by
  have hkeys := not_mem_keys_of_not_assigns h
  rw [lastAssigned, List.lookup_eq_none_iff]
  intro e he
  refine bne_iff_ne.2 fun heq => hkeys ?_
  exact heq ▸ List.mem_map_of_mem (List.mem_reverse.1 he)

theorem lookup_filter_assigns (column : String) (l : List (List Char)) :
    ((l.filter (assigns column)).filterMap assignment?).reverse.lookup column =
      (l.filterMap assignment?).reverse.lookup column := by
  induction l with
  | nil => rfl
  | cons segment l ih =>
    by_cases h : assigns column segment
    · rw [List.filter_cons_of_pos h]
      cases hv : assignment? segment with
      | none => rw [List.filterMap_cons_none hv, List.filterMap_cons_none hv, ih]
      | some e =>
        rw [List.filterMap_cons_some hv, List.filterMap_cons_some hv, List.reverse_cons,
          List.reverse_cons, List.lookup_append, List.lookup_append, ih]
    · rw [List.filter_cons_of_neg h, ih]
      cases hv : assignment? segment with
      | none => rw [List.filterMap_cons_none hv]
      | some e =>
        obtain ⟨key, v⟩ := e
        have hne : column ≠ key := by
          rintro rfl
          exact h (assigns_of_assignment? hv)
        have hnone : [(key, v)].lookup column = none := by
          rw [List.lookup_eq_none_iff]
          simpa using hne
        rw [List.filterMap_cons_some hv, List.reverse_cons, List.lookup_append, hnone,
          Option.or_none]

/-- What is read of a column depends on its own segments only. -/
theorem lastAssigned_congr {columns : List String} (hc : column ∈ columns)
    (h : (segments path).filter (assignsAny columns) =
      (segments path').filter (assignsAny columns)) :
    lastAssigned path column = lastAssigned path' column := by
  have hown (l : List (List Char)) :
      (l.filter (assignsAny columns)).filter (assigns column) = l.filter (assigns column) := by
    rw [List.filter_filter]
    refine List.filter_congr fun segment _ => ?_
    have : assigns column segment = true → assignsAny columns segment = true :=
      fun hs => List.any_eq_true.2 ⟨column, hc, hs⟩
    cases hs : assigns column segment <;> simp_all
  rw [lastAssigned, lastAssigned, assignments, assignments, ← segments, ← segments,
    ← lookup_filter_assigns, ← lookup_filter_assigns column (segments path'), ← hown, h, hown]

theorem value?_of_spells (hne : column ≠ "") (hname : '=' ∉ column.toList)
    (hvalue : value ≠ some nullName) (h : Spells path column value) :
    value? path column = value := by
  rw [value?, lastAssigned_of_spells hne hname h]
  cases value with
  | none => simp [spelling]
  | some v => simpa [spelling] using hvalue

/-- The values of the declared columns are read from a path as they were written into it, in the
order of the columns and whatever other segments there are. Segments of other keys make no
difference, and a column without a segment of its own is null. -/
theorem written_values_are_read_back :
    (∀ (path : String) (assigned : List (String × Option String)),
      (∀ c ∈ assigned, c.1 ≠ "" ∧ '=' ∉ c.1.toList ∧ c.2 ≠ some nullName ∧
        Spells path c.1 c.2) →
      resolve (assigned.map (·.1)) path = assigned.map (·.2)) ∧
    (∀ (columns : List String) (path path' : String),
      (segments path).filter (assignsAny columns) =
        (segments path').filter (assignsAny columns) →
      resolve columns path = resolve columns path') ∧
    ∀ (columns : List String) (path column : String) (place : Nat),
      columns[place]? = some column →
      (∀ segment ∈ segments path, assigns column segment = false) →
      (resolve columns path)[place]? = some none := by
  refine ⟨fun path assigned h => ?_, fun columns path path' h => ?_,
    fun columns path column place hc h => ?_⟩
  · rw [resolve, List.map_map]
    refine List.map_congr_left fun c hc => ?_
    obtain ⟨hne, hname, hvalue, hspells⟩ := h c hc
    exact value?_of_spells hne hname hvalue hspells
  · refine List.map_congr_left fun column hc => ?_
    rw [value?, value?, lastAssigned_congr hc h]
  · rw [resolve, List.getElem?_map, hc, Option.map_some, value?, lastAssigned_eq_none h]
    rfl

/-- A path with two dates, the later one null, a value that is empty and one with `=` in it, among
segments that are no assignments or assign to other keys. -/
def busyPath : String :=
  "/env=prod/dt=2024-01-15/t/=x/expr=a=b/dt=__HIVE_DEFAULT_PARTITION__/dtx=1/k=/part-0"

theorem written_values_are_read_back_of_busy_path :
    Spells busyPath "k" (some "") ∧ Spells busyPath "dt" none ∧
      Spells busyPath "expr" (some "a=b") ∧
      resolve ["k", "dt", "expr"] busyPath = [some "", none, some "a=b"] ∧
      resolve ["k", "dt"] busyPath =
        resolve ["k", "dt"] "dt=2024-01-15/dt=__HIVE_DEFAULT_PARTITION__/a=b/k=" ∧
      (resolve ["dt", "region"] busyPath)[1]? = some none := by
  obtain ⟨hread, hother, hnone⟩ := written_values_are_read_back
  have hk : Spells busyPath "k" (some "") :=
    ⟨(segments busyPath).take 8, ["part-0".toList], by decide, by decide⟩
  have hdt : Spells busyPath "dt" none :=
    ⟨(segments busyPath).take 6, ["dtx=1", "k=", "part-0"].map String.toList, by decide, by decide⟩
  have hexpr : Spells busyPath "expr" (some "a=b") :=
    ⟨(segments busyPath).take 5, (segments busyPath).drop 6, by decide, by decide⟩
  refine ⟨hk, hdt, hexpr, ?_, hother _ _ _ (by decide), hnone _ _ "region" 1 rfl (by decide)⟩
  refine hread busyPath [("k", some ""), ("dt", none), ("expr", some "a=b")] ?_
  simp only [List.forall_mem_cons, List.not_mem_nil, false_implies, implies_true, and_true]
  exact ⟨⟨by decide, by decide, by decide, hk⟩, ⟨by decide, by decide, by decide, hdt⟩, by decide,
    by decide, by decide, hexpr⟩

end Partition

end TableScan
