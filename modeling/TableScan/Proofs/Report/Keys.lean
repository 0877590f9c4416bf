import Mathlib.Data.List.Perm.Subperm
import TableScan.Report

/-!
# Keys of columns

An object has one member for each key, so a row keeps all of its columns only if their keys are
distinct. The keys that tell a place differ from each other, and the names that stand for themselves
differ from each other; what may meet is a key of the first kind and a name. `jsonKeys_nodup_iff`
says when they do not, and `IsObjectOf` what a row is written as in either case.
-/

namespace TableScan

namespace Report

/-- The key of a column that is told by its place. -/
def placeKey (i : Nat) : String := s!"_col{i}"

variable {names : List String} {name : String} {i j : Nat}

theorem placeKey_injective (h : placeKey i = placeKey j) : i = j := by
  have hchars : "_col".toList ++ Nat.toDigits 10 i = "_col".toList ++ Nat.toDigits 10 j := by
    simpa [placeKey] using congrArg String.toList h
  have hdigits := List.append_cancel_left hchars
  have hvalue := congrArg (fun ds => Nat.ofDigitChars 10 ds 0) hdigits
  simpa using hvalue

theorem length_jsonKeys (names : List String) : (jsonKeys names).length = names.length :=
  List.length_mapIdx

theorem jsonKeys_of_mem (h : i < (jsonKeys names).length) (hi : i < names.length)
    (hmem : names[i] ∈ names.take i) : (jsonKeys names)[i] = placeKey i := by
  simp [jsonKeys, placeKey, hmem]

theorem jsonKeys_of_not_mem (h : i < (jsonKeys names).length) (hi : i < names.length)
    (hmem : names[i] ∉ names.take i) : (jsonKeys names)[i] = names[i] := by
  simp [jsonKeys, hmem]

theorem exists_first (h : name ∈ names) :
    ∃ (j : Nat) (hj : j < names.length), names[j] = name ∧ name ∉ names.take j := by
  obtain ⟨before, after, rfl, hbefore⟩ := List.eq_append_cons_of_mem h
  exact ⟨before.length, by simp, by simp, by simpa using hbefore⟩

theorem not_mem_of_nodup (h : (jsonKeys names).Nodup) (hi : i < names.length)
    (hmem : names[i] ∈ names.take i) : placeKey i ∉ names := by
  intro htaken
  obtain ⟨j, hj, hname, hfirst⟩ := exists_first htaken
  have hi' : i < (jsonKeys names).length := (length_jsonKeys names).symm ▸ hi
  have hj' : j < (jsonKeys names).length := (length_jsonKeys names).symm ▸ hj
  have hkey : (jsonKeys names)[i] = (jsonKeys names)[j] := by
    rw [jsonKeys_of_mem hi' hi hmem, jsonKeys_of_not_mem hj' hj (hname ▸ hfirst), hname]
  -- A key is found at one place only, and there its name is no repeated one.
  obtain rfl : i = j := (List.getElem_inj h).1 hkey
  exact hfirst (hname ▸ hmem)

theorem getElem_jsonKeys_ne (h : ∀ i (hi : i < names.length), names[i] ∈ names.take i →
      placeKey i ∉ names) (hij : i < j) (hi : i < (jsonKeys names).length)
    (hj : j < (jsonKeys names).length) : (jsonKeys names)[i] ≠ (jsonKeys names)[j] := by
  have hi' : i < names.length := length_jsonKeys names ▸ hi
  have hj' : j < names.length := length_jsonKeys names ▸ hj
  have hnames : names[i] ∈ names := List.getElem_mem hi'
  by_cases hmem : names[i] ∈ names.take i
  · rw [jsonKeys_of_mem hi hi' hmem]
    by_cases hmem' : names[j] ∈ names.take j
    · rw [jsonKeys_of_mem hj hj' hmem']
      exact fun heq => Nat.ne_of_lt hij (placeKey_injective heq)
    · rw [jsonKeys_of_not_mem hj hj' hmem']
      exact fun heq => h i hi' hmem (heq ▸ List.getElem_mem hj')
  · rw [jsonKeys_of_not_mem hi hi' hmem]
    by_cases hmem' : names[j] ∈ names.take j
    · rw [jsonKeys_of_mem hj hj' hmem']
      exact fun heq => h j hj' hmem' (heq ▸ hnames)
    · rw [jsonKeys_of_not_mem hj hj' hmem']
      -- The name at `i` is among those before `j`.
      have htake : names[i] ∈ names.take j := List.mem_take_iff_getElem.2 ⟨i, by omega, rfl⟩
      exact fun heq => hmem' (heq ▸ htake)

/-- The keys are distinct where no repeated name is replaced by another name. -/
theorem jsonKeys_nodup_iff :
    (jsonKeys names).Nodup ↔
      ∀ i (h : i < names.length), names[i] ∈ names.take i → placeKey i ∉ names := by
  constructor
  · intro h i hi hmem
    exact not_mem_of_nodup h hi hmem
  · intro h
    exact List.pairwise_iff_getElem.2 fun i j hi hj hij => getElem_jsonKeys_ne h hij hi hj

/-! ### What is written -/

/-- The members of the object for a row: one for each key that a column has, in key order, with the
value of the last such column. -/
structure IsObjectOf (names : List String) (row : Row) (object : SortedMap Json) : Prop where
  sorted : object.Sorted
  mem_keys_iff (key : String) : key ∈ object.keys ↔ key ∈ jsonKeys names
  length_eq_iff : object.length = names.length ↔ (jsonKeys names).Nodup
  get?_last {before after : List (String × Option String)} {key : String} {cell : Option String} :
    (jsonKeys names).zip row = before ++ (key, cell) :: after → key ∉ after.map (·.1) →
      object.get? key = some (cell.elim .null .text)

def objectOf (names : List String) (row : Row) : SortedMap Json :=
  SortedMap.ofList (((jsonKeys names).zip row).map fun (key, cell) => (key, cell.elim .null .text))

variable {row : Row} {object : SortedMap Json} {key : String} {cell : Option String}

theorem map_fst_zip_jsonKeys (h : row.length = names.length) :
    ((jsonKeys names).zip row).map (·.1) = jsonKeys names := by
  apply List.map_fst_zip
  exact Nat.le_of_eq ((length_jsonKeys names).trans h.symm)

theorem mem_keys_objectOf (h : row.length = names.length) :
    key ∈ (objectOf names row).keys ↔ key ∈ jsonKeys names := by
  rw [objectOf, SortedMap.mem_keys_ofList, List.map_map]
  conv_rhs => rw [← map_fst_zip_jsonKeys h]
  rfl

theorem length_objectOf_eq_iff (h : row.length = names.length) :
    (objectOf names row).length = names.length ↔ (jsonKeys names).Nodup := by
  have hkeys : (objectOf names row).keys.Nodup := (SortedMap.sorted_ofList _).nodup_keys
  rw [← length_jsonKeys names, ← SortedMap.length_keys]
  constructor
  · intro hlength
    have hsub := List.subperm_of_subset hkeys fun _ hkey => (mem_keys_objectOf h).1 hkey
    exact (hsub.perm_of_length_le (Nat.le_of_eq hlength.symm)).nodup_iff.1 hkeys
  · intro hnodup
    have hperm := (List.perm_ext_iff_of_nodup hkeys hnodup).2 fun _ => mem_keys_objectOf h
    exact hperm.length_eq

theorem isObjectOf_objectOf (h : row.length = names.length) :
    IsObjectOf names row (objectOf names row) where
  sorted := SortedMap.sorted_ofList _
  mem_keys_iff _ := mem_keys_objectOf h
  length_eq_iff := length_objectOf_eq_iff h
  get?_last := by
    intro before after key cell hsplit hlast
    rw [objectOf, hsplit, List.map_append, List.map_cons]
    apply SortedMap.get?_ofList_append_cons
    rwa [List.map_map]

theorem IsObjectOf.get?_of_nodup (h : IsObjectOf names row object)
    (hlength : row.length = names.length) (hnodup : (jsonKeys names).Nodup)
    (hmem : (key, cell) ∈ (jsonKeys names).zip row) :
    object.get? key = some (cell.elim .null .text) := by
  obtain ⟨before, after, hsplit⟩ := List.append_of_mem hmem
  apply h.get?_last hsplit
  rw [← map_fst_zip_jsonKeys hlength, hsplit, List.map_append, List.map_cons] at hnodup
  exact (List.nodup_cons.1 (List.nodup_append.1 hnodup).2.1).1

/-- There are as many keys as columns, and they are distinct unless a repeated column would take the
name of another one. Where they are, the object of a row has one member for each column, with its
value; where they are not, it has not as many. -/
theorem json_keeps_columns_of_distinct_keys (names : List String) :
    (jsonKeys names).length = names.length ∧
    ((jsonKeys names).Nodup ↔
      ∀ i (h : i < names.length), names[i] ∈ names.take i → placeKey i ∉ names) ∧
    ∀ row : Row, row.length = names.length → ∃ object : SortedMap Json,
      line .json names row = (Json.object object).render ++ "\n" ∧
      IsObjectOf names row object ∧
      ((jsonKeys names).Nodup → ∀ key cell, (key, cell) ∈ (jsonKeys names).zip row →
        object.get? key = some (cell.elim .null .text)) := by
  refine ⟨length_jsonKeys names, jsonKeys_nodup_iff, ?_⟩
  intro row hlength
  have hobject := isObjectOf_objectOf hlength
  refine ⟨_, rfl, hobject, ?_⟩
  intro hnodup key cell hmem
  exact hobject.get?_of_nodup hlength hnodup hmem

theorem json_keeps_columns_of_distinct_keys_of_repeated_column :
    let names := ["id", "id", "dt"]
    let row : Row := [some "1", some "1", none]
    row.length = names.length ∧ (jsonKeys names).Nodup ∧ ∃ object : SortedMap Json,
      line .json names row = (Json.object object).render ++ "\n" ∧ object.length = 3 ∧
        object.get? "_col1" = some (.text "1") ∧ object.get? "dt" = some .null := by
  intro names row
  have hkeys : jsonKeys names = ["id", "_col1", "dt"] := by decide
  have hnodup : (jsonKeys names).Nodup := by rw [hkeys]; decide
  obtain ⟨-, -, hrows⟩ := json_keeps_columns_of_distinct_keys names
  obtain ⟨object, hline, hobject, hvalue⟩ := hrows row rfl
  refine ⟨rfl, hnodup, object, hline, hobject.length_eq_iff.2 hnodup, ?_, ?_⟩
  · exact hvalue hnodup "_col1" (some "1") (by decide)
  · exact hvalue hnodup "dt" none (by decide)

/-- The key of a repeated column may be the name of another one, which is then not written. -/
theorem column_with_taken_key_is_not_written :
    (¬ ∀ names : List String, (jsonKeys names).Nodup) ∧
      line .json ["id", "_col2", "id"] [some "7", some "x", some "7"] =
        "\x7b\"_col2\":\"7\",\"id\":\"7\"\x7d\n" := by
  refine ⟨?_, by decide⟩
  intro h
  exact absurd (h ["id", "_col2", "id"]) (by decide)

end Report

end TableScan
