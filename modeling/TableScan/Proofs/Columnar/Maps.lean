import TableScan.Proofs.Columnar.Nulls
import TableScan.Proofs.Json.Unambiguity

/-!
# The texts of maps

A map is shown as a JSON object. What matters of a map is what is found under each of its keys, and
not in which order its entries stand or which of them a later one overrides. That is its `Meaning`,
and the text of a map is canonical for it: the members of an object are sorted by their keys, so a
map of a given meaning becomes one object only (`toJson_eq_iff`), and no two objects have one text.
So two maps have the same text exactly if they have the same meaning (`map_texts_are_canonical`).
-/

namespace TableScan.Columnar

def ColumnType.isText : ColumnType → Bool
  | .text => true
  | .textView => true
  | _ => false

/-- Types of text, of maps from text to text, of maps from text to such maps, and so on. -/
inductive ColumnType.IsTextNest : ColumnType → Prop where
  | text {type : ColumnType} : type.isText = true → IsTextNest type
  | map {n₁ n₂ : String} {key value : ColumnType} : key.isText = true → IsTextNest value →
      IsTextNest (.map (.struct [(n₁, key), (n₂, value)]))

/-- Types of maps from text to text or again to such maps. -/
def ColumnType.IsTextMap (type : ColumnType) : Prop :=
  type.IsTextNest ∧ type.isText = false

/-- Cells of a nest of maps: nulls, texts where the type is one of text, and maps whose keys are no
nulls. -/
inductive Cell.OfType : ColumnType → Cell → Prop where
  | null {type : ColumnType} : OfType type .null
  | text {type : ColumnType} (s : String) : type.isText = true → OfType type (.text s)
  | map {n₁ n₂ : String} {key value : ColumnType} {entries : List (Cell × Cell)} :
      (∀ e ∈ entries, ∃ s, e.1 = .text s) → (∀ e ∈ entries, OfType value e.2) →
      OfType (.map (.struct [(n₁, key), (n₂, value)])) (.map entries)

/-- What a cell of a nest of maps says: nothing, a text, or what is found under each key. -/
inductive Meaning where
  | null
  | text (s : String)
  | map (find : String → Option Meaning)

def hasKey (s : String) (e : Cell × Cell) : Bool :=
  match e.1 with
  | .text k => k = s
  | _ => false

mutual

def Cell.meaning : Cell → Meaning
  | .text s => .text s
  | .map entries => .map fun s => found entries s
  | _ => .null

/-- The meaning of the value of the last entry with a key. -/
def found : List (Cell × Cell) → String → Option Meaning
  | [], _ => none
  | (k, v) :: entries, s =>
    (found entries s).or (if hasKey s (k, v) then some v.meaning else none)

end

variable {type type' key value : ColumnType} {c c' : Cell} {entries entries' : List (Cell × Cell)}
  {s : String}

/-! ### Cells of maps -/

theorem Cell.OfType.nil {n₁ n₂ : String} :
    (Cell.map []).OfType (.map (.struct [(n₁, key), (n₂, value)])) :=
  .map (fun _ h => by cases h) (fun _ h => by cases h)

theorem Cell.OfType.cons {n₁ n₂ : String} {v : Cell} (hv : v.OfType value)
    (h : (Cell.map entries).OfType (.map (.struct [(n₁, key), (n₂, value)]))) :
    (Cell.map ((.text s, v) :: entries)).OfType (.map (.struct [(n₁, key), (n₂, value)])) := by
  cases h with
  | map texts typed =>
    exact .map (List.forall_mem_cons.2 ⟨⟨s, rfl⟩, texts⟩) (List.forall_mem_cons.2 ⟨hv, typed⟩)

/-! ### What is found -/

theorem found_cons (e : Cell × Cell) (entries : List (Cell × Cell)) (s : String) :
    found (e :: entries) s =
      (found entries s).or (if hasKey s e then some e.2.meaning else none) := by
  rw [found]

theorem found_append (entries more : List (Cell × Cell)) (s : String) :
    found (entries ++ more) s = (found more s).or (found entries s) := by
  induction entries with
  | nil => simp [found]
  | cons e entries ih => rw [List.cons_append, found_cons, found_cons, ih, Option.or_assoc]

theorem found_filter (entries : List (Cell × Cell)) (s : String) :
    found (entries.filter (hasKey s)) s = found entries s := by
  induction entries with
  | nil => rfl
  | cons e entries ih =>
    rw [List.filter_cons, found_cons]
    split
    · rename_i h
      rw [found_cons, ih, if_pos h]
    · rename_i h
      rw [ih, Option.or_none]

/-! ### Texts -/

theorem toJson_null (h : type.IsTextNest) : toJson type .null = .ok .null := by
  apply toJson_eq_null_iff.2
  apply isMarked_iff.2
  refine ⟨?_, rfl⟩
  intro hnull
  cases h with
  | text h =>
    subst hnull
    cases h
  | map => cases hnull

theorem toJson_of_isText (h : type.isText = true) (s : String) :
    toJson type (.text s) = .ok (.text s) := by
  cases type with
  | text => rw [toJson]
  | textView => simp [toJson, displayText, unknownZone?, display, Display.text, Except.map]
  | _ => cases h

theorem keyText_of_isText (h : key.isText = true) (s : String) :
    keyText key (.text s) = .ok s := by
  rw [keyText, cellText, toJson_of_isText h]
  rfl

theorem found_eq (h : key.isText = true) (texts : ∀ e ∈ entries, ∃ s, e.1 = .text s) (s : String) :
    found entries s = (lastValue? key entries s).map Cell.meaning := by
  induction entries with
  | nil => rfl
  | cons e entries ih =>
    rw [List.forall_mem_cons] at texts
    obtain ⟨⟨k, hk⟩, hrest⟩ := texts
    rw [found_cons, lastValue?_cons, ih hrest, Option.map_or, hk, keyText_of_isText h, hasKey, hk]
    by_cases hs : k = s <;> simp [hs, Except.toOption]

/-! ### Objects -/

theorem unknownZone?_of_isText (h : type.isText = true) : unknownZone? type = none := by
  cases type with
  | text => rfl
  | textView => rfl
  | _ => cases h

theorem unknownZone?_of_isTextNest (h : type.IsTextNest) : unknownZone? type = none := by
  induction h with
  | text h => exact unknownZone?_of_isText h
  | map hkey _ ih => simp [unknownZone?, unknownZoneOf?, unknownZone?_of_isText hkey, ih]

theorem sorted_of_foldlM {members members' : SortedMap Json}
    (h : entries.foldlM (putEntry key value) members = .ok members') (hs : members.Sorted) :
    members'.Sorted := by
  induction entries generalizing members with
  | nil =>
    cases h
    exact hs
  | cons e entries ih =>
    rw [List.foldlM_cons] at h
    obtain ⟨m, hm, h⟩ := bind_eq_ok h
    obtain ⟨text, -, hm⟩ := bind_eq_ok hm
    obtain ⟨j, -, hm⟩ := bind_eq_ok hm
    cases hm
    exact ih h hs.insert

theorem exists_members {n₁ n₂ : String}
    (nest : ColumnType.IsTextNest (.map (.struct [(n₁, key), (n₂, value)])))
    (entries : List (Cell × Cell)) :
    ∃ members : SortedMap Json, members.Sorted ∧
      toJson (.map (.struct [(n₁, key), (n₂, value)])) (.map entries) = .ok (.object members) ∧
      ∀ s, (members.get? s).map Except.ok = (lastValue? key entries s).map (toJson value) := by
  obtain ⟨j, hj⟩ := exists_toJson (.map entries) (unknownZone?_of_isTextNest nest)
  rw [toJson_map] at hj
  obtain ⟨members, hmembers, rfl⟩ := map_eq_ok hj
  refine ⟨members, sorted_of_foldlM hmembers List.Pairwise.nil, ?_, fun s => ?_⟩
  · rw [toJson_map, hmembers]
    rfl
  · rw [get?_of_foldlM hmembers s]
    exact Option.or_none

theorem exists_of_lastValue? {v : Cell} (h : lastValue? key entries s = some v) :
    ∃ e ∈ entries, e.2 = v := by
  obtain ⟨e, he, hv⟩ := Option.map_eq_some_iff.1 h
  exact ⟨e, List.mem_reverse.1 (List.mem_of_find?_eq_some he), hv⟩

theorem ColumnType.IsTextNest.of_map {n₁ n₂ : String}
    (nest : ColumnType.IsTextNest (.map (.struct [(n₁, key), (n₂, value)]))) :
    key.isText = true ∧ value.IsTextNest := by
  cases nest with
  | text h => cases h
  | map hkey hvalue => exact ⟨hkey, hvalue⟩

theorem toJson_map_eq_iff {n₁ n₂ n₁' n₂' : String} {key' value' : ColumnType}
    (nest : ColumnType.IsTextNest (.map (.struct [(n₁, key), (n₂, value)])))
    (nest' : ColumnType.IsTextNest (.map (.struct [(n₁', key'), (n₂', value')])))
    (texts : ∀ e ∈ entries, ∃ s, e.1 = .text s) (texts' : ∀ e ∈ entries', ∃ s, e.1 = .text s)
    (values : ∀ e ∈ entries, ∀ e' ∈ entries',
      toJson value e.2 = toJson value' e'.2 ↔ e.2.meaning = e'.2.meaning) :
    toJson (.map (.struct [(n₁, key), (n₂, value)])) (.map entries) =
        toJson (.map (.struct [(n₁', key'), (n₂', value')])) (.map entries') ↔
      (Cell.map entries).meaning = (Cell.map entries').meaning := by
  obtain ⟨m, hm, hj, hget⟩ := exists_members nest entries
  obtain ⟨m', hm', hj', hget'⟩ := exists_members nest' entries'
  have hvalues (s : String) :
      (lastValue? key entries s).map (toJson value) =
          (lastValue? key' entries' s).map (toJson value') ↔
        found entries s = found entries' s := by
    rw [found_eq nest.of_map.1 texts, found_eq nest'.of_map.1 texts']
    cases hv : lastValue? key entries s with
    | none => cases lastValue? key' entries' s <;> simp
    | some v =>
      cases hv' : lastValue? key' entries' s with
      | none => simp
      | some v' =>
        obtain ⟨e, he, rfl⟩ := exists_of_lastValue? hv
        obtain ⟨e', he', rfl⟩ := exists_of_lastValue? hv'
        simpa using values e he e' he'
  calc toJson _ (.map entries) = toJson _ (.map entries')
      ↔ m = m' := by rw [hj, hj']; simp
    _ ↔ ∀ s, m.get? s = m'.get? s := ⟨fun h s => by rw [h], hm.eq_of_get? hm'⟩
    _ ↔ ∀ s, found entries s = found entries' s := by
      refine forall_congr' fun s => ?_
      rw [← hvalues, ← hget, ← hget']
      exact (Option.map_injective fun _ _ => Except.ok.inj).eq_iff.symm
    _ ↔ (Cell.map entries).meaning = (Cell.map entries').meaning := by
      simp [Cell.meaning, funext_iff]

/-- Cells of nests of maps become the same value exactly if they have the same meaning. -/
theorem toJson_eq_iff (nest : type.IsTextNest) (nest' : type'.IsTextNest) (hc : c.OfType type)
    (hc' : c'.OfType type') : toJson type c = toJson type' c' ↔ c.meaning = c'.meaning := by
  induction hc generalizing type' c' with
  | null =>
    rw [toJson_null nest]
    cases hc' with
    | null => simp [toJson_null nest']
    | text s' h' => simp [toJson_of_isText h', Cell.meaning]
    | @map _ _ _ _ entries' =>
      obtain ⟨m', -, hj', -⟩ := exists_members nest' entries'
      simp [hj', Cell.meaning]
  | text s h =>
    rw [toJson_of_isText h]
    cases hc' with
    | null => simp [toJson_null nest', Cell.meaning]
    | text s' h' => simp [toJson_of_isText h', Cell.meaning]
    | @map _ _ _ _ entries' =>
      obtain ⟨m', -, hj', -⟩ := exists_members nest' entries'
      simp [hj', Cell.meaning]
  | @map _ _ _ _ entries texts typed ih =>
    obtain ⟨m, -, hj, -⟩ := exists_members nest entries
    cases hc' with
    | null => simp [toJson_null nest', hj, Cell.meaning]
    | text s' h' => simp [toJson_of_isText h', hj, Cell.meaning]
    | map texts' typed' =>
      -- Values are compared where both maps have one, and there they are nests themselves.
      exact toJson_map_eq_iff nest nest' texts texts' fun e he e' he' =>
        ih e he nest.of_map.2 nest'.of_map.2 (typed' e' he')

/-! ### Maps -/

theorem ColumnType.IsTextMap.exists_eq (map : type.IsTextMap) (hc : c.OfType type)
    (hnull : c ≠ .null) : ∃ entries, c = .map entries := by
  cases hc with
  | null => exact absurd rfl hnull
  | text s h =>
    rw [map.2] at h
    cases h
  | map => exact ⟨_, rfl⟩

theorem exists_cellText (nest : type.IsTextNest) (hc : (Cell.map entries).OfType type) :
    ∃ members, toJson type (.map entries) = .ok (.object members) ∧
      cellText type (.map entries) = .ok (some (Json.object members).render) := by
  cases hc with
  | map =>
    obtain ⟨members, -, hj, -⟩ := exists_members nest entries
    exact ⟨members, hj, by rw [cellText, hj]; rfl⟩

theorem cellText_map_eq_iff (nest : type.IsTextNest) (nest' : type'.IsTextNest)
    (hc : (Cell.map entries).OfType type) (hc' : (Cell.map entries').OfType type') :
    cellText type (.map entries) = cellText type' (.map entries') ↔
      found entries = found entries' := by
  obtain ⟨m, hj, ht⟩ := exists_cellText nest hc
  obtain ⟨m', hj', ht'⟩ := exists_cellText nest' hc'
  calc cellText type (.map entries) = cellText type' (.map entries')
      ↔ (Json.object m).render = (Json.object m').render := by rw [ht, ht']; simp
    _ ↔ Json.object m = Json.object m' := Json.render_inj
    _ ↔ toJson type (.map entries) = toJson type' (.map entries') := by rw [hj, hj']; simp
    _ ↔ Cell.meaning (.map entries) = Cell.meaning (.map entries') :=
      toJson_eq_iff nest nest' hc hc'
    _ ↔ found entries = found entries' := by simp [Cell.meaning, funext_iff]

theorem cellText_append_ne (nest : type.IsTextNest) (nest' : type'.IsTextNest) {v w : Cell}
    (h : v.meaning ≠ w.meaning) (hc : (Cell.map (entries ++ [(.text s, v)])).OfType type)
    (hc' : (Cell.map (entries' ++ [(.text s, w)])).OfType type') :
    cellText type (.map (entries ++ [(.text s, v)])) ≠
      cellText type' (.map (entries' ++ [(.text s, w)])) := by
  intro ht
  have hfound := congrFun ((cellText_map_eq_iff nest nest' hc hc').1 ht) s
  rw [found_append, found_append] at hfound
  exact h (by simpa [found, hasKey] using hfound)

/-- The texts of maps, of one type or of two, are canonical: two maps have the same text exactly if
they have the same meaning. The order of their entries is not part of it, apart from that of entries
with one key, and a null, an empty text, the text `null` and an empty map are told from each other
under every key. -/
theorem map_texts_are_canonical (map : type.IsTextMap) (map' : type'.IsTextMap) :
    (∀ c c', c.OfType type → c'.OfType type' → c ≠ .null → c' ≠ .null →
      ∃ s s', cellText type c = .ok (some s) ∧ cellText type' c' = .ok (some s') ∧
        (s = s' ↔ c.meaning = c'.meaning)) ∧
    (∀ entries entries', (Cell.map entries).OfType type → (Cell.map entries').OfType type' →
      (∀ k, entries.filter (hasKey k) = entries'.filter (hasKey k)) →
      cellText type (.map entries) = cellText type' (.map entries')) ∧
    [Cell.null, .text "", .text "null", .map []].Pairwise fun v w =>
      ∀ entries entries' k, (Cell.map (entries ++ [(.text k, v)])).OfType type →
        (Cell.map (entries' ++ [(.text k, w)])).OfType type' →
        cellText type (.map (entries ++ [(.text k, v)])) ≠
          cellText type' (.map (entries' ++ [(.text k, w)])) := by
  have nest := map.1
  have nest' := map'.1
  refine ⟨fun c c' hc hc' hnull hnull' => ?_, fun entries entries' hc hc' same => ?_, ?_⟩
  · obtain ⟨entries, rfl⟩ := map.exists_eq hc hnull
    obtain ⟨entries', rfl⟩ := map'.exists_eq hc' hnull'
    obtain ⟨m, -, ht⟩ := exists_cellText nest hc
    obtain ⟨m', -, ht'⟩ := exists_cellText nest' hc'
    refine ⟨_, _, ht, ht', ?_⟩
    have h := cellText_map_eq_iff nest nest' hc hc'
    rw [ht, ht'] at h
    simpa [Cell.meaning, funext_iff] using h
  · apply (cellText_map_eq_iff nest nest' hc hc').2
    funext k
    rw [← found_filter, same, found_filter]
  · have meanings : [Cell.null, .text "", .text "null", .map []].Pairwise fun v w =>
        v.meaning ≠ w.meaning := by
      simp [Cell.meaning]
    exact meanings.imp fun h _ _ _ hc hc' => cellText_append_ne nest nest' h hc hc'

def nestedMap : ColumnType :=
  .map (.struct [("keys", .text), ("values",
    .map (.struct [("keys", .text), ("values", .textView)]))])

theorem map_texts_are_canonical_of_nested_maps :
    (∃ s s', cellText nestedMap (.map [(.text "a", .map [(.text "x", .null)])]) = .ok (some s) ∧
      cellText nestedMap (.map [(.text "a", .map [(.text "x", .text "")])]) = .ok (some s') ∧
      s ≠ s') ∧
    cellText nestedMap (.map [(.text "a", .map []), (.text "b", .null), (.text "a", .null)]) =
      cellText nestedMap (.map [(.text "b", .null), (.text "a", .map []), (.text "a", .null)]) ∧
    cellText nestedMap (.map [(.text "b", .null), (.text "a", .null)]) ≠
      cellText nestedMap (.map [(.text "b", .null), (.text "a", .map [])]) := by
  have hmap : nestedMap.IsTextMap := ⟨.map rfl (.map rfl (.text rfl)), rfl⟩
  obtain ⟨meanings, orders, told⟩ := map_texts_are_canonical hmap hmap
  refine ⟨?_, ?_, ?_⟩
  · obtain ⟨s, s', hs, hs', h⟩ := meanings (.map [(.text "a", .map [(.text "x", .null)])])
      (.map [(.text "a", .map [(.text "x", .text "")])])
      (.cons (.cons .null .nil) .nil) (.cons (.cons (.text "" rfl) .nil) .nil)
      (by simp) (by simp)
    refine ⟨s, s', hs, hs', fun heq => ?_⟩
    have hinner := congrFun (Meaning.map.inj (h.1 heq)) "a"
    simp only [found, hasKey, Cell.meaning, Option.none_or, decide_true, if_true,
      Option.some.injEq, Meaning.map.injEq] at hinner
    have hvalue := congrFun hinner "x"
    simp at hvalue
  · apply orders
    · exact .cons .nil (.cons .null (.cons .null .nil))
    · exact .cons .null (.cons .nil (.cons .null .nil))
    · intro k
      by_cases ha : "a" = k
      · subst ha
        rfl
      · simp [List.filter_cons, hasKey, ha]
  · exact (List.pairwise_cons.1 told).1 _ (by simp) [(.text "b", .null)] [(.text "b", .null)] "a"
      (.cons .null (.cons .null .nil)) (.cons .null (.cons .nil .nil))

end TableScan.Columnar
