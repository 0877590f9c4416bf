/-!
# Maps in key order

Association lists with their keys in ascending order, each key once. Credentials, partition values
and the objects of rendered rows are kept this way, because their order shows in what is written.
-/

namespace TableScan

/-- An association list; `SortedMap.Sorted` states its invariant. -/
abbrev SortedMap (α : Type) := List (String × α)

namespace SortedMap

variable {α : Type} {m : SortedMap α} {k k' : String} {v : α}

/-- The keys ascend, so none occurs twice. -/
def Sorted (m : SortedMap α) : Prop := m.Pairwise fun a b => a.1 < b.1

def insert (k : String) (v : α) : SortedMap α → SortedMap α
  | [] => [(k, v)]
  | (k', v') :: m =>
    if k < k' then (k, v) :: (k', v') :: m
    else if k = k' then (k, v) :: m
    else (k', v') :: insert k v m

def get? (m : SortedMap α) (k : String) : Option α := List.lookup k m

def keys (m : SortedMap α) : List String := m.map (·.1)

/-- The map of the pairs; of two values of one key the later stands. -/
def ofList (l : List (String × α)) : SortedMap α := l.foldl (fun m (k, v) => insert k v m) []

@[simp] theorem length_keys (m : SortedMap α) : m.keys.length = m.length := List.length_map _

theorem mem_keys_insert : k' ∈ keys (insert k v m) ↔ k' = k ∨ k' ∈ keys m := by
  induction m with
  | nil => simp [insert, keys]
  | cons e m ih =>
    obtain ⟨k₀, v₀⟩ := e
    simp only [keys] at ih
    by_cases h : k < k₀
    · simp [insert, keys, h]
    · by_cases h' : k = k₀
      · simp [insert, keys, h']
      · simp only [insert, h, h', if_false, keys, List.map_cons, List.mem_cons, ih]
        grind

theorem get?_cons : get? ((k, v) :: m) k' = if k' = k then some v else get? m k' := by
  rw [get?, List.lookup_cons]
  split <;> simp_all [get?]

theorem get?_insert : get? (insert k v m) k' = if k' = k then some v else get? m k' := by
  induction m with
  | nil => exact get?_cons
  | cons e m ih =>
    obtain ⟨k₀, v₀⟩ := e
    by_cases h : k < k₀
    · rw [insert, if_pos h, get?_cons]
    · by_cases h' : k = k₀
      · subst h'
        rw [insert, if_neg h, if_pos rfl, get?_cons, get?_cons]
        split <;> rfl
      · rw [insert, if_neg h, if_neg h', get?_cons, get?_cons, ih]
        split
        · rename_i hk₀
          rw [if_neg fun hk => h' (hk.symm.trans hk₀)]
        · rfl

theorem Sorted.insert (h : Sorted m) : Sorted (insert k v m) := by
  induction m with
  | nil => simp [SortedMap.insert, Sorted]
  | cons e m ih =>
    obtain ⟨k₀, v₀⟩ := e
    have hm := (List.pairwise_cons.1 h).2
    have hk := (List.pairwise_cons.1 h).1
    by_cases h₁ : k < k₀
    · simp only [SortedMap.insert, h₁, if_true, Sorted]
      refine List.pairwise_cons.2 ⟨?_, h⟩
      intro e he
      rcases List.mem_cons.1 he with rfl | he
      · exact h₁
      · exact String.lt_trans h₁ (hk e he)
    · by_cases h₂ : k = k₀
      · subst h₂
        simp only [SortedMap.insert, h₁, if_false, if_true, Sorted]
        exact List.pairwise_cons.2 ⟨fun e he => hk e he, hm⟩
      · simp only [SortedMap.insert, h₁, h₂, if_false, Sorted]
        refine List.pairwise_cons.2 ⟨?_, ih hm⟩
        intro e he
        have hmem : e.1 ∈ keys (SortedMap.insert k v m) := List.mem_map_of_mem he
        rcases mem_keys_insert.1 hmem with h₃ | h₃
        · have h₄ : ¬ e.1 < k₀ := h₃ ▸ h₁
          have h₅ : k₀ ≠ e.1 := fun h => h₂ (h₃ ▸ h.symm)
          exact String.not_le.1 fun h₆ => h₅ (String.le_antisymm (String.not_lt.1 h₄) h₆)
        · obtain ⟨e', he', hee⟩ := List.mem_map.1 h₃
          exact hee ▸ hk e' he'

theorem get?_eq_none_of_lt (h : ∀ e ∈ m, k < e.1) : get? m k = none := by
  rw [get?, List.lookup_eq_none_iff]
  exact fun e he => bne_iff_ne.2 (String.ne_of_lt (h e he))

theorem Sorted.get?_eq_none (h : Sorted ((k', v) :: m)) (hlt : k < k') :
    get? ((k', v) :: m) k = none := by
  apply get?_eq_none_of_lt
  intro e he
  obtain rfl | he := List.mem_cons.1 he
  · exact hlt
  · exact String.lt_trans hlt ((List.pairwise_cons.1 h).1 e he)

theorem Sorted.eq_of_get? {m' : SortedMap α} (h : Sorted m) (h' : Sorted m')
    (hget : ∀ k, get? m k = get? m' k) : m = m' := by
  induction m generalizing m' with
  | nil =>
    cases m' with
    | nil => rfl
    | cons e' m' =>
      have := hget e'.1
      rw [get?_cons, if_pos rfl] at this
      cases this
  | cons e m ih =>
    obtain ⟨k, v⟩ := e
    have hfirst := hget k
    rw [get?_cons, if_pos rfl] at hfirst
    cases m' with
    | nil => cases hfirst
    | cons e' m' =>
      obtain ⟨k', v'⟩ := e'
      -- The first key of each map is found in the other, so neither is less.
      have hle : ¬ k < k' := fun hlt => by
        rw [h'.get?_eq_none hlt] at hfirst
        cases hfirst
      have hge : ¬ k' < k := fun hlt => by
        have hsecond := hget k'
        rw [h.get?_eq_none hlt, get?_cons, if_pos rfl] at hsecond
        cases hsecond
      obtain rfl : k = k' := String.le_antisymm (String.not_lt.1 hge) (String.not_lt.1 hle)
      rw [get?_cons, if_pos rfl, Option.some.injEq] at hfirst
      obtain ⟨hk, hm⟩ := List.pairwise_cons.1 h
      obtain ⟨hk', hm'⟩ := List.pairwise_cons.1 h'
      have hrest : ∀ x, get? m x = get? m' x := by
        intro x
        by_cases hx : x = k
        · rw [hx, get?_eq_none_of_lt hk, get?_eq_none_of_lt hk']
        · have := hget x
          rwa [get?_cons, get?_cons, if_neg hx, if_neg hx] at this
      rw [ih hm hm' hrest, hfirst]

theorem ofList_induction {P : List (String × α) → SortedMap α → Prop} (nil : P [] [])
    (insert : ∀ l m k v, P l m → P (l ++ [(k, v)]) (insert k v m)) (l : List (String × α)) :
    P l (ofList l) := by
  have aux : ∀ (l' l : List (String × α)) (m : SortedMap α), P l m →
      P (l ++ l') (l'.foldl (fun m (k, v) => SortedMap.insert k v m) m) := by
    intro l'
    induction l' with
    | nil =>
      intro l m h
      rwa [List.append_nil]
    | cons e l' ih =>
      intro l m h
      rw [List.append_cons]
      exact ih _ _ (insert l m e.1 e.2 h)
  exact aux l [] [] nil

theorem sorted_ofList (l : List (String × α)) : Sorted (ofList l) :=
  ofList_induction (P := fun _ m => Sorted m) List.Pairwise.nil (fun _ _ _ _ h => h.insert) l

theorem Sorted.nodup_keys (h : Sorted m) : (keys m).Nodup :=
  List.pairwise_map.2 (h.imp fun hlt => String.ne_of_lt hlt)

theorem mem_keys_ofList {l : List (String × α)} : k ∈ keys (ofList l) ↔ k ∈ l.map (·.1) := by
  refine ofList_induction (P := fun l m => k ∈ keys m ↔ k ∈ l.map (·.1)) Iff.rfl ?_ l
  intro l m k' v h
  rw [mem_keys_insert, h, List.map_append, List.mem_append, or_comm]
  exact or_congr_right List.mem_singleton.symm

theorem get?_ofList (l : List (String × α)) (k : String) :
    get? (ofList l) k = l.reverse.lookup k := by
  refine ofList_induction (P := fun l m => get? m k = l.reverse.lookup k) rfl ?_ l
  intro l m k' v h
  rw [get?_insert, h, List.reverse_append]
  exact get?_cons.symm

theorem get?_ofList_append_cons {l l' : List (String × α)} (h : k ∉ l'.map (·.1)) :
    get? (ofList (l ++ (k, v) :: l')) k = some v := by
  have hlater : l'.reverse.lookup k = none := by
    rw [List.lookup_eq_none_iff]
    intro e he
    have hne : k ≠ e.1 := fun heq => h (heq ▸ List.mem_map_of_mem (List.mem_reverse.1 he))
    exact bne_iff_ne.2 hne
  rw [get?_ofList, List.reverse_append, List.reverse_cons, List.append_assoc, List.lookup_append,
    hlater]
  exact get?_cons.trans (if_pos rfl)

end SortedMap

end TableScan
