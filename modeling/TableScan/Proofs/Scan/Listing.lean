import TableScan.Proofs.Outcome
import TableScan.Scan

/-!
# Listings

The listing of some splits is what they hold, apart from any scan: each split is opened on its own
and read to its end, and the first failure cuts the rest off. A scan of the splits walks along
their listing. `Follows R m p` says that the position `p` has been reached by `m` steps along `R`;
a step keeps it (`Follows.advance`), and its answers are those that `Listing.found` and
`Listing.rowAt` read off the listing.
-/

namespace TableScan

/-- A record of a table: the path of the file that it lies in, and the text of its cells. -/
structure Record where
  path : String
  cells : Nat → Except Error (Option String)

/-- A file that could not be opened or read any further, and why. -/
structure Failure where
  path : String
  error : Error

/-- Records in order, and the failure that cuts them off. -/
structure Listing where
  records : List Record
  failure : Option Failure

/-- The row of a record. Partition columns have the values that its path assigns. -/
def Record.row (t : Table) (r : Record) : Except Error Row :=
  t.plan.mapM fun
    | .data i => r.cells i
    | .partition place => .ok ((Partition.resolve t.params.partitionColumns r.path)[place]?.join)
    | .missing => .ok none

namespace Listing

def append (a b : Listing) : Listing :=
  match a.failure with
  | none => { records := a.records ++ b.records, failure := b.failure }
  | some _ => a

instance : Append Listing := ⟨append⟩

def cons (r : Record) (l : Listing) : Listing := { l with records := r :: l.records }

/-- Whether there is a record after the first `m`. A failure comes once as it is, and is then
reported as the reason for which the scan has stopped. -/
def found (R : Listing) (m : Nat) : Except Error Bool :=
  if m < R.records.length then .ok true
  else
    match R.failure with
    | none => .ok false
    | some f =>
      .error (if m = R.records.length then f.error
        else .stopped "reachedEnd" f.path f.error.message)

/-- The row after `m` steps: that of the last record stepped onto, if there is one. -/
def rowAt (t : Table) (R : Listing) : (m : Nat) → Except Error Row
  | 0 => .error (.state .notPositioned)
  | m + 1 =>
    match R.records[m]? with
    | some r => r.row t
    | none =>
      match R.failure with
      | none => .error (.state .notPositioned)
      | some f => .error (.stopped "readNext" f.path f.error.message)

theorem nil_append (l : Listing) : ⟨[], none⟩ ++ l = l := rfl

theorem append_nil (l : Listing) : l ++ ⟨[], none⟩ = l := by
  obtain ⟨records, _ | f⟩ := l
  · exact congrArg (Listing.mk · none) (List.append_nil records)
  · rfl

theorem cons_append (r : Record) (a b : Listing) : cons r a ++ b = cons r (a ++ b) := by
  obtain ⟨records, failure⟩ := a
  cases failure <;> rfl

theorem failed_append (f : Failure) (l : Listing) : ⟨[], some f⟩ ++ l = ⟨[], some f⟩ := rfl

theorem append_assoc (a b c : Listing) : a ++ b ++ c = a ++ (b ++ c) := by
  obtain ⟨records, _ | f⟩ := a
  · obtain ⟨records', _ | f'⟩ := b
    · exact congrArg (Listing.mk · c.failure) (List.append_assoc ..)
    · rfl
  · rfl

end Listing

/-- The records of a reader from the next one on. -/
def SplitReader.listing (path : String) (r : SplitReader) : Listing :=
  match _h : r.advance with
  | (.ok true, r') => .cons { path, cells := r'.fieldValue } (r'.listing path)
  | (.ok false, _) => { records := [], failure := none }
  | (.error error, _) => { records := [], failure := some { path, error } }
termination_by r.left
decreasing_by exact left_advance _h

def Table.splitListing (t : Table) (fs : FileSystem) (split : Split) : Listing :=
  match SplitReader.openSplit t.format fs split t.settings with
  | .ok reader => reader.listing split.path
  | .error error => { records := [], failure := some { path := split.path, error } }

def Table.listing (t : Table) (fs : FileSystem) : List Split → Listing
  | [] => { records := [], failure := none }
  | split :: splits => t.splitListing fs split ++ t.listing fs splits

/-! ### Readers -/

namespace SplitReader

theorem path_advance (r : SplitReader) : r.advance.2.path = r.path := by
  cases r with
  | text r =>
    simp only [advance, Prod.map, path]
    unfold TextReader.advance
    split
    · rfl
    · rfl
    · split <;> rfl
  | columnar c =>
    simp only [advance, Prod.map, path]
    unfold Columnar.Cursor.advance
    split
    · rfl
    · split <;> rfl

theorem fieldValue_error_cases {r : SplitReader} {i : Nat} {e : Error}
    (h : r.fieldValue i = .error e) :
    ∃ c, r = .columnar c ∧
      (c.current = [] ∧ e = .state (.noCurrentRow c.path) ∨
        ∃ type cell fault, Columnar.cellText type cell = .error fault ∧
          e = .read "readNext" c.path (.columnar fault)) := by
  cases r with
  | text r => cases h
  | columnar c =>
    refine ⟨c, rfl, ?_⟩
    simp only [fieldValue, Columnar.Cursor.fieldValue] at h
    split at h
    · rename_i hnil
      cases h
      exact .inl ⟨hnil, rfl⟩
    · split at h
      · cases h
      · split at h
        · cases h
        · rename_i hcell
          cases h
          exact .inr ⟨_, _, _, hcell, rfl⟩

theorem path_openSplit {format : Format} {fs : FileSystem} {split : Split}
    {settings : ReaderSettings} {r : SplitReader}
    (h : openSplit format fs split settings = .ok r) : r.path = split.path := by
  cases format with
  | text =>
    obtain ⟨r', hr, rfl⟩ := map_eq_ok h
    obtain ⟨handle, -, hr⟩ := bind_eq_ok hr
    dsimp only at hr
    split at hr
    · cases hr
    · cases hr
      rfl
  | columnar encoding =>
    obtain ⟨c, hc, rfl⟩ := map_eq_ok h
    obtain ⟨handle, -, hc⟩ := bind_eq_ok hc
    split at hc
    · cases hc
      rfl
    · cases hc

variable {r r' : SplitReader} {path : String}

theorem listing_of_advance_true (h : r.advance = (.ok true, r')) :
    r.listing path = .cons { path, cells := r'.fieldValue } (r'.listing path) := by
  rw [listing]
  split
  · simp_all
  · simp_all
  · simp_all

theorem listing_of_advance_false (h : r.advance = (.ok false, r')) :
    r.listing path = { records := [], failure := none } := by
  rw [listing]
  split <;> simp_all

theorem listing_of_advance_error {e : Error} (h : r.advance = (.error e, r')) :
    r.listing path = { records := [], failure := some { path, error := e } } := by
  rw [listing]
  split <;> simp_all

end SplitReader

namespace Scan

variable {t : Table} {fs : FileSystem} {splits : List Split}

/-- A reader of the split `index` of a scan that has `rest` to come. -/
structure Open (t : Table) (fs : FileSystem) (splits : List Split) (index : Nat)
    (reader : SplitReader) (values : List (Option String)) (rest : Listing) : Prop where
  values : values = Partition.resolve t.params.partitionColumns reader.path
  rest : rest = reader.listing reader.path ++ t.listing fs (splits.drop (index + 1))

/-- A position after `m` steps along a listing: on its record `m`, or at the end of it. -/
def Follows (t : Table) (fs : FileSystem) (splits : List Split) (R : Listing) (m : Nat)
    (p : Position) : Prop :=
  if m ≤ R.records.length then
    ∃ index reader values, p = .reading index reader values (0 < m) ∧
      Open t fs splits index reader values { R with records := R.records.drop m } ∧
      ∀ k, m = k + 1 → R.records[k]? = some { path := reader.path, cells := reader.fieldValue }
  else
    match R.failure with
    | none => p = .exhausted
    | some f => p = .failed f.path f.error.message

theorem listing_drop {index : Nat} {split : Split} (h : splits[index]? = some split) :
    t.listing fs (splits.drop index) =
      t.splitListing fs split ++ t.listing fs (splits.drop (index + 1)) := by
  obtain ⟨hlt, rfl⟩ := List.getElem?_eq_some_iff.1 h
  rw [List.drop_eq_getElem_cons hlt, Table.listing]

theorem stepFrom_eq (t : Table) (fs : FileSystem) (splits : List Split) (index : Nat)
    (reader : SplitReader) (values : List (Option String)) :
    stepFrom t fs splits index reader values =
      match reader.advance with
      | (.ok true, reader) => (.ok true, .reading index reader values true)
      | (.error e, reader) => (.error e, .failed reader.path e.message)
      | (.ok false, _) =>
        match splits[index + 1]? with
        | none => (.ok false, .exhausted)
        | some split =>
          match SplitReader.openSplit t.format fs split t.settings with
          | .error e => (.error e, .failed split.path e.message)
          | .ok reader => stepFrom t fs splits (index + 1) reader (partitionValues t split) := by
  rw [stepFrom]
  rcases reader.advance with ⟨e | _ | _, reader'⟩
  · rfl
  · dsimp only
    cases splits[index + 1]? <;> rfl
  · rfl

/-- A step of a reader goes onto the first record to come, or ends the scan. -/
theorem Open.stepFrom {index : Nat} {reader : SplitReader} {values : List (Option String)}
    {rest : Listing} (h : Open t fs splits index reader values rest) :
    (∃ index' reader' values' rest',
        Scan.stepFrom t fs splits index reader values =
          (.ok true, .reading index' reader' values' true) ∧
        rest = .cons { path := reader'.path, cells := reader'.fieldValue } rest' ∧
        Open t fs splits index' reader' values' rest') ∨
      (rest = { records := [], failure := none } ∧
        Scan.stepFrom t fs splits index reader values = (.ok false, .exhausted)) ∨
      ∃ f, rest = { records := [], failure := some f } ∧
        Scan.stepFrom t fs splits index reader values =
          (.error f.error, .failed f.path f.error.message) := by
  obtain ⟨hv, rfl⟩ := h
  fun_induction Scan.stepFrom t fs splits index reader values with
  | case1 index reader values reader' ha =>
    have hpath : reader'.path = reader.path := by simpa [ha] using reader.path_advance
    rw [SplitReader.listing_of_advance_true ha, Listing.cons_append, ← hpath]
    exact .inl ⟨_, _, _, _, rfl, rfl, by rw [hv, hpath], rfl⟩
  | case2 index reader values e reader' ha =>
    have hpath : reader'.path = reader.path := by simpa [ha] using reader.path_advance
    rw [SplitReader.listing_of_advance_error ha, Listing.failed_append, hpath]
    exact .inr (.inr ⟨_, rfl, rfl⟩)
  | case3 index reader values reader' ha hs =>
    have hnone : splits.drop (index + 1) = [] := by
      rw [List.drop_eq_nil_iff]
      exact List.getElem?_eq_none_iff.1 hs
    rw [SplitReader.listing_of_advance_false ha, Listing.nil_append, hnone]
    exact .inr (.inl ⟨rfl, rfl⟩)
  | case4 index reader values reader' ha split hs e ho =>
    rw [SplitReader.listing_of_advance_false ha, Listing.nil_append, listing_drop hs,
      Table.splitListing, ho]
    exact .inr (.inr ⟨_, rfl, rfl⟩)
  | case5 index reader values reader₁ ha split hs reader₂ ho ih =>
    have hpath := SplitReader.path_openSplit ho
    have := ih (by rw [hpath]; rfl)
    rw [SplitReader.listing_of_advance_false ha, Listing.nil_append, listing_drop hs,
      Table.splitListing, ho]
    simpa only [hpath] using this

variable {R : Listing} {m : Nat} {s : Scan}

theorem follows_openAt {position : Position} (h : openAt t fs splits 0 = .ok position) :
    Follows t fs splits (t.listing fs splits) 0 position := by
  unfold openAt at h
  split at h
  · rename_i split hs
    obtain ⟨reader, ho, rfl⟩ := map_eq_ok h
    have hpath := SplitReader.path_openSplit ho
    have hlisting : t.listing fs (splits.drop 0) = _ := listing_drop hs
    rw [List.drop_zero, Table.splitListing, ho] at hlisting
    rw [Follows, if_pos (Nat.zero_le _)]
    refine ⟨0, reader, partitionValues t split, by simp, ⟨by rw [hpath]; rfl, ?_⟩, by simp⟩
    rw [hpath]
    exact hlisting
  · cases h

/-- Configuring a scan takes it to the beginning of the listing of its splits. -/
theorem follows_configure {s' : Scan} (h : configure t fs s = (.ok (), s')) :
    Follows t fs s'.splits (t.listing fs s'.splits) 0 s'.position := by
  unfold configure at h
  split at h
  · cases h
  · split at h
    · cases h
    · rename_i ho
      cases h
      exact follows_openAt ho

theorem Follows.configured {p : Position} (h : Follows t fs splits R m p) :
    p ≠ .unconfigured ∧ p ≠ .closed := by
  unfold Follows at h
  split at h
  · obtain ⟨index, reader, values, rfl, -, -⟩ := h
    exact ⟨nofun, nofun⟩
  · split at h <;> (subst h; exact ⟨nofun, nofun⟩)

/-- A step along a listing answers as the listing says, and goes one further along it. -/
theorem Follows.advance (h : Follows t fs s.splits R m s.position) :
    (Scan.advance t fs s).1 = R.found m ∧
      (Scan.advance t fs s).2.splits = s.splits ∧
      Follows t fs s.splits R (m + 1) (Scan.advance t fs s).2.position := by
  unfold Follows at h
  split at h
  · rename_i hm
    obtain ⟨index, reader, values, hp, hopen, -⟩ := h
    have hadv : Scan.advance t fs s =
        ((Scan.stepFrom t fs s.splits index reader values).1,
          { s with position := (Scan.stepFrom t fs s.splits index reader values).2 }) := by
      simp only [Scan.advance, hp]
    rw [hadv]
    unfold Follows Listing.found
    obtain ⟨index', reader', values', rest', hstep, hrest, hopen'⟩ | ⟨hrest, hstep⟩ |
      ⟨f, hrest, hstep⟩ := hopen.stepFrom
    · simp only [Listing.cons, Listing.mk.injEq] at hrest
      obtain ⟨hdrop, hfail⟩ := hrest
      have hlt : m < R.records.length := by
        refine Nat.lt_of_not_le fun hle => ?_
        rw [List.drop_eq_nil_of_le hle] at hdrop
        cases hdrop
      rw [List.drop_eq_getElem_cons hlt, List.cons.injEq] at hdrop
      have hrest' : { R with records := R.records.drop (m + 1) } = rest' := by
        rw [hdrop.2, hfail]
      rw [hstep, if_pos hlt, if_pos (Nat.succ_le_of_lt hlt), hrest']
      refine ⟨rfl, rfl, index', reader', values', by simp, hopen', ?_⟩
      rintro k ⟨⟩
      rw [List.getElem?_eq_getElem hlt, hdrop.1]
    · simp only [Listing.mk.injEq, List.drop_eq_nil_iff] at hrest
      have hend : m = R.records.length := Nat.le_antisymm hm hrest.1
      rw [hstep, if_neg (by omega), if_neg (by omega)]
      simp only [hrest.2, and_self]
    · simp only [Listing.mk.injEq, List.drop_eq_nil_iff] at hrest
      have hend : m = R.records.length := Nat.le_antisymm hm hrest.1
      rw [hstep, if_neg (by omega), if_neg (by omega)]
      simp only [hrest.2, if_pos hend, and_self]
  · rename_i hm
    unfold Follows Listing.found
    rw [if_neg (by omega), if_neg (by omega)]
    cases hf : R.failure with
    | none =>
      simp only [hf] at h
      simp only [Scan.advance, h, and_self]
    | some f =>
      simp only [hf] at h
      simp only [Scan.advance, h, if_neg (show ¬ m = R.records.length by omega), and_self]

theorem Follows.currentRow (h : Follows t fs splits R m s.position) :
    Scan.currentRow t s = R.rowAt t m := by
  unfold Follows at h
  split at h
  · obtain ⟨index, reader, values, hp, hopen, hrec⟩ := h
    cases m with
    | zero => simp [Scan.currentRow, hp, Listing.rowAt]
    | succ m =>
      simp only [Scan.currentRow, hp, Listing.rowAt, hrec m rfl, Record.row, Nat.zero_lt_succ,
        decide_true]
      congr 1
      funext source
      cases source with
      | data i => rfl
      | partition place => rw [Scan.cell, hopen.values]
      | missing => rfl
  · rename_i hm
    have hnone : R.records[m - 1]? = none := by
      rw [List.getElem?_eq_none_iff]
      omega
    obtain ⟨k, rfl⟩ : ∃ k, m = k + 1 := ⟨m - 1, by omega⟩
    rw [Nat.add_sub_cancel] at hnone
    cases hf : R.failure with
    | none =>
      simp only [hf] at h
      simp only [Scan.currentRow, h, Listing.rowAt, hnone, hf]
    | some f =>
      simp only [hf] at h
      simp only [Scan.currentRow, h, Listing.rowAt, hnone, hf]

end Scan

end TableScan
