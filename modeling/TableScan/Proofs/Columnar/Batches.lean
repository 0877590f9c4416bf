import TableScan.Columnar.Cursor

/-!
# Batches do not show

What a decoded file holds, in the order of its batches, is a list of rows and of failures of whole
batches (`itemsOf`); empty batches are nothing of it. `Cursor.ahead` is the part of it that a cursor
has still to come to. A step takes the first item off and says all that it does (`advance_eq`), so
the state after any number of steps is read off the list (`after_eq`, `advance_after`), and two ways
to cut the same rows into batches cannot be told apart (`rows_whatever_batches`).
-/

namespace TableScan.Columnar

/-- The rows of some batches, and a failure for each batch that is one. -/
def itemsOf (batches : List (Except Fault (List CellRow))) : List (Except Fault CellRow) :=
  batches.flatMap fun
    | .ok rows => rows.map .ok
    | .error fault => [.error fault]

/-- The text of a cell of the file at `path`, or why it has none. -/
def shownCell (path : String) (type : ColumnType) (cell : Cell) : Except Error (Option String) :=
  (cellText type cell).mapError fun fault => .read "readNext" path (.columnar fault)

theorem itemsOf_ok (batches : List (List CellRow)) :
    itemsOf (batches.map .ok) = batches.flatten.map .ok := by
  induction batches with
  | nil => rfl
  | cons rows batches ih =>
    rw [List.flatten_cons, List.map_append, ← ih]
    rfl

namespace Cursor

/-- What a step answers, given the item that it comes to. -/
def found (path : String) : Option (Except Fault CellRow) → Except Error Bool
  | none => .ok false
  | some (.ok _) => .ok true
  | some (.error fault) => .error (.read "next" path (.columnar fault))

def rowOf? : Option (Except Fault CellRow) → Option CellRow
  | some (.ok row) => some row
  | _ => none

/-- The items that a cursor has still to come to. -/
def ahead (c : Cursor) : List (Except Fault CellRow) := c.current.tail.map .ok ++ itemsOf c.pending

def after (c : Cursor) (n : Nat) : Cursor := n.repeat (·.advance.2) c

variable {c : Cursor} {path : String} {schema : Schema}

theorem itemsOf_nextBatch (batches : List (Except Fault (List CellRow))) :
    match nextBatch batches with
    | (none, rest) => itemsOf batches = [] ∧ rest = []
    | (some (.ok rows), rest) => rows ≠ [] ∧ itemsOf batches = rows.map .ok ++ itemsOf rest
    | (some (.error fault), rest) => itemsOf batches = .error fault :: itemsOf rest := by
  fun_induction nextBatch batches with
  | case1 => exact ⟨rfl, rfl⟩
  | case2 rest ih => exact ih
  | case3 batch rest hne =>
    cases batch with
    | ok rows => exact ⟨fun hnil => hne (by rw [hnil]), rfl⟩
    | error fault => rfl

theorem advance_eq (c : Cursor) :
    c.advance.1 = found c.path c.ahead.head? ∧
      c.advance.2.current.head? = rowOf? c.ahead.head? ∧
      c.advance.2.ahead = c.ahead.tail ∧
      c.advance.2.path = c.path ∧ c.advance.2.schema = c.schema := by
  unfold advance ahead
  split
  · rename_i row rows hcurrent
    rw [hcurrent]
    exact ⟨rfl, rfl, rfl, rfl, rfl⟩
  · rename_i hlast
    -- the current row is the last of its batch, if there is one
    have htail : c.current.tail = [] := by
      rcases hcurrent : c.current with _ | ⟨row, _ | ⟨next, rows⟩⟩
      · rfl
      · rfl
      · exact absurd hcurrent (hlast row next rows)
    have hbatch := itemsOf_nextBatch c.pending
    rw [htail, List.map_nil, List.nil_append]
    split <;> rename_i hnext <;> rw [hnext] at hbatch
    · obtain ⟨hitems, rfl⟩ := hbatch
      rw [hitems]
      exact ⟨rfl, rfl, rfl, rfl, rfl⟩
    · obtain ⟨hne, hitems⟩ := hbatch
      obtain ⟨row, rows, rfl⟩ := List.exists_cons_of_ne_nil hne
      rw [hitems]
      exact ⟨rfl, rfl, rfl, rfl, rfl⟩
    · rw [hbatch]
      exact ⟨rfl, rfl, rfl, rfl, rfl⟩

theorem after_eq (c : Cursor) (n : Nat) :
    (c.after n).ahead = c.ahead.drop n ∧ (c.after n).path = c.path ∧
      (c.after n).schema = c.schema := by
  induction n with
  | zero => exact ⟨rfl, rfl, rfl⟩
  | succ n ih =>
    obtain ⟨hahead, hpath, hschema⟩ := ih
    obtain ⟨-, -, htail, hpath', hschema'⟩ := (c.after n).advance_eq
    have hstep : c.after (n + 1) = (c.after n).advance.2 := rfl
    rw [hstep, htail, hahead, List.tail_drop, hpath', hschema', hpath, hschema]
    exact ⟨rfl, rfl, rfl⟩

theorem advance_after (c : Cursor) (n : Nat) :
    (c.after n).advance.1 = found c.path c.ahead[n]? ∧
      (c.after (n + 1)).current.head? = rowOf? c.ahead[n]? := by
  obtain ⟨hahead, hpath, -⟩ := c.after_eq n
  obtain ⟨hfound, hrow, -⟩ := (c.after n).advance_eq
  rw [hahead, List.head?_drop] at hfound hrow
  rw [hpath] at hfound
  exact ⟨hfound, hrow⟩

theorem fieldValue_of_head? {row : CellRow} (h : c.current.head? = some row) :
    (∀ i name type, c.schema[i]? = some (name, type) →
        c.fieldValue i = shownCell c.path type (row[i]?.getD .null)) ∧
      ∀ i, c.schema.length ≤ i → c.fieldValue i = .ok none := by
  obtain ⟨rows, hcurrent⟩ := List.head?_eq_some_iff.1 h
  refine ⟨fun i name type hcolumn => ?_, fun i hi => ?_⟩
  · simp only [fieldValue, hcurrent, hcolumn, shownCell]
    cases cellText type (row[i]?.getD .null) <;> rfl
  · simp only [fieldValue, hcurrent, List.getElem?_eq_none hi]

theorem fieldValue_of_head?_eq_none (h : c.current.head? = none) (i : Nat) :
    c.fieldValue i = .error (.state (.noCurrentRow c.path)) := by
  rw [List.head?_eq_none_iff] at h
  rw [fieldValue, h]

theorem fieldValue_congr {c' : Cursor} (path : c.path = c'.path) (schema : c.schema = c'.schema)
    (row : c.current.head? = c'.current.head?) (i : Nat) : c.fieldValue i = c'.fieldValue i := by
  unfold fieldValue
  rcases hc : c.current with _ | ⟨_, _⟩ <;> rcases hc' : c'.current with _ | ⟨_, _⟩ <;>
    rw [hc, hc'] at row <;> cases row <;> simp only [path, schema]

/-! ### Batches that can all be computed -/

/-- A cursor before the first of some batches. -/
def ofBatches (path : String) (schema : Schema) (batches : List (List CellRow)) : Cursor :=
  ofSource path { schema, batches := batches.map .ok }

/-- The row on which a cursor stands after some steps along rows. -/
def rowAfter? (rows : List CellRow) : (n : Nat) → Option CellRow
  | 0 => none
  | n + 1 => rows[n]?

section Batches

variable (path : String) (schema : Schema) (batches : List (List CellRow)) (n : Nat)

theorem ahead_ofBatches : (ofBatches path schema batches).ahead = batches.flatten.map .ok :=
  itemsOf_ok batches

theorem advance_after_ofBatches :
    ((ofBatches path schema batches).after n).advance.1 =
      .ok (decide (n < batches.flatten.length)) := by
  obtain ⟨hfound, -⟩ := (ofBatches path schema batches).advance_after n
  rw [hfound, ahead_ofBatches, List.getElem?_map]
  by_cases hn : n < batches.flatten.length
  · rw [List.getElem?_eq_getElem hn, decide_eq_true hn]
    rfl
  · rw [List.getElem?_eq_none (Nat.le_of_not_lt hn), decide_eq_false hn]
    rfl

theorem head?_after_ofBatches :
    ((ofBatches path schema batches).after n).current.head? = rowAfter? batches.flatten n := by
  cases n with
  | zero => rfl
  | succ n =>
    obtain ⟨-, hrow⟩ := (ofBatches path schema batches).advance_after n
    rw [hrow, ahead_ofBatches, List.getElem?_map, rowAfter?]
    cases batches.flatten[n]? <;> rfl

end Batches

/-- However the rows of a file are cut into batches, a cursor on them steps onto each row once, in
their order, and then finds no more. On a row it gives the texts of its cells, and nulls beyond the
last column; before the first row and behind the last it has none to give. -/
theorem rows_whatever_batches (path : String) (schema : Schema) (batches : List (List CellRow)) :
    let c := ofBatches path schema batches
    let rows := batches.flatten
    (∀ n, (c.after n).advance.1 = .ok (decide (n < rows.length))) ∧
      (∀ n row, rows[n]? = some row →
        (∀ i name type, schema[i]? = some (name, type) →
          (c.after (n + 1)).fieldValue i = shownCell path type (row[i]?.getD .null)) ∧
        ∀ i, schema.length ≤ i → (c.after (n + 1)).fieldValue i = .ok none) ∧
      (∀ n, n = 0 ∨ rows.length < n → ∀ i,
        (c.after n).fieldValue i = .error (.state (.noCurrentRow path))) ∧
      ∀ batches' : List (List CellRow), batches'.flatten = rows →
        let c' := ofBatches path schema batches'
        ∀ n, (c.after n).advance.1 = (c'.after n).advance.1 ∧
          ∀ i, (c.after n).fieldValue i = (c'.after n).fieldValue i := by
  intro c rows
  have hstands := head?_after_ofBatches path schema batches
  have hsame (n : Nat) : (c.after n).path = path ∧ (c.after n).schema = schema :=
    (c.after_eq n).2
  refine ⟨advance_after_ofBatches path schema batches, fun n row hrow => ?_, fun n hn i => ?_,
    fun batches' hflatten n => ⟨?_, fun i => ?_⟩⟩
  · obtain ⟨hcells, hbeyond⟩ := fieldValue_of_head? ((hstands (n + 1)).trans hrow)
    rw [(hsame (n + 1)).1, (hsame (n + 1)).2] at hcells
    rw [(hsame (n + 1)).2] at hbeyond
    exact ⟨hcells, hbeyond⟩
  · have hnone : rowAfter? rows n = none := by
      cases n with
      | zero => rfl
      | succ n => exact List.getElem?_eq_none (by omega)
    rw [fieldValue_of_head?_eq_none ((hstands n).trans hnone), (hsame n).1]
  · rw [advance_after_ofBatches, advance_after_ofBatches, hflatten]
  · obtain ⟨-, hpath, hschema⟩ := (ofBatches path schema batches').after_eq n
    refine fieldValue_congr ((hsame n).1.trans hpath.symm) ((hsame n).2.trans hschema.symm) ?_ i
    rw [hstands, head?_after_ofBatches, hflatten]

/-- Three rows, with empty batches before, between and behind them. -/
theorem rows_whatever_batches_of_empty_ones :
    let schema : Schema := [("id", .integer .w64), ("name", .text)]
    let first : CellRow := [.integer 1, .text "a"]
    let second : CellRow := [.integer 2, .null]
    let third : CellRow := [.integer 3, .text "c"]
    let c := ofBatches "/t/a" schema [[], [first, second], [], [], [third], []]
    let c' := ofBatches "/t/a" schema [[first, second, third]]
    (c.after 2).advance.1 = .ok true ∧ (c.after 3).advance.1 = .ok false ∧
      (c.after 2).fieldValue 1 = .ok none ∧ (c.after 3).fieldValue 1 = .ok (some "c") ∧
      (c.after 3).fieldValue 2 = .ok none ∧
      (c.after 0).fieldValue 0 = .error (.state (.noCurrentRow "/t/a")) ∧
      (c.after 4).fieldValue 0 = .error (.state (.noCurrentRow "/t/a")) ∧
      (c'.after 3).fieldValue 1 = .ok (some "c") := by
  intro schema first second third c c'
  obtain ⟨hfound, hrows, hnone, hsame⟩ := rows_whatever_batches "/t/a" schema
    [[], [first, second], [], [], [third], []]
  obtain ⟨hsecond, -⟩ := hrows 1 second rfl
  obtain ⟨hthird, hbeyond⟩ := hrows 2 third rfl
  have htext : (c.after 3).fieldValue 1 = .ok (some "c") := by
    refine (hthird 1 "name" .text rfl).trans ?_
    show shownCell "/t/a" .text (.text "c") = _
    rw [shownCell, cellText, toJson]
    rfl
  have hnull : (c.after 2).fieldValue 1 = .ok none := by
    refine (hsecond 1 "name" .text rfl).trans ?_
    show shownCell "/t/a" .text .null = _
    rw [shownCell, cellText, toJson]
    · rfl
    · nofun
  exact ⟨hfound 2, hfound 3, hnull, htext, hbeyond 2 (by decide), hnone 0 (.inl rfl) 0,
    hnone 4 (.inr (by decide)) 0, ((hsame [[first, second, third]] rfl 3).2 1).symm.trans htext⟩

end Cursor

end TableScan.Columnar
