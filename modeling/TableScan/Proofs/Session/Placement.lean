import TableScan.Proofs.Impersonation.Exchange
import TableScan.Proofs.Scan.Openings
import TableScan.Proofs.Session.Draining
import TableScan.Proofs.Session.UnshownRow
import TableScan.Proofs.Session.Withheld

/-!
# Where a session stands

Any calls may be made on a session in any order, the files may change from call to call, and its
identity may do what it likes. Whatever comes of that, each call runs its action once or not at
all, and so the scan stays in turn (`inTurn_along`): the open split is the one at its index, with
its path and its values, and the splits opened so far are the first ones of the list. A scan that
has been configured keeps its splits, and one that has no open split any more opens none again
(`over_along`).
-/

namespace TableScan

/-- A call with notes leaves the scan where it leaves it without, and notes what was opened if the
action was done. -/
theorem Conduct.run_noting {α : Type} (opens : Scan → List Nat)
    (action : Scan → Except Error α × Scan) (scan : Scan) (notes : List Nat) (c : Conduct) :
    ((c.run action scan).2 = scan ∧ (c.run (Scan.noting opens action) (scan, notes)).2.2 = notes) ∨
      ((c.run action scan).2 = (action scan).2 ∧
        (c.run (Scan.noting opens action) (scan, notes)).2.2 = notes ++ opens scan) := by
  cases c with
  | finish result => cases result <;> exact .inl ⟨rfl, rfl⟩
  | invoke next => exact .inr ⟨rfl, rfl⟩

theorem Position.exists_of_isOnRecord {p : Position} (h : p.isOnRecord = true) :
    ∃ index reader values, p = .reading index reader values true := by
  cases p with
  | reading index reader values positioned =>
    cases h
    exact ⟨index, reader, values, rfl⟩
  | _ => cases h

theorem LogicalSchema.lt_of_mem_plan {s : LogicalSchema} {projection : Option (List Nat)}
    {place : Nat} (h : .partition place ∈ s.plan projection) :
    place < s.partitionColumns.length := by
  obtain ⟨i, -, hi⟩ := List.mem_map.1 h
  unfold sourceOf at hi
  split at hi
  · cases hi
  · split at hi
    · cases hi
      assumption
    · cases hi

theorem Phase.exists_of_reported {α : Type} {phase : Phase} {op location : String}
    {result : Except Error α} {e : Error} (h : phase.reported op location result = .error e) :
    ∃ e', result = .error e' ∧ phase.report op location e' = e := by
  cases result with
  | ok a => cases h
  | error e' => exact ⟨e', rfl, Except.error.inj h⟩

theorem Phase.eq_of_isState {phase : Phase} {op location : String} {e : Error}
    (h : (phase.report op location e).isState = true) : phase.report op location e = e := by
  cases hadmits : phase.admits e with
  | true => exact Phase.report_of_admits hadmits
  | false =>
    have hown : phase.isOwn (phase.report op location e) = true :=
      (Phase.report_of_not_admits hadmits).1
    cases hr : phase.report op location e with
    | state fault => cases phase <;> simp [hr, Phase.isOwn, Error.isConfig, Error.isRead] at hown
    | _ => simp [hr, Error.isState] at h

theorem Phase.eq_error_of_isState {α : Type} {phase : Phase} {op location : String}
    {result : Except Error α} {e : Error} (h : phase.reported op location result = .error e)
    (hs : e.isState = true) : result = .error e := by
  obtain ⟨e', rfl, rfl⟩ := Phase.exists_of_reported h
  rw [Phase.eq_of_isState hs]

theorem Scan.isState_of_currentRow {t : Table} {s : Scan} {index : Nat} {reader : SplitReader}
    {values : List (Option String)} (hp : s.position = .reading index reader values true)
    (on : reader.HasRecord) : ∀ e, currentRow t s = .error e → e.isState = false := by
  intro e h
  unfold currentRow at h
  rw [hp] at h
  obtain ⟨source, -, hcell⟩ := exists_of_mapM_eq_error h
  cases source with
  | data i => exact SplitReader.isState_eq_false on hcell
  | partition place => cases hcell
  | missing => cases hcell

namespace Session

variable {t : Table} {identity : Identity} {fs : FileSystem} {s : Session} {op : Operation}
  {notes : List Nat} {e : Error} {calls more : List (FileSystem × Operation)}

/-- The session after calls, each on the files as they are at the time. -/
def along (s : Session) (calls : List (FileSystem × Operation)) : Session :=
  calls.foldl (fun s call => s.perform call.1 call.2) s

/-- The notes of opened splits after a call, given those before it. -/
def note (fs : FileSystem) (s : Session) (notes : List Nat) : Operation → List Nat
  | .configure =>
    match s.scan.position with
    | .unconfigured =>
      (s.conduct.run (Scan.noting (Scan.opensAtConfigure s.table fs) (Scan.configure s.table fs))
        (s.scan, notes)).2.2
    | _ => notes
  | .reachedEnd =>
    (s.conduct.run (Scan.noting (Scan.opensAtAdvance s.table fs) (Scan.advance s.table fs))
      (s.scan, notes)).2.2
  | .readNext => notes
  | .close => notes

def noteAll (s : Session) (notes : List Nat) : List (FileSystem × Operation) → List Nat
  | [] => notes
  | (fs, op) :: calls => (s.perform fs op).noteAll (s.note fs notes op) calls

theorem along_append (s : Session) (calls more : List (FileSystem × Operation)) :
    s.along (calls ++ more) = (s.along calls).along more := List.foldl_append

theorem noteAll_append (s : Session) (notes : List Nat)
    (calls more : List (FileSystem × Operation)) :
    s.noteAll notes (calls ++ more) = (s.along calls).noteAll (s.noteAll notes calls) more := by
  induction calls generalizing s notes with
  | nil => rfl
  | cons call calls ih => exact ih _ _

theorem table_along (s : Session) (calls : List (FileSystem × Operation)) :
    (s.along calls).table = s.table := by
  induction calls generalizing s with
  | nil => rfl
  | cons call calls ih => exact (ih _).trans (table_perform call.1 s call.2)

/-! ### One call -/

theorem scan_close (s : Session) : s.close.2.scan = s.scan.close := by
  unfold close
  split
  · rename_i hp
    rw [Scan.close, ← hp]
  · rw [call_eq]
    show (s.conduct.run _ s.scan).2.close = s.scan.close
    cases s.conduct with
    | finish result => cases result <;> rfl
    | invoke next => rfl

theorem configure_of_configured (h : s.scan.position ≠ .unconfigured) :
    (s.configure fs).2 = s := by
  unfold configure
  split
  · contradiction
  · rfl
  · rfl

/-- All that a call can do to the scan and to the notes. -/
theorem scan_perform_cases (fs : FileSystem) (s : Session) (notes : List Nat) (op : Operation) :
    ((s.perform fs op).scan = s.scan ∧ s.note fs notes op = notes) ∨
    (s.scan.position = .unconfigured ∧
      (s.perform fs op).scan = (Scan.configure s.table fs s.scan).2 ∧
      s.note fs notes op = notes ++ Scan.opensAtConfigure s.table fs s.scan) ∨
    ((s.perform fs op).scan = (Scan.advance s.table fs s.scan).2 ∧
      s.note fs notes op = notes ++ Scan.opensAtAdvance s.table fs s.scan) ∨
    (s.perform fs op).scan = s.scan.close ∧ s.note fs notes op = notes := by
  cases op with
  | configure =>
    by_cases hp : s.scan.position = .unconfigured
    · have hs : (s.perform fs .configure).scan =
          (s.conduct.run (Scan.configure s.table fs) s.scan).2 := by
        rw [perform, configure_of_unconfigured hp]
        rfl
      simp only [hs, note, hp]
      rcases s.conduct.run_noting (Scan.opensAtConfigure s.table fs) (Scan.configure s.table fs)
        s.scan notes with h | h
      · exact .inl h
      · exact .inr (.inl ⟨trivial, h⟩)
    · refine .inl ⟨congrArg scan (configure_of_configured hp), ?_⟩
      simp only [note]
  | reachedEnd =>
    rcases s.conduct.run_noting (Scan.opensAtAdvance s.table fs) (Scan.advance s.table fs)
      s.scan notes with h | h
    · exact .inl h
    · exact .inr (.inr (.inl h))
  | readNext => exact .inl ⟨scan_readNext s, rfl⟩
  | close => exact .inr (.inr (.inr ⟨scan_close s, rfl⟩))

theorem inTurn_perform (h : Scan.InTurn s.table s.scan notes) (fs : FileSystem) (op : Operation) :
    Scan.InTurn s.table (s.perform fs op).scan (s.note fs notes op) := by
  rcases s.scan_perform_cases fs notes op with ⟨hs, hn⟩ | ⟨hp, hs, hn⟩ | ⟨hs, hn⟩ | ⟨hs, hn⟩
  · rwa [hs, hn]
  · rw [hs, hn]
    exact h.configure hp
  · rw [hs, hn]
    exact h.advance
  · rw [hs, hn]
    exact h.close

theorem splits_perform (h : s.scan.position ≠ .unconfigured) (fs : FileSystem) (op : Operation) :
    (s.perform fs op).scan.splits = s.scan.splits ∧
      (s.perform fs op).scan.position ≠ .unconfigured := by
  rcases s.scan_perform_cases fs [] op with ⟨hs, -⟩ | ⟨hp, -⟩ | ⟨hs, -⟩ | ⟨hs, -⟩
  · rw [hs]
    exact ⟨rfl, h⟩
  · contradiction
  · rw [hs]
    exact ⟨Scan.splits_advance .., Scan.position_advance_ne h⟩
  · rw [hs]
    exact ⟨rfl, nofun⟩

theorem fileName_eq_none_iff : s.fileName = none ↔ s.scan.position.reader? = none :=
  Option.map_eq_none_iff

theorem over_perform (h : s.scan.position ≠ .unconfigured) (shut : s.fileName = none)
    (fs : FileSystem) (notes : List Nat) (op : Operation) :
    (s.perform fs op).fileName = none ∧ s.note fs notes op = notes := by
  rw [fileName_eq_none_iff] at shut ⊢
  rcases s.scan_perform_cases fs notes op with ⟨hs, hn⟩ | ⟨hp, -⟩ | ⟨hs, hn⟩ | ⟨hs, hn⟩
  · rw [hs, hn]
    exact ⟨shut, rfl⟩
  · contradiction
  · obtain ⟨hstays, hnone⟩ := Scan.advance_of_reader?_eq_none s.table fs shut
    rw [hs, hn, hstays, hnone]
    exact ⟨shut, List.append_nil _⟩
  · rw [hs, hn]
    exact ⟨rfl, rfl⟩

/-! ### Runs -/

theorem inTurn_along (h : Scan.InTurn s.table s.scan notes)
    (calls : List (FileSystem × Operation)) :
    Scan.InTurn s.table (s.along calls).scan (s.noteAll notes calls) := by
  induction calls generalizing s notes with
  | nil => exact h
  | cons call calls ih =>
    obtain ⟨fs, op⟩ := call
    have := inTurn_perform h fs op
    rw [← table_perform fs s op] at this ⊢
    exact ih this

theorem splits_along (h : s.scan.position ≠ .unconfigured)
    (calls : List (FileSystem × Operation)) :
    (s.along calls).scan.splits = s.scan.splits := by
  induction calls generalizing s with
  | nil => rfl
  | cons call calls ih =>
    obtain ⟨hsplits, hp⟩ := splits_perform h call.1 call.2
    exact (ih hp).trans hsplits

theorem over_along (h : s.scan.position ≠ .unconfigured) (shut : s.fileName = none)
    (notes : List Nat) (calls : List (FileSystem × Operation)) :
    (s.along calls).fileName = none ∧ s.noteAll notes calls = notes := by
  induction calls generalizing s notes with
  | nil => exact ⟨shut, rfl⟩
  | cons call calls ih =>
    obtain ⟨hname, hnote⟩ := over_perform h shut call.1 notes call.2
    obtain ⟨hlast, hnotes⟩ := ih (splits_perform h call.1 call.2).2 hname notes
    refine ⟨hlast, ?_⟩
    rw [noteAll, hnote, hnotes]

/-! ### Rows -/

/-- A call out of turn that `readNext` reports although the row is not is the identity's own. -/
theorem exchange_of_readNext
    (hrow : ∀ e', Scan.currentRow s.table s.scan = .error e' → e'.isState = false)
    (h : s.readNext.1 = .error e) (hs : e.isState = true) :
    ∃ reports, s.conduct.Exchange reports (.error e) ∧
      ∀ e', .error e' ∈ reports → e'.isState = false := by
  rw [readNext, call_eq] at h
  obtain ⟨reports, hexchange, honce⟩ :=
    Conduct.exists_claim_of_isState (Phase.eq_error_of_isState h hs) hs
  refine ⟨reports, hexchange, fun e' hmem => ?_⟩
  cases own : e'.isState with
  | true => rw [← own, hrow e' (map_eq_error (honce.eq_of_mem hmem own))]
  | false => rfl

/-! ### The invariant -/

/-- The open split of a session is in its place, whatever calls were made on whatever files and
under whatever identity. It is the one at its index, and its values are those of its path, one for
each partition column. On a record, a row is out of turn only if the identity says so itself. The
splits are opened one after the other from the first, they stay once they are listed, and a session
without an open split opens none any more. -/
theorem open_split_is_in_its_place (t : Table) (identity : Identity)
    (calls : List (FileSystem × Operation)) :
    let s := (ofTable t identity).along calls
    let opened := (ofTable t identity).noteAll [] calls
    (∀ index reader values positioned,
      s.scan.position = .reading index reader values positioned →
        (∃ split, s.scan.splits[index]? = some split ∧ reader.path = split.path ∧
          values = Partition.resolve t.params.partitionColumns split.path) ∧
        values.length = t.params.partitionColumns.length ∧
        (∀ place, .partition place ∈ t.plan → place < values.length) ∧
        (positioned = true → reader.HasRecord ∧
          (∀ e, Scan.currentRow t s.scan = .error e → e.isState = false) ∧
          ∀ e, s.readNext.1 = .error e → e.isState = true →
            ∃ reports, s.conduct.Exchange reports (.error e) ∧
              ∀ e', .error e' ∈ reports → e'.isState = false)) ∧
    (∃ n, opened = List.range n ∧ n ≤ s.scan.splits.length ∧
      ∀ index reader values positioned,
        s.scan.position = .reading index reader values positioned → n = index + 1) ∧
    (s.scan.position ≠ .unconfigured → ∀ more, (s.along more).scan.splits = s.scan.splits ∧
      (s.fileName = none → (s.along more).fileName = none ∧
        (ofTable t identity).noteAll [] (calls ++ more) = opened)) := by
  intro s opened
  have htable : s.table = t := table_along (ofTable t identity) calls
  have hturn : Scan.InTurn t s.scan opened :=
    inTurn_along (s := ofTable t identity) ⟨0, rfl, .unconfigured⟩ calls
  obtain ⟨n, hopened, hstands⟩ := hturn
  refine ⟨?_, ⟨n, hopened, hstands.le, ?_⟩, ?_⟩
  · intro index reader values positioned hp
    rw [hp] at hstands
    cases hstands with
    | reading hon =>
      refine ⟨hon.split, hon.length_values, ?_, ?_⟩
      · intro place hplace
        rw [hon.length_values]
        exact LogicalSchema.lt_of_mem_plan hplace
      · rintro rfl
        have hrow := Scan.isState_of_currentRow (t := t) hp (hon.record rfl)
        refine ⟨hon.record rfl, hrow, fun e => exchange_of_readNext ?_⟩
        rw [htable]
        exact hrow
  · intro index reader values positioned hp
    rw [hp] at hstands
    cases hstands
    rfl
  · intro hp more
    refine ⟨splits_along hp more, fun hover => ?_⟩
    rw [noteAll_append]
    exact over_along hp hover opened more

/-- Onto the record of the second split, past the two records of the first. -/
def ontoSecondSplit : List (FileSystem × Operation) :=
  [.configure, .reachedEnd, .reachedEnd, .readNext, .reachedEnd].map (threeFiles.fileSystem, ·)

theorem open_split_is_in_its_place_of_three_files :
    (∃ reader values split,
      ((ofTable twoColumns .current).along ontoSecondSplit).scan.position =
        .reading 1 reader values true ∧
      ((ofTable twoColumns .current).along ontoSecondSplit).scan.splits[1]? = some split ∧
      reader.path = split.path ∧ reader.HasRecord) ∧
      (ofTable twoColumns .current).noteAll [] ontoSecondSplit = [0, 1] ∧
      ∀ more, (ofTable twoColumns .current).noteAll []
        ((ontoSecondSplit ++ [(threeFiles.fileSystem, .close)]) ++ more) = [0, 1] := by
  obtain ⟨hplace, ⟨n, hrange, -, hlast⟩, -⟩ :=
    open_split_is_in_its_place twoColumns .current ontoSecondSplit
  obtain ⟨-, -, hover⟩ := open_split_is_in_its_place twoColumns .current
    (ontoSecondSplit ++ [(threeFiles.fileSystem, .close)])
  have hopened : (ofTable twoColumns .current).noteAll [] ontoSecondSplit = [0, 1] := by
    decide +kernel
  have hread : ((ofTable twoColumns .current).along ontoSecondSplit).scan.position.isOnRecord =
    true := by decide +kernel
  obtain ⟨index, reader, values, hp⟩ := Position.exists_of_isOnRecord hread
  obtain rfl : index = 1 := by
    have := congrArg List.length (hopened.symm.trans hrange)
    rw [List.length_range, hlast index reader values true hp] at this
    exact (Nat.succ.inj this).symm
  obtain ⟨⟨split, hs, hpath, -⟩, -, -, hrecord⟩ := hplace 1 reader values true hp
  refine ⟨⟨reader, values, split, hp, hs, hpath, (hrecord rfl).1⟩, hopened, fun more => ?_⟩
  have hclosed : ((ofTable twoColumns .current).along
      (ontoSecondSplit ++ [(threeFiles.fileSystem, .close)])).scan.position = .closed := by
    rw [along_append]
    exact congrArg Scan.position (scan_close _)
  obtain ⟨-, hnever⟩ := hover (by rw [hclosed]; nofun) more
  rw [(hnever (by rw [fileName, hclosed]; rfl)).2]
  decide +kernel

/-- An identity that runs two calls, and reports any later one as out of turn. -/
def endsAfterTwo : Identity := fun earlier _ =>
  if earlier.length < 2 then .once else .finish (.error (.state (.other "login session ended")))

/-- It is not so that no record is ever reported as out of turn. -/
theorem record_out_of_turn_by_identity :
    let s := (ofTable twoColumns endsAfterTwo).along
      [(threeFiles.fileSystem, .configure), (threeFiles.fileSystem, .reachedEnd)]
    s.scan.position.isOnRecord = true ∧
      s.readNext.1 = .error (.state (.other "login session ended")) := by
  intro s
  have hcalls : s.impersonation.calls.length = 2 := by decide +kernel
  have hconduct : s.conduct = .finish (.error (.state (.other "login session ended"))) := by
    show endsAfterTwo s.impersonation.calls s.impersonation.credentials = _
    rw [endsAfterTwo, if_neg (by omega)]
  refine ⟨by decide +kernel, ?_⟩
  rw [readNext, call_eq, hconduct]
  rfl

end Session

end TableScan
