import TableScan.Proofs.Session.Closing

/-!
# Accounting

The identity is handed the credentials of the table once for every operation that acts: for each
`reachedEnd` and `readNext`, for each `configure` of a session that is not configured, and for the
first `close`. Every other operation has nothing left to do, and leaves the session as it is
(`perform_of_not_asks`). So the number of calls is read off a run (`timesAsked_eq`), though which
`configure` counts depends on what the earlier ones have come to. These calls are all that an
identity has a say in: one that goes on otherwise after them makes no difference to what is seen
(`GoesAlong.observed`).
-/

namespace TableScan

namespace Position

def isUnconfigured : Position → Bool
  | unconfigured => true
  | _ => false

def isClosed : Position → Bool
  | closed => true
  | _ => false

variable {p : Position}

theorem isUnconfigured_iff : p.isUnconfigured = true ↔ p = .unconfigured := by
  cases p <;> simp [isUnconfigured]

theorem isClosed_iff : p.isClosed = true ↔ p = .closed := by
  cases p <;> simp [isClosed]

end Position

theorem Conduct.run_keeps {σ α : Type} {action : σ → Except Error α × σ} {s : σ} {P : σ → Prop}
    (before : P s) (after : P (action s).2) (c : Conduct) : P (c.run action s).2 := by
  cases c with
  | finish result => cases result <;> exact before
  | invoke next => exact after

namespace Scan

variable {t : Table} {fs : FileSystem} {s : Scan}

theorem isClosed_configure (h : s.position.isClosed = false) :
    (configure t fs s).2.position.isClosed = false := by
  unfold configure
  split
  · exact h
  · rename_i splits hsplits
    split
    · exact h
    · rename_i position hopen
      unfold openAt at hopen
      split at hopen
      · obtain ⟨reader, -, rfl⟩ := map_eq_ok hopen
        rfl
      · cases hopen

theorem isClosed_stepFrom (t : Table) (fs : FileSystem) (splits : List Split) (index : Nat)
    (reader : SplitReader) (values : List (Option String)) :
    (stepFrom t fs splits index reader values).2.isClosed = false := by
  fun_induction stepFrom t fs splits index reader values with
  | case5 index reader values reader₁ ha split hs reader₂ ho ih => exact ih
  | _ => rfl

theorem isClosed_advance (h : s.position.isClosed = false) :
    (advance t fs s).2.position.isClosed = false := by
  unfold advance
  split
  · exact h
  · exact h
  · exact h
  · exact h
  · exact isClosed_stepFrom ..

end Scan

namespace Session

variable {s s₁ s₂ : Session} {op : Operation} {n : Nat}

/-! ### One operation -/

/-- The operation calls the identity. -/
def asks (s : Session) : Operation → Bool
  | .configure => s.scan.position.isUnconfigured
  | .reachedEnd => true
  | .readNext => true
  | .close => !s.scan.position.isClosed

theorem perform_of_not_asks (h : s.asks op = false) (fs : FileSystem) : s.perform fs op = s := by
  cases op with
  | configure =>
    refine configure_of_configured fun hp => ?_
    rw [asks, Position.isUnconfigured_iff.2 hp] at h
    cases h
  | reachedEnd => cases h
  | readNext => cases h
  | close =>
    rw [asks, Bool.not_eq_false', Position.isClosed_iff] at h
    exact congrArg Prod.snd (close_of_closed h)

theorem exists_perform_of_asks (h : s.asks op = true) (fs : FileSystem) :
    ∃ scan, s.perform fs op = s.called scan := by
  cases op with
  | configure =>
    rw [asks, Position.isUnconfigured_iff] at h
    rw [perform, configure_of_unconfigured h]
    exact ⟨_, rfl⟩
  | reachedEnd => exact ⟨_, rfl⟩
  | readNext => exact ⟨_, rfl⟩
  | close =>
    simp only [perform, close]
    split
    · rename_i hp
      rw [asks, Position.isClosed_iff.2 hp] at h
      cases h
    · exact ⟨_, rfl⟩

theorem answer_of_not_asks (scan : s₁.scan = s₂.scan) (h : s₁.asks op = false) (fs : FileSystem) :
    s₁.answer fs op = s₂.answer fs op := by
  cases op with
  | configure =>
    simp only [answer, configure, ← scan]
    split
    · rename_i hp
      rw [asks, hp] at h
      cases h
    · rfl
    · rfl
  | reachedEnd => cases h
  | readNext => cases h
  | close =>
    have hp : s₁.scan.position = .closed := by
      rwa [asks, Bool.not_eq_false', Position.isClosed_iff] at h
    simp only [answer, close_of_closed hp, close_of_closed (scan ▸ hp)]

theorem isClosed_perform (s : Session) (fs : FileSystem) (op : Operation) :
    (s.perform fs op).scan.position.isClosed = (s.scan.position.isClosed || op = .close) := by
  cases hs : s.scan.position.isClosed with
  | true =>
    rw [scan_perform_of_closed (Position.isClosed_iff.1 hs), hs]
    rfl
  | false =>
    cases op with
    | configure =>
      cases hasks : s.asks .configure with
      | true =>
        rw [perform, configure_of_unconfigured (Position.isUnconfigured_iff.1 hasks), call_eq]
        exact s.conduct.run_keeps (P := fun scan : Scan => scan.position.isClosed = false) hs
          (Scan.isClosed_configure hs)
      | false =>
        rw [perform_of_not_asks hasks, hs]
        rfl
    | reachedEnd =>
      exact s.conduct.run_keeps (P := fun scan : Scan => scan.position.isClosed = false) hs
        (Scan.isClosed_advance hs)
    | readNext =>
      exact (congrArg (·.position.isClosed) (scan_readNext s)).trans hs
    | close => exact Position.isClosed_iff.2 (position_close s)

/-! ### Runs -/

def timesAsked (s : Session) : List (FileSystem × Operation) → Nat
  | [] => 0
  | (fs, op) :: calls => (s.asks op).toNat + (s.perform fs op).timesAsked calls

/-- How many operations of a run configure a session that is not configured at the time. -/
def freshConfigures (s : Session) : List (FileSystem × Operation) → Nat
  | [] => 0
  | (fs, op) :: calls =>
    (if op = .configure ∧ s.scan.position.isUnconfigured then 1 else 0) +
      (s.perform fs op).freshConfigures calls

/-- All credentials that the identity is handed in a run are those of the session. -/
theorem calls_along (s : Session) (calls : List (FileSystem × Operation)) :
    (s.along calls).impersonation.calls =
      List.replicate (s.timesAsked calls) s.impersonation.credentials ++
        s.impersonation.calls := by
  induction calls generalizing s with
  | nil => rfl
  | cons call calls ih =>
    obtain ⟨fs, op⟩ := call
    rw [timesAsked]
    show ((s.perform fs op).along calls).impersonation.calls = _
    rw [ih]
    cases h : s.asks op with
    | true =>
      obtain ⟨scan, hscan⟩ := exists_perform_of_asks h fs
      rw [hscan, Bool.toNat_true, Nat.add_comm, List.replicate_succ', List.append_assoc]
      rfl
    | false => rw [perform_of_not_asks h, Bool.toNat_false, Nat.zero_add]

/-- How often the identity is asked, read off the operations of a run. -/
theorem timesAsked_eq (s : Session) (calls : List (FileSystem × Operation)) :
    s.timesAsked calls =
      s.freshConfigures calls + (calls.map (·.2)).count .reachedEnd +
        (calls.map (·.2)).count .readNext +
        if s.scan.position.isClosed = false ∧ .close ∈ calls.map (·.2) then 1 else 0 := by
  induction calls generalizing s with
  | nil => simp [timesAsked, freshConfigures]
  | cons call calls ih =>
    obtain ⟨fs, op⟩ := call
    rw [timesAsked, freshConfigures, ih, isClosed_perform, List.map_cons]
    generalize calls.map (·.2) = ops
    cases op with
    | configure =>
      cases hp : s.scan.position.isUnconfigured with
      | true =>
        simp [asks, hp]
        omega
      | false => simp [asks, hp]
    | reachedEnd => simp [asks]; omega
    | readNext => simp [asks]; omega
    | close =>
      cases hp : s.scan.position.isClosed with
      | true => simp [asks, hp]
      | false =>
        simp [asks, hp]
        omega

theorem isClosed_along (s : Session) (calls : List (FileSystem × Operation)) :
    (s.along calls).scan.position.isClosed =
      (s.scan.position.isClosed || .close ∈ calls.map (·.2)) := by
  induction calls generalizing s with
  | nil => simp [along]
  | cons call calls ih =>
    show ((s.perform call.1 call.2).along calls).scan.position.isClosed = _
    rw [ih, isClosed_perform, List.map_cons, Bool.or_assoc, ← Bool.decide_or]
    simp only [List.mem_cons, eq_comm]

/-! ### Identities that go along -/

/-- Sessions that stand at the same place, whose identities do the same in the next calls. -/
structure GoesAlong (n : Nat) (s₁ s₂ : Session) : Prop where
  table : s₁.table = s₂.table
  scan : s₁.scan = s₂.scan
  credentials : s₁.impersonation.credentials = s₂.impersonation.credentials
  identity : ∀ k < n,
    s₁.impersonation.identity
        (List.replicate k s₁.impersonation.credentials ++ s₁.impersonation.calls)
        s₁.impersonation.credentials =
      s₂.impersonation.identity
        (List.replicate k s₂.impersonation.credentials ++ s₂.impersonation.calls)
        s₂.impersonation.credentials

theorem GoesAlong.called (h : GoesAlong (n + 1) s₁ s₂) (scan : Scan) :
    GoesAlong n (s₁.called scan) (s₂.called scan) := by
  refine ⟨h.table, rfl, h.credentials, fun k hk => ?_⟩
  have := h.identity (k + 1) (Nat.succ_lt_succ hk)
  rwa [List.replicate_succ', List.replicate_succ', List.append_assoc, List.append_assoc] at this

/-- Identities that do the same as often as they are asked are asked as often, and nothing that is
seen tells them apart. -/
theorem GoesAlong.observed {calls : List (FileSystem × Operation)}
    (h : GoesAlong (s₁.timesAsked calls) s₁ s₂) :
    s₂.observed calls = s₁.observed calls ∧ s₂.timesAsked calls = s₁.timesAsked calls := by
  induction calls generalizing s₁ s₂ with
  | nil => exact ⟨rfl, rfl⟩
  | cons call calls ih =>
    obtain ⟨fs, op⟩ := call
    rw [timesAsked] at h
    have hasks : s₂.asks op = s₁.asks op := by
      cases op <;> simp only [asks, h.scan]
    have hnext : s₁.answer fs op = s₂.answer fs op ∧
        GoesAlong ((s₁.perform fs op).timesAsked calls) (s₁.perform fs op) (s₂.perform fs op) := by
      cases hop : s₁.asks op with
      | true =>
        rw [hop, Bool.toNat_true, Nat.add_comm] at h
        obtain ⟨hanswer, hscan⟩ :=
          answer_congr h.table h.scan (h.identity 0 (Nat.succ_pos _)) fs op
        obtain ⟨scan₁, h₁⟩ := exists_perform_of_asks hop fs
        obtain ⟨scan₂, h₂⟩ := exists_perform_of_asks (hasks.trans hop) fs
        rw [h₁, h₂] at hscan
        obtain rfl : scan₁ = scan₂ := hscan
        rw [h₁] at h ⊢
        rw [h₂]
        exact ⟨hanswer, h.called scan₁⟩
      | false =>
        rw [hop, Bool.toNat_false, Nat.zero_add] at h
        rw [perform_of_not_asks hop] at h ⊢
        rw [perform_of_not_asks (hasks.trans hop)]
        exact ⟨answer_of_not_asks h.scan hop fs, h⟩
    obtain ⟨hanswer, hgoes⟩ := hnext
    obtain ⟨hseen, htimes⟩ := ih hgoes
    refine ⟨?_, ?_⟩
    · rw [Session.observed, Session.observed, hseen,
        observe_congr hgoes.table hanswer hgoes.scan]
    · rw [timesAsked, timesAsked, hasks, htimes]

/-! ### The account of a run -/

/-- An operation that asks is done in the call of the identity only. Without its action it fails,
and it does nothing but close the scan, if that is what it is for. -/
theorem nothing_done_of_withholds (h : s.conduct.Withholds) (asked : s.asks op = true)
    (fs : FileSystem) :
    (∃ e, s.answer fs op = .error e) ∧
      (s.perform fs op).scan = if op = .close then s.scan.close else s.scan := by
  by_cases hop : op = .close
  · subst hop
    have hopen : s.scan.position ≠ .closed := by
      intro hp
      rw [asks, Position.isClosed_iff.2 hp] at asked
      cases asked
    obtain ⟨e, -, hanswer, hscan⟩ := exists_close_of_withholds h hopen
    exact ⟨⟨e, congrArg (Except.map Reply.flag) hanswer⟩, hscan⟩
  · have fresh : op = .configure → s.scan.position = .unconfigured := by
      rintro rfl
      exact Position.isUnconfigured_iff.1 asked
    obtain ⟨e, -, hcall⟩ := exists_answer_of_withholds h hop fresh
    rw [if_neg hop]
    exact ⟨⟨e, (hcall fs).1⟩, scan_perform_of_withholds h hop⟩

/-- The identity is asked once for every operation that acts, each time with the credentials of the
table, whatever the files hold and whatever it has done before. A `configure` of a session that is
not new and a `close` of one that is closed do not ask it, and neither do looks at the session: what
is seen of a run, by looks between all of its operations, is the same under any identity that does
the same in those calls. An operation that asks is not done without it. -/
theorem identity_is_asked_once_per_operation (t : Table) (identity : Identity)
    (calls : List (FileSystem × Operation)) :
    let new := ofTable t identity
    let s := new.along calls
    let ops := calls.map (·.2)
    let n := new.freshConfigures calls + ops.count .reachedEnd + ops.count .readNext +
      if .close ∈ ops then 1 else 0
    (new.impersonation.calls = [] ∧
      s.impersonation.calls = List.replicate n t.params.credentials) ∧
    (∀ fs, s.scan.position ≠ .unconfigured → s.perform fs .configure = s) ∧
    (.close ∈ ops → ∀ fs, s.perform fs .close = s) ∧
    (∀ fs op, s.conduct.Withholds → s.asks op = true →
      (∃ e, s.answer fs op = .error e) ∧
        (s.perform fs op).scan = if op = .close then s.scan.close else s.scan) ∧
    ∀ other : Identity,
      (∀ k < n, other (List.replicate k t.params.credentials) t.params.credentials =
        identity (List.replicate k t.params.credentials) t.params.credentials) →
      (ofTable t other).observed calls = new.observed calls ∧
        ((ofTable t other).along calls).impersonation.calls = s.impersonation.calls := by
  intro new s ops n
  have htimes : new.timesAsked calls = n := by
    have hnew : new.scan.position.isClosed = false := rfl
    rw [timesAsked_eq]
    simp only [hnew, true_and, n, ops]
  have hcalls : s.impersonation.calls = List.replicate n t.params.credentials := by
    rw [← htimes, calls_along]
    exact List.append_nil _
  refine ⟨⟨rfl, hcalls⟩, fun fs hp => configure_of_configured hp, fun hclose fs => ?_,
    fun fs op hwithholds hasks => nothing_done_of_withholds hwithholds hasks fs, ?_⟩
  · have hp : s.scan.position.isClosed = true := by
      rw [isClosed_along, Bool.or_eq_true]
      exact .inr (decide_eq_true hclose)
    exact congrArg Prod.snd (close_of_closed (Position.isClosed_iff.1 hp))
  · intro other same
    have hgoes : GoesAlong (new.timesAsked calls) new (ofTable t other) := by
      refine ⟨rfl, rfl, rfl, fun k hk => ?_⟩
      simp only [new, ofTable, List.append_nil]
      exact (same k (htimes ▸ hk)).symm
    obtain ⟨hseen, hasked⟩ := hgoes.observed
    refine ⟨hseen, ?_⟩
    rw [calls_along, hasked, hcalls, htimes]
    exact List.append_nil _

def principalTable : Table :=
  { twoColumns with
    params := { twoColumns.params with credentials := [("principal", "etl")] } }

/-- Attempts to configure without files and without a ticket, and others after they have failed. -/
def configureAgainAndAgain : List (FileSystem × Operation) :=
  [(MemoryStore.fileSystem { files := [] }, .configure), (threeFiles.fileSystem, .configure),
    (threeFiles.fileSystem, .configure), (threeFiles.fileSystem, .configure),
    (threeFiles.fileSystem, .reachedEnd), (threeFiles.fileSystem, .readNext),
    (threeFiles.fileSystem, .close), (threeFiles.fileSystem, .close),
    (threeFiles.fileSystem, .configure), (threeFiles.fileSystem, .reachedEnd)]

/-- An identity that refuses its second call, and all from the eighth on. -/
def withSevenTickets : Identity := fun earlier credentials =>
  if earlier.length < 7 then withoutSecondTicket earlier credentials else .refuse "ticket expired"

theorem identity_is_asked_once_per_operation_of_failing_attempts :
    let fs := threeFiles.fileSystem
    let calls := configureAgainAndAgain
    let new := ofTable principalTable withoutSecondTicket
    let tried := new.along (calls.take 1)
    let s := new.along calls
    s.impersonation.calls = List.replicate 7 [("principal", "etl")] ∧
      s.perform fs .configure = s ∧ s.perform fs .close = s ∧
      (∃ e, tried.answer fs .configure = .error e) ∧
      (tried.perform fs .configure).scan = tried.scan ∧
      (ofTable principalTable withSevenTickets).observed calls = new.observed calls := by
  intro fs calls new tried s
  obtain ⟨-, -, -, hrefused, -⟩ :=
    identity_is_asked_once_per_operation principalTable withoutSecondTicket (calls.take 1)
  obtain ⟨⟨-, hcalls⟩, hconfigure, hclose, -, hsame⟩ :=
    identity_is_asked_once_per_operation principalTable withoutSecondTicket calls
  have htimes : new.freshConfigures calls + (calls.map (·.2)).count .reachedEnd +
      (calls.map (·.2)).count .readNext + (if .close ∈ calls.map (·.2) then 1 else 0) = 7 := by
    decide +kernel
  have hclosed : s.scan.position = .closed := Position.isClosed_iff.1 (by decide +kernel)
  have hwithholds : tried.conduct.Withholds := by
    have hlength : tried.impersonation.calls.length = 1 := by decide +kernel
    have hrefuses : tried.conduct = .refuse "ticket expired" := if_pos (e := .once) hlength
    rw [hrefuses]
    exact .refusing _
  obtain ⟨hfails, hstays⟩ := hrefused fs .configure hwithholds (by decide +kernel)
  refine ⟨?_, hconfigure fs (by rw [hclosed]; nofun), hclose (by decide) fs, hfails, hstays,
    (hsame withSevenTickets fun k hk => ?_).1⟩
  · rw [hcalls, htimes]
    rfl
  · rw [htimes] at hk
    exact if_pos ((List.length_replicate ..).symm ▸ hk)

end Session

end TableScan
