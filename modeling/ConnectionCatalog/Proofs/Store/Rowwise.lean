import ConnectionCatalog.Proofs.Store.Evaluation
import ConnectionCatalog.Proofs.Table.Cursors

/-! # Proofs.Store.Rowwise — a listing that draws its rows one by one

A listing is stated over all rows that its cursor has.  Here it draws them from the cursor one at a
time, looks at each before it draws the next one, and goes on no further than to the first row that
fails.  Both answer and note the same, and both close the cursor; what they leave of the table
differs at most in the rows that the closed cursor was never asked for.

* `RowStore.draw`, `Store.keepNext`, `Store.listRowwise`: the listing row by row.
* `Register.keepNext_run`: the loop over the rows, by induction over those that are left.
* `Register.listRowwise_of_scan_ok`: the whole listing, beside the one over all rows.
-/

namespace ConnectionCatalog

/-! ## Drawing rows -/

namespace RowStore

variable {τ : Type} [RowStore τ]

/-- The next row of a cursor, if it has one, and the table after it was drawn. -/
def draw (n : Nat) (t : τ) : Option Row × τ :=
  match cursor? t n with
  | some c => (c.next.1, setCursor n c.next.2 t)
  | none => (none, t)

/-- A table after rows were drawn from a cursor a number of times. -/
def drawn (n : Nat) : (count : Nat) → τ → τ
  | 0, t => t
  | count + 1, t => drawn n count (draw n t).2

variable {t : τ} {n : Nat} {c : Cursor}

theorem draw_of_cursor (h : cursor? t n = some c) :
    draw n t = (c.next.1, setCursor n c.next.2 t) := by
  unfold draw
  rw [h]

end RowStore

namespace Store

variable [Caller] {τ : Type} [RowStore τ]

/-- Draws the next row of a cursor. -/
def nextRow (cursor : Nat) : Action τ (Option Row) := ExceptT.mk fun env =>
  (.ok (RowStore.draw cursor env.table).1,
    { env with table := (RowStore.draw cursor env.table).2 })

/-- The connections that the next rows of a cursor hold and a filter keeps; the end of the cursor
ends it, and so does the first row that is corrupt, or that the filter fails on.  Rows are drawn
`count` times at most. -/
def keepNext (filter : Filter) (cursor : Nat) : (count : Nat) → Action τ (List Connection)
  | 0 => pure []
  | count + 1 => do
    match ← nextRow cursor with
    | none => return []
    | some row => do
      let c ← connectionOf .list row
      let kept ← require (filter c)
      let cs ← keepNext filter cursor count
      return if kept then c :: cs else cs

/-- How often rows are drawn for what is gathered of them: up to the end or the first failure. -/
def draws (filter : Filter) : List Row → Nat
  | [] => 1
  | row :: rows =>
    match Connection.ofRow .list row with
    | .error _ => 1
    | .ok c =>
      match filter c with
      | .error _ => 1
      | .ok _ => draws filter rows + 1

/-- A listing that draws its rows one by one. -/
def listRowwise (namespaceName : Value) (filter : Filter) : Action τ (List Connection) :=
  observed "list" do
    let cursor ← onTable (RowStore.scan ⟨[("namespace", namespaceName)]⟩ none)
    -- one more than there are rows: the last one finds the end
    let cs ← withRows cursor fun rows => keepNext filter cursor (rows.length + 1)
    note .debug ("Listed " ++ toString cs.length ++ " connections") [("namespace", namespaceName)]
    return cs

omit [Caller] in
theorem nextRow_run {env : Env τ} {n : Nat} {c : Cursor}
    (h : RowStore.cursor? env.table n = some c) :
    (nextRow n).run env =
      (.ok c.next.1, { env with table := (RowStore.draw n env.table).2 }) := by
  have hrun : (nextRow n).run env =
      (.ok (RowStore.draw n env.table).1,
        { env with table := (RowStore.draw n env.table).2 }) := rfl
  rw [hrun, RowStore.draw_of_cursor h]

section ScanError

variable {t : τ} {namespaceName : String} {filter : Filter} {env : Env τ} {f : Failure}

omit [Caller] in
/-- A listing ends where its scan fails. -/
theorem observed_of_scan_error {range : Range} {body : Nat → Action τ (List Connection)}
    (h : (RowStore.scan range none).run env.table = (.error f, t)) :
    (observed "list" (onTable (RowStore.scan range none) >>= body)).run env =
      (.error f, ⟨t, env.clock, metered "list" (Outcome.ofFailure f) env.meter, env.log⟩) := by
  refine observed_run ?_
  intro meter
  exact Access.run_bind_error (run_onTable { env with meter } h)

theorem list_of_scan_error
    (h : (RowStore.scan (namespaceRange namespaceName) none).run env.table = (.error f, t)) :
    (list (.text namespaceName) filter).run env =
      (.error f, ⟨t, env.clock, metered "list" (Outcome.ofFailure f) env.meter, env.log⟩) :=
  observed_of_scan_error h

/-- Where the scan fails, a listing row by row is the listing. -/
theorem listRowwise_of_scan_error
    (h : (RowStore.scan (namespaceRange namespaceName) none).run env.table = (.error f, t)) :
    (listRowwise (.text namespaceName) filter).run env =
      (list (.text namespaceName) filter).run env :=
  (observed_of_scan_error h).trans (list_of_scan_error h).symm

end ScanError

end Store

namespace Register

open Store Access

variable [Caller] {τ α : Type} [RowStore τ] (R : Register τ α) {t : τ} {n : Nat} {c : Cursor}

omit [Caller] in
theorem cursor?_draw (R : Register τ α) (h : RowStore.cursor? t n = some c) :
    RowStore.cursor? (RowStore.draw n t).2 n = some c.next.2 := by
  rw [RowStore.draw_of_cursor h, R.cursor?_setCursor h, if_pos rfl]

omit [Caller] in
/-- To draw rows from a cursor changes no other cursor. -/
theorem cursors_drawn (h : RowStore.cursor? t n = some c) (count : Nat) :
    ∃ d, RowStore.cursor? (RowStore.drawn n count t) n = some d ∧
      R.cursors (RowStore.drawn n count t) = (R.cursors t).set n d := by
  -- each draw sets the same cursor, so only the last of them is left
  induction count generalizing t c with
  | zero =>
    refine ⟨c, h, ?_⟩
    rw [R.cursor?_eq] at h
    obtain ⟨hlength, hget⟩ := List.getElem?_eq_some_iff.1 h
    rw [← hget]
    exact (List.set_getElem_self hlength).symm
  | succ count ih =>
    obtain ⟨d, hd, hcursors⟩ := ih (R.cursor?_draw h)
    refine ⟨d, hd, ?_⟩
    rw [RowStore.drawn, hcursors, RowStore.draw_of_cursor h, R.setCursor, List.set_set]

/-- The loop over the rows of an open cursor comes to what is gathered of these rows, and has
changed the table only by drawing from the cursor. -/
theorem keepNext_run (R : Register τ α) (filter : Filter) (rows : List Row) {closesAtEnd : Bool}
    (env : Env τ)
    (h : RowStore.cursor? env.table n = some ⟨rows, false, closesAtEnd⟩) :
    (keepNext filter n (rows.length + 1)).run env =
      (filter.gather rows,
        { env with
          table := RowStore.drawn n (draws filter rows) env.table
          log := gatherNoted filter rows env.log }) := by
  induction rows generalizing env with
  | nil =>
    rw [keepNext, run_bind_ok (nextRow_run h)]
    rfl
  | cons row rows ih =>
    have hnext : (nextRow n).run env =
        (.ok (some row), { env with table := (RowStore.draw n env.table).2 }) := nextRow_run h
    have hrow := connectionOf_run .list row { env with table := (RowStore.draw n env.table).2 }
    rw [List.length_cons, keepNext, run_bind_ok hnext]
    dsimp only
    -- the row, the filter and the rows behind it, each of which may end the loop
    cases hc : Connection.ofRow .list row with
    | error f =>
      rw [hc] at hrow
      have hdraws : draws filter (row :: rows) = 1 := by rw [draws, hc]
      rw [run_bind_error hrow, Filter.gather_of_unread hc, gatherNoted_of_unread hc, hdraws]
      rfl
    | ok c =>
      rw [hc, rowNoted_of_ok hc] at hrow
      rw [run_bind_ok hrow]
      cases hkept : filter c with
      | error f =>
        have hdraws : draws filter (row :: rows) = 1 := by simp only [draws, hc, hkept]
        rw [run_bind_error (run_require (.error f) _), Filter.gather_of_refused hc hkept,
          gatherNoted_of_refused hc hkept, hdraws]
        rfl
      | ok kept =>
        rw [run_bind_ok (run_require (.ok kept) _)]
        have hrest := ih { env with table := (RowStore.draw n env.table).2 } (R.cursor?_draw h)
        have hdraws : draws filter (row :: rows) = draws filter rows + 1 := by
          simp [draws, hc, hkept]
        rw [Filter.gather_of_kept hc hkept, gatherNoted_of_kept hc hkept, hdraws, RowStore.drawn]
        exact run_map hrest _

/-! ## Listings -/

variable {t' : τ} {namespaceName : String} {filter : Filter} {env : Env τ}

omit [Caller] in
theorem cursor?_last (hn : n = (R.cursors t).length)
    (hcursors : R.cursors t' = R.cursors t ++ [c]) : RowStore.cursor? t' n = some c := by
  rw [R.cursor?_eq, hcursors, hn]
  exact List.getElem?_concat_length

/-- Where the scan succeeds, a listing row by row comes to what the listing comes to; the cursor
that it closes was drawn from a number of times. -/
theorem listRowwise_of_scan_ok (R : Register τ α)
    (h : (RowStore.scan (namespaceRange namespaceName) none).run env.table = (.ok n, t)) :
    (listRowwise (.text namespaceName) filter).run env =
      (((list (.text namespaceName) filter).run env).1,
        { ((list (.text namespaceName) filter).run env).2 with
          table :=
            RowStore.close n (RowStore.drawn n (draws filter (RowStore.pending t n)) t) }) := by
  obtain ⟨hn, rows, closesAtEnd, hcursors⟩ := R.scan_ok h
  have hcursor := R.cursor?_last hn hcursors
  have hpending : RowStore.pending t n = rows := by
    rw [RowStore.pending, hcursor]
    rfl
  -- the loop from what the scan left, whatever the meter shows
  have hloop : ∀ meter,
      (withRows n fun rows => keepNext filter n (rows.length + 1)).run
          (⟨t, env.clock, meter, env.log⟩ : Env τ) =
        (filter.gather rows,
          ⟨RowStore.close n (RowStore.drawn n (draws filter rows) t), env.clock, meter,
            gatherNoted filter rows env.log⟩) := by
    intro meter
    have hkeep := R.keepNext_run filter rows ⟨t, env.clock, meter, env.log⟩ hcursor
    refine withRows_run (Eq.trans ?_ hkeep)
    rw [hpending]
  rw [hpending]
  cases hrows : filter.gather rows with
  | error f =>
    rw [list_error h (hpending ▸ hrows), hpending]
    refine observed_run ?_
    intro meter
    refine Eq.trans (run_bind_ok (run_onTable { env with meter } h)) ?_
    have hloop := hloop meter
    rw [hrows] at hloop
    exact run_bind_error hloop
  | ok cs =>
    rw [list_ok h (hpending ▸ hrows), hpending]
    refine observed_run ?_
    intro meter
    refine Eq.trans (run_bind_ok (run_onTable { env with meter } h)) ?_
    have hloop := hloop meter
    rw [hrows] at hloop
    refine Eq.trans (run_bind_ok hloop) ?_
    rfl

end Register
end ConnectionCatalog
