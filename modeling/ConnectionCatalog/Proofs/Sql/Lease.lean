import ConnectionCatalog.Proofs.Store.Simulation
import ConnectionCatalog.Proofs.Table.Cursors
import ConnectionCatalog.Sql.Lease

/-! # Proofs.Sql.Lease — connections are given back

A table that accounts for its connections answers as one that does not.  Every call gives its
connection back, but for a scan that succeeds, whose cursor keeps it until it is closed.

* `LeasedTable.Returned`: what was taken out in between was given back.
* `LeasedTable.accounts_checked`, `LeasedTable.scan_cases`: what each call does.
* `LeasedTable.setCursor_holding`: a cursor holds its connection until it is closed.
* `LeasedTable.simulation`: the account has no part in the answers.
-/

namespace ConnectionCatalog.Sql.LeasedTable

variable {α : Type} {t t' t'' : LeasedTable}

/-- Every connection that was taken out in between was given back. -/
def Returned (t t' : LeasedTable) : Prop :=
  ∃ taken, t'.connections = t.connections ++ taken ∧ ∀ isOpen ∈ taken, isOpen = false

theorem Returned.refl (t : LeasedTable) : t.Returned t :=
  ⟨[], (List.append_nil _).symm, List.forall_mem_nil _⟩

theorem Returned.trans (h : t.Returned t') (h' : t'.Returned t'') : t.Returned t'' := by
  obtain ⟨taken, htaken, hclosed⟩ := h
  obtain ⟨more, hmore, hclosed'⟩ := h'
  refine ⟨taken ++ more, by rw [hmore, htaken, List.append_assoc], ?_⟩
  exact List.forall_mem_append.2 ⟨hclosed, hclosed'⟩

theorem Returned.one (h : t'.connections = t.connections ++ [false]) : t.Returned t' :=
  ⟨[false], h, List.forall_mem_singleton.2 rfl⟩

/-! ## Calls -/

theorem run_connect (t : LeasedTable) :
    connect.run t =
      (.ok t.connections.length, { t with connections := t.connections ++ [true] }) := rfl

theorem disconnect_last (t : LeasedTable) :
    disconnect t.connections.length { t with connections := t.connections ++ [true] } =
      { t with connections := t.connections ++ [false] } := by
  simp [disconnect]

/-- A call on a connection of its own gives it back, whether or not it fails. -/
theorem run_connected (access : Access SqlTable α) (t : LeasedTable) :
    (connected access).run t =
      ((access.run t.table).1,
        { t with
          database := (access.run t.table).2.database
          connections := t.connections ++ [false] }) := by
  unfold connected
  rw [Access.run_bind_ok (run_connect t)]
  exact congrArg (Prod.mk _)
    (disconnect_last { t with database := (access.run t.table).2.database })

/-- A call answers as the table does without an account, and gives back what it takes out. -/
def Accounts (call : Access LeasedTable α) (access : Access SqlTable α) : Prop :=
  ∀ t, ∃ r t', call.run t = (r, t') ∧ access.run t.table = (r, t'.table) ∧
    t'.leases = t.leases ∧ t.Returned t'

section Accounts

variable {call : Access LeasedTable α} {access : Access SqlTable α}

theorem Accounts.leases (h : Accounts call access) (t : LeasedTable) :
    (call.run t).2.leases = t.leases := by
  obtain ⟨r, t', hrun, -, hleases, -⟩ := h t
  rw [hrun]
  exact hleases

theorem Accounts.returned (h : Accounts call access) (t : LeasedTable) :
    t.Returned (call.run t).2 := by
  obtain ⟨r, t', hrun, -, -, hreturned⟩ := h t
  rw [hrun]
  exact hreturned

end Accounts

/-- A call that is checked first accounts for its connection, if it changes nothing but the
database. -/
theorem accounts_checked {refusal? : TableSpec → Option Failure} {access : Access SqlTable α}
    (hrefuses : ∀ s f, refusal? s.spec = some f → access.run s = (.error f, s))
    (hframe : ∀ s, ∃ database, (access.run s).2 = { s with database }) :
    Accounts (checked refusal? access) access := by
  intro t
  unfold checked
  rw [Access.run_bind_ok (Access.run_get t)]
  -- what is refused takes no connection; all else takes one and gives it back
  cases hrefusal : refusal? t.spec with
  | some f => exact ⟨.error f, t, rfl, hrefuses t.table f hrefusal, rfl, .refl t⟩
  | none =>
    obtain ⟨database, hdatabase⟩ := hframe t.table
    refine ⟨_, _, run_connected access t, Prod.ext rfl ?_, rfl, .one rfl⟩
    rw [hdatabase]
    rfl

/-- So does a change that is checked first. -/
theorem accounts_commit {refusal? : TableSpec → Option Failure}
    {step : SqlTable → Except Failure Database}
    (hrefuses : ∀ s f, refusal? s.spec = some f → step s = .error f) :
    Accounts (checked refusal? (SqlTable.commit step)) (SqlTable.commit step) := by
  refine accounts_checked ?_ ?_
  · intro s f hrefusal
    rw [SqlTable.run_commit, hrefuses s f hrefusal]
  · intro s
    rw [SqlTable.run_commit]
    split
    · exact ⟨s.database, rfl⟩
    · exact ⟨_, rfl⟩

theorem accounts_upsert (row : Row) : Accounts (upsert row) (SqlTable.upsert row) := by
  refine accounts_commit ?_
  intro s f hrefusal
  rw [SqlTable.written.eq_def, hrefusal]

theorem accounts_delete (key : Row) : Accounts (delete key) (SqlTable.delete key) := by
  refine accounts_commit ?_
  intro s f hrefusal
  rw [hrefusal]

theorem accounts_read (key : Row) : Accounts (read key) (SqlTable.read key) := by
  refine accounts_checked ?_ ?_
  · intro s f hrefusal
    rw [SqlTable.run_read, SqlTable.looked, hrefusal]
  · intro s
    rw [SqlTable.run_read]
    exact ⟨s.database, rfl⟩

theorem run_scan (range : Range) (limit : Option Int) (t : LeasedTable) :
    (scan range limit).run t =
      if range.leads t.spec.key then
        match t.table.selected range limit with
        | .error f => (.error f, { t with connections := t.connections ++ [false] })
        | .ok rows =>
          (.ok t.leases.length,
            { t with
              leases := t.leases ++ [⟨⟨rows, false, true⟩, t.connections.length⟩]
              connections := t.connections ++ [true] })
      else (.error (.table (.notLeadingOf t.spec.name range.columns t.spec.key)), t) := by
  unfold scan
  rw [Access.run_bind_ok (Access.run_get t)]
  split
  · rw [Access.run_bind_ok (run_connect t)]
    -- a scan that fails gives its connection back, and one that succeeds leaves it to the cursor
    cases t.table.selected range limit with
    | error f => exact congrArg (Prod.mk _) (disconnect_last t)
    | ok rows => rfl
  · rfl

/-- A table with one more cursor, on the connection that was taken out last. -/
def holding (t : LeasedTable) (c : Cursor) (isOpen : Bool) : LeasedTable :=
  { t with
    leases := t.leases ++ [⟨c, t.connections.length⟩]
    connections := t.connections ++ [isOpen] }

theorem table_holding (t : LeasedTable) (c : Cursor) (isOpen : Bool) :
    (t.holding c isOpen).table = { t.table with cursors := t.table.cursors ++ [c] } := by
  simp [table, holding]

/-- How a scan ends: one that fails gives back what it has taken out, and one that succeeds leaves
its connection to the new cursor. -/
inductive Scanned (t : LeasedTable) : Except Failure Nat → LeasedTable → Prop
  | failed {f : Failure} {t' : LeasedTable} (hleases : t'.leases = t.leases)
    (hreturned : t.Returned t') : Scanned t (.error f) t'
  | opened (rows : List Row) : Scanned t (.ok t.leases.length) (t.holding ⟨rows, false, true⟩ true)

/-- A scan answers as the table does without an account. -/
theorem scan_cases (range : Range) (limit : Option Int) (t : LeasedTable) :
    ∃ r t', (scan range limit).run t = (r, t') ∧
      (SqlTable.scan range limit).run t.table = (r, t'.table) ∧ t.Scanned r t' := by
  have hspec : t.table.spec = t.spec := rfl
  have htable := t.table.run_scan range limit
  rw [run_scan]
  -- a range that does not lead the key is refused before a connection is taken
  cases hleads : range.leads t.spec.key with
  | false =>
    have hselected : t.table.selected range limit =
        .error (.table (.notLeadingOf t.spec.name range.columns t.spec.key)) := by
      rw [SqlTable.selected, hspec, hleads]
      rfl
    rw [hselected] at htable
    exact ⟨_, t, rfl, htable, .failed rfl (.refl t)⟩
  | true =>
    cases hselected : t.table.selected range limit with
    | error f =>
      rw [hselected] at htable
      exact ⟨_, _, rfl, htable, .failed rfl (.one rfl)⟩
    | ok rows =>
      rw [hselected] at htable
      refine ⟨_, t.holding ⟨rows, false, true⟩ true, rfl, ?_, .opened rows⟩
      rw [htable, table_holding, table, List.length_map]

/-! ## Cursors -/

theorem cursor?_table (t : LeasedTable) (n : Nat) :
    RowStore.cursor? t n = RowStore.cursor? t.table n :=
  (List.getElem?_map).symm

theorem table_setCursor (n : Nat) (c : Cursor) (t : LeasedTable) :
    (setCursor n c t).table = { t.table with cursors := t.table.cursors.set n c } := by
  unfold setCursor
  cases hlease : t.leases[n]? with
  | none =>
    -- there is no such cursor on either side
    have hset : t.table.cursors.set n c = t.table.cursors := by
      refine List.set_eq_of_length_le ?_
      rw [table, List.length_map]
      exact List.getElem?_eq_none_iff.1 hlease
    rw [hset]
  | some lease =>
    have hset : (t.leases.set n { lease with cursor := c }).map Lease.cursor =
        (t.leases.map Lease.cursor).set n c := List.map_set
    dsimp only
    split
    · simp [table, disconnect, hset]
    · simp [table, hset]

theorem cursor?_holding (t : LeasedTable) (c : Cursor) (isOpen : Bool) :
    RowStore.cursor? (t.holding c isOpen) t.leases.length = some c :=
  congrArg (Option.map Lease.cursor) List.getElem?_concat_length

/-- A cursor holds its connection as long as what is put in its place is not closed. -/
theorem setCursor_holding (t : LeasedTable) (c d : Cursor) (isOpen : Bool) :
    RowStore.setCursor t.leases.length d (t.holding c isOpen) =
      t.holding d (isOpen && !d.closed) := by
  have hset : RowStore.setCursor t.leases.length d (t.holding c isOpen) =
      setCursor t.leases.length d (t.holding c isOpen) := rfl
  have hlease : (t.holding c isOpen).leases[t.leases.length]? =
      some ⟨c, t.connections.length⟩ := List.getElem?_concat_length
  rw [hset, setCursor, hlease]
  cases hclosed : d.closed with
  | true => simp [disconnect, holding]
  | false => simp [holding]

/-- A cursor that was opened last gives its connection back when it is closed. -/
theorem returned_close (t : LeasedTable) (c : Cursor) (isOpen : Bool) :
    t.Returned (RowStore.close t.leases.length (t.holding c isOpen)) := by
  unfold RowStore.close
  rw [cursor?_holding]
  dsimp only
  rw [setCursor_holding]
  exact .one (by simp [holding, Cursor.close])

/-! ## The account has no part in the answers -/

/-- A table that accounts for its connections, and the table without the account, answer alike. -/
def simulation : Simulation LeasedTable SqlTable where
  Like t s := s = t.table
  upsert {t s} row hlike := by
    subst hlike
    obtain ⟨r, t', hrun, htable, -, -⟩ := accounts_upsert row t
    exact ⟨r, t', _, rfl, hrun, htable⟩
  read {t s} key hlike := by
    subst hlike
    obtain ⟨r, t', hrun, htable, -, -⟩ := accounts_read key t
    exact ⟨r, t', _, rfl, hrun, htable⟩
  delete {t s} key hlike := by
    subst hlike
    obtain ⟨r, t', hrun, htable, -, -⟩ := accounts_delete key t
    exact ⟨r, t', _, rfl, hrun, htable⟩
  scan {t s} range limit hlike := by
    subst hlike
    obtain ⟨r, t', hrun, htable, -⟩ := scan_cases range limit t
    exact ⟨r, t', _, rfl, hrun, htable⟩
  cursor? {t s} n hlike := by
    subst hlike
    exact t.cursor?_table n
  setCursor {t s} n c hlike := by
    subst hlike
    exact (table_setCursor n c t).symm

/-- The register of a table that accounts for its connections. -/
def register : Register LeasedTable Empty where
  cursors t := t.leases.map Lease.cursor
  arranged := nofun
  cursor?_eq t n := (List.getElem?_map).symm
  setCursor n c t := congrArg SqlTable.cursors (table_setCursor n c t)
  upsert row t := congrArg (List.map Lease.cursor) ((accounts_upsert row).leases t)
  read key t := congrArg (List.map Lease.cursor) ((accounts_read key).leases t)
  delete key t := congrArg (List.map Lease.cursor) ((accounts_delete key).leases t)
  scan_ok {t t' range limit n} h := by
    obtain ⟨r, u, hrun, -, hscanned⟩ := scan_cases range limit t
    obtain ⟨rfl, rfl⟩ := Prod.mk.inj (hrun.symm.trans h)
    cases hscanned with
    | opened rows => exact ⟨(List.length_map _).symm, rows, true, by simp [holding]⟩
  scan_error {t t' range limit f} h := by
    obtain ⟨r, u, hrun, -, hscanned⟩ := scan_cases range limit t
    obtain ⟨rfl, rfl⟩ := Prod.mk.inj (hrun.symm.trans h)
    cases hscanned with
    | failed hleases _ => rw [hleases]
  arranged_eq := nofun

end ConnectionCatalog.Sql.LeasedTable
