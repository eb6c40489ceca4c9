import ConnectionCatalog.Proofs.Sql.Lease
import ConnectionCatalog.Proofs.Store.Events
import ConnectionCatalog.Proofs.Store.Rowwise

/-! # Proofs.Store.Closing — a store closes every cursor that it opens

Only a listing scans, and a scan that succeeds opens one cursor.  However the listing goes on, the
cursor is closed when it ends, and a connection that the cursor kept is given back.

* `Operation.keeps_of_calls`: an operation that does not scan does nothing to cursors.
* `Store.Listed`: what a listing leaves of a table, wherever it ends.
* `Register.closed_run`: what one operation leaves of the cursors of a table.
* `Register.closed_play`: what events leave of them, by induction over the events.
* `store_leaks_no_scan`: what follows for tables in memory, and for those of a database with their
  connections.
-/

namespace ConnectionCatalog

open Sql

/-! ## Operations that do not scan -/

/-- The same table, but for its scans and its cursors, which come to nothing. -/
abbrev RowStore.muted {τ : Type} (table : RowStore τ) : RowStore τ :=
  { table with
    scan := fun _ _ => pure 0
    setCursor := fun _ _ t => t }

namespace Operation

/-- Whether an operation scans. -/
def scans : Operation → Bool
  | list .. => true
  | _ => false

/-- Whether an operation opens a cursor: it is a listing, and its scan succeeds. -/
def opens {τ : Type} [RowStore τ] (t : τ) : Operation → Bool
  | list namespaceName _ =>
    ((RowStore.scan (Store.namespaceRange namespaceName) none).run t).1.isOk
  | _ => false

variable [caller : Caller] {τ : Type} [table : RowStore τ] {o : Operation}

/-- An operation that does not scan cannot tell a muted table. -/
theorem run_muted (h : o.scans = false) : @Operation.run caller τ table.muted o = o.run := by
  cases o with
  | list namespaceName filter => cases h
  | _ => rfl

/-- What holds of all calls that read or write holds of an operation that does not scan. -/
theorem keeps_of_calls {P : τ → τ → Prop} (hrefl : ∀ t, P t t)
    (htrans : ∀ {t u v}, P t u → P u v → P t v)
    (hread : ∀ key t, P t ((RowStore.read key).run t).2)
    (hwrite : ∀ (w : Write) t, P t (w.access.run t).2) (h : o.scans = false) (env : Env τ) :
    P env.table (o.run.run env).2.table := by
  -- the laws of a frame about scans and cursors are empty here
  have hframe := @Frame.run_keeps caller τ table.muted
    (@Frame.mk τ table.muted (fun env env' => P env.table env'.table) htrans
      (fun env => hrefl env.table) (fun env _ => hrefl env.table) (fun env _ => hrefl env.table)
      (fun env key => hread key env.table) (fun env _ _ => hrefl env.table)
      fun env _ _ => hrefl env.table)
  rw [← run_muted h]
  refine hframe ?_ o env
  intro w env
  have haccess : @Write.access τ table.muted w = w.access := by
    cases w <;> rfl
  rw [haccess]
  exact hwrite w env.table

end Operation

/-! ## Listings -/

namespace Store

variable {τ : Type} [RowStore τ]

/-- What a listing leaves of a table: what its scan left, if that failed; and otherwise that with
the cursor closed, after rows were drawn from it a number of times. -/
inductive Listed (range : Range) (t : τ) : τ → Prop
  | failed {f : Failure} {t' : τ} (h : (RowStore.scan range none).run t = (.error f, t')) :
    Listed range t t'
  | closed {n : Nat} {t' : τ} (h : (RowStore.scan range none).run t = (.ok n, t')) (count : Nat) :
    Listed range t (RowStore.close n (RowStore.drawn n count t'))

/-- A listing closes the cursor of its scan, however it goes on. -/
theorem listed_list [Caller] (env : Env τ) (namespaceName : String) (filter : Filter) :
    Listed (namespaceRange namespaceName) env.table
      ((Operation.list namespaceName filter).run.run env).2.table := by
  rw [Operation.run]
  cases hscan : (RowStore.scan (namespaceRange namespaceName) none).run env.table with
  | mk r t =>
    cases r with
    | error f =>
      rw [run_map (list_of_scan_error hscan)]
      exact .failed hscan
    | ok n =>
      -- the rows are all pending when the cursor is closed, whether or not they are kept
      cases hrows : filter.gather (RowStore.pending t n) with
      | ok cs =>
        rw [run_map (list_ok hscan hrows)]
        exact .closed hscan 0
      | error f =>
        rw [run_map (list_error hscan hrows)]
        exact .closed hscan 0

/-- So does a listing that draws its rows one by one, wherever it ends. -/
theorem listed_listRowwise [Caller] {α : Type} (R : Register τ α) (env : Env τ)
    (namespaceName : String)
    (filter : Filter) :
    Listed (namespaceRange namespaceName) env.table
      ((listRowwise (.text namespaceName) filter).run env).2.table := by
  cases hscan : (RowStore.scan (namespaceRange namespaceName) none).run env.table with
  | mk r t =>
    cases r with
    | error f =>
      rw [listRowwise_of_scan_error hscan, list_of_scan_error hscan]
      exact .failed hscan
    -- how many rows were drawn before the cursor was closed does not matter
    | ok n =>
      rw [R.listRowwise_of_scan_ok hscan]
      exact .closed hscan _

end Store

/-! ## Cursors -/

namespace Register

variable {τ α : Type} [RowStore τ] (R : Register τ α) {t t' t'' : τ} {m n : Nat}

/-- A number of cursors were opened, all of which are closed; those that there were are as they
were. -/
def Closed (t t' : τ) (count : Nat) : Prop :=
  ∃ opened, R.cursors t' = R.cursors t ++ opened ∧ (∀ c ∈ opened, c.closed = true) ∧
    opened.length = count

variable {R}

theorem Closed.none (h : R.cursors t' = R.cursors t) : R.Closed t t' 0 :=
  ⟨[], by rw [h, List.append_nil], List.forall_mem_nil _, rfl⟩

theorem Closed.one {c : Cursor} (h : R.cursors t' = R.cursors t ++ [c])
    (hclosed : c.closed = true) : R.Closed t t' 1 :=
  ⟨[c], h, List.forall_mem_singleton.2 hclosed, rfl⟩

theorem Closed.trans (h : R.Closed t t' m) (h' : R.Closed t' t'' n) : R.Closed t t'' (m + n) := by
  obtain ⟨opened, hopened, hclosed, rfl⟩ := h
  obtain ⟨later, hlater, hclosed', rfl⟩ := h'
  refine ⟨opened ++ later, by rw [hlater, hopened, List.append_assoc], ?_, List.length_append⟩
  exact List.forall_mem_append.2 ⟨hclosed, hclosed'⟩

variable (R)

/-- A cursor that was opened last is closed in its place, whether or not rows were drawn from it. -/
theorem closed_close_last {c : Cursor} (hn : n = (R.cursors t).length)
    (hcursors : R.cursors t' = R.cursors t ++ [c]) (count : Nat) :
    R.Closed t (RowStore.close n (RowStore.drawn n count t')) 1 := by
  obtain ⟨d, hcursor, hdrawn⟩ := R.cursors_drawn (R.cursor?_last hn hcursors) count
  -- drawing has put `d` where `c` was; closing puts `d.close` there
  refine .one (c := d.close) ?_ rfl
  unfold RowStore.close
  rw [hcursor]
  dsimp only
  rw [R.setCursor, hdrawn, hcursors, hn]
  simp

/-- A listing opens a cursor just if its scan succeeds, and has closed it when it ends. -/
theorem closed_listed {range : Range} (h : Store.Listed range t t') :
    R.Closed t t' (if ((RowStore.scan range none).run t).1.isOk then 1 else 0) := by
  cases h with
  | failed hscan =>
    rw [hscan]
    exact .none (R.scan_error hscan)
  | closed hscan count =>
    rw [hscan]
    obtain ⟨hn, rows, closesAtEnd, hcursors⟩ := R.scan_ok hscan
    exact R.closed_close_last hn hcursors count

/-- An operation leaves the cursors that there were.  It opens one just if it is a listing whose
scan succeeds, and has closed it when it ends. -/
theorem closed_run [Caller] (env : Env τ) (o : Operation) :
    R.Closed env.table (o.run.run env).2.table (if o.opens env.table then 1 else 0) := by
  cases hscans : o.scans with
  | false =>
    have hopens : o.opens env.table = false := by
      cases o with
      | list namespaceName filter => cases hscans
      | _ => rfl
    rw [hopens]
    -- an operation that does not scan leaves the cursors as they are, call by call
    refine .none (Operation.keeps_of_calls (P := fun t u => R.cursors u = R.cursors t)
      (fun _ => rfl) (fun htu huv => huv.trans htu) R.read ?_ hscans env)
    intro w t
    cases w with
    | put c => exact R.upsert c.toRow t
    | drop place => exact R.delete place.key t
  | true =>
    cases o with
    | list namespaceName filter =>
      exact R.closed_listed (Store.listed_list env namespaceName filter)
    | _ => cases hscans

end Register

namespace Store

variable {τ : Type} [RowStore τ]

/-- How many cursors the operations among some events open. -/
def openings [Caller] : List (Event τ) → Env τ → Nat
  | [], _ => 0
  | .disturb change :: events, env => openings events (happen (.disturb change) env)
  | .operate clock time o :: events, env =>
    (if o.opens env.table then 1 else 0) + openings events (happen (.operate clock time o) env)

end Store

namespace Register

variable {τ α : Type} [RowStore τ] (R : Register τ α)

open Store (play happen openings)

/-- Whatever happens to a store, apart from what is done to the cursors themselves, all cursors that
it opened are closed after every operation, and it opened one for each listing whose scan
succeeded. -/
theorem closed_play [Caller] (events : List (Event τ)) (env : Env τ)
    (hspared : ∀ change, .disturb change ∈ events → ∀ t, R.cursors (change t) = R.cursors t) :
    R.Closed env.table (play events env).table (openings events env) := by
  -- the count is additive: `Closed.trans` joins what one event opens to what the later ones do
  induction events generalizing env with
  | nil => exact .none rfl
  | cons event events ih =>
    have hlater := ih (happen event env)
      fun change hchange => hspared change (List.mem_cons_of_mem event hchange)
    cases event with
    | disturb change =>
      have hsame : R.Closed env.table (change env.table) 0 :=
        .none (hspared change List.mem_cons_self env.table)
      rw [openings, ← Nat.zero_add (openings _ _)]
      exact hsame.trans hlater
    | operate clock time o => exact (R.closed_run { env with clock } o).trans hlater

end Register

/-! ## Connections -/

namespace Sql.LeasedTable

open Store (play happen)

/-- To draw rows changes the cursor, which may give its connection back, and nothing else. -/
theorem drawn_holding (t : LeasedTable) (c : Cursor) (isOpen : Bool) (count : Nat) :
    ∃ d stillOpen, RowStore.drawn t.leases.length count (t.holding c isOpen) =
      t.holding d stillOpen := by
  induction count generalizing c isOpen with
  | zero => exact ⟨c, isOpen, rfl⟩
  | succ count ih =>
    rw [RowStore.drawn, RowStore.draw_of_cursor (cursor?_holding t c isOpen), setCursor_holding]
    exact ih _ _

/-- A cursor that was opened last gives its connection back when it is closed, whether or not rows
were drawn from it. -/
theorem returned_close_drawn (t : LeasedTable) (c : Cursor) (isOpen : Bool) (count : Nat) :
    t.Returned
      (RowStore.close t.leases.length
        (RowStore.drawn t.leases.length count (t.holding c isOpen))) := by
  obtain ⟨d, stillOpen, hdrawn⟩ := t.drawn_holding c isOpen count
  rw [hdrawn]
  exact t.returned_close d stillOpen

/-- A listing gives back the connection that it takes out. -/
theorem returned_listed {t t' : LeasedTable} {range : Range} (h : Store.Listed range t t') :
    t.Returned t' := by
  -- the scan ended in one way, which both descriptions are about
  obtain ⟨r, u, hrun, -, hscanned⟩ := scan_cases range none t
  cases h with
  | failed hscan =>
    obtain ⟨rfl, rfl⟩ := Prod.mk.inj (hrun.symm.trans hscan)
    cases hscanned with
    | failed _ hreturned => exact hreturned
  | closed hscan count =>
    obtain ⟨rfl, rfl⟩ := Prod.mk.inj (hrun.symm.trans hscan)
    cases hscanned with
    | opened rows => exact returned_close_drawn t _ _ count

/-- An operation gives back every connection that it takes out. -/
theorem returned_run [Caller] (env : Env LeasedTable) (o : Operation) :
    env.table.Returned (o.run.run env).2.table := by
  cases hscans : o.scans with
  | false =>
    -- each call gives back the connections that it takes
    refine Operation.keeps_of_calls (P := Returned) Returned.refl Returned.trans
      (fun key t => (accounts_read key).returned t) ?_ hscans env
    intro w t
    cases w with
    | put c => exact (accounts_upsert c.toRow).returned t
    | drop place => exact (accounts_delete place.key).returned t
  | true =>
    cases o with
    | list namespaceName filter =>
      exact returned_listed (Store.listed_list env namespaceName filter)
    | _ => cases hscans

/-- Whatever happens to a store, apart from what is done to the connections themselves, all that it
took out were given back after every operation. -/
theorem returned_play [Caller] (events : List (Event LeasedTable)) (env : Env LeasedTable)
    (hspared : ∀ change, .disturb change ∈ events →
      ∀ t : LeasedTable, (change t).connections = t.connections) :
    env.table.Returned (play events env).table := by
  -- what is returned by the first event stays returned by the later ones
  induction events generalizing env with
  | nil => exact .refl env.table
  | cons event events ih =>
    refine Returned.trans ?_ (ih (happen event env)
      fun change hchange => hspared change (List.mem_cons_of_mem event hchange))
    cases event with
    | disturb change =>
      exact ⟨[], (hspared change List.mem_cons_self env.table).trans (List.append_nil _).symm,
        List.forall_mem_nil _⟩
    | operate clock time o => exact returned_run { env with clock } o

end Sql.LeasedTable

/-! ## No scan is leaked -/

/-- A store over tables of some kind leaks no scan.  An operation opens a cursor just if it is a
listing whose scan succeeds, and then one, which it has closed when it ends; a listing that draws
its rows one by one comes to the same.  A scan that fails opens none.  After whatever happens to
the store, all cursors that it opened are closed. -/
structure Register.LeaksNoScan [Caller] {τ α : Type} [RowStore τ] (R : Register τ α) : Prop where
  run (env : Env τ) (o : Operation) :
    R.Closed env.table (o.run.run env).2.table (if o.opens env.table then 1 else 0)
  rowwise (env : Env τ) (namespaceName : String) (filter : Filter) :
    let listed := (Store.list (.text namespaceName) filter).run env
    let rowwise := (Store.listRowwise (.text namespaceName) filter).run env
    rowwise = (listed.1, { listed.2 with table := rowwise.2.table }) ∧
      R.Closed env.table rowwise.2.table
        (if (Operation.list namespaceName filter).opens env.table then 1 else 0)
  failed {t t' : τ} {range : Range} {limit : Option Int} {f : Failure} :
    (RowStore.scan range limit).run t = (.error f, t') → R.cursors t' = R.cursors t
  play (events : List (Event τ)) (env : Env τ) :
    (∀ change, .disturb change ∈ events → ∀ t, R.cursors (change t) = R.cursors t) →
      R.Closed env.table (Store.play events env).table (Store.openings events env)

theorem Register.leaksNoScan [Caller] {τ α : Type} [RowStore τ]
    (R : Register τ α) : R.LeaksNoScan where
  run := R.closed_run
  rowwise env namespaceName filter := by
    refine ⟨?_, R.closed_listed (Store.listed_listRowwise R env namespaceName filter)⟩
    -- the two listings differ only behind a scan that succeeded
    cases hscan : (RowStore.scan (Store.namespaceRange namespaceName) none).run env.table with
    | mk r t =>
      cases r with
      | error f =>
        rw [Store.listRowwise_of_scan_error hscan]
        rfl
      | ok n => rw [R.listRowwise_of_scan_ok hscan]
  failed := R.scan_error
  play := R.closed_play

/-- A store leaks no scan, over tables in memory and over tables of a database.  Over a database it
also gives back every connection that it takes out: in every operation, in a listing that draws its
rows one by one, in a scan that fails, and so in whatever happens to it.  That a table of a database
accounts for its connections makes no difference to what the operations answer. -/
theorem store_leaks_no_scan [Caller] :
    MemoryTable.register.LeaksNoScan ∧ LeasedTable.register.LeaksNoScan ∧
    (∀ (env : Env LeasedTable) (o : Operation),
      env.table.Returned (o.run.run env).2.table) ∧
    (∀ (env : Env LeasedTable) (namespaceName : String) (filter : Filter),
      env.table.Returned ((Store.listRowwise (.text namespaceName) filter).run env).2.table) ∧
    (∀ (t t' : LeasedTable) (range : Range) (limit : Option Int) (f : Failure),
      (RowStore.scan range limit).run t = (.error f, t') → t.Returned t') ∧
    (∀ (events : List (Event LeasedTable)) (env : Env LeasedTable),
      (∀ change, .disturb change ∈ events →
        ∀ t : LeasedTable, (change t).connections = t.connections) →
        env.table.Returned (Store.play events env).table) ∧
    ∀ o : Operation, LeasedTable.simulation.Follows o.run o.run := by
  refine ⟨MemoryTable.register.leaksNoScan, LeasedTable.register.leaksNoScan,
    LeasedTable.returned_run, ?_, ?_, LeasedTable.returned_play,
    LeasedTable.simulation.run_follows⟩
  · intro env namespaceName filter
    exact LeasedTable.returned_listed
      (Store.listed_listRowwise LeasedTable.register env namespaceName filter)
  · intro t t' range limit f h
    obtain ⟨r, u, hrun, -, hscanned⟩ := LeasedTable.scan_cases range limit t
    obtain ⟨rfl, rfl⟩ := Prod.mk.inj (hrun.symm.trans h)
    cases hscanned with
    | failed _ hreturned => exact hreturned

/-- Two listings of a namespace, before and after the table was disturbed. -/
def twoListings {τ : Type} (change : τ → τ) : List (Event τ) :=
  [.operate (.manual (.int 0) 0) 0 (.list "ns" .all), .disturb change,
    .operate (.manual (.int 0) 0) 0 (.list "ns" .all)]

/-- A store over the provisioned table of a database. -/
def leasedEnv : Env LeasedTable :=
  ⟨⟨connections, .native, Database.empty.put .main connections [], [], []⟩, .manual (.int 0) 0,
    ⟨⟨.zero, .zero⟩, .none⟩, ⟨0, []⟩⟩

/-- A table whose database has lost all that it had. -/
def emptied (t : LeasedTable) : LeasedTable := { t with database := .empty }

attribute [local instance] Caller.direct in
/-- The first listing ends at a row that cannot be read, or finds nothing; the scan of the second
one fails. -/
theorem store_leaks_no_scan_twoListings :
    let failing : MemoryTable → MemoryTable :=
      fun t => t.failOn "scan" (.foreign .os [.text "disk full"])
    let scanned := (RowStore.scan .all none).run (emptied leasedEnv.table)
    MemoryTable.register.Closed unlookedTable
      (Store.play (twoListings failing) unlookedEnv).table 1 ∧
    LeasedTable.register.Closed leasedEnv.table
      (Store.play (twoListings emptied) leasedEnv).table 1 ∧
    leasedEnv.table.Returned (Store.play (twoListings emptied) leasedEnv).table ∧
    (Store.play (twoListings emptied) leasedEnv).table.connections = [false, false] ∧
    scanned.2.leases.map Lease.cursor = [] ∧ (emptied leasedEnv.table).Returned scanned.2 := by
  intro failing scanned
  have hdisturbs : ∀ {τ : Type} {change changed : τ → τ},
      .disturb changed ∈ twoListings change → changed = change := by
    intro τ change changed h
    simpa [twoListings] using h
  have hopenings : Store.openings (twoListings failing) unlookedEnv = 1 := by
    with_unfolding_all rfl
  have hopenings' : Store.openings (twoListings emptied) leasedEnv = 1 := by
    with_unfolding_all rfl
  have hrefused : ((RowStore.scan .all none).run (emptied leasedEnv.table)).1 =
      .error (.database (.noSuchTable "connections")) := rfl
  have hscan : scanned = (.error (.database (.noSuchTable "connections")), scanned.2) :=
    Prod.ext hrefused rfl
  obtain ⟨hmemory, hleased, -, -, hfailed, hreturned, -⟩ := store_leaks_no_scan
  refine ⟨?_, ?_, ?_, by with_unfolding_all rfl, ?_, ?_⟩
  · rw [← hopenings]
    refine hmemory.play (twoListings failing) unlookedEnv ?_
    intro change hchange t
    rw [hdisturbs hchange]
    rfl
  · rw [← hopenings']
    refine hleased.play (twoListings emptied) leasedEnv ?_
    intro change hchange t
    rw [hdisturbs hchange]
    rfl
  · refine hreturned (twoListings emptied) leasedEnv ?_
    intro change hchange t
    rw [hdisturbs hchange]
    rfl
  · exact hleased.failed hscan
  · exact hfailed _ _ _ _ _ hscan

end ConnectionCatalog
