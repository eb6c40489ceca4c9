import ConnectionCatalog.Proofs.Sql.Table
import ConnectionCatalog.Proofs.Store.Events
import ConnectionCatalog.Proofs.Table.Calls

/-! # Proofs.Store.Invariant — the rows that a store has written

Whatever a store does to an empty table, and whichever calls of the table fail on the way, every row
is the row of a connection, under the key of its place, and its times and its id are as they should
be.  Tables in memory and tables of a database both hold directories, so `Holder.play_holds` tells
what their rows are.

* `MemoryTable.holder`, `SqlTable.holder`: a call that fails leaves the directory in place.
* `SoundRows`: what is true of all rows after some events.
* `stored_rows_stay_sound`: it is true after any events over an empty table.
-/

namespace ConnectionCatalog

open Sql

/-! ## Tables in memory -/

namespace MemoryTable

/-- A table in memory holds a directory: it has the key of the connections, and its rows are those
of the directory's connections.  Any of its operations may have been made to fail. -/
structure Holds (t : MemoryTable) (d : Directory) : Prop where
  key : t.key = connectionsKey
  rows : ∃ cs, Listed cs d ∧ t.rows = cs.map Connection.stored

variable {t : MemoryTable} {d : Directory}

theorem Holds.called (h : t.Holds d) (call : Call) : (t.called call).Holds d := ⟨h.key, h.rows⟩

theorem Holds.read (h : t.Holds d) (key : Row) : ((read key).run t).2.Holds d := by
  rw [run_read]
  exact h.called _

theorem Holds.scan (h : t.Holds d) (range : Range) (limit : Option Int) :
    ((scan range limit).run t).2.Holds d := by
  rw [run_scan]
  cases t.unlessFailing (.scan range.pins limit) (t.selected range limit) with
  | error f => exact h.called _
  | ok rows => exact ⟨h.key, h.rows⟩

/-- Where a key can be read, the row that is found is the one of the directory's entry. -/
theorem Holds.found (h : t.Holds d) {place : NamespacedId} {found : Option Row}
    (hfound : ((MemoryTable.read place.key).run t).1 = .ok found) :
    found = (d.find? place).map fun e => (e.connection place).toRow := by
  obtain ⟨cs, hcs, hrows⟩ := h.rows
  rw [run_read] at hfound
  -- a read that fails finds nothing to speak of
  cases hanswer : t.unlessFailing (.read place.key) (t.keyOf place.key) with
  | error f =>
    rw [hanswer] at hfound
    cases hfound
  | ok key =>
    rw [hanswer] at hfound
    have hkey := t.eq_of_unlessFailing hanswer
    rw [keyOf_key h.key] at hkey
    have hfind : find? key t.rows = found := Except.ok.inj hfound
    rw [← hfind, ← Except.ok.inj hkey, hrows, find?_stored, hcs.find?_eq, Option.map_map]
    rfl

theorem Holds.reads (h : t.Holds d) (hreads : t.failures.get? "read" = none)
    (place : NamespacedId) : ∃ found, ((MemoryTable.read place.key).run t).1 = .ok found := by
  have hfailure : t.failures.get? (Call.read place.key).operation = none := hreads
  refine ⟨find? place.values t.rows, ?_⟩
  rw [run_read, keyOf_key h.key, unlessFailing, hfailure]
  rfl

theorem Holds.put (h : t.Holds d) (c : Connection) :
    ((upsert c.toRow).run t).2.Holds ((Write.put c).made d ((upsert c.toRow).run t).1) := by
  obtain ⟨cs, hcs, hrows⟩ := h.rows
  rw [run_upsert]
  cases hanswer : t.unlessFailing (.upsert c.toRow) (t.keyOf c.toRow) with
  | error f => exact h.called _
  | ok key =>
    have hkey := t.eq_of_unlessFailing hanswer
    rw [keyOf_toRow h.key] at hkey
    refine ⟨h.key, placed c cs, hcs.put c, ?_⟩
    rw [← Except.ok.inj hkey, hrows]
    exact put_stored c hcs.distinct

theorem Holds.drop (h : t.Holds d) (place : NamespacedId) :
    ((delete place.key).run t).2.Holds
      ((Write.drop place).made d ((delete place.key).run t).1) := by
  obtain ⟨cs, hcs, hrows⟩ := h.rows
  have herased : t.erased place.key = .ok ((dropped place cs).map Connection.stored) := by
    unfold erased
    rw [keyOf_key h.key, hrows]
    -- without rows there is nothing to take away
    cases cs with
    | nil => cases t.lacking? place.key <;> rfl
    | cons c cs => exact congrArg Except.ok (erase_stored place hcs.distinct)
  rw [run_delete]
  cases hanswer : t.unlessFailing (.delete place.key) (t.erased place.key) with
  | error f => exact h.called _
  | ok rows =>
    have hrows' := t.eq_of_unlessFailing hanswer
    rw [herased] at hrows'
    exact ⟨h.key, dropped place cs, hcs.drop place, (Except.ok.inj hrows').symm⟩

/-- Tables in memory hold directories, and can be read unless that was made to fail. -/
def holder : Holder MemoryTable where
  Holds := Holds
  Reads t := t.failures.get? "read" = none
  stored := rows
  rows h := h.rows
  reads place h hreads := h.reads hreads place
  found h hfound := h.found hfound
  read key h := h.read key
  scan range limit h := h.scan range limit
  setCursor _ _ h := ⟨h.key, h.rows⟩
  write w h := by
    cases w with
    | put c => exact h.put c
    | drop place => exact h.drop place

theorem new_holds {name : String} (h : MemoryTable.new name connectionsKey = .ok t) :
    t.Holds .empty :=
  ⟨(new_keeps h).key, (new_keeps h).rows⟩

end MemoryTable

/-! ## Tables of a database -/

namespace Sql.SqlTable

/-- The rows of a table, under the values of their key columns. -/
def stored (t : SqlTable) : List (Key × Row) :=
  ((t.database.rows? t.spec).getD []).map fun cells =>
    (t.spec.key.map (t.spec.toRow cells).cell, t.spec.toRow cells)

variable {t : SqlTable} {d : Directory}

theorem Keeps.stored (h : t.Keeps d) :
    ∃ cs, Listed cs d ∧ t.stored = cs.map Connection.stored := by
  obtain ⟨cs, hcs, hrows, -⟩ := h.rows
  refine ⟨cs, hcs, ?_⟩
  have hkey : ∀ c : Connection, connections.key.map c.toRow.cell = c.place.values := by
    intro c
    simp [key_connections, TextMap.cell, c.get?_toRow, NamespacedId.values]
  rw [SqlTable.stored, h.spec, hrows, Option.getD_some, List.map_map]
  refine List.map_congr_left ?_
  intro c _
  simp only [Function.comp_apply, toRow_cells, hkey, Connection.stored]

theorem Keeps.scan (h : t.Keeps d) (range : Range) (limit : Option Int) :
    ((scan range limit).run t).2.Keeps d := by
  rw [run_scan]
  cases t.selected range limit with
  | error f => exact h
  | ok rows => exact ⟨h.spec, h.rows⟩

/-- A connection with a time that does not fit cannot be written, on either route. -/
theorem written_of_unfit {db : Database} {rows : List Cells} {c : Connection} (route : Upsert)
    (hrows : db.rows? connections = some rows)
    (hunfit : (Cell.fits c.created && Cell.fits c.updated) = false) :
    written db connections route c.toRow = .error (.database .integerTooLarge) := by
  -- one of the two times is too large, and values are bound in the order of the columns
  have hinserted : bindColumns 1 (insertedColumns connections c.toRow) =
      .error (.database .integerTooLarge) := by
    cases hcreated : Cell.fits c.created with
    | false =>
      simp [insertedColumns, connections, c.get?_toRow, bindColumns, bindAll, bindValue, hcreated]
    | true =>
      rw [hcreated, Bool.true_and] at hunfit
      simp [insertedColumns, connections, c.get?_toRow, bindColumns, bindAll, bindValue, hcreated,
        hunfit]
  have hchanged : bindColumns 1 (givenColumns connections (changes connections c.toRow)) =
      .error (.database .integerTooLarge) := by
    rw [givenColumns_changes]
    cases hcreated : Cell.fits c.created with
    | false => simp [bindColumns, bindAll, bindValue, hcreated]
    | true =>
      rw [hcreated, Bool.true_and] at hunfit
      simp [bindColumns, bindAll, bindValue, hcreated, hunfit]
  have hgiven : (givenColumns connections (changes connections c.toRow)).isEmpty = false := by
    rw [givenColumns_changes]
    rfl
  have hdb : db.rows connections = .ok rows := by simp [Database.rows, hrows]
  unfold written
  rw [refused?_toRow]
  cases route with
  | native => simp [Database.insertOrChange, hdb, hinserted, bind, Except.bind]
  | portable =>
    simp [changeOrInsert, Database.change, hgiven, hdb, hchanged, bind, Except.bind]

theorem Keeps.put (h : t.Keeps d) (c : Connection) :
    ((upsert c.toRow).run t).2.Keeps ((Write.put c).made d ((upsert c.toRow).run t).1) := by
  cases hfits : Cell.fits c.created && Cell.fits c.updated with
  | true =>
    obtain ⟨hcreated, hupdated⟩ := Bool.and_eq_true_iff.1 hfits
    obtain ⟨u, hu, hrun⟩ := upsert_keeps c h hcreated hupdated
    rw [hrun]
    exact hu
  | false =>
    obtain ⟨cs, -, hrows, -⟩ := h.rows
    rw [run_upsert, h.spec, written_of_unfit t.route hrows hfits]
    exact h

theorem Keeps.drop (h : t.Keeps d) (place : NamespacedId) :
    ((delete place.key).run t).2.Keeps
      ((Write.drop place).made d ((delete place.key).run t).1) := by
  obtain ⟨u, hu, hrun⟩ := delete_keeps place h
  rw [hrun]
  exact hu

/-- Tables of a database hold directories, and can always be read. -/
def holder : Holder SqlTable where
  Holds := Keeps
  Reads _ := True
  stored := stored
  rows h := h.stored
  reads place h _ := by
    obtain ⟨u, -, hrun⟩ := read_keeps place h
    exact ⟨_, congrArg Prod.fst hrun⟩
  found {t d place found} h hfound := by
    obtain ⟨u, -, hrun⟩ := read_keeps place h
    exact (Except.ok.inj ((congrArg Prod.fst hrun).symm.trans hfound)).symm
  read {t d} key h := by
    have hrun : (RowStore.read key).run t = (t.looked key, t) := run_read t key
    rw [hrun]
    exact h
  scan range limit h := h.scan range limit
  setCursor _ _ h := ⟨h.spec, h.rows⟩
  write w h := by
    cases w with
    | put c => exact h.put c
    | drop place => exact h.drop place

end Sql.SqlTable

/-! ## The invariant -/

/-- What is true of the rows that events have left.  Every row is read as a connection, under the
key of whose place it stands.  The id of that place is spelled as an id and is its own id, so that
the connection is found by it wherever the table can be read.  It was not updated before it was
created, or after the clock's last reading, and it was created when it was made and has been there
since.  No two rows have one key. -/
structure SoundRows [Caller] {τ : Type} [RowStore τ] (stored : τ → List (Key × Row))
    (Reads : τ → Prop)
    (start : Int) (events : List (Event τ)) (env : Env τ) : Prop where
  distinct : (stored (Store.play events env).table).Pairwise fun a b => a.1.same b.1 = false
  sound : ∀ key row, (key, row) ∈ stored (Store.play events env).table → ∃ c : Connection,
    (∀ way, Connection.ofRow way row = .ok c) ∧
      key = [.text c.place.namespaceName, .text c.place.id] ∧
      row.get? "namespace" = some (.text c.place.namespaceName) ∧
      row.get? "id" = some (.text c.place.id) ∧
      (∀ char ∈ c.place.id.toList, isIdChar char = true) ∧
      connectionId c.place.id = c.place.id ∧
      (Reads (Store.play events env).table →
        ((Store.contains (.text c.place.namespaceName) c.place.id).run
          (Store.play events env)).1 = .ok true) ∧
      c.created ≤ c.updated ∧ c.updated ≤ Store.latest start events ∧
      Store.Origin stored env events c.place c.created

namespace Holder

variable [Caller] {τ : Type} [RowStore τ] (H : Holder τ) {env : Env τ} {d : Directory}

/-- A connection whose id is its own id is found by its id. -/
theorem contains_of_find? (h : H.Holds env.table d) (hreads : H.Reads env.table)
    {place : NamespacedId} {e : Entry} (hid : connectionId place.id = place.id)
    (hfind : d.find? place = some e) :
    ((Store.contains (.text place.namespaceName) place.id).run env).1 = .ok true := by
  have hplace : Store.placeOf place.namespaceName place.id = place := by
    rw [Store.placeOf, hid]
  obtain ⟨found, hfound⟩ := H.reads place h hreads
  have hrow := H.found h hfound
  rw [hfind, Option.map_some] at hrow
  rw [hrow] at hfound
  have hread : (RowStore.read (Store.placeOf place.namespaceName place.id).key).run env.table =
      (.ok (some (e.connection place).toRow), ((RowStore.read place.key).run env.table).2) := by
    rw [hplace]
    exact Prod.ext hfound rfl
  rw [Store.contains_run hread, Store.looked, Connection.ofRow_toRow]
  rfl

/-- Over a table that holds the empty directory at first, the rows are sound after any events. -/
theorem soundRows (h : H.Holds env.table .empty) {start : Int} {events : List (Event τ)}
    (htimely : Store.Timely start events) (hspared : H.Spared events) :
    SoundRows H.stored H.Reads start events env := by
  obtain ⟨last, hlast, hsound, hlasted⟩ :=
    H.play_holds events h (Directory.sound_empty start) htimely hspared
  obtain ⟨cs, hcs, hrows⟩ := H.rows hlast
  -- the rows are those of the connections listed, so the directory has what the clauses ask for
  constructor
  · rw [hrows, List.pairwise_map]
    refine hcs.distinct.imp ?_
    intro a b hab
    simpa [Connection.stored, Key.same_values] using hab
  · intro key row hmem
    rw [hrows] at hmem
    obtain ⟨c, hc, hstored⟩ := List.mem_map.1 hmem
    obtain ⟨rfl, rfl⟩ := Prod.mk.inj hstored
    have hfind := (hcs.mem_iff c).1 hc
    obtain ⟨hchars, hle, hnow⟩ := hsound c.place c.entry hfind
    have hid := connectionId_of_isIdChar hchars
    have horigin : Store.Origin H.stored env events c.place c.created := by
      cases hlasted c.place c.entry hfind with
      | kept hbefore _ _ => cases hbefore
      | made horigin => exact horigin
    refine ⟨c, fun way => c.ofRow_toRow way, rfl, ?_, ?_, hchars, hid, ?_, hle, hnow, horigin⟩
    · simp [c.get?_toRow]
    · simp [c.get?_toRow]
    · intro hreads
      exact H.contains_of_find? hlast hreads hid hfind

end Holder

/-- Whatever happens to a store over an empty table, in memory or in a database, with calls that are
made to fail at any point and under a clock that never goes backwards, the rows are sound. -/
theorem stored_rows_stay_sound [Caller] :
    (∀ {name : String} {table : MemoryTable},
      MemoryTable.new name connectionsKey = .ok table →
      ∀ (start : Int) (events : List (Event MemoryTable)) (clock : Clock) (meter : Meter)
        (log : Log), Store.Timely start events →
      (∀ change, .disturb change ∈ events →
        ∀ t, (change t).key = t.key ∧ (change t).rows = t.rows) →
      SoundRows MemoryTable.rows (fun t => t.failures.get? "read" = none) start events
        ⟨table, clock, meter, log⟩) ∧
    ∀ {db : Database}, (Database.createMissing [connections]).run .empty = (.ok (), db) →
      ∀ (route : Upsert) (start : Int) (events : List (Event SqlTable)) (clock : Clock)
        (meter : Meter) (log : Log), Store.Timely start events →
      (∀ change, .disturb change ∈ events →
        ∀ t, (change t).spec = t.spec ∧
          (change t).database.rows? t.spec = t.database.rows? t.spec) →
      SoundRows SqlTable.stored (fun _ => True) start events
        ⟨⟨connections, route, db, []⟩, clock, meter, log⟩ := by
  constructor
  · intro name table h start events clock meter log htimely hspared
    refine MemoryTable.holder.soundRows (MemoryTable.new_holds h) htimely ?_
    intro change hchange t d ht
    obtain ⟨hkey, hrows⟩ := hspared change hchange t
    refine ⟨hkey.trans ht.key, ?_⟩
    rw [hrows]
    exact ht.rows
  · intro db h route start events clock meter log htimely hspared
    let env : Env SqlTable := ⟨⟨connections, route, db, []⟩, clock, meter, log⟩
    have hempty : SqlTable.holder.Holds env.table .empty := SqlTable.provisioned_keeps h route
    refine SqlTable.holder.soundRows hempty htimely ?_
    intro change hchange t d ht
    obtain ⟨hspec, hrows⟩ := hspared change hchange t
    rw [ht.spec] at hrows
    refine ⟨hspec.trans ht.spec, ?_⟩
    rw [hrows]
    exact ht.rows

/-- A life of a connection with another name at the end, in which two creations fail: the second
one of the name, and one whose write was made to fail. -/
def troubledEvents : List (Event MemoryTable) :=
  [.operate (.manual (.int 5) 0) 5 (.create "ns" ⟨"A b", .s3, "", .empty⟩),
    .operate (.manual (.int 6) 0) 6 (.create "ns" ⟨"a B", .gcs, "", .empty⟩),
    .disturb fun t => t.failOn "upsert" (.foreign .os [.text "disk full"]),
    .operate (.manual (.int 6) 0) 6 (.create "ns" ⟨"d", .s3, "", .empty⟩),
    .disturb fun t => { t with failures := .empty },
    .operate (.manual (.text "7") 0) 7 (.update ⟨"ns", "a_b"⟩ ⟨"c", .file, "x", .empty⟩)]

attribute [local instance] Caller.direct in
theorem stored_rows_stay_sound_troubled :
    (Store.play troubledEvents ⟨⟨"connections", connectionsKey, [], [], .empty, [], 0⟩,
        .manual .null 0, ⟨⟨.zero, .zero⟩, .none⟩, ⟨0, []⟩⟩).table.rows =
        [Connection.stored ⟨⟨"ns", "a_b"⟩, ⟨"c", .file, "x", .empty⟩, 5, 7⟩] ∧
      SoundRows MemoryTable.rows (fun t => t.failures.get? "read" = none) 0 troubledEvents
        ⟨⟨"connections", connectionsKey, [], [], .empty, [], 0⟩, .manual .null 0,
          ⟨⟨.zero, .zero⟩, .none⟩, ⟨0, []⟩⟩ ∧
      SoundRows SqlTable.stored (fun _ => True) 0
        [.operate (.manual (.int 5) 0) 5 (.create "ns" ⟨"A b", .s3, "", .empty⟩)]
        ⟨⟨connections, .portable, Database.empty.put .main connections [], []⟩, .manual .null 0,
          ⟨⟨.zero, .zero⟩, .none⟩, ⟨0, []⟩⟩ := by
  refine ⟨rfl, ?_, ?_⟩
  · refine stored_rows_stay_sound.1 rfl 0 troubledEvents _ _ _ ?_ ?_
    · exact ⟨Clock.shows_manual rfl 0, by decide, Clock.shows_manual rfl 0, by decide,
        Clock.shows_manual rfl 0, by decide, Clock.shows_manual rfl 0, by decide, trivial⟩
    · intro change hchange t
      simp only [troubledEvents, List.mem_cons, reduceCtorEq, Event.disturb.injEq, false_or,
        List.not_mem_nil, or_false] at hchange
      -- the disturbances inject failures and take them away, and leave the rows alone
      rcases hchange with rfl | rfl <;> exact ⟨rfl, rfl⟩
  · refine stored_rows_stay_sound.2 rfl .portable 0 _ _ _ _ ?_ ?_
    · exact ⟨Clock.shows_manual rfl 0, by decide, trivial⟩
    · intro change hchange
      simp at hchange

end ConnectionCatalog
