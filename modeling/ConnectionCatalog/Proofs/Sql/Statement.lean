import ConnectionCatalog.Proofs.Connection.Codec
import ConnectionCatalog.Proofs.Sql.Binding

/-! # Proofs.Sql.Statement — what the statements do to the rows of the connections

A connection is stored as one cell for each column, `Connection.cells`, and read back from it.
A stored row stands at a place if its key columns hold texts, whatever its other cells are, and the
statements only look at the place.  Over rows that are the cells of connections, they do what
`placed`, `dropped` and `inOrder` do to the connections.

* `written_standing`: writing the row of a connection, on either route, over standing rows.
* `select_place`, `select_namespace`, `delete_place`: what is selected and deleted, over any rows.
* `written_cells`, `delete_cells`, `select_key_cells`, `select_namespace_cells` and
  `select_all_cells`: the same over the rows of connections.
-/

namespace ConnectionCatalog

open Sql

/-! ## Cells -/

/-- A connection as a database stores it: a cell for each column. -/
def Connection.cells (c : Connection) : Cells :=
  [.text c.place.namespaceName, .text c.place.id, .text c.info.type.name, .text c.info.name,
    .text c.info.description, .text (encodeProperties c.info.properties), .int c.created,
    .int c.updated]

namespace Sql

theorem toRow_cells (c : Connection) : connections.toRow c.cells = c.toRow := rfl

theorem key_connections : connections.key = ["namespace", "id"] := rfl

theorem emptyColumn?_cells (c : Connection) : connections.emptyColumn? c.cells = none := by
  rfl

theorem refused?_toRow (c : Connection) : SqlTable.refused? connections c.toRow = none := by
  have hcolumns := c.toRow_canonical.columns
  have hknown : (c.toRow.keys.filter fun name => !connections.columnNames.contains name) = [] := by
    rw [List.filter_eq_nil_iff]
    intro name hname
    obtain ⟨⟨k, v⟩, hmem, rfl⟩ := List.mem_map.1 hname
    have hcontains : c.toRow.contains k = true := by
      rw [TextMap.contains, TextMap.mem_entries_iff.1 hmem]
      rfl
    have hcolumn : k ∈ connections.columnNames := (hcolumns k).1 hcontains
    simp [hcolumn]
  have hkeys : (connections.key.filter fun name => !c.toRow.contains name) = [] := by
    rw [List.filter_eq_nil_iff, key_connections]
    intro name hname
    have hcontains : c.toRow.contains name = true := by
      refine (hcolumns name).2 ?_
      simp only [List.mem_cons, List.not_mem_nil, or_false] at hname
      rcases hname with rfl | rfl <;> simp [connectionsColumns]
    simp [hcontains]
  -- a row of a connection has all columns of the table and no other
  simp only [SqlTable.refused?, SqlTable.missingKey?, hknown, hkeys]
  rfl

/-- What an insertion binds for a connection. -/
def assignment (c : Connection) : Assignment :=
  [("namespace", .text c.place.namespaceName), ("id", .text c.place.id),
    ("type", .text c.info.type.name), ("name", .text c.info.name),
    ("description", .text c.info.description),
    ("properties", .text (encodeProperties c.info.properties)), ("created", .int c.created),
    ("updated", .int c.updated)]

theorem bindColumns_inserted {c : Connection} (hcreated : Cell.fits c.created = true)
    (hupdated : Cell.fits c.updated = true) :
    bindColumns 1 (insertedColumns connections c.toRow) = .ok (assignment c) := by
  simp [insertedColumns, connections, c.get?_toRow, bindColumns, bindAll, bindValue, hcreated,
    hupdated, assignment]

theorem newCells_assignment (c : Connection) :
    connections.newCells (assignment c) = c.cells := rfl

/-- What a change binds for a connection: the columns outside the key. -/
def changed (c : Connection) : Assignment :=
  [("type", .text c.info.type.name), ("name", .text c.info.name),
    ("description", .text c.info.description),
    ("properties", .text (encodeProperties c.info.properties)), ("created", .int c.created),
    ("updated", .int c.updated)]

theorem get?_changes (c : Connection) (column : String) :
    (changes connections c.toRow).get? column =
      if column = "namespace" ∨ column = "id" then none else c.toRow.get? column := by
  rw [changes, TextMap.get?_filterKeys, key_connections]
  by_cases hcolumn : column = "namespace" ∨ column = "id"
  · rcases hcolumn with rfl | rfl <;> rfl
  · have hkey : (["namespace", "id"].contains column) = false := by
      simpa using hcolumn
    rw [hkey, if_neg hcolumn, Bool.not_false, if_pos rfl]

theorem changed_of_assignment (c : Connection) :
    ((assignment c).filter fun p => (changes connections c.toRow).contains p.1) = changed c := by
  simp [assignment, changed, TextMap.contains, get?_changes, c.get?_toRow]

theorem givenColumns_changes (c : Connection) :
    givenColumns connections (changes connections c.toRow) =
      [(⟨"type", .text, false, false, none⟩, .text c.info.type.name),
        (⟨"name", .text, false, false, none⟩, .text c.info.name),
        (⟨"description", .text, false, false, some (.text "")⟩, .text c.info.description),
        (⟨"properties", .text, false, false, some (.text "\x7b\x7d")⟩,
          .text (encodeProperties c.info.properties)),
        (⟨"created", .integer, false, false, none⟩, .int c.created),
        (⟨"updated", .integer, false, false, none⟩, .int c.updated)] := by
  simp only [givenColumns, get?_changes]
  simp [connections, c.get?_toRow]

theorem bindColumns_changed {c : Connection} (hcreated : Cell.fits c.created = true)
    (hupdated : Cell.fits c.updated = true) :
    bindColumns 1 (givenColumns connections (changes connections c.toRow)) =
      .ok (changed c) := by
  simp [givenColumns_changes, bindColumns, bindAll, bindValue, hcreated, hupdated, changed]

/-! ## Conditions -/

/-- The condition that a row has the key of a place. -/
def placeClause (place : NamespacedId) : Clause :=
  [(⟨"namespace", .text, true, false, none⟩, .equals (.text place.namespaceName)),
    (⟨"id", .text, true, false, none⟩, .equals (.text place.id))]

/-- The condition that a row is in a namespace. -/
def namespaceClause (namespaceName : String) : Clause :=
  [(⟨"namespace", .text, true, false, none⟩, .equals (.text namespaceName))]

theorem column?_namespace :
    connections.column? "namespace" = some ⟨"namespace", .text, true, false, none⟩ := rfl

theorem column?_id : connections.column? "id" = some ⟨"id", .text, true, false, none⟩ := rfl

theorem keyPins_key (place : NamespacedId) :
    keyPins connections place.key =
      [("namespace", .text place.namespaceName), ("id", .text place.id)] := by
  simp [keyPins, key_connections, NamespacedId.key, NamespacedId.fields, TextMap.cell,
    TextMap.ofList, TextMap.get?_insert]

theorem bindClause_key (position : Nat) (place : NamespacedId) :
    bindClause position (pinnedColumns connections (keyPins connections place.key)) =
      .ok (position + 1 + 1, placeClause place) := by
  simp [keyPins_key, pinnedColumns, column?_namespace, column?_id, bindClause, bindValue,
    placeClause]

theorem keyPins_toRow (c : Connection) :
    keyPins connections c.toRow = keyPins connections c.place.key := by
  have hkey := c.toRow_key
  simp only [connectionsKey, List.map_cons, List.map_nil, List.cons.injEq, and_true] at hkey
  simp [keyPins, key_connections, hkey.1, hkey.2]

theorem bindClause_namespace (position : Nat) (namespaceName : String) :
    bindClause position (pinnedColumns connections [("namespace", .text namespaceName)]) =
      .ok (position + 1, namespaceClause namespaceName) := by
  simp [pinnedColumns, column?_namespace, bindClause, bindValue, namespaceClause]

/-! ## Standing rows -/

/-- A stored row stands at a place: its key columns hold the texts of the place, and it has cells
for the other columns. -/
def Standing (place : NamespacedId) (cells : Cells) : Prop :=
  ∃ rest : Cells, rest.length = 6 ∧
    cells = .text place.namespaceName :: .text place.id :: rest

namespace Standing

variable {place other : NamespacedId} {cells cells' : Cells}

theorem of_cells (c : Connection) : Standing c.place c.cells := ⟨_, rfl, rfl⟩

theorem cellOf_namespace (h : Standing place cells) :
    connections.cellOf cells "namespace" = .text place.namespaceName := by
  obtain ⟨rest, -, rfl⟩ := h
  rfl

theorem cellOf_id (h : Standing place cells) :
    connections.cellOf cells "id" = .text place.id := by
  obtain ⟨rest, -, rfl⟩ := h
  rfl

theorem satisfies_place (h : Standing place cells) (other : NamespacedId) :
    connections.satisfies cells (placeClause other) = decide (place = other) := by
  obtain ⟨name, id⟩ := place
  obtain ⟨otherName, otherId⟩ := other
  rw [Bool.eq_iff_iff]
  simp [TableSpec.satisfies, placeClause, h.cellOf_namespace, h.cellOf_id, Cell.same, Cell.number?]

theorem satisfies_namespace (h : Standing place cells) (namespaceName : String) :
    connections.satisfies cells (namespaceClause namespaceName) =
      decide (place.namespaceName = namespaceName) := by
  rw [Bool.eq_iff_iff]
  simp [TableSpec.satisfies, namespaceClause, h.cellOf_namespace, Cell.same, Cell.number?]

/-- A row has the key of a connection if it satisfies the condition on the key columns. -/
theorem sameKey_eq (h : Standing place cells) (c : Connection) :
    connections.sameKey c.cells cells = connections.satisfies cells (placeClause c.place) := by
  obtain ⟨name, id⟩ := place
  have hc := of_cells c
  rw [h.satisfies_place, Bool.eq_iff_iff, decide_eq_true_iff]
  simp only [TableSpec.sameKey, key_connections, h.cellOf_namespace, h.cellOf_id,
    hc.cellOf_namespace, hc.cellOf_id, Cell.same, Cell.number?, List.all_cons, List.all_nil,
    Bool.and_true, Bool.and_eq_true, beq_iff_eq]
  constructor
  · rintro ⟨rfl, rfl⟩
    rfl
  · intro hplace
    rw [← hplace]
    exact ⟨rfl, rfl⟩

theorem lessBy_eq (h : Standing place cells) (h' : Standing other cells') :
    connections.lessBy cells cells' connections.key = decide (place.Before other) := by
  simp only [key_connections, TableSpec.lessBy, h.cellOf_namespace, h.cellOf_id,
    h'.cellOf_namespace, h'.cellOf_id, Cell.less, Cell.number?, NamespacedId.Before]
  -- the first column of the key in which the rows differ decides
  by_cases hname : place.namespaceName = other.namespaceName
  · simp [hname]
  · by_cases hlt : place.namespaceName < other.namespaceName
    · simp [hlt]
    · have hback := TextMap.lt_of_not_lt_of_ne hlt hname
      simp [hname, hlt, hback]

/-- A change to a connection at its place leaves nothing of what was there. -/
theorem changedCells_eq {c : Connection} (h : Standing c.place cells) :
    connections.changedCells (changed c) cells = c.cells := by
  obtain ⟨rest, hrest, rfl⟩ := h
  match rest, hrest with
  | [_, _, _, _, _, _], _ => rfl

end Standing

/-! ## Statements -/

/-- Rows in which a connection takes the place of those with its key, or else comes last. -/
def replacing (c : Connection) (rows : List Cells) : List Cells :=
  if rows.any fun r => connections.satisfies r (placeClause c.place) then
    rows.map fun r => if connections.satisfies r (placeClause c.place) then c.cells else r
  else rows ++ [c.cells]

section

variable {db : Database} {rows : List Cells} {c : Connection}

theorem select_place (hrows : db.rows? connections = some rows) (place : NamespacedId) :
    db.select connections (keyPins connections place.key) none =
      .ok (connections.inKeyOrder (rows.filter fun r =>
        connections.satisfies r (placeClause place))) := by
  simp [Database.select, hrows, bindClause_key, bind, Except.bind]

theorem select_namespace (hrows : db.rows? connections = some rows) (namespaceName : String) :
    db.select connections [("namespace", .text namespaceName)] none =
      .ok (connections.inKeyOrder (rows.filter fun r =>
        connections.satisfies r (namespaceClause namespaceName))) := by
  simp [Database.select, hrows, bindClause_namespace, bind, Except.bind]

theorem delete_place (hrows : db.rows? connections = some rows) (place : NamespacedId) :
    db.delete connections (keyPins connections place.key) =
      .ok (db.withRows connections (rows.filter fun r =>
        !connections.satisfies r (placeClause place))) := by
  simp [Database.delete, rows_of_rows? hrows, bindClause_key, bind, Except.bind]

/-- Changing the rows with the key of a connection puts its cells in their place. -/
theorem map_changed_standing (h : ∀ r ∈ rows, ∃ place, Standing place r) {p : Cells → Bool}
    (hp : ∀ r ∈ rows, p r = connections.satisfies r (placeClause c.place)) :
    (rows.map fun r => if p r then connections.changedCells (changed c) r else r) =
      rows.map fun r =>
        if connections.satisfies r (placeClause c.place) then c.cells else r := by
  refine List.map_congr_left ?_
  intro r hr
  obtain ⟨place, hplace⟩ := h r hr
  rw [hp r hr, hplace.satisfies_place]
  by_cases heq : place = c.place
  · subst heq
    simp [hplace.changedCells_eq]
  · simp [heq]

theorem sameKey_standing (h : ∀ r ∈ rows, ∃ place, Standing place r) (c : Connection) (r : Cells)
    (hr : r ∈ rows) :
    connections.sameKey c.cells r = connections.satisfies r (placeClause c.place) := by
  obtain ⟨place, hplace⟩ := h r hr
  exact hplace.sameKey_eq c

theorem any_sameKey_standing (h : ∀ r ∈ rows, ∃ place, Standing place r) (c : Connection) :
    rows.any (connections.sameKey c.cells) =
      rows.any fun r => connections.satisfies r (placeClause c.place) := by
  rw [Bool.eq_iff_iff, List.any_eq_true, List.any_eq_true]
  refine exists_congr fun r => and_congr_right fun hr => ?_
  rw [sameKey_standing h c r hr]

/-- The native way changes the rows with the key, or else adds a row. -/
theorem insertOrChange_standing (hrows : db.rows? connections = some rows)
    (h : ∀ r ∈ rows, ∃ place, Standing place r) (hcreated : Cell.fits c.created = true)
    (hupdated : Cell.fits c.updated = true) :
    db.insertOrChange connections c.toRow = .ok (db.withRows connections (replacing c rows)) := by
  simp only [Database.insertOrChange, rows_of_rows? hrows, bindColumns_inserted hcreated hupdated,
    newCells_assignment, emptyColumn?_cells, any_sameKey_standing h c, changed_of_assignment, bind,
    Except.bind]
  rw [map_changed_standing h (sameKey_standing h c), replacing]
  split <;> rfl

/-- A change tells whether there was a row to change. -/
theorem change_standing (hrows : db.rows? connections = some rows)
    (h : ∀ r ∈ rows, ∃ place, Standing place r) (hcreated : Cell.fits c.created = true)
    (hupdated : Cell.fits c.updated = true) :
    db.change connections c.toRow =
      .ok (rows.any fun r => connections.satisfies r (placeClause c.place),
        db.withRows connections (rows.map fun r =>
          if connections.satisfies r (placeClause c.place) then c.cells else r)) := by
  have hgiven : (givenColumns connections (changes connections c.toRow)).isEmpty = false := by
    rw [givenColumns_changes]
    rfl
  -- no changed row has an empty column, since each is the row of `c`
  have hempty : ((rows.filter fun r =>
      connections.satisfies r (placeClause c.place)).findSome? fun r =>
        connections.emptyColumn? (connections.changedCells (changed c) r)) = none := by
    rw [List.findSome?_eq_none_iff]
    intro r hr
    obtain ⟨hr, hsatisfies⟩ := List.mem_filter.1 hr
    obtain ⟨place, hplace⟩ := h r hr
    rw [hplace.satisfies_place, decide_eq_true_iff] at hsatisfies
    subst hsatisfies
    rw [hplace.changedCells_eq, emptyColumn?_cells]
  simp only [Database.change, hgiven, rows_of_rows? hrows, bindColumns_changed hcreated hupdated,
    keyPins_toRow, bindClause_key, bind, Except.bind, hempty]
  rw [map_changed_standing h fun _ _ => rfl]
  rfl

theorem insert_standing (hrows : db.rows? connections = some rows)
    (h : ∀ r ∈ rows, ∃ place, Standing place r) (hcreated : Cell.fits c.created = true)
    (hupdated : Cell.fits c.updated = true)
    (hnew : (rows.any fun r => connections.satisfies r (placeClause c.place)) = false) :
    db.insert connections c.toRow = .ok (db.withRows connections (rows ++ [c.cells])) := by
  simp only [Database.insert, rows_of_rows? hrows, bindColumns_inserted hcreated hupdated,
    newCells_assignment, emptyColumn?_cells, any_sameKey_standing h c, hnew, bind, Except.bind]
  rfl

/-- The portable way does the same in two statements. -/
theorem changeOrInsert_standing (hrows : db.rows? connections = some rows)
    (h : ∀ r ∈ rows, ∃ place, Standing place r) (hcreated : Cell.fits c.created = true)
    (hupdated : Cell.fits c.updated = true) :
    SqlTable.changeOrInsert db connections c.toRow =
      .ok (db.withRows connections (replacing c rows)) := by
  unfold SqlTable.changeOrInsert
  rw [change_standing hrows h hcreated hupdated, replacing]
  -- the rows that a change matches are counted, and an insertion follows where there are none
  cases hany : rows.any fun r => connections.satisfies r (placeClause c.place) with
  | true => rfl
  | false => exact insert_standing hrows h hcreated hupdated hany

/-- Writing the row of a connection, on either route, over rows of any content. -/
theorem written_standing (route : Upsert) (hrows : db.rows? connections = some rows)
    (h : ∀ r ∈ rows, ∃ place, Standing place r) (hcreated : Cell.fits c.created = true)
    (hupdated : Cell.fits c.updated = true) :
    SqlTable.written db connections route c.toRow =
      .ok (db.withRows connections (replacing c rows)) := by
  unfold SqlTable.written
  rw [refused?_toRow]
  cases route with
  | native => exact insertOrChange_standing hrows h hcreated hupdated
  | portable => exact changeOrInsert_standing hrows h hcreated hupdated

end

/-! ## Rows of connections -/

variable {db : Database} {cs : List Connection} {d : Directory}

theorem standing_cells {r : Cells} (hr : r ∈ cs.map Connection.cells) :
    ∃ place, Standing place r := by
  obtain ⟨c, -, rfl⟩ := List.mem_map.1 hr
  exact ⟨c.place, .of_cells c⟩

/-- A condition on cells that is one on connections filters them. -/
theorem filter_cells {q : Cells → Bool} {p : Connection → Bool}
    (h : ∀ c : Connection, q c.cells = p c) (cs : List Connection) :
    (cs.map Connection.cells).filter q = (cs.filter p).map Connection.cells := by
  simp only [List.filter_map, Function.comp_def, h]

theorem inKeyOrder_cells (cs : List Connection) :
    connections.inKeyOrder (cs.map Connection.cells) = (inOrder cs).map Connection.cells := by
  unfold TableSpec.inKeyOrder inOrder
  refine (List.map_mergeSort ?_).symm
  intro a _ b _
  rw [(Standing.of_cells b).lessBy_eq (.of_cells a)]
  rfl

theorem replacing_cells (c : Connection) (cs : List Connection) :
    replacing c (cs.map Connection.cells) = (placed c cs).map Connection.cells := by
  have hplace : ∀ b : Connection,
      connections.satisfies b.cells (placeClause c.place) = decide (b.place = c.place) :=
    fun b => (Standing.of_cells b).satisfies_place c.place
  unfold replacing placed
  simp only [List.any_map, List.map_map, Function.comp_def, hplace, decide_eq_true_eq]
  split
  · simp only [List.map_map, Function.comp_def, apply_ite Connection.cells]
  · rw [List.map_append]
    rfl

theorem select_key_cells (hrows : db.rows? connections = some (cs.map Connection.cells))
    (hcs : Listed cs d) (place : NamespacedId) :
    db.select connections (keyPins connections place.key) none =
      .ok (((d.find? place).map fun e => e.connection place).toList.map Connection.cells) := by
  rw [select_place hrows place, filter_cells fun c => (Standing.of_cells c).satisfies_place place,
    inKeyOrder_cells, hcs.filter_eq place]
  cases d.find? place with
  | none => simp [inOrder]
  | some e => simp [inOrder]

/-- Deleting by key takes the connection away. -/
theorem delete_cells (hrows : db.rows? connections = some (cs.map Connection.cells))
    (place : NamespacedId) :
    db.delete connections (keyPins connections place.key) =
      .ok (db.withRows connections ((dropped place cs).map Connection.cells)) := by
  have hkept : ∀ c : Connection, (!connections.satisfies c.cells (placeClause place)) =
      decide (c.place ≠ place) := by
    intro c
    rw [(Standing.of_cells c).satisfies_place, decide_not]
  rw [delete_place hrows place, filter_cells hkept, dropped]

/-- Writing the row of a connection puts it in its place, on either route. -/
theorem written_cells {c : Connection} (route : Upsert)
    (hrows : db.rows? connections = some (cs.map Connection.cells))
    (hcreated : Cell.fits c.created = true) (hupdated : Cell.fits c.updated = true) :
    SqlTable.written db connections route c.toRow =
      .ok (db.withRows connections ((placed c cs).map Connection.cells)) := by
  rw [written_standing route hrows (fun _ => standing_cells) hcreated hupdated, replacing_cells]

end Sql
end ConnectionCatalog
