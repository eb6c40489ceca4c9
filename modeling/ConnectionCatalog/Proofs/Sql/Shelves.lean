import ConnectionCatalog.Proofs.Store.Invariant
import ConnectionCatalog.Proofs.Store.Shelver

/-! # Proofs.Sql.Shelves — tables of a database with rows of any content

Rows that stand at places, each at one of its own, make up a shelf.  Over such rows the statements
do what a shelf does, on either route of writing.

* `Placed.entries_replacing`, `Placed.entries_erasing`: what the statements leave.
* `select_key_placed`, `select_namespace_placed`: what they select.
* `SqlTable.shelver`: every call does to the rows what it does to a shelf.
-/

namespace ConnectionCatalog.Sql

/-! ## Stored rows -/

/-- A stored row under the values of its key columns. -/
def entry (cells : Cells) : Key × Row :=
  (connections.key.map (connections.toRow cells).cell, connections.toRow cells)

namespace Standing

variable {place : NamespacedId} {cells : Cells}

theorem get?_toRow (h : Standing place cells) :
    (connections.toRow cells).get? "namespace" = some (.text place.namespaceName) ∧
      (connections.toRow cells).get? "id" = some (.text place.id) := by
  obtain ⟨rest, hrest, rfl⟩ := h
  match rest, hrest with
  | [_, _, _, _, _, _], _ =>
    simp [TableSpec.toRow, connections, TextMap.ofList, TextMap.get?_insert, Cell.toValue]

theorem standsAt (h : Standing place cells) : StandsAt place (entry cells) := by
  obtain ⟨hname, hid⟩ := h.get?_toRow
  refine ⟨?_, hname, hid⟩
  simp [entry, key_connections, TextMap.cell, hname, hid, NamespacedId.values]

theorem entry_eq (h : Standing place cells) :
    entry cells = (place.values, connections.toRow cells) :=
  Prod.ext h.standsAt.key rfl

end Standing

/-! ## Rows at places -/

/-- Stored rows, each at a place of its own. -/
structure Placed (rows : List Cells) : Prop where
  standing : ∀ r ∈ rows, ∃ place, Standing place r
  distinct : (rows.map entry).Pairwise fun a b => a.1.same b.1 = false

namespace Placed

variable {rows : List Cells} {r : Cells}

theorem sound (h : Placed rows) : Shelf.Sound (rows.map entry) where
  distinct := h.distinct
  stands := by
    intro e he
    obtain ⟨r, hr, rfl⟩ := List.mem_map.1 he
    obtain ⟨place, hplace⟩ := h.standing r hr
    exact ⟨place, hplace.standsAt⟩

theorem cons_iff :
    Placed (r :: rows) ↔
      (∃ place, Standing place r ∧ Shelf.rowAt (rows.map entry) place = none) ∧ Placed rows := by
  constructor
  · intro h
    obtain ⟨place, hplace⟩ := h.standing r (by simp)
    obtain ⟨⟨other, hother, habsent⟩, -⟩ := Shelf.sound_cons_iff.1 h.sound
    have hkeys : place.values = other.values := hplace.standsAt.key.symm.trans hother.key
    have heq := NamespacedId.values_inj.1 hkeys
    refine ⟨⟨place, hplace, heq ▸ habsent⟩, fun x hx => h.standing x (by simp [hx]), ?_⟩
    exact (List.pairwise_cons.1 h.distinct).2
  · rintro ⟨⟨place, hplace, habsent⟩, hrows⟩
    refine ⟨List.forall_mem_cons.2 ⟨⟨place, hplace⟩, hrows.standing⟩, ?_⟩
    exact (Shelf.sound_cons_iff.2 ⟨⟨place, hplace.standsAt, habsent⟩, hrows.sound⟩).distinct

/-- The stored rows that have the key of a place. -/
theorem filter_place (h : Placed rows) (place : NamespacedId) :
    (rows.filter fun r => connections.satisfies r (placeClause place)).map connections.toRow =
      (Shelf.rowAt (rows.map entry) place).toList := by
  induction rows with
  | nil => rfl
  | cons r rows ih =>
    obtain ⟨⟨first, hfirst, habsent⟩, hrows⟩ := cons_iff.1 h
    rw [List.filter_cons, hfirst.satisfies_place, List.map_cons,
      Shelf.rowAt_cons_of_eq hfirst.standsAt.key]
    -- the row at the place is the first one or, as places are distinct, among the others
    by_cases heq : first = place
    · subst heq
      rw [decide_eq_true rfl, if_pos rfl, if_pos rfl, List.map_cons, ih hrows, habsent]
      rfl
    · rw [decide_eq_false heq, if_neg (by simp), if_neg heq, ih hrows]

theorem satisfies_eq_false (h : Placed rows) {place : NamespacedId}
    (habsent : Shelf.rowAt (rows.map entry) place = none) :
    ∀ r ∈ rows, connections.satisfies r (placeClause place) = false := by
  have hnone := h.filter_place place
  rw [habsent, Option.toList_none, List.map_eq_nil_iff, List.filter_eq_nil_iff] at hnone
  simpa using hnone

/-- Replacing the rows with the key of a connection puts it in its place. -/
theorem entries_replacing (h : Placed rows) (c : Connection) :
    (replacing c rows).map entry =
      MemoryTable.put c.place.values c.toRow (rows.map entry) := by
  unfold replacing
  have hentry : entry c.cells = (c.place.values, c.toRow) := (Standing.of_cells c).entry_eq
  induction rows with
  | nil => simp [hentry, MemoryTable.put]
  | cons r rows ih =>
    obtain ⟨⟨first, hfirst, habsent⟩, hrows⟩ := cons_iff.1 h
    have hrest := ih hrows
    rw [List.any_cons, hfirst.satisfies_place, List.map_cons, hfirst.satisfies_place,
      List.map_cons, hfirst.entry_eq, MemoryTable.put, Key.same_values]
    by_cases heq : first = c.place
    · -- no other row has the key, so the change leaves the others as they are
      have hothers := hrows.satisfies_eq_false (heq ▸ habsent)
      have hmap : (rows.map fun x =>
          if connections.satisfies x (placeClause c.place) then c.cells else x) = rows := by
        refine (List.map_congr_left fun x hx => ?_).trans (List.map_id rows)
        rw [hothers x hx]
        rfl
      simp [heq, hmap, hentry]
    · simp only [decide_eq_false heq, Bool.false_or, Bool.false_eq_true, if_false]
      rw [← hrest]
      split <;> simp [hfirst.entry_eq]

theorem entries_erasing (h : Placed rows) (place : NamespacedId) :
    (rows.filter fun r => !connections.satisfies r (placeClause place)).map entry =
      MemoryTable.erase place.values (rows.map entry) := by
  induction rows with
  | nil => rfl
  | cons r rows ih =>
    obtain ⟨⟨first, hfirst, habsent⟩, hrows⟩ := cons_iff.1 h
    rw [List.filter_cons, hfirst.satisfies_place, List.map_cons, hfirst.entry_eq,
      MemoryTable.erase, Key.same_values]
    by_cases heq : first = place
    -- no other row has the key, so the others stay
    · have hothers := hrows.satisfies_eq_false (heq ▸ habsent)
      have hfilter :
          (rows.filter fun x => !connections.satisfies x (placeClause place)) = rows := by
        refine List.filter_eq_self.2 ?_
        intro x hx
        rw [hothers x hx]
        rfl
      simp [heq, hfilter]
    · simp [heq, hfirst.entry_eq, ih hrows]

/-- Placed rows, with the places at which they stand. -/
theorem exists_places (h : Placed rows) :
    ∃ ps : List (NamespacedId × Cells), rows = ps.map (·.2) ∧ ∀ p ∈ ps, Standing p.1 p.2 := by
  induction rows with
  | nil => exact ⟨[], rfl, by simp⟩
  | cons r rows ih =>
    obtain ⟨⟨place, hplace, -⟩, hrows⟩ := cons_iff.1 h
    obtain ⟨ps, hps, hstanding⟩ := ih hrows
    refine ⟨(place, r) :: ps, by rw [List.map_cons, ← hps], ?_⟩
    exact List.forall_mem_cons.2 ⟨hplace, hstanding⟩

section

variable {ps : List (NamespacedId × Cells)}

theorem entries_eq (hstanding : ∀ p ∈ ps, Standing p.1 p.2) :
    (ps.map (·.2)).map entry = ps.map fun p => (p.1.values, connections.toRow p.2) := by
  rw [List.map_map]
  exact List.map_congr_left fun p hp => (hstanding p hp).entry_eq

theorem places_distinct (h : Placed (ps.map (·.2))) (hstanding : ∀ p ∈ ps, Standing p.1 p.2) :
    ps.Pairwise fun a b => a.1 ≠ b.1 := by
  have hkeys := h.distinct
  rw [entries_eq hstanding, List.pairwise_map] at hkeys
  refine hkeys.imp ?_
  intro a b hab
  simpa [Key.same_values] using hab

theorem rowAt_eq_some_iff (h : Placed (ps.map (·.2))) (hstanding : ∀ p ∈ ps, Standing p.1 p.2)
    {place : NamespacedId} {row : Row} :
    Shelf.rowAt ((ps.map (·.2)).map entry) place = some row ↔
      ∃ p ∈ ps, (p.1, connections.toRow p.2) = (place, row) := by
  rw [h.sound.rowAt_eq_some_iff, entries_eq hstanding, List.mem_map]
  simp only [Prod.mk.injEq, NamespacedId.values_inj]

end

/-- The stored rows of a namespace, in order. -/
theorem inKeyOrder_namespace (h : Placed rows) (namespaceName : String) :
    (connections.inKeyOrder (rows.filter fun r =>
        connections.satisfies r (namespaceClause namespaceName))).map connections.toRow =
      Shelf.within (rows.map entry) namespaceName := by
  obtain ⟨ps, rfl, hstanding⟩ := h.exists_places
  let qs := ps.filter fun p => p.1.namespaceName = namespaceName
  have hfilter : ((ps.map (·.2)).filter fun r =>
      connections.satisfies r (namespaceClause namespaceName)) = qs.map (·.2) := by
    rw [List.filter_map]
    congr 1
    refine List.filter_congr ?_
    intro p hp
    exact (hstanding p hp).satisfies_namespace namespaceName
  have hsort : connections.inKeyOrder (qs.map (·.2)) = (Shelf.byPlace qs).map (·.2) := by
    refine (List.map_mergeSort ?_).symm
    intro a ha b hb
    rw [(hstanding b (List.mem_filter.1 hb).1).lessBy_eq (hstanding a (List.mem_filter.1 ha).1)]
    rfl
  have hrows : ((Shelf.byPlace qs).map (·.2)).map connections.toRow =
      ((Shelf.byPlace qs).map fun p => (p.1, connections.toRow p.2)).map (·.2) := by
    rw [List.map_map, List.map_map]
    rfl
  rw [hfilter, hsort, hrows]
  refine (h.sound.within_eq ?_ ?_).symm
  · rw [List.pairwise_map]
    exact Shelf.byPlace_increases ((h.places_distinct hstanding).filter _)
  · rintro ⟨place, row⟩
    rw [h.rowAt_eq_some_iff hstanding, List.mem_map]
    constructor
    · rintro ⟨p, hp, heq⟩
      obtain ⟨hp, hname⟩ := List.mem_filter.1 ((Shelf.byPlace_perm qs).mem_iff.1 hp)
      obtain ⟨rfl, rfl⟩ := Prod.mk.inj heq
      exact ⟨⟨p, hp, rfl⟩, of_decide_eq_true hname⟩
    · rintro ⟨⟨p, hp, heq⟩, hname⟩
      refine ⟨p, (Shelf.byPlace_perm qs).mem_iff.2 (List.mem_filter.2 ⟨hp, ?_⟩), heq⟩
      obtain ⟨rfl, rfl⟩ := Prod.mk.inj heq
      exact decide_eq_true hname

theorem replacing (h : Placed rows) (c : Connection) : Placed (Sql.replacing c rows) where
  distinct := by
    rw [h.entries_replacing]
    exact (h.sound.put c.standsAt_toRow).distinct
  standing := by
    intro r hr
    have hr' : r = c.cells ∨ r ∈ rows := by
      unfold Sql.replacing at hr
      split at hr
      · obtain ⟨b, hb, rfl⟩ := List.mem_map.1 hr
        split
        · exact .inl rfl
        · exact .inr hb
      · simpa [or_comm] using hr
    rcases hr' with rfl | hr'
    · exact ⟨c.place, .of_cells c⟩
    · exact h.standing r hr'

theorem erasing (h : Placed rows) (place : NamespacedId) :
    Placed (rows.filter fun r => !connections.satisfies r (placeClause place)) where
  standing r hr := h.standing r (List.mem_filter.1 hr).1
  distinct := by
    rw [h.entries_erasing]
    exact (h.sound.erase place).distinct

end Placed

/-! ## Statements -/

variable {db : Database} {rows : List Cells}

theorem select_key_placed (hrows : db.rows? connections = some rows) (h : Placed rows)
    (place : NamespacedId) :
    (db.select connections (keyPins connections place.key) none).map
        (fun found => found.head?.map connections.toRow) =
      .ok (Shelf.rowAt (rows.map entry) place) := by
  have hfound := h.filter_place place
  rw [select_place hrows]
  -- at most one row is found, so that sorting does nothing
  cases hrow : Shelf.rowAt (rows.map entry) place with
  | none =>
    rw [hrow, Option.toList_none, List.map_eq_nil_iff] at hfound
    rw [hfound, TableSpec.inKeyOrder, List.mergeSort_nil]
    rfl
  | some row =>
    rw [hrow, Option.toList_some, List.map_eq_singleton_iff] at hfound
    obtain ⟨r, hr, htoRow⟩ := hfound
    rw [hr, TableSpec.inKeyOrder, List.mergeSort_singleton, ← htoRow]
    rfl

theorem select_namespace_placed (hrows : db.rows? connections = some rows) (h : Placed rows)
    (namespaceName : String) :
    (db.select connections (Store.namespaceRange namespaceName).pins none).map
        (fun found => found.map connections.toRow) =
      .ok (Shelf.within (rows.map entry) namespaceName) := by
  have hselect := select_namespace hrows namespaceName
  rw [Store.namespaceRange, hselect, Except.map, h.inKeyOrder_namespace]

/-! ## Tables -/

namespace SqlTable

/-- A table is the one of the connections and has some rows, each at a place of its own. -/
structure Has (t : SqlTable) (es : Shelf) : Prop where
  spec : t.spec = connections
  rows : ∃ rows, t.database.rows? connections = some rows ∧ Placed rows ∧ rows.map entry = es

variable {t : SqlTable} {es : Shelf}

theorem Has.sound (h : t.Has es) : es.Sound := by
  obtain ⟨rows, -, hplaced, rfl⟩ := h.rows
  exact hplaced.sound

theorem stored_eq {rows : List Cells} (hspec : t.spec = connections)
    (hrows : t.database.rows? connections = some rows) : t.stored = rows.map entry := by
  rw [stored, hspec, hrows]
  rfl

theorem Has.stored (h : t.Has es) : t.stored = es := by
  obtain ⟨rows, hrows, -, rfl⟩ := h.rows
  exact stored_eq h.spec hrows

/-- Rows with texts in their key columns, each with a key of its own, are had as they are stored. -/
theorem has_stored {rows : List Cells} (hspec : t.spec = connections)
    (hrows : t.database.rows? connections = some rows) (hplaced : Placed rows) :
    t.Has t.stored :=
  ⟨hspec, rows, hrows, hplaced, (stored_eq hspec hrows).symm⟩

theorem Has.withRows {rows : List Cells} (h : t.Has es) (hplaced : Placed rows) :
    ({ t with database := t.database.withRows connections rows }).Has (rows.map entry) := by
  obtain ⟨_, hrows, -⟩ := h.rows
  obtain ⟨s, hs⟩ := schema?_of_rows? hrows
  exact ⟨h.spec, rows, Database.rows?_withRows hs rows, hplaced, rfl⟩

/-- What a table has that its calls have looked at: cursors come and go. -/
def sameRows : Frame SqlTable where
  Allows env env' := env'.table.spec = env.table.spec ∧ env'.table.database = env.table.database
  trans hab hbc := ⟨hbc.1.trans hab.1, hbc.2.trans hab.2⟩
  clock _ := ⟨rfl, rfl⟩
  meter _ _ := ⟨rfl, rfl⟩
  log _ _ := ⟨rfl, rfl⟩
  read env key := by
    have hrun : (RowStore.read key).run env.table = (env.table.looked key, env.table) :=
      run_read env.table key
    rw [hrun]
    exact ⟨rfl, rfl⟩
  scan env range limit := by
    have hrun : (RowStore.scan range limit).run env.table = _ := run_scan env.table range limit
    rw [hrun]
    cases env.table.selected range limit <;> exact ⟨rfl, rfl⟩
  setCursor _ _ _ := ⟨rfl, rfl⟩

/-- Why a connection cannot be stored: one of its times does not fit into a cell. -/
def unfit? (c : Connection) : Option Failure :=
  if Cell.fits c.created && Cell.fits c.updated then none
  else some (.database .integerTooLarge)

theorem Has.looked (h : t.Has es) (place : NamespacedId) :
    t.looked place.key = .ok (es.rowAt place) := by
  obtain ⟨rows, hrows, hplaced, rfl⟩ := h.rows
  unfold SqlTable.looked
  rw [h.spec, missingKey?_key]
  exact select_key_placed hrows hplaced place

theorem Has.upsert (h : t.Has es) (c : Connection) :
    ((upsert c.toRow).run t).1 = (Write.put c).verdict unfit? ∧
      ((upsert c.toRow).run t).2.Has (es.after (.put c) ((upsert c.toRow).run t).1) := by
  obtain ⟨rows, hrows, hplaced, rfl⟩ := h.rows
  -- times that do not fit are found while the row is bound, before anything is written
  cases hfits : Cell.fits c.created && Cell.fits c.updated with
  | true =>
    obtain ⟨hcreated, hupdated⟩ := Bool.and_eq_true_iff.1 hfits
    have hwritten : written t.database t.spec t.route c.toRow =
        .ok (t.database.withRows connections (Sql.replacing c rows)) := by
      rw [h.spec]
      exact written_standing t.route hrows hplaced.standing hcreated hupdated
    have hafter := h.withRows (hplaced.replacing c)
    rw [hplaced.entries_replacing] at hafter
    rw [run_upsert, hwritten]
    exact ⟨by simp [Write.verdict, unfit?, hcreated, hupdated], hafter⟩
  | false =>
    have hwritten : written t.database t.spec t.route c.toRow =
        .error (.database .integerTooLarge) := by
      rw [h.spec]
      exact written_of_unfit t.route hrows hfits
    rw [run_upsert, hwritten]
    exact ⟨by simp [Write.verdict, unfit?, hfits], h⟩

theorem Has.delete (h : t.Has es) (place : NamespacedId) :
    ((delete place.key).run t).1 = .ok () ∧
      ((delete place.key).run t).2.Has (es.after (.drop place) (.ok ())) := by
  obtain ⟨rows, hrows, hplaced, rfl⟩ := h.rows
  have herased : t.erased place.key = .ok (t.database.withRows connections
      (rows.filter fun r => !connections.satisfies r (placeClause place))) := by
    rw [SqlTable.erased, h.spec, missingKey?_key]
    exact delete_place hrows place
  have hafter := h.withRows (hplaced.erasing place)
  rw [hplaced.entries_erasing] at hafter
  rw [run_delete, herased]
  exact ⟨rfl, hafter⟩

theorem Has.selected (h : t.Has es) (namespaceName : String) :
    t.selected (Store.namespaceRange namespaceName) none = .ok (es.within namespaceName) := by
  obtain ⟨rows, hrows, hplaced, rfl⟩ := h.rows
  have hleads : (Store.namespaceRange namespaceName).leads connections.key = true := rfl
  have hselect := select_namespace_placed hrows hplaced namespaceName
  unfold SqlTable.selected
  rw [h.spec, hleads, if_pos rfl]
  cases hfound : t.database.select connections (Store.namespaceRange namespaceName).pins none with
  | error f =>
    rw [hfound] at hselect
    cases hselect
  | ok found =>
    rw [hfound] at hselect
    exact hselect

theorem Has.scans (h : t.Has es) (namespaceName : String) :
    ∃ cursor t', (RowStore.scan (Store.namespaceRange namespaceName) none).run t =
        (.ok cursor, t') ∧ RowStore.pending t' cursor = es.within namespaceName := by
  have hrun := run_scan t (Store.namespaceRange namespaceName) none
  rw [h.selected] at hrun
  refine ⟨t.cursors.length, _, hrun, ?_⟩
  have hcursor : (t.cursors ++ [⟨es.within namespaceName, false, true⟩])[t.cursors.length]? =
      some (⟨es.within namespaceName, false, true⟩ : Cursor) := List.getElem?_concat_length
  show (((t.cursors ++ [_])[t.cursors.length]?).map Cursor.pending).getD [] = _
  rw [hcursor]
  rfl

/-- Tables of a database have rows of any content, whatever the way in which they are written. -/
def shelver : Shelver SqlTable where
  Has := Has
  Calm _ := True
  refusal? := unfit?
  looking := sameRows
  distinct h := h.sound.distinct
  looked := by
    rintro env env' es ⟨hspec, hdatabase⟩ h
    refine ⟨hspec.trans h.spec, ?_⟩
    rw [hdatabase]
    exact h.rows
  calm _ _ := trivial
  found {t es place found} h hfound := by
    have hrun : (RowStore.read place.key).run t = (t.looked place.key, t) := run_read t place.key
    rw [hrun, h.looked] at hfound
    exact (Except.ok.inj hfound).symm
  reads {t es} place h _ := by
    have hrun : (RowStore.read place.key).run t = (t.looked place.key, t) := run_read t place.key
    rw [hrun, h.looked]
  writes {t es} w h := by
    cases w with
    | put c => exact (h.upsert c).2
    | drop place =>
      have hdelete : ((delete place.key).run t).1 = .ok () := (h.delete place).1
      have hafter := (h.delete place).2
      rw [← hdelete] at hafter
      exact hafter
  verdict w h _ := by
    cases w with
    | put c => exact ⟨(h.upsert c).1, trivial⟩
    | drop place => exact ⟨(h.delete place).1, trivial⟩
  scans namespaceName h _ _ := h.scans namespaceName

end SqlTable
end ConnectionCatalog.Sql
