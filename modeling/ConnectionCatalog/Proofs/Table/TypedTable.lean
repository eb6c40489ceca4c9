import Mathlib.Data.List.Nodup
import ConnectionCatalog.Proofs.Table.Typed

/-! # Proofs.Table.TypedTable — a table of typed rows, and what keeps it

Typed rows of which no two have one key can be kept in memory or in a database.  What either does to
what it keeps is what a typed table does to its rows.

* `TypedTable.put`, `erase`, `find?`, `select`: what is written, taken away, found and selected.
* `find?_entries`, `put_entries`, `erase_entries`, `sortedRows_entries`: the same in memory.
* `insertOrChange_cells`, `filter_cells`, `inKeyOrder_cells`: the same in a database.
-/

namespace ConnectionCatalog.Sql

/-- Typed rows of which no two have one key, in the order in which their keys came in. -/
structure TypedTable (t : TableSpec) where
  rows : List (TypedRow t)
  distinct : (rows.map fun r => t.keyValues r.row).Nodup

namespace TypedTable

variable {t : TableSpec} (T : TypedTable t)

def empty : TypedTable t := ⟨[], .nil⟩

/-- Writes a row, in the place of the one with its key if there is one. -/
def put (r : TypedRow t) : TypedTable t where
  rows :=
    if T.rows.any fun x => x.hasKey r.row then T.rows.map fun x => if x.hasKey r.row then r else x
    else T.rows ++ [r]
  distinct := by
    split
    · have hkeys : (T.rows.map fun x => if x.hasKey r.row then r else x).map
          (fun x => t.keyValues x.row) = T.rows.map fun x => t.keyValues x.row := by
        rw [List.map_map]
        refine List.map_congr_left ?_
        intro x _
        by_cases hkey : x.hasKey r.row = true
        · simp [hkey, (x.hasKey_iff r.keyed).1 hkey]
        · simp [hkey]
      rw [hkeys]
      exact T.distinct
    · rename_i hnew
      rw [List.map_append, List.map_singleton, List.nodup_append_comm, List.singleton_append,
        List.nodup_cons]
      refine ⟨fun hkey => hnew ?_, T.distinct⟩
      obtain ⟨x, hx, hkey⟩ := List.mem_map.1 hkey
      exact List.any_eq_true.2 ⟨x, hx, (x.hasKey_iff r.keyed).2 hkey⟩

/-- Takes the row of a key away. -/
def erase (key : Row) : TypedTable t where
  rows := T.rows.filter fun x => !x.hasKey key
  distinct := T.distinct.sublist (List.filter_sublist.map _)

/-- The row of a key. -/
def find? (key : Row) : Option Row := (T.rows.find? fun x => x.hasKey key).map TypedRow.row

/-- The rows in the order of their keys. -/
def inOrder : List (TypedRow t) := T.rows.mergeSort fun a b => decide (a.standing ≤ b.standing)

/-- The rows of a range in the order of their keys, at most so many. -/
def select (range : Range) (limit : Option Nat) : List Row :=
  let rows := (T.inOrder.filter fun r => range.contains r.row).map TypedRow.row
  limit.elim rows rows.take

theorem eq_of_keyValues {a b : TypedRow t} (ha : a ∈ T.rows) (hb : b ∈ T.rows)
    (h : t.keyValues a.row = t.keyValues b.row) : a = b :=
  List.inj_on_of_nodup_map T.distinct ha hb h

/-- Rows that are chosen before they are sorted are those chosen after it. -/
theorem filter_inOrder (p : TypedRow t → Bool) :
    T.inOrder.filter p =
      (T.rows.filter p).mergeSort fun a b => decide (a.standing ≤ b.standing) := by
  let r : TypedRow t → TypedRow t → Prop := fun a b => a.standing ≤ b.standing
  have htrans : ∀ a b c : TypedRow t, decide (r a b) = true → decide (r b c) = true →
      decide (r a c) = true := by
    intro a b c hab hbc
    exact decide_eq_true ((of_decide_eq_true hab).trans (of_decide_eq_true hbc))
  have htotal : ∀ a b : TypedRow t, (decide (r a b) || decide (r b a)) = true := by
    intro a b
    simpa [r] using le_total a.standing b.standing
  have hsorted : ∀ rows : List (TypedRow t),
      (rows.mergeSort fun a b => decide (r a b)).Pairwise fun a b => decide (r a b) = true :=
    fun rows => List.pairwise_mergeSort htrans htotal rows
  have hperm := (List.mergeSort_perm T.rows fun a b => decide (r a b)).filter p
  refine List.Perm.eq_of_pairwise ?_ ((hsorted T.rows).filter p) (hsorted _)
    (hperm.trans (List.mergeSort_perm _ _).symm)
  -- rows that stand in one place have one key, and so they are one row
  intro a b ha hb hab hba
  have hstanding : a.standing = b.standing :=
    le_antisymm (of_decide_eq_true hab) (of_decide_eq_true hba)
  refine T.eq_of_keyValues ?_ ?_ ((a.standing_inj b).1 hstanding)
  · exact (List.mem_filter.1 (hperm.mem_iff.1 ha)).1
  · exact (List.mem_filter.1 ((List.mergeSort_perm _ _).mem_iff.1 hb)).1

theorem mem_inOrder {r : TypedRow t} : r ∈ T.inOrder ↔ r ∈ T.rows :=
  (List.mergeSort_perm _ _).mem_iff

/-- The range that a key pins has the row of that key, if there is one, and no other. -/
theorem head?_select_keyPins {key : Row} (hkeyed : t.Keyed key) :
    (T.select ⟨keyPins t key⟩ none).head? = T.find? key := by
  have hkeyPins : (fun r : TypedRow t => (Range.mk (keyPins t key)).contains r.row) =
      fun r => r.hasKey key := by
    funext r
    exact r.contains_keyPins key
  have hfind : T.inOrder.find? (fun r => r.hasKey key) = T.rows.find? fun r => r.hasKey key := by
    -- sorting keeps the rows, and no two have one key, so the first that is found is the same
    cases hrow : T.rows.find? fun r => r.hasKey key with
    | none =>
      rw [List.find?_eq_none] at hrow ⊢
      intro r hr
      exact hrow r (T.mem_inOrder.1 hr)
    | some x =>
      have hx := List.mem_of_find?_eq_some hrow
      have hxkey := (x.hasKey_iff hkeyed).1 (by simpa using List.find?_some hrow)
      cases hother : T.inOrder.find? fun r => r.hasKey key with
      | none =>
        have hnone := List.find?_eq_none.1 hother x (T.mem_inOrder.2 hx)
        exact absurd ((x.hasKey_iff hkeyed).2 hxkey) hnone
      | some y =>
        have hy := T.mem_inOrder.1 (List.mem_of_find?_eq_some hother)
        have hykey := (y.hasKey_iff hkeyed).1 (by simpa using List.find?_some hother)
        rw [T.eq_of_keyValues hx hy (hxkey.trans hykey.symm)]
  rw [select, Option.elim, List.head?_map, List.head?_filter, hkeyPins, hfind]
  rfl

/-! ### In memory -/

/-- Where a row has a key, no row of another key has it. -/
theorem hasKey_of_notMem {x y : TypedRow t} {rows : List (TypedRow t)} {key : Row}
    (hkeyed : t.Keyed key) (hx : x.hasKey key = true)
    (hrest : t.keyValues x.row ∉ rows.map fun y => t.keyValues y.row) (hy : y ∈ rows) :
    y.hasKey key = false := by
  rw [Bool.eq_false_iff]
  intro hkey
  refine hrest (List.mem_map.2 ⟨y, hy, ?_⟩)
  rw [(y.hasKey_iff hkeyed).1 hkey, (x.hasKey_iff hkeyed).1 hx]

theorem find?_entries (key : Row) :
    MemoryTable.find? (t.keyValues key) (T.rows.map TypedRow.entry) = T.find? key := by
  unfold find?
  induction T.rows with
  | nil => rfl
  | cons x rows ih =>
    have hsame : Key.same x.entry.1 (t.keyValues key) = x.hasKey key := rfl
    rw [List.map_cons, MemoryTable.find?, List.find?_cons, ih, hsame]
    cases x.hasKey key <;> rfl

theorem put_entries (r : TypedRow t) :
    MemoryTable.put (t.keyValues r.row) r.row (T.rows.map TypedRow.entry) =
      (T.put r).rows.map TypedRow.entry := by
  obtain ⟨rows, hdistinct⟩ := T
  dsimp only [put]
  induction rows with
  | nil => rfl
  | cons x rows ih =>
    rw [List.map_cons, List.nodup_cons] at hdistinct
    have hsame : Key.same x.entry.1 (t.keyValues r.row) = x.hasKey r.row := rfl
    rw [List.map_cons, MemoryTable.put, hsame]
    cases hkey : x.hasKey r.row with
    | true =>
      -- a key that was found is not looked for again: no later row has it
      have hrest : (rows.map fun y => if y.hasKey r.row then r else y) = rows := by
        refine (List.map_congr_left fun y hy => ?_).trans (List.map_id rows)
        rw [hasKey_of_notMem r.keyed hkey hdistinct.1 hy]
        rfl
      have hvalues : x.entry.1 = t.keyValues r.row := (x.hasKey_iff r.keyed).1 hkey
      simp only [List.any_cons, hkey, Bool.true_or, if_true, List.map_cons, hrest, hvalues]
      rfl
    | false =>
      have hput := ih hdistinct.2
      simp only [List.any_cons, hkey, Bool.false_or, Bool.false_eq_true, if_false, List.map_cons,
        hput]
      cases rows.any fun y => y.hasKey r.row <;> rfl

theorem erase_entries {key : Row} (hkeyed : t.Keyed key) :
    MemoryTable.erase (t.keyValues key) (T.rows.map TypedRow.entry) =
      (T.erase key).rows.map TypedRow.entry := by
  obtain ⟨rows, hdistinct⟩ := T
  dsimp only [erase]
  induction rows with
  | nil => rfl
  | cons x rows ih =>
    rw [List.map_cons, List.nodup_cons] at hdistinct
    have hsame : Key.same x.entry.1 (t.keyValues key) = x.hasKey key := rfl
    rw [List.map_cons, MemoryTable.erase, hsame, List.filter_cons]
    -- no other row has the key of the one that is taken away
    cases hkey : x.hasKey key with
    | true =>
      have hrest : (rows.filter fun y => !y.hasKey key) = rows := by
        refine List.filter_eq_self.2 fun y hy => ?_
        rw [hasKey_of_notMem hkeyed hkey hdistinct.1 hy]
        rfl
      simp [hrest]
    | false => simpa using ih hdistinct.2

/-- The keys of typed rows have an order. -/
theorem ordered_keys : Key.ordered (T.rows.map fun r => t.keyValues r.row) = true := by
  have horder : ∀ a b : TypedRow t, (t.keyValues a.row).map Value.order? =
      (t.keyValues b.row).map Value.order? := by
    intro a b
    simp only [TableSpec.keyValues_eq, List.map_map]
    refine List.map_congr_left fun c hc => ?_
    exact ((a.keyed.typed c hc).order?_eq (b.keyed.typed c hc)
      (TableSpec.required_of_mem_keyColumns hc)).2
  have hsome : ∀ a : TypedRow t,
      ((t.keyValues a.row).all fun v => v.order?.isSome) = true := by
    intro a
    rw [TableSpec.keyValues_eq, List.all_map, List.all_eq_true]
    intro c hc
    exact ((a.keyed.typed c hc).order?_eq (a.keyed.typed c hc)
      (TableSpec.required_of_mem_keyColumns hc)).1
  -- all keys have the orders of their columns, so the first stands for all
  cases T.rows with
  | nil => rfl
  | cons x rows =>
    rw [List.map_cons, Key.ordered, hsome x, Bool.true_and, List.all_map, List.all_eq_true]
    intro y _
    simpa using horder y x

theorem sortedRows_entries {m : MemoryTable} (hrows : m.rows = T.rows.map TypedRow.entry) :
    m.sortedRows = .ok (T.inOrder.map TypedRow.row) := by
  have hkeys : m.rows.map (·.1) = T.rows.map fun r => t.keyValues r.row := by
    rw [hrows, List.map_map]
    rfl
  have hsort : T.inOrder.map TypedRow.entry =
      m.rows.mergeSort fun a b => Key.atMost a.1 b.1 := by
    rw [hrows]
    refine List.map_mergeSort ?_
    intro a _ b _
    exact (a.atMost_key b).symm
  rw [MemoryTable.sortedRows, hkeys, T.ordered_keys, if_pos rfl, ← hsort, List.map_map]
  rfl

/-! ### In a database -/

section Database

variable (hnames : t.columnNames.Nodup)

include hnames

/-- The rows of a range, as a database selects them. -/
theorem inKeyOrder_cells {pins : List (String × Value)}
    (hpins : ∀ p ∈ pins, ∃ c ∈ t.columns, c.name = p.1 ∧ c.Admits p.2) :
    t.inKeyOrder ((T.rows.map TypedRow.cells).filter fun cells =>
        t.satisfies cells ((pinnedColumns t pins).map fun p => (p.1, Condition.ofValue p.2))) =
      (T.inOrder.filter fun r => (Range.mk pins).contains r.row).map TypedRow.cells := by
  rw [T.filter_inOrder, List.filter_map, TableSpec.inKeyOrder]
  have hsatisfies : ((fun cells => t.satisfies cells
        ((pinnedColumns t pins).map fun p => (p.1, Condition.ofValue p.2))) ∘ TypedRow.cells) =
      fun r : TypedRow t => (Range.mk pins).contains r.row := by
    funext r
    exact r.satisfies_cells hnames hpins
  rw [hsatisfies]
  refine (List.map_mergeSort ?_).symm
  intro a _ b _
  exact (a.atMost_cells b hnames).symm

theorem held_cells (r : TypedRow t) :
    t.held (T.rows.map TypedRow.cells) r.row = T.rows.any fun x => x.hasKey r.row := by
  rw [TableSpec.held, List.any_map]
  congr 1
  funext x
  exact x.satisfies_keyClause hnames r.keyed

/-- A row that is changed into one of its key becomes that one. -/
theorem changedCells_cells {x r : TypedRow t} (hkey : x.hasKey r.row = true) :
    t.changedCells (bound (givenColumns t (changes t r.row))) x.cells = r.cells := by
  rw [TableSpec.changedCells_given hnames x.stores_cells]
  refine List.map_congr_left ?_
  intro c hc
  rw [TableSpec.get?_changes]
  -- a column of the key is not changed, but had the value already
  cases hkeyColumn : t.key.contains c.name with
  | true =>
    have hvalues := (x.hasKey_iff r.keyed).1 hkey
    have hvalue : x.row.cell c.name = r.row.cell c.name :=
      List.map_inj_left.1 hvalues c.name (by simpa using hkeyColumn)
    rw [if_pos rfl, Option.map_none, Option.getD_none, x.cellOf_cells hnames hc, hvalue]
  | false =>
    rw [if_neg (by simp), r.get?_of_mem hc, Option.map_some, Option.getD_some,
      (r.typed c hc).storing_eq]

theorem changedRows_cells (r : TypedRow t) :
    t.changedRows (T.rows.map TypedRow.cells) r.row =
      (T.rows.map fun x => if x.hasKey r.row then r else x).map TypedRow.cells := by
  rw [TableSpec.changedRows, List.map_map, List.map_map]
  refine List.map_congr_left ?_
  intro x _
  have hsatisfies := x.satisfies_keyClause hnames r.keyed
  dsimp only [Function.comp_apply]
  rw [hsatisfies]
  cases hkey : x.hasKey r.row with
  | true => exact changedCells_cells hnames hkey
  | false => rfl

theorem fresh_cells (r : TypedRow t) : t.fresh r.row = r.cells := by
  rw [TableSpec.fresh, TableSpec.newCells_inserted hnames, TypedRow.cells]
  refine List.map_congr_left ?_
  intro c hc
  rw [Column.inserted?, r.get?_of_mem hc, Option.some_or, Option.map_some, Option.getD_some,
    (r.typed c hc).storing_eq]

omit hnames in
/-- Every value of a typed row can be bound. -/
theorem firstRefusal?_valuesBy (r : TypedRow t) {f : Column → Option Value}
    (hf : ∀ c ∈ t.columns, ∀ v, f c = some v → v = r.row.cell c.name) :
    firstRefusal? ((t.valuesBy f).map (·.2)) = none := by
  rw [firstRefusal?, List.findSome?_eq_none_iff]
  intro v hv
  obtain ⟨⟨c, w⟩, hp, rfl⟩ := List.mem_map.1 hv
  obtain ⟨c, hc, hp⟩ := List.mem_filterMap.1 hp
  obtain ⟨w, hw, hp⟩ := Option.map_eq_some_iff.1 hp
  obtain ⟨rfl, rfl⟩ := Prod.mk.inj hp
  rw [hf c hc w hw]
  exact (r.typed c hc).refusal?

omit hnames in
theorem insertRefusal?_row (r : TypedRow t) : t.insertRefusal? r.row = none := by
  rw [TableSpec.insertRefusal?, TableSpec.insertedColumns_eq]
  refine firstRefusal?_valuesBy r fun c hc v hv => ?_
  rw [Column.inserted?, r.get?_of_mem hc, Option.some_or] at hv
  exact (Option.some.inj hv).symm

omit hnames in
theorem changeRefusal?_row (r : TypedRow t) : t.changeRefusal? r.row = none := by
  have hchanges : firstRefusal? ((givenColumns t (changes t r.row)).map (·.2)) = none := by
    rw [TableSpec.givenColumns_eq]
    refine firstRefusal?_valuesBy r fun c hc v hv => ?_
    rw [TableSpec.get?_changes, r.get?_of_mem hc] at hv
    split at hv
    · cases hv
    · exact (Option.some.inj hv).symm
  have hkey : firstRefusal? (t.keyColumns.map fun c => r.row.cell c.name) = none := by
    rw [firstRefusal?, List.findSome?_map, List.findSome?_eq_none_iff]
    intro c hc
    exact (r.keyed.typed c hc).refusal?
  rw [firstRefusal?] at hchanges hkey
  rw [TableSpec.changeRefusal?, firstRefusal?, List.findSome?_append, hchanges, hkey]
  rfl

omit hnames in
theorem stores_rows : ∀ cells ∈ T.rows.map TypedRow.cells, t.Stores cells := by
  intro cells hcells
  obtain ⟨x, -, rfl⟩ := List.mem_map.1 hcells
  exact x.stores_cells

/-- What is left of the cells after a key is taken away. -/
theorem filter_cells {key : Row} (hkeyed : t.Keyed key) :
    ((T.rows.map TypedRow.cells).filter fun cells => !t.satisfies cells (t.keyClause key)) =
      (T.erase key).rows.map TypedRow.cells := by
  rw [List.filter_map]
  congr 1
  refine List.filter_congr ?_
  intro r _
  exact congrArg not (r.satisfies_keyClause hnames hkeyed)

/-- The native route writes a typed row. -/
theorem insertOrChange_cells {db : Database} (hrows : db.rows? t = some (T.rows.map TypedRow.cells))
    (r : TypedRow t) :
    db.insertOrChange t r.row = .ok (db.withRows t ((T.put r).rows.map TypedRow.cells)) := by
  have houtcome := insertOrChange_outcome hnames hrows T.stores_rows r.keyed.contains
  rw [insertOutcome, insertRefusal?_row r, fresh_cells hnames r, r.stores_cells.filled,
    T.held_cells hnames r, T.changedRows_cells hnames r] at houtcome
  refine classed_eq_ok_iff.1 (houtcome.trans ?_)
  dsimp only [put]
  cases T.rows.any fun x => x.hasKey r.row with
  | true => rfl
  | false => simp

end Database
end TypedTable
end ConnectionCatalog.Sql
