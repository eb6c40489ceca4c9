import ConnectionCatalog.Proofs.Table.TypedTable

/-! # Proofs.Table.Contract — one contract for both kinds of table

A call whose values have the types of the columns is answered by a typed table.  The table in memory
answers every such call as it does, and the table of a database those that it supports: rows can be
written in the portable way only if there is a column outside the key, and a limit has to fit into a
cell.

* `Carrier`: how a kind of table carries typed tables; `MemoryTable.carrier` and
  `SqlTable.carrier` are the two.
* `Carrier.step`: a table that carries a typed table answers the next call as that does, and carries
  what is left.
* `tables_answer_alike_iff`: over a run the two kinds of table answer alike just if every call is
  supported, and both reject the same calls.
-/

namespace ConnectionCatalog

open Sql

/-! ## Cursors -/

theorem Cursor.take_open (rest : List Row) (closesAtEnd : Bool) :
    (Cursor.take (rest.length + 1) ⟨rest, false, closesAtEnd⟩).1 = rest.map some ++ [none] := by
  induction rest with
  | nil => rfl
  | cons row rest ih =>
    rw [List.length_cons, Cursor.take]
    simp only [Cursor.next, Bool.false_eq_true, if_false, List.map_cons, List.cons_append]
    rw [ih]

/-- A cursor that was just opened hands out all its rows. -/
theorem Cursor.takeAll_open (rest : List Row) (closesAtEnd : Bool) :
    (Cursor.takeAll ⟨rest, false, closesAtEnd⟩).1 = rest := by
  have htake := Cursor.take_open rest closesAtEnd
  simp only [Cursor.takeAll, Cursor.pending, Bool.false_eq_true, if_false]
  rw [htake, List.filterMap_append, List.filterMap_map]
  simp

/-- Hands out all rows of a cursor. -/
def RowStore.drain {τ : Type} [RowStore τ] (n : Nat) : Access τ (List Row) := do
  let table ← get
  match cursor? table n with
  | none => return []
  | some c =>
    set (setCursor n c.takeAll.2 table)
    return c.takeAll.1

/-! ## Calls -/

/-- What a call answers. -/
inductive Answer
  | done
  | found (row? : Option Row)
  | rows (rows : List Row)

namespace Sql.TableSpec

/-- A key has values of their types in the key columns that it has. -/
def TypedKey (t : TableSpec) (key : Row) : Prop :=
  ∀ c ∈ t.keyColumns, ∀ v, key.get? c.name = some v → c.Admits v

/-- A range pins key columns to values of their types. -/
def TypedRange (t : TableSpec) (range : Range) : Prop :=
  ∀ p ∈ range.pins, ∀ c ∈ t.keyColumns, c.name = p.1 → c.Admits p.2

end Sql.TableSpec

/-- A call whose values have the types of the columns; what it writes is a whole row. -/
inductive TypedCall (t : TableSpec)
  | upsert (row : TypedRow t)
  | read (key : Row) (typed : t.TypedKey key)
  | delete (key : Row) (typed : t.TypedKey key)
  | scan (range : Range) (limit : Option Nat) (typed : t.TypedRange range)

namespace TypedCall

variable {t : TableSpec} {τ : Type} [RowStore τ]

/-- Makes a call of a table; the rows of a scan are all handed out. -/
def perform : TypedCall t → Access τ Answer
  | upsert r => do
    RowStore.upsert r.row
    return .done
  | read key _ => return .found (← RowStore.read key)
  | delete key _ => do
    RowStore.delete key
    return .done
  | scan range limit _ => do
    let cursor ← RowStore.scan range (limit.map Int.ofNat)
    return .rows (← RowStore.drain cursor)

/-- The answer to a call, or the class of its failure. -/
def answer (call : TypedCall t) (table : τ) : Except ErrorClass Answer :=
  classed (call.perform.run table).1

/-- The table after a call. -/
def after (call : TypedCall t) (table : τ) : τ := (call.perform.run table).2

/-- The answers to calls that are made one after the other. -/
def answers : List (TypedCall t) → τ → List (Except ErrorClass Answer)
  | [], _ => []
  | call :: calls, table => call.answer table :: answers calls (call.after table)

/-- The table after calls that were made one after the other. -/
def afterAll : List (TypedCall t) → τ → τ
  | [], table => table
  | call :: calls, table => afterAll calls (call.after table)

/-- Whether a call is to be rejected: a key that lacks a key column, and a range that does not pin
the first key columns in their order. -/
def rejected : TypedCall t → Bool
  | upsert _ => false
  | read key _ | delete key _ => t.key.any fun name => !key.contains name
  | scan range _ _ => !range.columns.isPrefixOf t.key

/-- Whether the table of a database supports a call.  The portable way of writing needs a column
outside the key, and a limit has to fit into a cell. -/
def Supported (route : Upsert) : TypedCall t → Prop
  | upsert _ => route = .native ∨ ∃ c ∈ t.columns, c.inKey = false
  | scan range limit _ => range.columns <+: t.key → (limit.all fun n : Nat => Cell.fits n) = true
  | _ => True

end TypedCall

namespace Sql.TypedTable

variable {t : TableSpec} (T : TypedTable t)

/-- What a typed table replies to a call that is not rejected. -/
def reply : TypedCall t → Answer
  | .upsert _ => .done
  | .read key _ => .found (T.find? key)
  | .delete _ _ => .done
  | .scan range limit _ => .rows (T.select range limit)

/-- What a call leaves of a typed table if it is not rejected. -/
def next : TypedCall t → TypedTable t
  | .upsert r => T.put r
  | .delete key _ => T.erase key
  | _ => T

def answer (call : TypedCall t) : Except ErrorClass Answer :=
  if call.rejected then .error .value else .ok (T.reply call)

def after (call : TypedCall t) : TypedTable t := if call.rejected then T else T.next call

end Sql.TypedTable

/-! ## Rejected calls -/

theorem Range.leads_eq (range : Range) (key : List String) :
    range.leads key = range.columns.isPrefixOf key := by
  rw [Bool.eq_iff_iff, Range.leads, List.isPrefixOf_iff_prefix, List.prefix_iff_eq_take, beq_iff_eq]

section

variable {t : TableSpec} {key : Row}

theorem rejected_key_iff : (t.key.any fun name => !key.contains name) = true ↔
    (t.key.filter fun name => !key.contains name).isEmpty = false := by
  rw [List.any_eq_true, List.isEmpty_eq_false_iff, Ne, List.filter_eq_nil_iff]
  simp

/-- A key that has all key columns lacks none. -/
theorem Sql.TableSpec.Keyed.lacks_nothing (hkeyed : t.Keyed key) :
    (t.key.filter fun name => !key.contains name) = [] := by
  rw [List.filter_eq_nil_iff]
  intro name hname
  obtain ⟨c, hc, rfl⟩ := List.mem_map.1 hname
  simp [hkeyed.contains c hc]

theorem Sql.TableSpec.TypedKey.keyed (htyped : t.TypedKey key)
    (haccepted : (t.key.any fun name => !key.contains name) = false) : t.Keyed key := by
  have hcontains : ∀ c ∈ t.keyColumns, key.contains c.name = true := by
    intro c hc
    have hname := List.any_eq_false.1 haccepted c.name (List.mem_map_of_mem hc)
    simpa using hname
  refine ⟨hcontains, ?_⟩
  intro c hc
  obtain ⟨v, hv⟩ := Option.isSome_iff_exists.1 (hcontains c hc)
  rw [TextMap.cell, hv]
  exact htyped c hc v hv

/-- A range that is not rejected pins key columns. -/
theorem Sql.TableSpec.TypedRange.pins {range : Range} (htyped : t.TypedRange range)
    (haccepted : range.columns <+: t.key) :
    ∀ p ∈ range.pins, ∃ c ∈ t.columns, c.name = p.1 ∧ c.Admits p.2 := by
  intro p hp
  have hname : p.1 ∈ t.key := haccepted.subset (List.mem_map_of_mem hp)
  obtain ⟨c, hc, hcname⟩ := List.mem_map.1 hname
  exact ⟨c, TableSpec.mem_columns_of_mem_keyColumns hc, hcname, htyped p hp c hc hcname⟩

end

/-! ## Carriers -/

/-- How a kind of table carries typed tables: its rows are those of a typed table, and each call
that it supports answers as that does and leaves what it leaves. -/
structure Carrier (τ : Type) [RowStore τ] (t : TableSpec) where
  Carries : τ → TypedTable t → Prop
  Supports : TypedCall t → Prop
  upsert {table : τ} {T : TypedTable t} (r : TypedRow t) :
    Carries table T → Supports (.upsert r) → ∃ table', Carries table' (T.put r) ∧
      (RowStore.upsert r.row).run table = (.ok (), table')
  read {table : τ} {T : TypedTable t} {key : Row} :
    Carries table T → t.Keyed key → ∃ table', Carries table' T ∧
      (RowStore.read key).run table = (.ok (T.find? key), table')
  delete {table : τ} {T : TypedTable t} {key : Row} :
    Carries table T → t.Keyed key → ∃ table', Carries table' (T.erase key) ∧
      (RowStore.delete key).run table = (.ok (), table')
  scan {table : τ} {T : TypedTable t} {range : Range} {limit : Option Nat}
    (typed : t.TypedRange range) :
    Carries table T → Supports (.scan range limit typed) → range.columns <+: t.key →
      ∃ (cursor : Nat) (closesAtEnd : Bool) (table' : τ),
        (RowStore.scan range (limit.map Int.ofNat)).run table = (.ok cursor, table') ∧
          RowStore.cursor? table' cursor = some ⟨T.select range limit, false, closesAtEnd⟩ ∧
          ∀ c, Carries (RowStore.setCursor cursor c table') T
  rejected {table : τ} {T : TypedTable t} {call : TypedCall t} :
    Carries table T → call.rejected = true → ∃ (f : Failure) (table' : τ),
      f.errorClass = .value ∧ Carries table' T ∧ call.perform.run table = (.error f, table')

theorem RowStore.run_drain {τ : Type} [RowStore τ] {n : Nat} {table : τ} {rows : List Row}
    {closesAtEnd : Bool} (h : cursor? table n = some ⟨rows, false, closesAtEnd⟩) :
    (drain n).run table =
      (.ok rows, setCursor n (Cursor.takeAll ⟨rows, false, closesAtEnd⟩).2 table) := by
  unfold drain
  rw [Access.run_bind_ok (Access.run_get table)]
  simp only [h, Cursor.takeAll_open]
  rfl

namespace Carrier

variable {τ : Type} [RowStore τ] {t : TableSpec} (K : Carrier τ t) {table : τ} {T : TypedTable t}

theorem step_of_run {call : TypedCall t} {r : Except Failure Answer} {table' : τ}
    (h : call.perform.run table = (r, table')) :
    call.answer table = classed r ∧ call.after table = table' := by
  rw [TypedCall.answer, TypedCall.after, h]
  exact ⟨rfl, rfl⟩

/-- A table that carries a typed table answers the next call as that does, and carries what is
left. -/
theorem step (h : K.Carries table T) (call : TypedCall t) (hsupports : K.Supports call) :
    call.answer table = T.answer call ∧ K.Carries (call.after table) (T.after call) := by
  -- a rejected call changes no row; all others do to the table what they do to the rows
  cases hrejected : call.rejected with
  | true =>
    obtain ⟨f, table', hclass, hcarries, hrun⟩ := K.rejected h hrejected
    obtain ⟨hanswer, hafter⟩ := step_of_run hrun
    rw [hanswer, hafter, TypedTable.answer, TypedTable.after, hrejected]
    exact ⟨congrArg Except.error hclass, hcarries⟩
  | false =>
    have hrun : ∃ table', K.Carries table' (T.next call) ∧
        call.perform.run table = (.ok (T.reply call), table') := by
      cases call with
      | upsert r =>
        obtain ⟨table', hcarries, hrun⟩ := K.upsert r h hsupports
        refine ⟨table', hcarries, ?_⟩
        rw [TypedCall.perform, Access.run_bind_ok hrun]
        rfl
      | read key typed =>
        obtain ⟨table', hcarries, hrun⟩ := K.read h (typed.keyed hrejected)
        refine ⟨table', hcarries, ?_⟩
        rw [TypedCall.perform, Access.run_bind_ok hrun]
        rfl
      | delete key typed =>
        obtain ⟨table', hcarries, hrun⟩ := K.delete h (typed.keyed hrejected)
        refine ⟨table', hcarries, ?_⟩
        rw [TypedCall.perform, Access.run_bind_ok hrun]
        rfl
      | scan range limit typed =>
        have hleads : range.columns <+: t.key := by
          simpa [TypedCall.rejected, List.isPrefixOf_iff_prefix] using hrejected
        obtain ⟨cursor, closesAtEnd, table', hrun, hcursor, hcarries⟩ :=
          K.scan typed h hsupports hleads
        let drained := (Cursor.takeAll ⟨T.select range limit, false, closesAtEnd⟩).2
        refine ⟨RowStore.setCursor cursor drained table', hcarries drained, ?_⟩
        rw [TypedCall.perform, Access.run_bind_ok hrun,
          Access.run_bind_ok (RowStore.run_drain hcursor)]
        rfl
    obtain ⟨table', hcarries, hrun⟩ := hrun
    obtain ⟨hanswer, hafter⟩ := step_of_run hrun
    rw [hanswer, hafter, TypedTable.answer, TypedTable.after, hrejected]
    exact ⟨rfl, hcarries⟩

/-- Whatever calls are made of a table that supports them, it carries a typed table all along. -/
theorem run_carries (h : K.Carries table T) (calls : List (TypedCall t))
    (hsupports : ∀ call ∈ calls, K.Supports call) :
    ∃ next : TypedTable t, K.Carries (TypedCall.afterAll calls table) next := by
  induction calls generalizing table T with
  | nil => exact ⟨T, h⟩
  | cons call calls ih =>
    rw [List.forall_mem_cons] at hsupports
    exact ih (K.step h call hsupports.1).2 hsupports.2

end Carrier

/-! ## Tables in memory -/

namespace MemoryTable

variable {t : TableSpec} {m : MemoryTable} {T : TypedTable t} {key : Row}

/-- A table in memory carries a typed table: it has its key and its rows, and none of its operations
was made to fail. -/
structure Carries (m : MemoryTable) (T : TypedTable t) : Prop where
  key : m.key = t.key
  failures : m.failures = .empty
  rows : m.rows = T.rows.map TypedRow.entry

theorem lacking?_of_keyed (h : m.key = t.key) (hkeyed : t.Keyed key) : m.lacking? key = none := by
  rw [lacking?, h, hkeyed.lacks_nothing]
  rfl

theorem lacking?_of_rejected (h : m.key = t.key)
    (hrejected : (t.key.any fun name => !key.contains name) = true) :
    ∃ f, f.errorClass = .value ∧ m.lacking? key = some f := by
  have hmissing := rejected_key_iff.1 hrejected
  refine ⟨.table (.missingKey m.name (m.key.filter fun column => !key.contains column)), rfl, ?_⟩
  rw [lacking?, h, if_neg (by simp [hmissing])]

theorem keyOf_of_keyed (h : m.key = t.key) (hkeyed : t.Keyed key) :
    m.keyOf key = .ok (t.keyValues key) := by
  have hhashable : Key.unhashable? (t.keyValues key) = none := by
    rw [Key.unhashable?, Option.map_eq_none_iff, List.find?_eq_none, TableSpec.keyValues_eq]
    intro v hv
    obtain ⟨c, hc, hcv⟩ := List.mem_map.1 hv
    have hadmits := hkeyed.typed c hc
    rw [hcv] at hadmits
    cases hadmits <;> simp
  rw [keyOf, lacking?_of_keyed h hkeyed, h]
  simp only
  rw [← TableSpec.keyValues, hhashable]

theorem keyOf_of_rejected (h : m.key = t.key)
    (hrejected : (t.key.any fun name => !key.contains name) = true) :
    ∃ f, f.errorClass = .value ∧ m.keyOf key = .error f := by
  obtain ⟨f, hclass, hf⟩ := lacking?_of_rejected h hrejected
  exact ⟨f, hclass, by rw [keyOf, hf]⟩

theorem Carries.called (h : m.Carries T) (call : Call) : (m.called call).Carries T :=
  ⟨h.key, h.failures, h.rows⟩

theorem Carries.upsert (h : m.Carries T) (r : TypedRow t) :
    ∃ m' : MemoryTable, m'.Carries (T.put r) ∧ (MemoryTable.upsert r.row).run m = (.ok (), m') := by
  have hput : put (t.keyValues r.row) r.row m.rows = (T.put r).rows.map TypedRow.entry := by
    rw [h.rows, T.put_entries]
  rw [run_upsert, unlessFailing_of_empty h.failures, keyOf_of_keyed h.key r.keyed]
  exact ⟨{ m.called (.upsert r.row) with rows := put (t.keyValues r.row) r.row m.rows },
    ⟨h.key, h.failures, hput⟩, rfl⟩

theorem Carries.read (h : m.Carries T) (hkeyed : t.Keyed key) :
    ∃ m' : MemoryTable, m'.Carries T ∧
      (MemoryTable.read key).run m = (.ok (T.find? key), m') := by
  rw [run_read, unlessFailing_of_empty h.failures, keyOf_of_keyed h.key hkeyed, h.rows]
  refine ⟨_, h.called (.read key), ?_⟩
  rw [Except.map, T.find?_entries]

theorem Carries.delete (h : m.Carries T) (hkeyed : t.Keyed key) :
    ∃ m' : MemoryTable, m'.Carries (T.erase key) ∧
      (MemoryTable.delete key).run m = (.ok (), m') := by
  have herased : m.erased key = .ok ((T.erase key).rows.map TypedRow.entry) := by
    have herase := T.erase_entries hkeyed
    rw [← h.rows] at herase
    rw [erased, lacking?_of_keyed h.key hkeyed, keyOf_of_keyed h.key hkeyed, ← herase]
    -- an empty table answers before it looks at the key
    cases hempty : m.rows with
    | nil => rfl
    | cons r rows => rfl
  rw [run_delete, unlessFailing_of_empty h.failures, herased]
  exact ⟨{ m.called (.delete key) with rows := (T.erase key).rows.map TypedRow.entry },
    ⟨h.key, h.failures, rfl⟩, rfl⟩

theorem limited_eq (limit : Option Nat) (rows : List Row) :
    limited (limit.map Int.ofNat) rows = limit.elim rows rows.take := by
  cases limit <;> rfl

theorem Carries.scan (h : m.Carries T) {range : Range} (limit : Option Nat)
    (hleads : range.columns <+: t.key) :
    ∃ (cursor : Nat) (closesAtEnd : Bool) (m' : MemoryTable),
      (MemoryTable.scan range (limit.map Int.ofNat)).run m = (.ok cursor, m') ∧
        RowStore.cursor? m' cursor = some ⟨T.select range limit, false, closesAtEnd⟩ ∧
        ∀ c, (RowStore.setCursor cursor c m').Carries T := by
  have hselected : m.selected range (limit.map Int.ofNat) = .ok (T.select range limit) := by
    have hleads' : range.leads m.key = true := by
      rw [Range.leads_eq, h.key, List.isPrefixOf_iff_prefix]
      exact hleads
    rw [selected, hleads', if_pos rfl, T.sortedRows_entries h.rows]
    simp only [limited_eq, List.filter_map]
    rfl
  rw [run_scan, unlessFailing_of_empty h.failures, hselected]
  exact ⟨_, false, _, rfl, List.getElem?_concat_length, fun _ => ⟨h.key, h.failures, h.rows⟩⟩

theorem Carries.rejected (h : m.Carries T) {call : TypedCall t} (hrejected : call.rejected = true) :
    ∃ (f : Failure) (m' : MemoryTable), f.errorClass = .value ∧ m'.Carries T ∧
      call.perform.run m = (.error f, m') := by
  cases call with
  | upsert r => cases hrejected
  | read key typed =>
    obtain ⟨f, hclass, hf⟩ := keyOf_of_rejected h.key hrejected
    have hrun : (MemoryTable.read key).run m = (.error f, m.called (.read key)) := by
      rw [run_read, unlessFailing_of_empty h.failures, hf]
      rfl
    exact ⟨f, _, hclass, h.called _, Access.run_bind_error hrun⟩
  | delete key typed =>
    obtain ⟨f, hclass, hf⟩ := keyOf_of_rejected h.key hrejected
    obtain ⟨f', -, hlacking⟩ := lacking?_of_rejected h.key hrejected
    have hrun : (MemoryTable.delete key).run m = (.error f, m.called (.delete key)) := by
      rw [run_delete, unlessFailing_of_empty h.failures, erased, hlacking, hf]
      -- an empty table looks at the columns of a key alone, and finds one missing, too
      cases m.rows.isEmpty <;> rfl
    exact ⟨f, _, hclass, h.called _, Access.run_bind_error hrun⟩
  | scan range limit typed =>
    have hleads : range.leads m.key = false := by
      simpa [TypedCall.rejected, Range.leads_eq, h.key] using hrejected
    have hrun : (MemoryTable.scan range (limit.map Int.ofNat)).run m =
        (.error (.table (.notLeading range.columns m.key)),
          m.called (.scan range.pins (limit.map Int.ofNat))) := by
      rw [run_scan, unlessFailing_of_empty h.failures, selected, hleads]
      rfl
    exact ⟨_, _, rfl, h.called _, Access.run_bind_error hrun⟩

/-- Tables in memory carry typed tables, and support every call. -/
def carrier (t : TableSpec) : Carrier MemoryTable t where
  Carries := Carries
  Supports _ := True
  upsert r h _ := h.upsert r
  read h hkeyed := h.read hkeyed
  delete h hkeyed := h.delete hkeyed
  scan _ h _ hleads := h.scan _ hleads
  rejected h hrejected := h.rejected hrejected

end MemoryTable

/-! ## Tables of a database -/

namespace Sql

variable {t : TableSpec} {T : TypedTable t} {db : Database} {key : Row}

namespace TypedTable

/-- Values that key columns are pinned to can be bound. -/
theorem firstRefusal?_pins {pins : List (String × Value)} (hnames : t.columnNames.Nodup)
    (hpins : ∀ p ∈ pins, ∃ c ∈ t.columns, c.name = p.1 ∧ c.Admits p.2) :
    firstRefusal? ((pinnedColumns t pins).map (·.2)) = none := by
  rw [firstRefusal?, List.findSome?_eq_none_iff]
  intro v hv
  obtain ⟨q, hq, rfl⟩ := List.mem_map.1 hv
  obtain ⟨p, hp, hpinned⟩ := List.mem_filterMap.1 hq
  obtain ⟨c, hc, hname, hadmits⟩ := hpins p hp
  rw [← hname, TableSpec.column?_eq hnames hc, Option.map_some] at hpinned
  rw [← Option.some.inj hpinned]
  exact hadmits.refusal?

/-- A database selects the rows of a range, unless the limit does not fit into a cell. -/
theorem select_cells (hnames : t.columnNames.Nodup)
    (hrows : db.rows? t = some (T.rows.map TypedRow.cells)) {pins : List (String × Value)}
    (hpins : ∀ p ∈ pins, ∃ c ∈ t.columns, c.name = p.1 ∧ c.Admits p.2) (limit : Option Nat) :
    (db.select t pins (limit.map Int.ofNat)).map (fun rows => rows.map t.toRow) =
      if limit.all fun n : Nat => Cell.fits n then .ok (T.select ⟨pins⟩ limit)
      else .error (.database .integerTooLarge) := by
  have hread : ∀ rows : List (TypedRow t),
      (rows.map TypedRow.cells).map t.toRow = rows.map TypedRow.row := by
    intro rows
    rw [List.map_map]
    exact List.map_congr_left fun r _ => r.toRow_cells
  obtain ⟨next, hclause⟩ := bindClause_ok 1 (firstRefusal?_pins hnames hpins)
  have hfound := T.inKeyOrder_cells hnames hpins
  simp only [Database.select, hrows, Option.elim, hclause, bind, Except.bind, hfound]
  cases limit with
  | none => exact congrArg Except.ok (hread _)
  | some n =>
    -- the limit stays a variable: a bound of 64 bits is not to be counted down
    obtain ⟨m, hm⟩ : ∃ m : Int, (n : Int) = m := ⟨_, rfl⟩
    rw [Option.map_some, Option.all_some, Int.ofNat_eq_natCast, hm]
    by_cases hfits : Cell.fits m = true
    · have hbind : bindValue next (.int m) = .ok (.int m) := by
        rw [bindValue, if_pos hfits]
      rw [if_pos hfits]
      simp only [hbind]
      subst hm
      simp only [Except.map, ← List.map_take, hread, TypedTable.select, Option.elim]
    · have hbind : bindValue next (.int m) = .error (.database .integerTooLarge) := by
        rw [bindValue, if_neg hfits]
      rw [if_neg hfits]
      simp only [hbind, Except.map]

end TypedTable

namespace SqlTable

theorem missingKey?_of_keyed (hkeyed : t.Keyed key) : missingKey? t key = none :=
  missingKey?_eq_none_iff.2 hkeyed.contains

theorem missingKey?_of_rejected (hrejected : (t.key.any fun name => !key.contains name) = true) :
    ∃ f, f.errorClass = .value ∧ missingKey? t key = some f := by
  have hmissing := rejected_key_iff.1 hrejected
  refine ⟨.table (.missingKey t.name (t.key.filter fun name => !key.contains name)), rfl, ?_⟩
  rw [missingKey?, if_neg (by simp [hmissing])]

/-- A typed row is accepted. -/
theorem refused?_row (r : TypedRow t) : refused? t r.row = none := by
  have hunknown : (r.row.keys.filter fun name => !t.columnNames.contains name) = [] := by
    rw [List.filter_eq_nil_iff]
    intro name hname
    obtain ⟨e, he, rfl⟩ := List.mem_map.1 hname
    have hget : r.row.get? e.1 = some e.2 := TextMap.mem_entries_iff.1 he
    have hcontains : r.row.contains e.1 = true := by rw [TextMap.contains, hget]; rfl
    simp [(r.columns e.1).1 hcontains]
  rw [refused?, hunknown]
  exact missingKey?_of_keyed r.keyed

theorem contains_key_iff (hnames : t.columnNames.Nodup) {c : Column} (hc : c ∈ t.columns) :
    t.key.contains c.name = c.inKey := by
  rw [Bool.eq_iff_iff, List.contains_iff_mem]
  constructor
  · intro hname
    obtain ⟨d, hd, hdc⟩ := List.mem_map.1 hname
    have heq : d = c :=
      List.inj_on_of_nodup_map hnames (TableSpec.mem_columns_of_mem_keyColumns hd) hc hdc
    rw [← heq]
    exact (List.mem_filter.1 hd).2
  · intro hinKey
    exact List.mem_map_of_mem (List.mem_filter.2 ⟨hc, hinKey⟩)

/-- On typed rows the routes of writing agree if there is a column outside the key. -/
theorem routesAgree_row (hnames : t.columnNames.Nodup) (hcolumn : ∃ c ∈ t.columns, c.inKey = false)
    (rows : List Cells) (r : TypedRow t) : RoutesAgree t rows r.row where
  changed := by
    obtain ⟨c, hc, hinKey⟩ := hcolumn
    refine ⟨c, hc, ?_⟩
    rw [TextMap.contains, TableSpec.get?_changes, contains_key_iff hnames hc, hinKey,
      if_neg (by simp)]
    exact r.contains_of_mem hc
  refused c hc := by
    rw [TypedTable.changeRefusal?_row] at hc
    cases hc
  held _ _ := by
    refine ⟨TypedTable.insertRefusal?_row r, ?_⟩
    -- a typed row has a value for each column, and none is empty where one is required
    rintro ⟨c, hc, hrequired, hempty⟩
    have hinserted : c.inserted? r.row = some (r.row.cell c.name) := by
      rw [Column.inserted?, r.get?_of_mem hc, Option.some_or]
    have hnull := hempty _ hinserted
    rw [(r.typed c hc).storing_eq] at hnull
    exact absurd hnull ((r.typed c hc).boundCell_ne_null hrequired)

theorem written_row (hnames : t.columnNames.Nodup)
    (hrows : db.rows? t = some (T.rows.map TypedRow.cells)) {route : Upsert} {r : TypedRow t}
    (hsupports : (TypedCall.upsert r).Supported route) :
    written db t route r.row = .ok (db.withRows t ((T.put r).rows.map TypedRow.cells)) := by
  have hnative : written db t .native r.row =
      .ok (db.withRows t ((T.put r).rows.map TypedRow.cells)) := by
    rw [written, refused?_row]
    exact T.insertOrChange_cells hnames hrows r
  -- the native way is computed, and the portable way agrees with it
  cases route with
  | native => exact hnative
  | portable =>
    have hcolumn := hsupports.resolve_left (by simp)
    have hagree := (written_agree_iff hnames hrows T.stores_rows (refused?_row r)).2
      (routesAgree_row hnames hcolumn _ r)
    exact classed_eq_ok_iff.1 (hagree.symm.trans (classed_eq_ok_iff.2 hnative))

/-- Where all columns are in the key the portable way has nothing to change, and fails. -/
theorem written_unsupported (hnames : t.columnNames.Nodup) {route : Upsert} {r : TypedRow t}
    (hsupports : ¬(TypedCall.upsert r).Supported route) :
    written db t route r.row = .error (.database .emptyAssignment) := by
  obtain ⟨hroute, hcolumn⟩ := not_or.1 hsupports
  have hgiven : givenColumns t (changes t r.row) = [] := by
    rw [givenColumns, List.filterMap_eq_nil_iff]
    intro c hc
    -- all columns belong to the key, so there is nothing to change
    have hinKey : c.inKey = true := by
      cases hinKey : c.inKey with
      | true => rfl
      | false => exact absurd ⟨c, hc, hinKey⟩ hcolumn
    rw [TableSpec.get?_changes, contains_key_iff hnames hc, hinKey, if_pos rfl]
    rfl
  cases route with
  | native => exact absurd rfl hroute
  | portable =>
    rw [written, refused?_row]
    exact changeOrInsert_of_isEmpty (by rw [hgiven]; rfl)

/-- A table of a database, written on a route, carries a typed table: it has its rows. -/
structure Carries (route : Upsert) (s : SqlTable) (T : TypedTable t) : Prop where
  spec : s.spec = t
  route : s.route = route
  rows : s.database.rows? t = some (T.rows.map TypedRow.cells)

variable {s : SqlTable} {route : Upsert}

/-- Where the rows are replaced by those of another typed table, that one is carried. -/
theorem Carries.withRows {next : TypedTable t} (h : Carries route s T) :
    Carries route { s with database := s.database.withRows t (next.rows.map TypedRow.cells) }
      next := by
  obtain ⟨schema, hschema⟩ := schema?_of_rows? h.rows
  exact ⟨h.spec, h.route, Database.rows?_withRows hschema _⟩

theorem Carries.upsert (hnames : t.columnNames.Nodup) (h : Carries route s T) (r : TypedRow t)
    (hsupports : (TypedCall.upsert r).Supported route) :
    ∃ s' : SqlTable, Carries route s' (T.put r) ∧
      (SqlTable.upsert r.row).run s = (.ok (), s') := by
  have hwritten : written s.database s.spec s.route r.row =
      .ok (s.database.withRows t ((T.put r).rows.map TypedRow.cells)) := by
    rw [h.spec, h.route]
    exact written_row hnames h.rows hsupports
  rw [run_upsert, hwritten]
  exact ⟨_, h.withRows, rfl⟩

theorem Carries.read (hnames : t.columnNames.Nodup) (h : Carries route s T)
    (hkeyed : t.Keyed key) :
    ∃ s' : SqlTable, Carries route s' T ∧ (SqlTable.read key).run s = (.ok (T.find? key), s') := by
  have hselect := T.select_cells hnames h.rows hkeyed.pins none
  have hlooked : s.looked key = .ok (T.find? key) := by
    rw [looked, h.spec, missingKey?_of_keyed hkeyed]
    dsimp only
    cases hrows : s.database.select t (keyPins t key) none with
    | error f =>
      rw [Option.map_none, hrows] at hselect
      cases hselect
    | ok rows =>
      rw [Option.map_none, hrows] at hselect
      have hrows' : rows.map t.toRow = T.select ⟨keyPins t key⟩ none := Except.ok.inj hselect
      rw [Except.map, ← List.head?_map, hrows', T.head?_select_keyPins hkeyed]
  rw [run_read, hlooked]
  exact ⟨s, h, rfl⟩

theorem Carries.delete (hnames : t.columnNames.Nodup) (h : Carries route s T)
    (hkeyed : t.Keyed key) :
    ∃ s' : SqlTable, Carries route s' (T.erase key) ∧
      (SqlTable.delete key).run s = (.ok (), s') := by
  have herased : s.erased key =
      .ok (s.database.withRows t ((T.erase key).rows.map TypedRow.cells)) := by
    obtain ⟨next, hclause⟩ := bindClause_ok 1 (TypedTable.firstRefusal?_pins hnames hkeyed.pins)
    rw [TableSpec.conditions_keyPins hnames] at hclause
    rw [erased, h.spec, missingKey?_of_keyed hkeyed]
    simp only [Database.delete, rows_of_rows? h.rows, hclause, bind, Except.bind,
      T.filter_cells hnames hkeyed]
  rw [run_delete, herased]
  exact ⟨_, h.withRows, rfl⟩

/-- A scan selects the rows of its range, unless the limit does not fit into a cell. -/
theorem Carries.selected (hnames : t.columnNames.Nodup) (h : Carries route s T) {range : Range}
    (typed : t.TypedRange range) (limit : Option Nat) (hleads : range.columns <+: t.key) :
    s.selected range (limit.map Int.ofNat) =
      if limit.all fun n : Nat => Cell.fits n then .ok (T.select range limit)
      else .error (.database .integerTooLarge) := by
  have hleads' : range.leads t.key = true := by
    rw [Range.leads_eq, List.isPrefixOf_iff_prefix]
    exact hleads
  rw [SqlTable.selected, h.spec, hleads', if_pos rfl,
    ← T.select_cells hnames h.rows (typed.pins hleads) limit]
  cases s.database.select t range.pins (limit.map Int.ofNat) <;> rfl

theorem Carries.scan (hnames : t.columnNames.Nodup) (h : Carries route s T) {range : Range}
    {limit : Option Nat} (typed : t.TypedRange range)
    (hsupports : (TypedCall.scan range limit typed).Supported route)
    (hleads : range.columns <+: t.key) :
    ∃ (cursor : Nat) (closesAtEnd : Bool) (s' : SqlTable),
      (SqlTable.scan range (limit.map Int.ofNat)).run s = (.ok cursor, s') ∧
        RowStore.cursor? s' cursor = some ⟨T.select range limit, false, closesAtEnd⟩ ∧
        ∀ c, Carries route (RowStore.setCursor cursor c s') T := by
  have hselected := h.selected hnames typed limit hleads
  rw [if_pos (hsupports hleads)] at hselected
  rw [run_scan, hselected]
  exact ⟨_, true, _, rfl, List.getElem?_concat_length, fun _ => ⟨h.spec, h.route, h.rows⟩⟩

/-- A call that is rejected changes nothing at all. -/
theorem run_rejected (hspec : s.spec = t) {call : TypedCall t} (hrejected : call.rejected = true) :
    ∃ f : Failure, f.errorClass = .value ∧ call.perform.run s = (.error f, s) := by
  cases call with
  | upsert r => cases hrejected
  | read key typed =>
    obtain ⟨f, hclass, hf⟩ := missingKey?_of_rejected hrejected
    have hrun : (SqlTable.read key).run s = (.error f, s) := by
      rw [run_read, looked, hspec, hf]
    exact ⟨f, hclass, Access.run_bind_error hrun⟩
  | delete key typed =>
    obtain ⟨f, hclass, hf⟩ := missingKey?_of_rejected hrejected
    have hrun : (SqlTable.delete key).run s = (.error f, s) := by
      rw [run_delete, erased, hspec, hf]
    exact ⟨f, hclass, Access.run_bind_error hrun⟩
  | scan range limit typed =>
    have hleads : range.leads t.key = false := by
      simpa [TypedCall.rejected, Range.leads_eq] using hrejected
    have hrun : (SqlTable.scan range (limit.map Int.ofNat)).run s =
        (.error (.table (.notLeadingOf t.name range.columns t.key)), s) := by
      rw [run_scan, SqlTable.selected, hspec, hleads]
      rfl
    exact ⟨_, rfl, Access.run_bind_error hrun⟩

/-- Tables of a database carry typed tables. -/
def carrier (hnames : t.columnNames.Nodup) (route : Upsert) : Carrier SqlTable t where
  Carries := Carries route
  Supports call := call.Supported route
  upsert r h hsupports := h.upsert hnames r hsupports
  read h hkeyed := h.read hnames hkeyed
  delete h hkeyed := h.delete hnames hkeyed
  scan typed h hsupports hleads := h.scan hnames typed hsupports hleads
  rejected h hrejected := by
    obtain ⟨f, hclass, hrun⟩ := run_rejected h.spec hrejected
    exact ⟨f, _, hclass, h, hrun⟩

/-- A call that is not supported fails where it should not, and changes nothing. -/
theorem Carries.run_unsupported (hnames : t.columnNames.Nodup) (h : Carries route s T)
    {call : TypedCall t} (hsupports : ¬call.Supported route) :
    call.rejected = false ∧ ∃ f, call.perform.run s = (.error f, s) := by
  -- only a row of nothing but its key and a limit that is too large are not supported
  cases call with
  | upsert r =>
    have hwritten : written s.database s.spec s.route r.row =
        .error (.database .emptyAssignment) := by
      rw [h.spec, h.route]
      exact written_unsupported hnames hsupports
    have hrun : (SqlTable.upsert r.row).run s = (.error (.database .emptyAssignment), s) := by
      rw [run_upsert, hwritten]
    exact ⟨rfl, _, Access.run_bind_error hrun⟩
  | read key typed => exact absurd trivial hsupports
  | delete key typed => exact absurd trivial hsupports
  | scan range limit typed =>
    obtain ⟨hleads, hfits⟩ := Classical.not_imp.1 hsupports
    have hselected := h.selected hnames typed limit hleads
    rw [if_neg hfits] at hselected
    have hrun : (SqlTable.scan range (limit.map Int.ofNat)).run s =
        (.error (.database .integerTooLarge), s) := by
      rw [run_scan, hselected]
    refine ⟨?_, _, Access.run_bind_error hrun⟩
    simpa [TypedCall.rejected, List.isPrefixOf_iff_prefix] using hleads

theorem Carries.answer_ne (hnames : t.columnNames.Nodup) (h : Carries route s T)
    {call : TypedCall t} (hsupports : ¬call.Supported route) : call.answer s ≠ T.answer call := by
  obtain ⟨haccepted, f, hrun⟩ := h.run_unsupported hnames hsupports
  rw [(Carrier.step_of_run hrun).1, TypedTable.answer, haccepted]
  intro heq
  cases heq

/-- Whatever calls are made of it, supported or not, a table of a database carries a typed table all
along. -/
theorem Carries.afterAll (hnames : t.columnNames.Nodup) (h : Carries route s T)
    (calls : List (TypedCall t)) :
    ∃ next : TypedTable t, Carries route (TypedCall.afterAll calls s) next := by
  induction calls generalizing s T with
  | nil => exact ⟨T, h⟩
  | cons call calls ih =>
    by_cases hsupports : call.Supported route
    · exact ih ((carrier hnames route).step h call hsupports).2
    · obtain ⟨-, f, hrun⟩ := h.run_unsupported hnames hsupports
      have hafter := (Carrier.step_of_run hrun).2
      rw [TypedCall.afterAll, hafter]
      exact ih h

end SqlTable
end Sql

/-! ## The tables side by side -/

namespace TypedCall

variable {t : TableSpec} {m : MemoryTable} {s : SqlTable} {T : TypedTable t} {route : Upsert}

/-- From one typed table on, the two kinds of table answer alike as long as the calls are
supported. -/
theorem answers_eq_iff (hnames : t.columnNames.Nodup) (hm : m.Carries T)
    (hs : SqlTable.Carries route s T) (calls : List (TypedCall t)) :
    answers calls m = answers calls s ↔ ∀ call ∈ calls, call.Supported route := by
  induction calls generalizing m s T with
  | nil => simp [answers]
  | cons call calls ih =>
    obtain ⟨hanswer, hm'⟩ := (MemoryTable.carrier t).step hm call trivial
    rw [answers, answers, List.cons.injEq, List.forall_mem_cons, hanswer]
    -- the tables go on alike up to the first call that is not supported, and there they differ
    by_cases hsupports : call.Supported route
    · obtain ⟨hanswer', hs'⟩ := (SqlTable.carrier hnames route).step hs call hsupports
      rw [hanswer', ih hm' hs']
      simp [hsupports]
    · have hne := hs.answer_ne hnames hsupports
      constructor
      · intro heq
        exact absurd heq.1.symm hne
      · intro hall
        exact absurd hall.1 hsupports

end TypedCall

/-- Both kinds of table keep one contract.  Over any run of typed calls from an empty table, the
table in memory and the table of a database give the same answers, row by row, just if every call is
supported: a table that is written in the portable way has a column outside its key, and limits fit
into a cell.  After any run, the table in memory answers every further call that is not to be
rejected, and both reject the others in the same way and leave their rows as they are. -/
theorem tables_answer_alike_iff {t : TableSpec} {name : String} {m : MemoryTable}
    {db : Database} (hmemory : MemoryTable.new name t.key = .ok m)
    (hnames : t.columnNames.Nodup) (hempty : db.rows? t = some []) (route : Upsert)
    (calls : List (TypedCall t)) :
    let s : SqlTable := ⟨t, route, db, []⟩
    (TypedCall.answers calls m = TypedCall.answers calls s ↔
        ∀ call ∈ calls, call.Supported route) ∧
      ∀ call : TypedCall t,
        let m' := TypedCall.afterAll calls m
        let s' := TypedCall.afterAll calls s
        (call.rejected = false → ∃ a, call.answer m' = .ok a) ∧
          (call.rejected = true →
            call.answer m' = .error .value ∧ call.answer s' = .error .value ∧
              (call.after m').rows = m'.rows ∧ (call.after s').database = s'.database) := by
  intro s
  have hm : m.Carries (TypedTable.empty : TypedTable t) := by
    unfold MemoryTable.new at hmemory
    split at hmemory
    · cases hmemory
    · obtain rfl := Except.ok.inj hmemory
      exact ⟨rfl, rfl, rfl⟩
  have hs : SqlTable.Carries route s (TypedTable.empty : TypedTable t) := ⟨rfl, rfl, hempty⟩
  refine ⟨TypedCall.answers_eq_iff hnames hm hs calls, ?_⟩
  intro call m' s'
  obtain ⟨T, hm'⟩ := (MemoryTable.carrier t).run_carries hm calls fun _ _ => trivial
  obtain ⟨T', hs'⟩ := hs.afterAll hnames calls
  obtain ⟨hanswer, hafter⟩ := (MemoryTable.carrier t).step hm' call trivial
  constructor
  · intro haccepted
    refine ⟨T.reply call, ?_⟩
    rw [hanswer, TypedTable.answer, haccepted]
    rfl
  -- a rejected call fails alike in both, whether or not they went on alike
  · intro hrejected
    obtain ⟨f, hclass, hrun⟩ := SqlTable.run_rejected hs'.spec hrejected
    obtain ⟨hanswer', hafter'⟩ := Carrier.step_of_run hrun
    have hleft : T.after call = T := by rw [TypedTable.after, hrejected]; rfl
    rw [hleft] at hafter
    refine ⟨?_, ?_, hafter.rows.trans hm'.rows.symm, congrArg SqlTable.database hafter'⟩
    · rw [hanswer, TypedTable.answer, hrejected]
      rfl
    · rw [hanswer', ← hclass]
      rfl

/-- A table with a key of two columns and one column that may be empty. -/
def visits : TableSpec :=
  ⟨"visits", none, [⟨"host", .text, true, false, none⟩, ⟨"day", .integer, true, false, none⟩,
    ⟨"note", .text, false, true, none⟩]⟩

/-- A row of that table without a note. -/
def visit (host : String) (day : Int) (h : Cell.fits day = true) : TypedRow visits where
  row := .ofList [("host", .text host), ("day", .int day), ("note", .null)]
  columns name := by
    simp only [TextMap.contains, TextMap.ofList, List.foldl_cons, List.foldl_nil,
      TextMap.get?_insert, TextMap.get?_empty, TableSpec.columnNames, visits, List.map_cons,
      List.map_nil, List.mem_cons, List.not_mem_nil, or_false]
    by_cases hhost : name = "host" <;> by_cases hday : name = "day" <;>
      by_cases hnote : name = "note" <;> simp_all
  typed c hc := by
    simp only [visits, List.mem_cons, List.not_mem_nil, or_false] at hc
    rcases hc with rfl | rfl | rfl <;>
      simp only [TextMap.cell, TextMap.ofList, List.foldl_cons, List.foldl_nil, TextMap.get?_insert]
    · exact .text rfl host
    · exact .int rfl h
    · exact .null rfl

/-- Two visits to a host, a look at the first of them, and a key that lacks the day. -/
def visitCalls : List (TypedCall visits) :=
  [.upsert (visit "a" 2 rfl), .upsert (visit "a" 1 rfl),
    .scan ⟨[("host", .text "a")]⟩ (some 1) (by
      intro p hp c hc hname
      rw [List.mem_singleton.1 hp] at hname ⊢
      simp only [TableSpec.keyColumns, visits, List.mem_filter, List.mem_cons, List.not_mem_nil,
        or_false] at hc
      obtain ⟨rfl | rfl | rfl, -⟩ := hc
      · exact .text rfl "a"
      · simp at hname
      · simp at hname),
    .read .empty (fun _ _ _ h => nomatch h)]

theorem tables_answer_alike_iff_visits :
    let m : MemoryTable := ⟨"visits", ["host", "day"], [], [], .empty, [], 0⟩
    let s : SqlTable := ⟨visits, .portable, Database.empty.put .main visits [], []⟩
    MemoryTable.new "visits" visits.key = .ok m ∧ visits.columnNames.Nodup ∧
      s.database.rows? visits = some [] ∧
      TypedCall.answers visitCalls m = TypedCall.answers visitCalls s := by
  intro m s
  have hnames : visits.columnNames.Nodup := by decide
  have hsupports : ∀ call ∈ visitCalls, call.Supported .portable := by
    have hnote : ∃ c ∈ visits.columns, c.inKey = false :=
      ⟨⟨"note", .text, false, true, none⟩, by simp [visits], rfl⟩
    intro call hcall
    simp only [visitCalls, List.mem_cons, List.not_mem_nil, or_false] at hcall
    rcases hcall with rfl | rfl | rfl | rfl
    · exact .inr hnote
    · exact .inr hnote
    · exact fun _ => rfl
    · exact trivial
  exact ⟨rfl, hnames, rfl,
    (tables_answer_alike_iff rfl hnames rfl .portable visitCalls).1.2 hsupports⟩

/-- A table of nothing but its key. -/
def names : TableSpec := ⟨"names", none, [⟨"name", .text, true, false, none⟩]⟩

/-- A row of that table. -/
def nameRow (name : String) : TypedRow names where
  row := .ofList [("name", .text name)]
  columns other := by
    simp only [TextMap.contains, TextMap.ofList, List.foldl_cons, List.foldl_nil,
      TextMap.get?_insert, TextMap.get?_empty, TableSpec.columnNames, names, List.map_cons,
      List.map_nil, List.mem_singleton]
    by_cases hother : other = "name" <;> simp [hother]
  typed c hc := by
    rw [List.mem_singleton.1 hc]
    exact .text rfl name

/-- A row of nothing but the key is kept in memory, while the portable way of writing it to a
database fails. -/
theorem tables_differ_keyOnly :
    let m : MemoryTable := ⟨"names", ["name"], [], [], .empty, [], 0⟩
    let s : SqlTable := ⟨names, .portable, Database.empty.put .main names [], []⟩
    let calls : List (TypedCall names) := [.upsert (nameRow "a")]
    TypedCall.answers calls m = [.ok .done] ∧ TypedCall.answers calls s = [.error .operational] :=
  ⟨rfl, rfl⟩

end ConnectionCatalog
