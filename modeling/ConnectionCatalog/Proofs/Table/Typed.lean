import Mathlib.Data.List.Lex
import Mathlib.Data.Prod.Lex
import Mathlib.Data.String.Basic
import ConnectionCatalog.Proofs.Sql.Upsert

/-! # Proofs.Table.Typed — rows whose values have the types of their columns

A column of texts admits texts, a column of whole numbers those that fit into a cell, and a column
that may be empty admits nothing as well.  Such values are stored as they are, and the two kinds of
table agree about them: which are equal, and which of two comes first.

* `Column.Admits`, `TypedRow`: values and rows that have the types of their columns.
* `TypedRow.toRow_cells`: a typed row is read as it was stored.
* `TypedRow.atMost_key`, `TypedRow.atMost_cells`: both kinds of table put rows in one order.
* `TypedRow.satisfies_cells`: what a clause says of the cells of a row, a range says of the row.
-/

namespace ConnectionCatalog.Sql

/-! ## Values -/

/-- The values that have the type of a column: texts, or whole numbers that fit into a cell, and
nothing where the column may be empty. -/
inductive Column.Admits (c : Column) : Value → Prop
  | null (h : c.required = false) : c.Admits .null
  | text (h : c.affinity = .text) (s : String) : c.Admits (.text s)
  | int (h : c.affinity = .integer) {n : Int} (hn : Cell.fits n = true) : c.Admits (.int n)

/-- Where a value stands among those of its column: numbers by size, texts by their letters. -/
def standing : Value → Int ×ₗ String
  | .int n => toLex (n, "")
  | .text s => toLex (0, s)
  | _ => toLex (0, "")

theorem boundCell_int {n : Int} (h : Cell.fits n = true) : boundCell (.int n) = .int n := by
  simp [boundCell, bindValue, h]

namespace Column.Admits

variable {c : Column} {u v : Value}

theorem refusal? (h : c.Admits v) : Sql.refusal? v = none := by
  cases h with
  | null => rfl
  | text => rfl
  | int _ hn => simp [Sql.refusal?, bindValue, hn]

theorem toValue_boundCell (h : c.Admits v) : (boundCell v).toValue = v := by
  cases h with
  | null => rfl
  | text => rfl
  | int _ hn => rw [boundCell_int hn, Cell.toValue]

/-- A value of the type of a column is what the column prefers. -/
theorem storing_eq (h : c.Admits v) : c.storing v = boundCell v := by
  cases h with
  | null => exact Affinity.apply_null _
  | text haffinity s => rw [Column.storing, haffinity]; rfl
  | int haffinity hn => rw [Column.storing, haffinity, boundCell_int hn, Affinity.apply_integer_int]

theorem ne_null (h : c.Admits v) (hrequired : c.required = true) : v ≠ .null := by
  rintro rfl
  cases h with
  | null hempty =>
    rw [hempty] at hrequired
    cases hrequired

theorem boundCell_ne_null (h : c.Admits v) (hrequired : c.required = true) :
    boundCell v ≠ .null := by
  intro hnull
  have hv := h.toValue_boundCell
  rw [hnull] at hv
  exact h.ne_null hrequired hv.symm

theorem same_iff (hu : c.Admits u) (hv : c.Admits v) : u.same v = true ↔ u = v := by
  cases hu <;> cases hv <;>
    simp [Value.same, Value.sameAtom, Value.number?, Value.text?, Number.same]

/-- A condition holds of the cell of a value just if the value equals the one of the condition. -/
theorem meets (hu : c.Admits u) (hv : c.Admits v) {t : TableSpec} {cells : Cells}
    (hcell : t.cellOf cells c.name = boundCell u) :
    t.satisfies cells [(c, Condition.ofValue v)] = u.same v := by
  -- a column admits nothing, and values of one kind; what it holds is bound unchanged
  cases hv with
  | null _ =>
    rw [Condition.ofValue, TableSpec.satisfies_isNull, hcell]
    cases hu with
    | null => rfl
    | text => rfl
    | int _ hn => rw [boundCell_int hn]; rfl
  | text haffinity s =>
    rw [Condition.ofValue_of_ne_null (by simp), TableSpec.satisfies_equals, hcell, haffinity]
    cases hu with
    | null => rfl
    | text => rfl
    | int hinteger => rw [haffinity] at hinteger; cases hinteger
  | int haffinity hn =>
    rw [Condition.ofValue_of_ne_null (by simp), TableSpec.satisfies_equals, hcell, haffinity,
      boundCell_int hn]
    cases hu with
    | null => rfl
    | text htext => rw [haffinity] at htext; cases htext
    | int _ hm => rw [boundCell_int hm]; rfl

variable (hu : c.Admits u) (hv : c.Admits v) (hrequired : c.required = true)

include hu hv hrequired

/-- Two values of a column that must not be empty are both texts or both whole numbers. -/
theorem texts_or_numbers :
    (c.affinity = .text ∧ ∃ s t, u = .text s ∧ v = .text t) ∨
      (c.affinity = .integer ∧ ∃ m n, u = .int m ∧ v = .int n ∧
        Cell.fits m = true ∧ Cell.fits n = true) := by
  have hnull := hu.ne_null hrequired
  have hnull' := hv.ne_null hrequired
  -- the kind of a column is that of its affinity, so both values have the same
  cases hu with
  | null => exact absurd rfl hnull
  | text haffinity s =>
    cases hv with
    | null => exact absurd rfl hnull'
    | text _ t => exact .inl ⟨haffinity, s, t, rfl, rfl⟩
    | int hinteger => rw [haffinity] at hinteger; cases hinteger
  | int haffinity hm =>
    cases hv with
    | null => exact absurd rfl hnull'
    | text htext => rw [haffinity] at htext; cases htext
    | int _ hn => exact .inr ⟨haffinity, _, _, rfl, rfl, hm, hn⟩

theorem before?_eq : u.before? v = some (decide (standing u < standing v)) := by
  obtain ⟨-, s, t, rfl, rfl⟩ | ⟨-, m, n, rfl, rfl, -, -⟩ := hu.texts_or_numbers hv hrequired
  · simp [Value.before?, Value.number?, Value.text?, standing, Prod.Lex.toLex_lt_toLex]
  · simp [Value.before?, Value.number?, standing, Prod.Lex.toLex_lt_toLex, Number.lt]

theorem less_eq : (boundCell u).less (boundCell v) = decide (standing u < standing v) := by
  obtain ⟨-, s, t, rfl, rfl⟩ | ⟨-, m, n, rfl, rfl, hm, hn⟩ := hu.texts_or_numbers hv hrequired
  · simp [boundCell, bindValue, Cell.less, Cell.number?, standing, Prod.Lex.toLex_lt_toLex]
  · rw [boundCell_int hm, boundCell_int hn]
    simp [Cell.less, Cell.number?, standing, Prod.Lex.toLex_lt_toLex, Number.lt]

theorem standing_inj : standing u = standing v ↔ u = v := by
  obtain ⟨-, s, t, rfl, rfl⟩ | ⟨-, m, n, rfl, rfl, -, -⟩ := hu.texts_or_numbers hv hrequired
  · simp [standing]
  · simp [standing]

/-- All values of a column that must not be empty are of one order. -/
theorem order?_eq : u.order?.isSome = true ∧ u.order? = v.order? := by
  obtain ⟨-, s, t, rfl, rfl⟩ | ⟨-, m, n, rfl, rfl, -, -⟩ := hu.texts_or_numbers hv hrequired
  · exact ⟨rfl, rfl⟩
  · exact ⟨rfl, rfl⟩

end Column.Admits

/-! ## Keys -/

section Keys

variable {cs : List Column} {f g : Column → Value} (hf : ∀ c ∈ cs, c.Admits (f c))
  (hg : ∀ c ∈ cs, c.Admits (g c))

/-- Keys are compared column by column. -/
theorem same_map {α : Type} (xs : List α) (f g : α → Value) :
    Key.same (xs.map f) (xs.map g) = xs.all fun x => (f x).same (g x) := by
  induction xs with
  | nil => rfl
  | cons x xs ih => rw [List.map_cons, List.map_cons, Key.same, List.all_cons, ih]

include hf hg

theorem same_map_iff : Key.same (cs.map f) (cs.map g) = true ↔ cs.map f = cs.map g := by
  rw [same_map, List.all_eq_true, List.map_inj_left]
  exact forall₂_congr fun c hc => (hf c hc).same_iff (hg c hc)

variable (hrequired : ∀ c ∈ cs, c.required = true)

include hrequired

/-- A table in memory compares two keys by where their values stand. -/
theorem less_map : Key.less (cs.map f) (cs.map g) =
    .ok (decide ((cs.map fun c => standing (f c)) < cs.map fun c => standing (g c))) := by
  induction cs with
  | nil => rfl
  | cons c cs ih =>
    rw [List.forall_mem_cons] at hf hg hrequired
    have hinj := hf.1.standing_inj hg.1 hrequired.1
    have hsame := hf.1.same_iff hg.1
    simp only [List.map_cons, Key.less, List.cons_lt_cons_iff]
    -- the first column in which the keys differ decides
    by_cases heq : f c = g c
    · rw [hsame.2 heq, if_pos rfl, ih hf.2 hg.2 hrequired.2]
      simp [heq]
    · rw [if_neg (fun h => heq (hsame.1 h)), hf.1.before?_eq hg.1 hrequired.1]
      simp [mt hinj.1 heq]

/-- A table of a database compares the cells of two rows by where the values of their keys
stand. -/
theorem lessBy_map {t : TableSpec} {a b : Cells}
    (ha : ∀ c ∈ cs, t.cellOf a c.name = boundCell (f c))
    (hb : ∀ c ∈ cs, t.cellOf b c.name = boundCell (g c)) :
    t.lessBy a b (cs.map Column.name) =
      decide ((cs.map fun c => standing (f c)) < cs.map fun c => standing (g c)) := by
  induction cs with
  | nil => rfl
  | cons c cs ih =>
    rw [List.forall_mem_cons] at hf hg hrequired ha hb
    have hinj := hf.1.standing_inj hg.1 hrequired.1
    simp only [List.map_cons, TableSpec.lessBy, List.cons_lt_cons_iff]
    rw [ha.1, hb.1, hf.1.less_eq hg.1 hrequired.1, hg.1.less_eq hf.1 hrequired.1,
      ih hf.2 hg.2 hrequired.2 ha.2 hb.2]
    -- values of which neither comes first are equal, and then the other columns decide
    rcases lt_trichotomy (standing (f c)) (standing (g c)) with hlt | heq | hgt
    · simp [hlt]
    · simp [heq]
    · simp [hgt, hgt.not_gt, hgt.ne']

end Keys

/-! ## Rows -/

/-- The values of the key columns of a row. -/
def TableSpec.keyValues (t : TableSpec) (row : Row) : Key := t.key.map row.cell

theorem TableSpec.keyValues_eq (t : TableSpec) (row : Row) :
    t.keyValues row = t.keyColumns.map fun c => row.cell c.name := by
  have hkey : t.key = t.keyColumns.map Column.name := rfl
  rw [keyValues, hkey, List.map_map]
  rfl

/-- A row that has a value of its type in every key column. -/
structure TableSpec.Keyed (t : TableSpec) (row : Row) : Prop where
  contains : ∀ c ∈ t.keyColumns, row.contains c.name = true
  typed : ∀ c ∈ t.keyColumns, c.Admits (row.cell c.name)

/-- A key pins key columns to values of their types. -/
theorem TableSpec.Keyed.pins {t : TableSpec} {key : Row} (hkey : t.Keyed key) :
    ∀ p ∈ keyPins t key, ∃ c ∈ t.columns, c.name = p.1 ∧ c.Admits p.2 := by
  intro p hp
  obtain ⟨name, hname, rfl⟩ := List.mem_map.1 hp
  obtain ⟨c, hc, rfl⟩ := List.mem_map.1 hname
  exact ⟨c, TableSpec.mem_columns_of_mem_keyColumns hc, rfl, hkey.typed c hc⟩

/-- A row of a table that has a value of its type in every column, and no other values. -/
structure TypedRow (t : TableSpec) where
  row : Row
  columns : ∀ name, row.contains name = true ↔ name ∈ t.columnNames
  typed : ∀ c ∈ t.columns, c.Admits (row.cell c.name)

namespace TypedRow

variable {t : TableSpec} (r a b : TypedRow t)

/-- The row as a table of a database stores it. -/
def cells : Cells := t.columns.map fun c => boundCell (r.row.cell c.name)

/-- The row as a table in memory keeps it. -/
def entry : Key × Row := (t.keyValues r.row, r.row)

/-- Where the row stands among the rows of its table. -/
def standing : List (Int ×ₗ String) := t.keyColumns.map fun c => Sql.standing (r.row.cell c.name)

/-- Whether the row has the key of another one. -/
def hasKey (key : Row) : Bool := Key.same (t.keyValues r.row) (t.keyValues key)

theorem contains_of_mem {c : Column} (hc : c ∈ t.columns) : r.row.contains c.name = true :=
  (r.columns c.name).2 (List.mem_map_of_mem hc)

theorem get?_of_mem {c : Column} (hc : c ∈ t.columns) :
    r.row.get? c.name = some (r.row.cell c.name) := by
  obtain ⟨v, hv⟩ := Option.isSome_iff_exists.1 (r.contains_of_mem hc)
  rw [TextMap.cell, hv]
  rfl

theorem keyed : t.Keyed r.row where
  contains _ hc := r.contains_of_mem (TableSpec.mem_columns_of_mem_keyColumns hc)
  typed c hc := r.typed c (TableSpec.mem_columns_of_mem_keyColumns hc)

/-- A typed row is read as it was stored. -/
theorem toRow_cells : t.toRow r.cells = r.row := by
  have hentries : (t.columns.zip r.cells).map (fun p => (p.1.name, p.2.toValue)) =
      t.columnNames.map fun name => (name, r.row.cell name) := by
    rw [cells, TableSpec.zip_map, List.map_map, TableSpec.columnNames, List.map_map]
    refine List.map_congr_left ?_
    intro c hc
    simp [(r.typed c hc).toValue_boundCell]
  refine TextMap.ext_get? fun name => ?_
  rw [TableSpec.toRow, hentries, TextMap.get?_ofList_map]
  -- a row has exactly the columns of its table
  split
  · rename_i hname
    obtain ⟨c, hc, rfl⟩ := List.mem_map.1 hname
    exact (r.get?_of_mem hc).symm
  · rename_i hname
    have hcontains := mt (r.columns name).1 hname
    rw [TextMap.contains, Bool.not_eq_true, Option.isSome_eq_false_iff, Option.isNone_iff_eq_none]
      at hcontains
    exact hcontains.symm

theorem stores_cells : t.Stores r.cells :=
  TableSpec.stores_map_iff.2 fun c hc hrequired => (r.typed c hc).boundCell_ne_null hrequired

/-- Rows of one key stand in one place. -/
theorem standing_inj : a.standing = b.standing ↔ t.keyValues a.row = t.keyValues b.row := by
  rw [standing, standing, TableSpec.keyValues_eq, TableSpec.keyValues_eq, List.map_inj_left,
    List.map_inj_left]
  exact forall₂_congr fun c hc => (a.keyed.typed c hc).standing_inj (b.keyed.typed c hc)
    (TableSpec.required_of_mem_keyColumns hc)

theorem hasKey_iff {key : Row} (hkey : t.Keyed key) :
    r.hasKey key = true ↔ t.keyValues r.row = t.keyValues key := by
  rw [hasKey, TableSpec.keyValues_eq, TableSpec.keyValues_eq]
  exact same_map_iff r.keyed.typed hkey.typed

/-- A row has a key just if it is in the range that the key pins. -/
theorem contains_keyPins (key : Row) :
    (Range.mk (keyPins t key)).contains r.row = r.hasKey key := by
  rw [Range.contains, keyPins, List.all_map, hasKey, TableSpec.keyValues, TableSpec.keyValues,
    same_map]
  rfl

theorem not_standing_lt :
    (!decide (b.standing < a.standing)) = decide (a.standing ≤ b.standing) := by
  have hle : ¬b.standing < a.standing ↔ a.standing ≤ b.standing := not_lt
  rw [← decide_not]
  exact decide_eq_decide.2 hle

theorem atMost_key :
    Key.atMost (t.keyValues a.row) (t.keyValues b.row) = decide (a.standing ≤ b.standing) := by
  have hless := less_map b.keyed.typed a.keyed.typed
    fun _ hc => TableSpec.required_of_mem_keyColumns hc
  rw [← TableSpec.keyValues_eq, ← TableSpec.keyValues_eq] at hless
  rw [Key.atMost, hless]
  exact not_standing_lt a b

variable (hnames : t.columnNames.Nodup)

include hnames

theorem cellOf_cells {c : Column} (hc : c ∈ t.columns) :
    t.cellOf r.cells c.name = boundCell (r.row.cell c.name) :=
  TableSpec.cellOf_map hnames (fun c => boundCell (r.row.cell c.name)) hc

theorem atMost_cells :
    (!t.lessBy b.cells a.cells t.key) = decide (a.standing ≤ b.standing) := by
  have hcells : ∀ r : TypedRow t, ∀ c ∈ t.keyColumns,
      t.cellOf r.cells c.name = boundCell (r.row.cell c.name) := by
    intro r c hc
    exact r.cellOf_cells hnames (TableSpec.mem_columns_of_mem_keyColumns hc)
  have hkey : t.key = t.keyColumns.map Column.name := rfl
  have hless := lessBy_map b.keyed.typed a.keyed.typed
    (fun _ hc => TableSpec.required_of_mem_keyColumns hc) (hcells b) (hcells a)
  rw [hkey, hless]
  exact not_standing_lt a b

/-- What a clause says of the cells of a row, a range says of the row. -/
theorem satisfies_cells {pins : List (String × Value)}
    (hpins : ∀ p ∈ pins, ∃ c ∈ t.columns, c.name = p.1 ∧ c.Admits p.2) :
    t.satisfies r.cells ((pinnedColumns t pins).map fun p => (p.1, Condition.ofValue p.2)) =
      (Range.mk pins).contains r.row := by
  induction pins with
  | nil => rfl
  | cons p pins ih =>
    rw [List.forall_mem_cons] at hpins
    obtain ⟨⟨c, hc, hname, hadmits⟩, hpins⟩ := hpins
    have hpinned : pinnedColumns t (p :: pins) = (c, p.2) :: pinnedColumns t pins := by
      rw [pinnedColumns, List.filterMap_cons, ← hname, TableSpec.column?_eq hnames hc]
      rfl
    have hmeets : t.satisfies r.cells [(c, Condition.ofValue p.2)] = (r.row.cell p.1).same p.2 := by
      rw [← hname]
      exact (r.typed c hc).meets hadmits (r.cellOf_cells hnames hc)
    have hrest := ih hpins
    rw [TableSpec.satisfies_eq_all, Range.contains] at hrest ⊢
    rw [hpinned, List.map_cons, List.all_cons, List.all_cons, hrest, hmeets]

theorem satisfies_keyClause {key : Row} (hkey : t.Keyed key) :
    t.satisfies r.cells (t.keyClause key) = r.hasKey key := by
  rw [← TableSpec.conditions_keyPins hnames, r.satisfies_cells hnames hkey.pins,
    r.contains_keyPins]

end TypedRow

end ConnectionCatalog.Sql
