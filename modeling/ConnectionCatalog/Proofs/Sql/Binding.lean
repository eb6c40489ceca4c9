import Mathlib.Data.List.Basic
import ConnectionCatalog.Proofs.Store.Directory
import ConnectionCatalog.Sql.Table

/-! # Proofs.Sql.Binding — what statements bind and write, over any table

Whether a value can be bound does not depend on where it stands, and of several values the first
that cannot be bound decides why a statement fails.  Where the columns of a table have different
names, what is written can be told column by column.

* `bindColumns_ok`, `bindClause_ok` and their counterparts `_error`: what is bound, or the class of
  the failure.
* `TableSpec.Stores`: the rows that a table can store.
* `newCells_inserted`, `changedCells_given`: the cells that a row makes and changes, by column.
* `sameKey_eq_satisfies`: a stored row has the key of a new one if it satisfies the condition on its
  key columns.
-/

namespace ConnectionCatalog.Sql

/-! ## Values -/

/-- The class of the failure to bind a value, if it cannot be bound. -/
def refusal? (v : Value) : Option ErrorClass :=
  match bindValue 1 v with
  | .ok _ => none
  | .error f => some f.errorClass

/-- The cell that a value is bound as, if it can be bound. -/
def boundCell (v : Value) : Cell :=
  match bindValue 1 v with
  | .ok c => c
  | .error _ => .null

theorem bindValue_ok (position : Nat) {v : Value} (h : refusal? v = none) :
    bindValue position v = .ok (boundCell v) := by
  -- only a whole number may or may not fit; of the other kinds all are bound, or none
  cases v with
  | int n =>
    simp only [refusal?, boundCell, bindValue] at *
    cases hfits : Cell.fits n with
    | true => simp
    | false =>
      rw [hfits] at h
      cases h
  | float d => cases d <;> rfl
  | null => rfl
  | bool b => rfl
  | text s => rfl
  | stray s => cases h
  | bytes bs => rfl
  | type t => rfl
  | id i => cases h
  | list xs => cases h
  | object fields => cases h

theorem bindValue_error (position : Nat) {v : Value} {c : ErrorClass} (h : refusal? v = some c) :
    ∃ f, bindValue position v = .error f ∧ f.errorClass = c := by
  cases v with
  | int n =>
    simp only [refusal?, bindValue] at *
    cases hfits : Cell.fits n with
    | true =>
      rw [hfits] at h
      cases h
    | false =>
      rw [hfits] at h
      exact ⟨_, rfl, Option.some.inj h⟩
  | float d => cases d <;> cases h
  | null => cases h
  | bool b => cases h
  | text s => cases h
  | stray s => exact ⟨_, rfl, Option.some.inj h⟩
  | bytes bs => cases h
  | type t => cases h
  | id i => exact ⟨_, rfl, Option.some.inj h⟩
  | list xs => exact ⟨_, rfl, Option.some.inj h⟩
  | object fields => exact ⟨_, rfl, Option.some.inj h⟩

/-- The class of the failure to bind some values, if one of them cannot be bound. -/
def firstRefusal? (vs : List Value) : Option ErrorClass := vs.findSome? refusal?

theorem bindAll_ok (position : Nat) {vs : List Value} (h : firstRefusal? vs = none) :
    bindAll position vs = .ok (vs.map boundCell) := by
  induction vs generalizing position with
  | nil => rfl
  | cons v vs ih =>
    obtain ⟨hv, hvs⟩ := List.forall_mem_cons.1 (List.findSome?_eq_none_iff.1 h)
    rw [bindAll, bindValue_ok position hv, ih (position + 1) (List.findSome?_eq_none_iff.2 hvs)]
    rfl

theorem bindAll_error (position : Nat) {vs : List Value} {c : ErrorClass}
    (h : firstRefusal? vs = some c) : ∃ f, bindAll position vs = .error f ∧ f.errorClass = c := by
  induction vs generalizing position with
  | nil => cases h
  | cons v vs ih =>
    rw [firstRefusal?, List.findSome?_cons] at h
    -- the first value that cannot be bound decides, wherever it stands
    cases hv : refusal? v with
    | some d =>
      rw [hv] at h
      obtain ⟨f, hf, hclass⟩ := bindValue_error position hv
      refine ⟨f, ?_, hclass.trans (Option.some.inj h)⟩
      rw [bindAll, hf]
    | none =>
      rw [hv] at h
      obtain ⟨f, hf, hclass⟩ := ih (position + 1) h
      refine ⟨f, ?_, hclass⟩
      rw [bindAll, bindValue_ok position hv, hf]

/-- What a column stores of a value. -/
def Column.storing (c : Column) (v : Value) : Cell := c.affinity.apply (boundCell v)

/-- The value that an insertion gives a column: the one of the row, or else the default. -/
def Column.inserted? (c : Column) (row : Row) : Option Value := (row.get? c.name).or c.default?

/-- What is bound of the values that columns are given. -/
def bound (given : List (Column × Value)) : Assignment :=
  given.map fun p => (p.1.name, p.1.storing p.2)

theorem bindColumns_ok (position : Nat) {given : List (Column × Value)}
    (h : firstRefusal? (given.map (·.2)) = none) :
    bindColumns position given = .ok (bound given) := by
  have hzip : given.zip (given.map fun p => boundCell p.2) =
      given.map fun p => (p, boundCell p.2) := by
    simpa using
      List.zip_map' (f := id) (g := fun p : Column × Value => boundCell p.2) (l := given)
  rw [bindColumns, bindAll_ok position h]
  simp only [List.map_map, Function.comp_def, hzip]
  rfl

theorem bindColumns_error (position : Nat) {given : List (Column × Value)} {c : ErrorClass}
    (h : firstRefusal? (given.map (·.2)) = some c) :
    ∃ f, bindColumns position given = .error f ∧ f.errorClass = c := by
  obtain ⟨f, hf, hclass⟩ := bindAll_error position h
  refine ⟨f, ?_, hclass⟩
  rw [bindColumns, hf]

/-- The condition that a cell equals a value; nothing is asked for by name. -/
def Condition.ofValue : Value → Condition
  | .null => .isNull
  | v => .equals (boundCell v)

/-- A value that can be bound takes up a position or none, and the rest is bound from there. -/
theorem bindClause_cons_ok (position : Nat) (c : Column) {v : Value} (hv : refusal? v = none) :
    ∃ next, ∀ given, bindClause position ((c, v) :: given) =
      (bindClause next given).map fun p => (p.1, (c, Condition.ofValue v) :: p.2) := by
  have hbind := bindValue_ok position hv
  cases v with
  | null | bool _ =>
    -- nothing and truth values are part of the statement and take no position
    refine ⟨position, fun given => ?_⟩
    rw [bindClause]
    cases bindClause position given <;> rfl
  | int _ | float _ | text _ | bytes _ | type _ =>
    refine ⟨position + 1, fun given => ?_⟩
    simp only [bindClause, hbind]
    cases bindClause (position + 1) given <;> rfl
  | stray _ | id _ | list _ | object _ => cases hv

theorem bindClause_cons_error (position : Nat) (column : Column) {v : Value} {c : ErrorClass}
    (hv : refusal? v = some c) (given : List (Column × Value)) :
    ∃ f, bindClause position ((column, v) :: given) = .error f ∧ f.errorClass = c := by
  obtain ⟨f, hf, hclass⟩ := bindValue_error position hv
  refine ⟨f, ?_, hclass⟩
  cases v with
  | null => cases hv
  | bool b => cases hv
  | _ => simp only [bindClause, hf]

theorem Condition.ofValue_of_ne_null {v : Value} (h : v ≠ .null) :
    ofValue v = .equals (boundCell v) := by
  cases v <;> first | rfl | exact absurd rfl h

theorem bindClause_ok (position : Nat) {given : List (Column × Value)}
    (h : firstRefusal? (given.map (·.2)) = none) :
    ∃ next, bindClause position given =
      .ok (next, given.map fun p => (p.1, Condition.ofValue p.2)) := by
  induction given generalizing position with
  | nil => exact ⟨position, rfl⟩
  | cons p given ih =>
    obtain ⟨hv, hvs⟩ := List.forall_mem_cons.1 (List.findSome?_eq_none_iff.1 h)
    obtain ⟨next, hnext⟩ := bindClause_cons_ok position p.1 hv
    obtain ⟨last, hlast⟩ := ih next (List.findSome?_eq_none_iff.2 hvs)
    refine ⟨last, ?_⟩
    rw [hnext, hlast]
    rfl

theorem bindClause_error (position : Nat) {given : List (Column × Value)} {c : ErrorClass}
    (h : firstRefusal? (given.map (·.2)) = some c) :
    ∃ f, bindClause position given = .error f ∧ f.errorClass = c := by
  induction given generalizing position with
  | nil => cases h
  | cons p given ih =>
    rw [firstRefusal?, List.map_cons, List.findSome?_cons] at h
    cases hv : refusal? p.2 with
    | some d =>
      rw [hv] at h
      obtain ⟨f, hf, hclass⟩ := bindClause_cons_error position p.1 hv given
      exact ⟨f, hf, hclass.trans (Option.some.inj h)⟩
    | none =>
      rw [hv] at h
      obtain ⟨next, hnext⟩ := bindClause_cons_ok position p.1 hv
      obtain ⟨f, hf, hclass⟩ := ih next h
      refine ⟨f, ?_, hclass⟩
      rw [hnext, hf]
      rfl

/-! ## Cells -/

namespace Cell

theorem same_null_left (c : Cell) : null.same c = false := by
  cases c <;> rfl

theorem same_comm (a b : Cell) : a.same b = b.same a := by
  have hnumber : ∀ x y : Number, x.same y = y.same x := by
    intro x y
    -- a whole number equals a double only if the double is finite, from either side
    cases x with
    | whole m =>
      cases y with
      | whole n => exact Bool.beq_comm
      | real d => cases d <;> simp [Number.same, Bool.beq_comm]
    | real c =>
      cases y with
      | whole n => cases c <;> simp [Number.same, Bool.beq_comm]
      | real d =>
        simp only [Number.same, Double.same]
        cases c.place? <;> cases d.place? <;> simp [Bool.beq_comm]
  cases a <;> cases b <;> simp [same, number?, hnumber, Bool.beq_comm]

end Cell

theorem Affinity.wholeCell_ne_null (d : Double) : wholeCell d ≠ .null := by
  unfold wholeCell
  split
  · split <;> simp
  · simp

theorem Affinity.apply_eq_null_iff (a : Affinity) (c : Cell) : a.apply c = .null ↔ c = .null := by
  cases a with
  | text => cases c <;> simp [apply]
  | integer =>
    cases c with
    | null => simp
    | int n => simp [apply]
    | blob bs => simp [apply]
    | real d => simp [apply, wholeCell_ne_null]
    | text s =>
      -- a text becomes a number or stays a text, and neither is nothing
      have hnumber : numberCell? s ≠ some .null := by
        simp only [numberCell?]
        split
        · split <;> simp [wholeCell_ne_null]
        · simp
      cases h : numberCell? s with
      | none => simp [apply, h]
      | some c =>
        rw [h] at hnumber
        simpa [apply, h] using hnumber

namespace TableSpec

variable {t : TableSpec}

/-- The rows that a table can store: a cell for each column, and none that must not be empty is. -/
structure Stores (t : TableSpec) (cells : Cells) : Prop where
  width : cells.length = t.columns.length
  filled : t.emptyColumn? cells = none

/-- Columns of which none has the name of one before it have different names. -/
theorem nodup_of_repeatedColumn? {seen : List String} {columns : List Column}
    (h : repeatedColumn? seen columns = none) :
    (columns.map Column.name).Nodup ∧ ∀ c ∈ columns, Name.folded c.name ∉ seen := by
  induction columns generalizing seen with
  | nil => simp
  | cons c columns ih =>
    rw [repeatedColumn?] at h
    split at h
    · cases h
    -- names are compared in small letters, so those that differ in them differ
    · rename_i hseen
      obtain ⟨hnodup, hrest⟩ := ih h
      have hc : Name.folded c.name ∉ seen := by simpa using hseen
      refine ⟨?_, ?_⟩
      · rw [List.map_cons, List.nodup_cons]
        refine ⟨?_, hnodup⟩
        intro hmem
        obtain ⟨d, hd, hname⟩ := List.mem_map.1 hmem
        exact hrest d hd (by simp [hname])
      · intro d hd
        rcases List.mem_cons.1 hd with rfl | hd
        · exact hc
        · exact fun hmem => hrest d hd (List.mem_cons_of_mem _ hmem)

/-- A table that was made has columns of different names, so nothing is lost where that is
assumed. -/
theorem columnNames_nodup_of_create {db next : Database} (h : db.create t = .ok next) :
    t.columnNames.Nodup := by
  unfold Database.create at h
  split at h
  · cases h
  · split at h
    · cases h
    · split at h
      · cases h
      · split at h
        · cases h
        · split at h
          · cases h
          · rename_i hrepeated
            exact (nodup_of_repeatedColumn? hrepeated).1

/-- Columns of different names are found by their names. -/
theorem find?_name {columns : List Column} (hnames : (columns.map Column.name).Nodup) {c : Column}
    (hc : c ∈ columns) : columns.find? (fun d => d.name == c.name) = some c := by
  induction columns with
  | nil => cases hc
  | cons d columns ih =>
    rw [List.map_cons, List.nodup_cons] at hnames
    rcases List.mem_cons.1 hc with rfl | hc
    · simp
    · have hne : d.name ≠ c.name := by
        intro heq
        exact hnames.1 (heq ▸ List.mem_map_of_mem hc)
      simp [hne, ih hnames.2 hc]

theorem column?_eq (hnames : t.columnNames.Nodup) {c : Column} (hc : c ∈ t.columns) :
    t.column? c.name = some c := find?_name hnames hc

theorem zip_map (t : TableSpec) (g : Column → Cell) :
    t.columns.zip (t.columns.map g) = t.columns.map fun c => (c, g c) := by
  simpa using List.zip_map' (f := fun c => c) (g := g) (l := t.columns)

theorem cellOf_map (hnames : t.columnNames.Nodup) (g : Column → Cell) {c : Column}
    (hc : c ∈ t.columns) : t.cellOf (t.columns.map g) c.name = g c := by
  rw [cellOf, zip_map, List.find?_map, Function.comp_def]
  simp only
  rw [find?_name hnames hc]
  rfl

/-- A row of the right width has its cells column by column. -/
theorem map_cellOf (hnames : t.columnNames.Nodup) {cells : Cells}
    (hwidth : cells.length = t.columns.length) :
    (t.columns.map fun c => t.cellOf cells c.name) = cells := by
  have hlist : ∀ (columns : List Column) (cells : Cells), (columns.map Column.name).Nodup →
      cells.length = columns.length → (columns.map fun c =>
        (((columns.zip cells).find? fun p => p.1.name == c.name).map (·.2)).getD .null) =
          cells := by
    intro columns
    induction columns with
    | nil =>
      intro cells _ hwidth
      exact (List.eq_nil_of_length_eq_zero hwidth).symm
    | cons c columns ih =>
      intro cells hnames hwidth
      cases cells with
      | nil => cases hwidth
      | cons x xs =>
        rw [List.map_cons, List.nodup_cons] at hnames
        have hrest : (columns.map fun d =>
            ((((c :: columns).zip (x :: xs)).find? fun p => p.1.name == d.name).map
              (·.2)).getD .null) = xs := by
          refine Eq.trans (List.map_congr_left ?_) (ih xs hnames.2 (Nat.succ.inj hwidth))
          -- the cell in front belongs to the column in front, as the others have other names
          intro d hd
          have hne : c.name ≠ d.name := by
            intro heq
            exact hnames.1 (heq ▸ List.mem_map_of_mem hd)
          simp [hne]
        rw [List.map_cons, hrest]
        simp
  exact hlist t.columns cells hnames hwidth

theorem emptyColumn?_map (t : TableSpec) (g : Column → Cell) :
    t.emptyColumn? (t.columns.map g) =
      (t.columns.find? fun c => c.required && g c == .null).map fun c =>
        .database (.notNull t.name c.name) := by
  rw [emptyColumn?, zip_map, List.find?_map, Option.map_map]
  rfl

theorem Stores.map_cellOf {r : Cells} (h : t.Stores r) (hnames : t.columnNames.Nodup) :
    (t.columns.map fun c => t.cellOf r c.name) = r := TableSpec.map_cellOf hnames h.width

/-- A stored row has a cell in every column that must not be empty. -/
theorem Stores.cellOf_ne_null {r : Cells} (h : t.Stores r) (hnames : t.columnNames.Nodup)
    {c : Column} (hc : c ∈ t.columns) (hrequired : c.required = true) :
    t.cellOf r c.name ≠ .null := by
  have hfilled := h.filled
  rw [← h.map_cellOf hnames, emptyColumn?_map, Option.map_eq_none_iff,
    List.find?_eq_none] at hfilled
  simpa [hrequired] using hfilled c hc

theorem stores_map_iff {g : Column → Cell} :
    t.Stores (t.columns.map g) ↔ ∀ c ∈ t.columns, c.required = true → g c ≠ .null := by
  constructor
  · intro h c hc hrequired
    have hfilled := h.filled
    rw [emptyColumn?_map, Option.map_eq_none_iff, List.find?_eq_none] at hfilled
    simpa [hrequired] using hfilled c hc
  · intro h
    refine ⟨List.length_map _, ?_⟩
    rw [emptyColumn?_map, Option.map_eq_none_iff, List.find?_eq_none]
    intro c hc
    cases hrequired : c.required with
    | false => simp
    | true => simpa using h c hc hrequired

/-! ### What rows write -/

/-- The values that some columns are given, in column order. -/
def valuesBy (t : TableSpec) (f : Column → Option Value) : List (Column × Value) :=
  t.columns.filterMap fun c => (f c).map fun v => (c, v)

theorem insertedColumns_eq (t : TableSpec) (row : Row) :
    insertedColumns t row = t.valuesBy fun c => c.inserted? row := by
  unfold insertedColumns valuesBy Column.inserted?
  congr 1
  funext c
  cases h : TextMap.get? row c.name <;> simp [h]

theorem givenColumns_eq (t : TableSpec) (row : Row) :
    givenColumns t row = t.valuesBy fun c => row.get? c.name := rfl

/-- What is bound of the values of columns is found under the names of these. -/
theorem cell?_bound (hnames : t.columnNames.Nodup) (f : Column → Option Value) {c : Column}
    (hc : c ∈ t.columns) : (bound (t.valuesBy f)).cell? c.name = (f c).map c.storing := by
  have hnone : ∀ (columns : List Column), c.name ∉ columns.map Column.name →
      (bound (columns.filterMap fun c => (f c).map fun v => (c, v))).cell? c.name = none := by
    intro columns hname
    induction columns with
    | nil => rfl
    | cons d columns ih =>
      rw [List.map_cons, List.mem_cons, not_or] at hname
      cases hd : f d <;> simp [bound, Assignment.cell?, hd, Ne.symm hname.1, ← ih hname.2]
  have hlist : ∀ (columns : List Column), (columns.map Column.name).Nodup → c ∈ columns →
      (bound (columns.filterMap fun c => (f c).map fun v => (c, v))).cell? c.name =
        (f c).map c.storing := by
    intro columns hnames hc
    induction columns with
    | nil => cases hc
    | cons d columns ih =>
      rw [List.map_cons, List.nodup_cons] at hnames
      rcases List.mem_cons.1 hc with rfl | hc
      · -- no later column has the name of the first one
        cases hd : f c with
        | none => simpa [hd] using hnone columns hnames.1
        | some v => simp [bound, Assignment.cell?, hd]
      · have hne : d.name ≠ c.name := by
          intro heq
          exact hnames.1 (heq ▸ List.mem_map_of_mem hc)
        cases hd : f d <;> simp [bound, Assignment.cell?, hd, hne, ← ih hnames.2 hc]
  exact hlist t.columns hnames hc

/-- The row that an insertion makes. -/
theorem newCells_inserted (hnames : t.columnNames.Nodup) (row : Row) :
    t.newCells (bound (insertedColumns t row)) =
      t.columns.map fun c => ((c.inserted? row).map c.storing).getD .null := by
  rw [insertedColumns_eq, newCells]
  refine List.map_congr_left ?_
  intro c hc
  rw [cell?_bound hnames _ hc]

/-- A stored row after a change. -/
theorem changedCells_given (hnames : t.columnNames.Nodup) {r : Cells} (h : t.Stores r)
    (row : Row) :
    t.changedCells (bound (givenColumns t row)) r =
      t.columns.map fun c => ((row.get? c.name).map c.storing).getD (t.cellOf r c.name) := by
  have hzip : t.columns.zip r = t.columns.map fun c => (c, t.cellOf r c.name) := by
    rw [← zip_map, h.map_cellOf hnames]
  rw [givenColumns_eq, changedCells, hzip, List.map_map]
  refine List.map_congr_left ?_
  intro c hc
  simp only [Function.comp_apply]
  rw [cell?_bound hnames _ hc]

/-- The fields outside the key, column by column. -/
theorem get?_changes (t : TableSpec) (row : Row) (name : String) :
    (changes t row).get? name = if t.key.contains name then none else row.get? name := by
  rw [changes, TextMap.get?_filterKeys]
  cases t.key.contains name <;> rfl

/-- The native route changes the same columns as the portable one. -/
theorem filter_bound_inserted (t : TableSpec) (row : Row) :
    ((bound (insertedColumns t row)).filter fun p => (changes t row).contains p.1) =
      bound (givenColumns t (changes t row)) := by
  rw [insertedColumns_eq, givenColumns_eq]
  unfold valuesBy
  induction t.columns with
  | nil => rfl
  | cons c columns ih =>
    -- a column outside the changes is a column of the key, or is filled by its default
    cases hchange : (changes t row).get? c.name with
    | none =>
      cases hc : c.inserted? row <;>
        simpa [bound, hc, hchange, TextMap.contains] using ih
    | some v =>
      have hc : c.inserted? row = some v := by
        rw [get?_changes] at hchange
        split at hchange
        · cases hchange
        · simp [Column.inserted?, hchange]
      simpa [bound, hc, hchange, TextMap.contains] using ih

/-! ### Clauses -/

/-- A clause holds of a row just if each of its conditions does. -/
theorem satisfies_eq_all (t : TableSpec) (cells : Cells) (clause : Clause) :
    t.satisfies cells clause = clause.all fun p => t.satisfies cells [p] :=
  List.all_congr rfl fun _ => (Bool.and_true _).symm

theorem satisfies_isNull (t : TableSpec) (cells : Cells) (c : Column) :
    t.satisfies cells [(c, .isNull)] = (t.cellOf cells c.name == .null) :=
  Bool.and_true _

theorem satisfies_equals (t : TableSpec) (cells : Cells) (c : Column) (x : Cell) :
    t.satisfies cells [(c, .equals x)] = (t.cellOf cells c.name).same (c.affinity.apply x) :=
  Bool.and_true _

/-! ### Keys -/

/-- The key columns. -/
def keyColumns (t : TableSpec) : List Column := t.columns.filter Column.inKey

theorem mem_columns_of_mem_keyColumns {c : Column} (h : c ∈ t.keyColumns) : c ∈ t.columns :=
  (List.mem_filter.1 h).1

theorem required_of_mem_keyColumns {c : Column} (h : c ∈ t.keyColumns) : c.required = true := by
  rw [Column.required, (List.mem_filter.1 h).2, Bool.true_or]

theorem pinnedColumns_keyPins (hnames : t.columnNames.Nodup) (row : Row) :
    pinnedColumns t (keyPins t row) = t.keyColumns.map fun c => (c, row.cell c.name) := by
  have hkey : t.key = t.keyColumns.map Column.name := rfl
  rw [pinnedColumns, keyPins, hkey, List.map_map, List.filterMap_map, ← List.filterMap_eq_map]
  refine List.filterMap_congr ?_
  intro c hc
  simp [column?_eq hnames (mem_columns_of_mem_keyColumns hc)]

/-- The condition that a row has the values of another one in the key columns. -/
def keyClause (t : TableSpec) (row : Row) : Clause :=
  t.keyColumns.map fun c => (c, Condition.ofValue (row.cell c.name))

/-- The key columns are bound to the condition that a row has their values. -/
theorem conditions_keyPins (hnames : t.columnNames.Nodup) (row : Row) :
    ((pinnedColumns t (keyPins t row)).map fun p => (p.1, Condition.ofValue p.2)) =
      t.keyClause row := by
  rw [pinnedColumns_keyPins hnames, List.map_map]
  rfl

theorem values_keyPins (hnames : t.columnNames.Nodup) (row : Row) :
    (pinnedColumns t (keyPins t row)).map (·.2) = t.keyColumns.map fun c => row.cell c.name := by
  rw [pinnedColumns_keyPins hnames, List.map_map]
  rfl

/-- A stored row has the key of a new one if it satisfies the condition on the key columns. -/
theorem sameKey_eq_satisfies (hnames : t.columnNames.Nodup) {r : Cells} (h : t.Stores r) {row : Row}
    (hkey : ∀ c ∈ t.keyColumns, row.contains c.name = true) :
    t.sameKey (t.newCells (bound (insertedColumns t row))) r =
      t.satisfies r (t.keyClause row) := by
  have hcolumn : ∀ c ∈ t.keyColumns,
      (t.cellOf (t.newCells (bound (insertedColumns t row))) c.name).same (t.cellOf r c.name) =
        t.satisfies r [(c, Condition.ofValue (row.cell c.name))] := by
    intro c hc
    have hmem := mem_columns_of_mem_keyColumns hc
    obtain ⟨v, hv⟩ := Option.isSome_iff_exists.1 (hkey c hc)
    have hcell : row.cell c.name = v := by
      rw [TextMap.cell, hv]
      rfl
    have hnew : t.cellOf (t.newCells (bound (insertedColumns t row))) c.name = c.storing v := by
      rw [newCells_inserted hnames, cellOf_map hnames _ hmem, Column.inserted?, hv]
      rfl
    rw [hnew, hcell]
    by_cases hnull : v = .null
    · -- nothing equals nothing, and a stored row has no empty cell in its key
      have hstored := h.cellOf_ne_null hnames hmem (required_of_mem_keyColumns hc)
      have hempty : c.storing .null = .null := (Affinity.apply_eq_null_iff _ _).2 rfl
      subst hnull
      rw [hempty, Cell.same_null_left, Condition.ofValue, satisfies_isNull]
      exact (beq_eq_false_iff_ne.2 hstored).symm
    · rw [Condition.ofValue_of_ne_null hnull, satisfies_equals, Cell.same_comm]
      rfl
  have hkeys : t.key = t.keyColumns.map Column.name := rfl
  rw [Bool.eq_iff_iff, sameKey, satisfies_eq_all, keyClause, hkeys, List.all_map, List.all_map,
    List.all_eq_true, List.all_eq_true]
  refine forall₂_congr ?_
  intro c hc
  exact iff_of_eq (congrArg (· = true) (hcolumn c hc))

end TableSpec

theorem rows_of_rows? {db : Database} {t : TableSpec} {rows : List Cells}
    (h : db.rows? t = some rows) : db.rows t = .ok rows := by
  rw [Database.rows, h]

end ConnectionCatalog.Sql
