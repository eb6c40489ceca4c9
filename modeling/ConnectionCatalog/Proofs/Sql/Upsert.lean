import ConnectionCatalog.Proofs.Sql.Binding
import ConnectionCatalog.Proofs.Sql.Table
import ConnectionCatalog.Proofs.Table.Calls

/-! # Proofs.Sql.Upsert — the two routes of writing a row, side by side

A row that a table accepts is inserted, or changed where its key exists, in one statement or in two.
The routes agree if both write the same rows, or both fail with one class of failure and change
nothing.

* `insertOrChange_outcome`, `changeOrInsert_outcome`: how each route ends, over any table and rows.
* `RoutesAgree`: when they end alike.  A column outside the key is given, the values that cannot be
  bound fail alike on both, and where the key exists the insertion would have failed only for what
  the change fails for as well.
* `upsert_routes_agree_iff`: the routes agree exactly then.
-/

namespace ConnectionCatalog.Sql

/-- The outcome of a call, with the class of its failure only. -/
def classed {α : Type} (r : Except Failure α) : Except ErrorClass α := r.mapError Failure.errorClass

@[simp] theorem classed_ok {α : Type} (a : α) : classed (.ok a) = .ok a := rfl

@[simp] theorem classed_error {α : Type} (f : Failure) :
    classed (.error f : Except Failure α) = .error f.errorClass := rfl

theorem classed_eq_ok_iff {α : Type} {r : Except Failure α} {a : α} :
    classed r = .ok a ↔ r = .ok a := by
  cases r <;> simp

theorem classed_eq_error_iff {α : Type} {r : Except Failure α} {c : ErrorClass} :
    classed r = .error c ↔ ∃ f, r = .error f ∧ f.errorClass = c := by
  cases r <;> simp

namespace TableSpec

variable (t : TableSpec) (rows : List Cells) (row : Row)

/-! ## What is written -/

/-- The row that an insertion makes. -/
def fresh : Cells := t.newCells (bound (insertedColumns t row))

/-- Whether a row has the key of a new one. -/
def held : Bool := rows.any fun r => t.satisfies r (t.keyClause row)

/-- The rows after a change of those that have the key of a new one. -/
def changedRows : List Cells :=
  rows.map fun r =>
    if t.satisfies r (t.keyClause row) then
      t.changedCells (bound (givenColumns t (changes t row))) r
    else r

/-- Whether a change leaves a column empty that must not be. -/
def changesToEmpty : Bool :=
  t.columns.any fun c =>
    c.required && ((changes t row).get? c.name).any fun v => c.storing v == .null

/-- Why an insertion cannot bind its values. -/
def insertRefusal? : Option ErrorClass := firstRefusal? ((insertedColumns t row).map (·.2))

/-- Why a change cannot bind its values, first those of the changed columns and then the key. -/
def changeRefusal? : Option ErrorClass :=
  firstRefusal? (((givenColumns t (changes t row)).map (·.2)) ++
    t.keyColumns.map fun c => row.cell c.name)

variable {t rows row}

theorem errorClass_of_emptyColumn? {cells : Cells} {f : Failure}
    (h : t.emptyColumn? cells = some f) : f.errorClass = .integrity := by
  obtain ⟨p, -, rfl⟩ := Option.map_eq_some_iff.1 h
  rfl

/-- Whether a changed row is refused does not depend on the row. -/
theorem emptyColumn?_changed (hnames : t.columnNames.Nodup) {r : Cells} (h : t.Stores r) :
    (t.emptyColumn? (t.changedCells (bound (givenColumns t (changes t row))) r)).isSome =
      t.changesToEmpty row := by
  rw [changedCells_given hnames h, emptyColumn?_map, Option.isSome_map, Bool.eq_iff_iff,
    List.find?_isSome, changesToEmpty, List.any_eq_true]
  refine exists_congr fun c => and_congr_right fun hc => ?_
  cases hrequired : c.required with
  | false => simp
  | true =>
    cases hv : (changes t row).get? c.name with
    | none => simpa using h.cellOf_ne_null hnames hc hrequired
    | some v => simp

end TableSpec

variable {t : TableSpec} {db : Database} {rows : List Cells} {row : Row}

/-! ## How the routes end -/

/-- How a row is written where its values are bound first, then looked at, and the key last. -/
def insertOutcome (db : Database) (t : TableSpec) (rows : List Cells) (row : Row) :
    Except ErrorClass Database :=
  match t.insertRefusal? row with
  | some c => .error c
  | none =>
    if (t.emptyColumn? (t.fresh row)).isSome then .error .integrity
    else .ok (db.withRows t
      (if t.held rows row then t.changedRows rows row else rows ++ [t.fresh row]))

/-- How a row is written whose key exists, where its values can be bound. -/
def changeOutcome (db : Database) (t : TableSpec) (rows : List Cells) (row : Row) :
    Except ErrorClass Database :=
  if t.changesToEmpty row then .error .integrity
  else .ok (db.withRows t (t.changedRows rows row))

theorem any_sameKey_fresh (hnames : t.columnNames.Nodup) (hstores : ∀ r ∈ rows, t.Stores r)
    (hkey : ∀ c ∈ t.keyColumns, row.contains c.name = true) :
    rows.any (t.sameKey (t.fresh row)) = t.held rows row := by
  rw [TableSpec.held, Bool.eq_iff_iff, List.any_eq_true, List.any_eq_true]
  refine exists_congr fun r => and_congr_right fun hr => ?_
  rw [TableSpec.fresh, TableSpec.sameKey_eq_satisfies hnames (hstores r hr) hkey]

/-- The native route. -/
theorem insertOrChange_outcome (hnames : t.columnNames.Nodup) (hrows : db.rows? t = some rows)
    (hstores : ∀ r ∈ rows, t.Stores r)
    (hkey : ∀ c ∈ t.keyColumns, row.contains c.name = true) :
    classed (db.insertOrChange t row) = insertOutcome db t rows row := by
  have hany := any_sameKey_fresh hnames hstores hkey
  have hchanged : (rows.map fun r => if t.sameKey (t.fresh row) r then
      t.changedCells (bound (givenColumns t (changes t row))) r else r) =
        t.changedRows rows row := by
    refine List.map_congr_left ?_
    intro r hr
    rw [TableSpec.fresh, TableSpec.sameKey_eq_satisfies hnames (hstores r hr) hkey]
  unfold insertOutcome
  -- in turn: values that cannot be bound, an empty column, a key that is there
  cases hrefusal : t.insertRefusal? row with
  | some c =>
    obtain ⟨f, hf, hclass⟩ := bindColumns_error 1 hrefusal
    simp only [Database.insertOrChange, rows_of_rows? hrows, hf, bind, Except.bind, classed_error,
      hclass]
  | none =>
    have hbound := bindColumns_ok 1 hrefusal
    simp only [Database.insertOrChange, rows_of_rows? hrows, hbound, bind, Except.bind,
      TableSpec.filter_bound_inserted]
    rw [← TableSpec.fresh, hchanged, hany]
    cases hempty : t.emptyColumn? (t.fresh row) with
    | some f =>
      simp [TableSpec.errorClass_of_emptyColumn? hempty]
    | none =>
      cases t.held rows row <;> rfl

/-- Where the key does not exist, an insertion does not have to change anything. -/
theorem insert_eq_insertOrChange (hnames : t.columnNames.Nodup) (hrows : db.rows? t = some rows)
    (hstores : ∀ r ∈ rows, t.Stores r)
    (hkey : ∀ c ∈ t.keyColumns, row.contains c.name = true) (hheld : t.held rows row = false) :
    db.insert t row = db.insertOrChange t row := by
  have hany := any_sameKey_fresh hnames hstores hkey
  rw [hheld] at hany
  cases hrefusal : t.insertRefusal? row with
  | some c =>
    obtain ⟨f, hf, -⟩ := bindColumns_error 1 hrefusal
    simp only [Database.insert, Database.insertOrChange, rows_of_rows? hrows, hf, bind,
      Except.bind]
  | none =>
    have hbound := bindColumns_ok 1 hrefusal
    simp only [Database.insert, Database.insertOrChange, rows_of_rows? hrows, hbound, bind,
      Except.bind]
    rw [← TableSpec.fresh, hany]
    rfl

/-- A change fails for an empty column just if there is a row to change, whichever it is. -/
theorem findSome?_emptyColumn? (hnames : t.columnNames.Nodup) (hstores : ∀ r ∈ rows, t.Stores r) :
    ((rows.filter fun r => t.satisfies r (t.keyClause row)).findSome? fun r =>
        t.emptyColumn? (t.changedCells (bound (givenColumns t (changes t row))) r)).isSome =
      (t.held rows row && t.changesToEmpty row) := by
  rw [Bool.eq_iff_iff, List.findSome?_isSome_iff, Bool.and_eq_true, TableSpec.held,
    List.any_eq_true]
  constructor
  · rintro ⟨r, hr, hempty⟩
    obtain ⟨hr, hsatisfies⟩ := List.mem_filter.1 hr
    rw [TableSpec.emptyColumn?_changed hnames (hstores r hr)] at hempty
    exact ⟨⟨r, hr, hsatisfies⟩, hempty⟩
  · rintro ⟨⟨r, hr, hsatisfies⟩, hempty⟩
    refine ⟨r, List.mem_filter.2 ⟨hr, hsatisfies⟩, ?_⟩
    rw [TableSpec.emptyColumn?_changed hnames (hstores r hr)]
    exact hempty

/-- A change, where there is something to change. -/
theorem change_outcome (hnames : t.columnNames.Nodup) (hrows : db.rows? t = some rows)
    (hstores : ∀ r ∈ rows, t.Stores r)
    (hgiven : (givenColumns t (changes t row)).isEmpty = false) :
    classed (db.change t row) =
      match t.changeRefusal? row with
      | some c => .error c
      | none =>
        if t.held rows row && t.changesToEmpty row then .error .integrity
        else .ok (t.held rows row, db.withRows t (t.changedRows rows row)) := by
  have hrefusal : t.changeRefusal? row =
      (firstRefusal? ((givenColumns t (changes t row)).map (·.2))).or
        (firstRefusal? ((pinnedColumns t (keyPins t row)).map (·.2))) := by
    rw [TableSpec.changeRefusal?, firstRefusal?, List.findSome?_append,
      TableSpec.values_keyPins hnames]
    rfl
  unfold Database.change
  rw [hrefusal, if_neg (by simp [hgiven]), rows_of_rows? hrows]
  -- the changed columns are bound first, and then the key
  cases hchanged : firstRefusal? ((givenColumns t (changes t row)).map (·.2)) with
  | some c =>
    obtain ⟨f, hf, hclass⟩ := bindColumns_error 1 hchanged
    simp only [hf, bind, Except.bind, classed_error, hclass, Option.some_or]
  | none =>
    have hbound := bindColumns_ok 1 hchanged
    cases hkey : firstRefusal? ((pinnedColumns t (keyPins t row)).map (·.2)) with
    | some c =>
      obtain ⟨f, hf, hclass⟩ := bindClause_error ((givenColumns t (changes t row)).length + 1) hkey
      simp only [hbound, hf, bind, Except.bind, classed_error, hclass, Option.none_or]
    | none =>
      obtain ⟨next, hclause⟩ := bindClause_ok ((givenColumns t (changes t row)).length + 1) hkey
      rw [TableSpec.conditions_keyPins hnames] at hclause
      simp only [hbound, hclause, bind, Except.bind, Option.none_or]
      rw [← findSome?_emptyColumn? hnames hstores]
      cases hempty : (rows.filter fun r => t.satisfies r (t.keyClause row)).findSome? fun r =>
          t.emptyColumn? (t.changedCells (bound (givenColumns t (changes t row))) r) with
      | some f =>
        obtain ⟨r, -, hr⟩ := List.exists_of_findSome?_eq_some hempty
        simp [TableSpec.errorClass_of_emptyColumn? hr]
      | none => rfl

/-- The portable route, where there is something to change. -/
theorem changeOrInsert_outcome (hnames : t.columnNames.Nodup) (hrows : db.rows? t = some rows)
    (hstores : ∀ r ∈ rows, t.Stores r)
    (hkey : ∀ c ∈ t.keyColumns, row.contains c.name = true)
    (hgiven : (givenColumns t (changes t row)).isEmpty = false) :
    classed (SqlTable.changeOrInsert db t row) =
      match t.changeRefusal? row with
      | some c => .error c
      | none =>
        if t.held rows row then changeOutcome db t rows row
        else classed (db.insertOrChange t row) := by
  have hchange := change_outcome hnames hrows hstores hgiven
  -- the change comes first, and the insertion only where no row has the key
  cases hrefusal : t.changeRefusal? row with
  | some c =>
    rw [hrefusal] at hchange
    obtain ⟨f, hf, hclass⟩ := classed_eq_error_iff.1 hchange
    refine classed_eq_error_iff.2 ⟨f, ?_, hclass⟩
    rw [SqlTable.changeOrInsert, hf]
    rfl
  | none =>
    rw [hrefusal] at hchange
    cases hheld : t.held rows row with
    | false =>
      rw [hheld] at hchange
      rw [← insert_eq_insertOrChange hnames hrows hstores hkey hheld, SqlTable.changeOrInsert,
        classed_eq_ok_iff.1 hchange]
      rfl
    | true =>
      cases hempty : t.changesToEmpty row with
      | true =>
        rw [hheld, hempty] at hchange
        obtain ⟨f, hf, hclass⟩ := classed_eq_error_iff.1 hchange
        rw [changeOutcome, hempty]
        refine classed_eq_error_iff.2 ⟨f, ?_, hclass⟩
        rw [SqlTable.changeOrInsert, hf]
        rfl
      | false =>
        rw [hheld, hempty] at hchange
        rw [SqlTable.changeOrInsert, classed_eq_ok_iff.1 hchange, changeOutcome, hempty]
        rfl

/-! ## When the routes agree -/

/-- When the two routes end alike.  A column outside the key is given; a value that cannot be bound
fails with one class on both, whichever of them comes first there; and where the key exists the
values of the columns that are not given could be bound, and where one of them would be empty that
must not be, so is one that is given. -/
structure RoutesAgree (t : TableSpec) (rows : List Cells) (row : Row) : Prop where
  changed : ∃ c ∈ t.columns, (changes t row).contains c.name = true
  refused : ∀ c, t.changeRefusal? row = some c → t.insertRefusal? row = some c
  held : t.changeRefusal? row = none → t.held rows row = true →
    t.insertRefusal? row = none ∧
      ((∃ c ∈ t.columns, c.required = true ∧
          ∀ v, c.inserted? row = some v → c.storing v = .null) →
        ∃ c ∈ t.columns, c.required = true ∧
          ∃ v, (changes t row).get? c.name = some v ∧ c.storing v = .null)

/-- A value that cannot be bound fails otherwise than a statement does that finds a column empty or
that is no statement. -/
theorem class_of_refusal? {v : Value} {c : ErrorClass} (h : refusal? v = some c) :
    c ≠ .integrity ∧ c ≠ .operational := by
  obtain ⟨f, hf, rfl⟩ := bindValue_error 1 h
  -- values are refused by the driver: as too large, as no text, or as of no kind that it knows
  cases v with
  | int n =>
    rw [bindValue] at hf
    split at hf
    · cases hf
    · cases hf
      constructor <;> intro hclass <;> cases hclass
  | float d => cases d <;> cases hf
  | stray _ | id _ | list _ | object _ =>
    cases hf
    constructor <;> intro hclass <;> cases hclass
  | _ => cases hf

theorem class_of_firstRefusal? {vs : List Value} {c : ErrorClass} (h : firstRefusal? vs = some c) :
    c ≠ .integrity ∧ c ≠ .operational := by
  obtain ⟨v, -, hv⟩ := List.exists_of_findSome?_eq_some h
  exact class_of_refusal? hv

theorem changesToEmpty_iff : t.changesToEmpty row = true ↔
    ∃ c ∈ t.columns, c.required = true ∧
      ∃ v, (changes t row).get? c.name = some v ∧ c.storing v = .null := by
  simp [TableSpec.changesToEmpty, List.any_eq_true, Option.any_eq_true]

theorem emptyColumn?_fresh_iff (hnames : t.columnNames.Nodup) :
    (t.emptyColumn? (t.fresh row)).isSome = true ↔
      ∃ c ∈ t.columns, c.required = true ∧ ∀ v, c.inserted? row = some v → c.storing v = .null := by
  rw [TableSpec.fresh, TableSpec.newCells_inserted hnames, TableSpec.emptyColumn?_map,
    Option.isSome_map, List.find?_isSome]
  refine exists_congr fun c => and_congr_right fun _ => ?_
  cases hrequired : c.required <;> cases c.inserted? row <;> simp

/-- What a change leaves empty an insertion leaves empty too. -/
theorem isSome_emptyColumn?_fresh (hnames : t.columnNames.Nodup)
    (h : t.changesToEmpty row = true) : (t.emptyColumn? (t.fresh row)).isSome = true := by
  obtain ⟨c, hc, hrequired, v, hv, hempty⟩ := changesToEmpty_iff.1 h
  refine (emptyColumn?_fresh_iff hnames).2 ⟨c, hc, hrequired, ?_⟩
  intro w hw
  have hrow : row.get? c.name = some v := by
    rw [TableSpec.get?_changes] at hv
    split at hv
    · cases hv
    · exact hv
  rw [Column.inserted?, hrow] at hw
  rw [← Option.some.inj hw]
  exact hempty

theorem missingKey?_eq_none_iff :
    SqlTable.missingKey? t row = none ↔ ∀ c ∈ t.keyColumns, row.contains c.name = true := by
  have hkey : t.key = t.keyColumns.map Column.name := rfl
  simp only [SqlTable.missingKey?, ite_eq_left_iff, reduceCtorEq, imp_false, not_not,
    List.isEmpty_iff, List.filter_eq_nil_iff, hkey, List.forall_mem_map, Bool.not_eq_true',
    Bool.not_eq_false]

/-- A row that is accepted has all columns of the key. -/
theorem contains_of_accepted (h : SqlTable.refused? t row = none) :
    ∀ c ∈ t.keyColumns, row.contains c.name = true := by
  refine missingKey?_eq_none_iff.1 ?_
  simp only [SqlTable.refused?] at h
  split at h
  · exact h
  · cases h

theorem isEmpty_givenColumns_iff :
    (givenColumns t (changes t row)).isEmpty = false ↔
      ∃ c ∈ t.columns, (changes t row).contains c.name = true := by
  rw [List.isEmpty_eq_false_iff_exists_mem]
  constructor
  · rintro ⟨⟨c, v⟩, hmem⟩
    obtain ⟨d, hd, hv⟩ := List.mem_filterMap.1 hmem
    obtain ⟨w, hw, -⟩ := Option.map_eq_some_iff.1 hv
    exact ⟨d, hd, by rw [TextMap.contains, hw]; rfl⟩
  · rintro ⟨c, hc, hcontains⟩
    obtain ⟨v, hv⟩ := Option.isSome_iff_exists.1 hcontains
    exact ⟨(c, v), List.mem_filterMap.2 ⟨c, hc, by rw [hv]; rfl⟩⟩

/-- Where nothing but the key is given, the portable route fails. -/
theorem changeOrInsert_of_isEmpty (h : (givenColumns t (changes t row)).isEmpty = true) :
    SqlTable.changeOrInsert db t row = .error (.database .emptyAssignment) := by
  simp [SqlTable.changeOrInsert, Database.change, h, bind, Except.bind]

/-- The native route never fails as the portable one does where nothing but the key is given. -/
theorem insertOutcome_ne_operational : insertOutcome db t rows row ≠ .error .operational := by
  unfold insertOutcome
  cases hrefusal : t.insertRefusal? row with
  | some c => simpa using (class_of_firstRefusal? hrefusal).2
  | none =>
    dsimp only
    split <;> simp

/-- The native route fails with the class of a value that cannot be bound just if there is one. -/
theorem insertOutcome_eq_refusal_iff {c : ErrorClass} (hc : c ≠ .integrity) :
    insertOutcome db t rows row = .error c ↔ t.insertRefusal? row = some c := by
  unfold insertOutcome
  cases t.insertRefusal? row with
  | some d => simp
  | none =>
    dsimp only
    split <;> simp [hc.symm]

/-- Where the key exists, the native route ends like a change just if it binds its values and finds
a column empty only if the change does. -/
theorem insertOutcome_eq_changeOutcome_iff (hnames : t.columnNames.Nodup)
    (hheld : t.held rows row = true) :
    insertOutcome db t rows row = changeOutcome db t rows row ↔
      t.insertRefusal? row = none ∧
        ((t.emptyColumn? (t.fresh row)).isSome = true → t.changesToEmpty row = true) := by
  have hfresh : t.changesToEmpty row = true → (t.emptyColumn? (t.fresh row)).isSome = true :=
    isSome_emptyColumn?_fresh hnames
  unfold insertOutcome changeOutcome
  rw [hheld]
  cases hrefusal : t.insertRefusal? row with
  | some c =>
    have hc := (class_of_firstRefusal? hrefusal).1
    cases t.changesToEmpty row <;> simp [hc]
  | none =>
    cases hempty : t.changesToEmpty row with
    | true => simp [hfresh hempty]
    | false => cases (t.emptyColumn? (t.fresh row)).isSome <;> simp

theorem written_agree_iff (hnames : t.columnNames.Nodup) (hrows : db.rows? t = some rows)
    (hstores : ∀ r ∈ rows, t.Stores r) (haccepted : SqlTable.refused? t row = none) :
    classed (SqlTable.written db t .native row) = classed (SqlTable.written db t .portable row) ↔
      RoutesAgree t rows row := by
  have hkey := contains_of_accepted haccepted
  have hnative := insertOrChange_outcome hnames hrows hstores hkey
  simp only [SqlTable.written, haccepted, hnative]
  -- without a column to change the portable way has no statement to make
  cases hgiven : (givenColumns t (changes t row)).isEmpty with
  | true =>
    rw [changeOrInsert_of_isEmpty hgiven]
    constructor
    · intro heq
      exact absurd heq insertOutcome_ne_operational
    · intro h
      rw [isEmpty_givenColumns_iff.2 h.changed] at hgiven
      cases hgiven
  | false =>
    have hchanged := isEmpty_givenColumns_iff.1 hgiven
    rw [changeOrInsert_outcome hnames hrows hstores hkey hgiven, hnative]
    cases hchange : t.changeRefusal? row with
    | some c =>
      refine (insertOutcome_eq_refusal_iff (class_of_firstRefusal? hchange).1).trans ?_
      constructor
      · intro hinsert
        refine ⟨hchanged, fun d hd => ?_, fun hnone => ?_⟩
        · rw [hinsert, ← hd, hchange]
        · rw [hchange] at hnone
          cases hnone
      · intro h
        exact h.refused c hchange
    | none =>
      have hrefused : ∀ c, t.changeRefusal? row = some c → t.insertRefusal? row = some c := by
        intro c hc
        rw [hchange] at hc
        cases hc
      -- for a new key both ways insert; for one that is there the insertion has to get as far as
      -- the change
      cases hheld : t.held rows row with
      | false =>
        refine iff_of_true rfl ⟨hchanged, hrefused, fun _ htrue => ?_⟩
        rw [hheld] at htrue
        cases htrue
      | true =>
        refine (insertOutcome_eq_changeOutcome_iff hnames hheld).trans ?_
        rw [emptyColumn?_fresh_iff hnames, changesToEmpty_iff]
        constructor
        · intro h
          exact ⟨hchanged, hrefused, fun _ _ => h⟩
        · intro h
          exact h.held hchange hheld

/-! ## Rows that were written -/

end ConnectionCatalog.Sql
