import ConnectionCatalog.Connection.Stored
import ConnectionCatalog.Sql.Cell
import ConnectionCatalog.Sql.Name
import ConnectionCatalog.Table.Basic

/-! # Sql.Database — tables and statements of a database

A database holds the rows of the tables that exist in it, those of its own and temporary
ones.  A statement first looks for its table, then binds its parameters in order, and only
then reads or writes; a statement that fails changes nothing.

Rows are inserted with the defaults of the columns that are not given.  Columns
that must not be empty are checked in column order, before keys are compared.

Main statement: `Database.rows?_withRows`; what is written to a table is read from it.
-/

namespace ConnectionCatalog.Sql

/-! ## Tables -/

/-- A column of a table. -/
structure Column where
  name : String
  affinity : Affinity
  inKey : Bool
  nullable : Bool
  default? : Option Value

/-- Whether a column must not be empty. -/
def Column.required (c : Column) : Bool := c.inKey || !c.nullable

/-- A table as it is declared. -/
structure TableSpec where
  name : String
  schema? : Option String
  columns : List Column

namespace TableSpec

/-- The id under which a table is declared. -/
def id (t : TableSpec) : String :=
  match t.schema? with
  | some schema => schema ++ "." ++ t.name
  | none => t.name

/-- The table that an id stands for if none is declared with it. -/
def named (id : String) : TableSpec :=
  match id.toList.span (· != '.') with
  | (schema, '.' :: name) => ⟨String.ofList name, some (String.ofList schema), []⟩
  | _ => ⟨id, none, []⟩

/-- The schema that statements write in front of the name; they leave out an empty
one. -/
def qualifier? (t : TableSpec) : Option String :=
  match t.schema? with
  | some "" => none
  | schema? => schema?

/-- The name as error messages give it. -/
def qualifiedName (t : TableSpec) : String :=
  match t.qualifier? with
  | some schema => schema ++ "." ++ t.name
  | none => t.name

/-- The schema whose tables the table lists, if it is one that the database keeps for
that. -/
def listedSchema? (t : TableSpec) : Option Schema :=
  match t.qualifier?, Name.listedSchema? t.name with
  | none, listed? => listed?
  | some schema, some listed =>
    match Name.schema? schema with
    | some .temporary => some .temporary
    | some .main => if listed = .main then some .main else none
    | none => none
  | some _, none => none

/-- Why a table that is not there cannot be changed. -/
def unchangeable (t : TableSpec) : Failure :=
  match t.listedSchema? with
  | some s => .database (.notChangeable (Name.listing s))
  | none => .database (.noSuchTable t.qualifiedName)

/-- Why a table that is not there cannot be read.  One that lists tables has columns of its
own. -/
def unreadable (t : TableSpec) : Failure :=
  match t.listedSchema?, t.columns with
  | some _, c :: _ => .database (.noSuchColumn (t.qualifiedName ++ "." ++ c.name))
  | _, _ => .database (.noSuchTable t.qualifiedName)

/-- Why a table that is not there cannot be dropped. -/
def undroppable (t : TableSpec) : Failure :=
  match t.listedSchema? with
  | some s => .database (.notDroppable (Name.listing s))
  | none => .database (.noSuchTable t.qualifiedName)

/-- The first column whose name another one before it has. -/
def repeatedColumn? : (seen : List String) → List Column → Option String
  | _, [] => none
  | seen, c :: cs =>
    if seen.contains (Name.folded c.name) then some c.name
    else repeatedColumn? (Name.folded c.name :: seen) cs

def columnNames (t : TableSpec) : List String := t.columns.map Column.name

/-- The names of the key columns, in column order. -/
def key (t : TableSpec) : List String := (t.columns.filter Column.inKey).map Column.name

/-- The column with a name. -/
def column? (t : TableSpec) (name : String) : Option Column :=
  t.columns.find? fun c => c.name == name

end TableSpec

/-- The table of the connections. -/
def connections : TableSpec :=
  ⟨connectionsTable, none,
    [⟨"namespace", .text, true, false, none⟩,
      ⟨"id", .text, true, false, none⟩,
      ⟨"type", .text, false, false, none⟩,
      ⟨"name", .text, false, false, none⟩,
      ⟨"description", .text, false, false, some (.text "")⟩,
      ⟨"properties", .text, false, false, some (.text "\x7b\x7d")⟩,
      ⟨"created", .integer, false, false, none⟩,
      ⟨"updated", .integer, false, false, none⟩]⟩

/-! ## Stored rows -/

/-- A stored row: a cell for each column, in column order. -/
abbrev Cells := List Cell

namespace TableSpec

/-- The cell of a column in a stored row. -/
def cellOf (t : TableSpec) (cells : Cells) (name : String) : Cell :=
  (((t.columns.zip cells).find? fun p => p.1.name == name).map (·.2)).getD .null

/-- A stored row as values. -/
def toRow (t : TableSpec) (cells : Cells) : Row :=
  .ofList ((t.columns.zip cells).map fun p => (p.1.name, p.2.toValue))

/-- Whether two stored rows have one key. -/
def sameKey (t : TableSpec) (a b : Cells) : Bool :=
  t.key.all fun name => (t.cellOf a name).same (t.cellOf b name)

/-- Whether a stored row comes before another one: the first key columns that differ
decide. -/
def lessBy (t : TableSpec) (a b : Cells) : List String → Bool
  | [] => false
  | name :: names =>
    let x := t.cellOf a name
    let y := t.cellOf b name
    x.less y || (!y.less x && lessBy t a b names)

/-- Stored rows in the order of their keys. -/
def inKeyOrder (t : TableSpec) (rows : List Cells) : List Cells :=
  rows.mergeSort fun a b => !t.lessBy b a t.key

/-- Why a row cannot be stored: the first column that must not be empty and is. -/
def emptyColumn? (t : TableSpec) (cells : Cells) : Option Failure :=
  ((t.columns.zip cells).find? fun p => p.1.required && p.2 == .null).map fun p =>
    .database (.notNull t.name p.1.name)

end TableSpec

/-! ## Conditions -/

/-- A condition on a column: it is empty, or it equals a cell. -/
inductive Condition
  | isNull
  | equals (c : Cell)
deriving DecidableEq

/-- A condition for each of some columns. -/
abbrev Clause := List (Column × Condition)

/-- The columns of some pins, with their values. -/
def pinnedColumns (t : TableSpec) (pins : List (String × Value)) : List (Column × Value) :=
  pins.filterMap fun p => (t.column? p.1).map fun c => (c, p.2)

/-- Binds the values that columns have to equal.  Nothing and truth values are
written out in the statement and are not bound.  Returns the next position too. -/
def bindClause : (position : Nat) → List (Column × Value) → Except Failure (Nat × Clause)
  | position, [] => .ok (position, [])
  | position, (c, v) :: rest =>
    match v with
    | .null =>
      match bindClause position rest with
      | .error f => .error f
      | .ok (next, clause) => .ok (next, (c, .isNull) :: clause)
    | .bool b =>
      match bindClause position rest with
      | .error f => .error f
      | .ok (next, clause) => .ok (next, (c, .equals (.int (if b then 1 else 0))) :: clause)
    | v =>
      match bindValue position v with
      | .error f => .error f
      | .ok cell =>
        match bindClause (position + 1) rest with
        | .error f => .error f
        | .ok (next, clause) => .ok (next, (c, .equals cell) :: clause)

/-- Whether a stored row satisfies a clause; a cell that a column is compared with is
first turned into what the column prefers. -/
def TableSpec.satisfies (t : TableSpec) (cells : Cells) (clause : Clause) : Bool :=
  clause.all fun p =>
    let cell := t.cellOf cells p.1.name
    match p.2 with
    | .isNull => cell == .null
    | .equals c => cell.same (p.1.affinity.apply c)

/-! ## Databases -/

/-- The rows of the tables that exist in each schema, by folded name. -/
structure Database where
  main : TextMap (List Cells)
  temporary : TextMap (List Cells)

namespace Database

def empty : Database := ⟨.empty, .empty⟩

/-- The tables of a schema. -/
def contents (db : Database) : Schema → TextMap (List Cells)
  | .main => db.main
  | .temporary => db.temporary

def withContents (db : Database) (s : Schema) (tables : TextMap (List Cells)) : Database :=
  match s with
  | .main => { db with main := tables }
  | .temporary => { db with temporary := tables }

/-- Whether there is a table in a schema. -/
def holds (db : Database) (t : TableSpec) (s : Schema) : Bool :=
  (db.contents s).contains (Name.folded t.name)

/-- Where a statement finds a table: in the schema that it names, and a temporary table
first if it names none. -/
def schema? (db : Database) (t : TableSpec) : Option Schema :=
  let schemas :=
    match t.qualifier? with
    | some name => (Name.schema? name).toList
    | none => [.temporary, .main]
  schemas.find? (db.holds t)

/-- Whether a table is known to exist: it is not looked for in a schema unless that is
written `main`.  The tables that list tables always exist. -/
def has (db : Database) (t : TableSpec) : Bool :=
  match t.schema? with
  | none => db.holds t .main || db.holds t .temporary || t.listedSchema?.isSome
  | some schema => schema == "main" && (db.holds t .main || t.listedSchema?.isSome)

/-- The rows of a table, if it exists. -/
def rows? (db : Database) (t : TableSpec) : Option (List Cells) :=
  (db.schema? t).bind fun s => (db.contents s).get? (Name.folded t.name)

/-- The rows of a table that is to be changed. -/
def rows (db : Database) (t : TableSpec) : Except Failure (List Cells) :=
  match db.rows? t with
  | some rows => .ok rows
  | none => .error t.unchangeable

/-- The database with other rows in a table of a schema. -/
def put (db : Database) (s : Schema) (t : TableSpec) (rows : List Cells) : Database :=
  db.withContents s ((db.contents s).insert (Name.folded t.name) rows)

/-- The database with other rows in a table that exists. -/
def withRows (db : Database) (t : TableSpec) (rows : List Cells) : Database :=
  match db.schema? t with
  | some s => db.put s t rows
  | none => db

/-! ### Making and dropping tables -/

/-- The schema that a table is made in. -/
def homeOf (t : TableSpec) : Except Failure Schema :=
  match t.qualifier? with
  | none => .ok .main
  | some name =>
    match Name.schema? name with
    | some s => .ok s
    | none => .error (.database (.noSuchSchema (Name.written name)))

/-- Makes a table. -/
def create (db : Database) (t : TableSpec) : Except Failure Database :=
  match homeOf t with
  | .error f => .error f
  | .ok s =>
    if Name.isReserved t.name then .error (.database (.reservedName t.name))
    else if db.holds t s then .error (.database (.tableExists (Name.written t.name)))
    else if t.columns.isEmpty then .error (.database .noColumns)
    else
      match TableSpec.repeatedColumn? [] t.columns with
      | some column => .error (.database (.columnExists column))
      | none => .ok (db.put s t [])

/-- Makes tables one after the other; those made before one that fails stay. -/
def createAll : List TableSpec → Access Database Unit
  | [] => pure ()
  | t :: ts => do
    set (← Access.ofExcept ((← get).create t))
    createAll ts

/-- Makes the tables that are not known to exist yet. -/
def createMissing (specs : List TableSpec) : Access Database Unit := do
  let db ← get
  createAll (specs.filter fun t => !db.has t)

/-- Drops a table, with its rows. -/
def drop (db : Database) (t : TableSpec) : Except Failure Database :=
  match db.schema? t with
  | some s =>
    .ok (db.withContents s ((db.contents s).filterKeys fun k => k != Name.folded t.name))
  | none => .error t.undroppable

/-! ### Reading what was written -/

theorem contents_put (db : Database) (s r : Schema) (t : TableSpec) (rows : List Cells) :
    (db.put s t rows).contents r =
      if r = s then (db.contents s).insert (Name.folded t.name) rows else db.contents r := by
  cases s <;> cases r <;> rfl

/-- Other rows in a table that is there do not change where tables are. -/
theorem holds_put {db : Database} {s : Schema} {t : TableSpec} (h : db.holds t s = true)
    (rows : List Cells) : (db.put s t rows).holds = db.holds := by
  funext u r
  unfold holds at *
  rw [contents_put]
  split
  · rename_i hr
    subst hr
    by_cases hu : Name.folded u.name = Name.folded t.name
    · rw [hu, h]
      simp [TextMap.contains]
    · simp [TextMap.contains, TextMap.get?_insert, hu]
  · rfl

theorem schema?_put {db : Database} {s : Schema} {t : TableSpec} (h : db.holds t s = true)
    (rows : List Cells) : (db.put s t rows).schema? = db.schema? := by
  funext u
  simp only [schema?, holds_put h]

theorem holds_of_schema? {db : Database} {t : TableSpec} {s : Schema}
    (h : db.schema? t = some s) : db.holds t s = true := by
  unfold schema? at h
  exact List.find?_some h

/-- What is written to a table is read from it. -/
theorem rows?_withRows {db : Database} {t : TableSpec} {s : Schema} (h : db.schema? t = some s)
    (rows : List Cells) : (db.withRows t rows).rows? t = some rows := by
  have hs := schema?_put (holds_of_schema? h) rows
  simp [rows?, withRows, h, hs, contents_put]

end Database

/-! ## Statements -/

/-- The columns that a statement gives values to, with the values, in column order. -/
def givenColumns (t : TableSpec) (fields : Row) : List (Column × Value) :=
  t.columns.filterMap fun c => (fields.get? c.name).map fun v => (c, v)

/-- The columns that an insertion gives values to: those given and those with a
default. -/
def insertedColumns (t : TableSpec) (fields : Row) : List (Column × Value) :=
  t.columns.filterMap fun c =>
    match fields.get? c.name with
    | some v => some (c, v)
    | none => c.default?.map fun v => (c, v)

/-- Bound cells by column name, as the columns store them. -/
abbrev Assignment := List (String × Cell)

/-- Binds the values of columns from a position on. -/
def bindColumns (position : Nat) (given : List (Column × Value)) : Except Failure Assignment :=
  match bindAll position (given.map (·.2)) with
  | .error f => .error f
  | .ok cells =>
    .ok ((given.zip cells).map fun p => (p.1.1.name, p.1.1.affinity.apply p.2))

/-- The cell that an assignment gives a column. -/
def Assignment.cell? (name : String) : Assignment → Option Cell
  | [] => none
  | (k, c) :: rest => if k = name then some c else cell? name rest

namespace TableSpec

/-- The row that an assignment makes; a column without a cell is empty. -/
def newCells (t : TableSpec) (a : Assignment) : Cells :=
  t.columns.map fun c => (a.cell? c.name).getD .null

/-- A stored row after an assignment. -/
def changedCells (t : TableSpec) (a : Assignment) (cells : Cells) : Cells :=
  (t.columns.zip cells).map fun p => (a.cell? p.1.name).getD p.2

end TableSpec

/-- The fields outside the key. -/
def changes (t : TableSpec) (fields : Row) : Row := fields.filterKeys fun k => !t.key.contains k

/-- The key columns of a row, as pins. -/
def keyPins (t : TableSpec) (row : Row) : List (String × Value) :=
  t.key.map fun name => (name, row.cell name)

namespace Database

/-- Inserts a row; a key that exists already is refused. -/
def insert (db : Database) (t : TableSpec) (fields : Row) : Except Failure Database := do
  let rows ← db.rows t
  let cells := t.newCells (← bindColumns 1 (insertedColumns t fields))
  match t.emptyColumn? cells with
  | some f => .error f
  | none =>
    if rows.any (t.sameKey cells) then .error (.database (.notUnique t.name t.key))
    else .ok (db.withRows t (rows ++ [cells]))

/-- Inserts a row; where its key exists, the given columns outside the key are
changed instead. -/
def insertOrChange (db : Database) (t : TableSpec) (fields : Row) : Except Failure Database := do
  let rows ← db.rows t
  let bound ← bindColumns 1 (insertedColumns t fields)
  let cells := t.newCells bound
  match t.emptyColumn? cells with
  | some f => .error f
  | none =>
    if rows.any (t.sameKey cells) then
      let changed := bound.filter fun p => (changes t fields).contains p.1
      .ok (db.withRows t (rows.map fun r =>
        if t.sameKey cells r then t.changedCells changed r else r))
    else .ok (db.withRows t (rows ++ [cells]))

/-- Changes the row with a key, and tells whether there is one. -/
def change (db : Database) (t : TableSpec) (fields : Row) : Except Failure (Bool × Database) := do
  let given := givenColumns t (changes t fields)
  if given.isEmpty then .error (.database .emptyAssignment)
  else
    let rows ← db.rows t
    let assignment ← bindColumns 1 given
    let (_, clause) ← bindClause (given.length + 1) (pinnedColumns t (keyPins t fields))
    let changed := rows.map fun r =>
      if t.satisfies r clause then t.changedCells assignment r else r
    match (rows.filter fun r => t.satisfies r clause).findSome? fun r =>
        t.emptyColumn? (t.changedCells assignment r) with
    | some f => .error f
    | none => .ok (rows.any fun r => t.satisfies r clause, db.withRows t changed)

/-- The rows that satisfy some pins, at most so many, in key order. -/
def select (db : Database) (t : TableSpec) (pins : List (String × Value)) (limit : Option Int) :
    Except Failure (List Cells) := do
  let rows ← (db.rows? t).elim (.error t.unreadable) .ok
  let (position, clause) ← bindClause 1 (pinnedColumns t pins)
  let found := t.inKeyOrder (rows.filter fun r => t.satisfies r clause)
  match limit with
  | none => .ok found
  | some n =>
    match ← bindValue position (.int n) with
    | .int (.ofNat n) => .ok (found.take n)
    | _ => .ok found

/-- Deletes the rows that satisfy some pins. -/
def delete (db : Database) (t : TableSpec) (pins : List (String × Value)) :
    Except Failure Database := do
  let rows ← db.rows t
  let (_, clause) ← bindClause 1 (pinnedColumns t pins)
  .ok (db.withRows t (rows.filter fun r => !t.satisfies r clause))

end Database
end ConnectionCatalog.Sql
