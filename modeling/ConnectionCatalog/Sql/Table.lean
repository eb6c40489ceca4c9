import ConnectionCatalog.Log.Basic
import ConnectionCatalog.Sql.Database

/-! # Sql.Table — a table that a database keeps

A row is written in one of two ways.  The native way is one statement, an insertion
that changes the row where its key exists.  The portable way is two: a change, and
an insertion if there was nothing to change.

Both refuse names that are not columns, and rows that lack a key column, before
the database is asked.
-/

namespace ConnectionCatalog.Sql

/-- How rows are written. -/
inductive Upsert
  | native
  | portable
deriving DecidableEq, Repr

/-- A table of a database, with the cursors that its scans opened. -/
structure SqlTable where
  spec : TableSpec
  route : Upsert
  database : Database
  cursors : List Cursor

namespace SqlTable

/-- Why a row cannot serve as a key: key columns that it lacks. -/
def missingKey? (t : TableSpec) (row : Row) : Option Failure :=
  let missing := t.key.filter fun name => !row.contains name
  if missing.isEmpty then none else some (.table (.missingKey t.name missing))

/-- Why a row cannot be written. -/
def refused? (t : TableSpec) (row : Row) : Option Failure :=
  let unknown := row.keys.filter fun name => !t.columnNames.contains name
  if unknown.isEmpty then missingKey? t row else some (.table (.unknownColumns t.name unknown))

/-- Writes a row in two statements. -/
def changeOrInsert (db : Database) (t : TableSpec) (row : Row) : Except Failure Database := do
  let (found, db') ← db.change t row
  if found then .ok db' else db.insert t row

/-- The database after a row is written. -/
def written (db : Database) (t : TableSpec) (route : Upsert) (row : Row) :
    Except Failure Database :=
  match refused? t row with
  | some f => .error f
  | none =>
    match route with
    | .native => db.insertOrChange t row
    | .portable => changeOrInsert db t row

/-- Makes a change to the database, unless it fails. -/
def commit (step : SqlTable → Except Failure Database) : Access SqlTable Unit := do
  let t ← get
  let database ← Access.ofExcept (step t)
  set { t with database }

def upsert (row : Row) : Access SqlTable Unit :=
  commit fun t => written t.database t.spec t.route row

def delete (key : Row) : Access SqlTable Unit :=
  commit fun t =>
    match missingKey? t.spec key with
    | some f => .error f
    | none => t.database.delete t.spec (keyPins t.spec key)

def read (key : Row) : Access SqlTable (Option Row) := do
  let t ← get
  match missingKey? t.spec key with
  | some f => throw f
  | none =>
    let rows ← Access.ofExcept (t.database.select t.spec (keyPins t.spec key) none)
    return rows.head?.map t.spec.toRow

/-- The rows that a scan selects. -/
def selected (t : SqlTable) (range : Range) (limit : Option Int) : Except Failure (List Row) :=
  if range.leads t.spec.key then
    match t.database.select t.spec range.pins limit with
    | .error f => .error f
    | .ok rows => .ok (rows.map t.spec.toRow)
  else .error (.table (.notLeadingOf t.spec.name range.columns t.spec.key))

def scan (range : Range) (limit : Option Int) : Access SqlTable Nat := do
  let t ← get
  let rows ← Access.ofExcept (t.selected range limit)
  set { t with cursors := t.cursors ++ [(⟨rows, false, true⟩ : Cursor)] }
  return t.cursors.length

instance : RowStore SqlTable where
  upsert := upsert
  read := read
  delete := delete
  scan := scan
  cursor? t n := t.cursors[n]?
  setCursor n c t := { t with cursors := t.cursors.set n c }

end SqlTable

/-! ## Contexts -/

/-- The tables that are declared, and the database that they are in. -/
structure SqlContext where
  declared : List TableSpec
  database : Database

namespace SqlContext

/-- A declared table, whether or not it exists; it needs a key. -/
def declaredTable (c : SqlContext) (id : String) : Except Failure TableSpec :=
  match c.declared.find? fun t => t.id == id with
  | none => .error (.tableNotFound id)
  | some t => if t.key.isEmpty then .error (.table (.noPrimaryKey t.name)) else .ok t

/-- A table that is declared and exists. -/
def find (c : SqlContext) (id : String) : Except Failure TableSpec :=
  match c.declared.find? fun t => t.id == id with
  | none => .error (.tableNotFound id)
  | some t =>
    if c.database.has t then c.declaredTable id else .error (.tableNotFound id)

/-- Makes the declared tables that do not exist yet, and notes first all that are
declared. -/
def createTables (c : SqlContext) (log : Log) : Except Failure Unit × SqlContext × Log :=
  let ids := (c.declared.map TableSpec.id).mergeSort fun a b => decide (a ≤ b)
  let log := log.write .info ("[TableContext] Creating tables: " ++ Text.quoteNames ids) []
  let (r, database) := (Database.createMissing c.declared).run c.database
  (r, { c with database }, log)

/-- Drops the table with an id, whether or not one is declared with it. -/
def drop (c : SqlContext) (id : String) : Except Failure SqlContext :=
  match c.database.drop ((c.declared.find? fun t => t.id == id).getD (.named id)) with
  | .error f => .error f
  | .ok database => .ok { c with database }

end SqlContext
end ConnectionCatalog.Sql
