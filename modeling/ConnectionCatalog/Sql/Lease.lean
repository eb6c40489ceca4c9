import ConnectionCatalog.Sql.Table

/-! # Sql.Lease — the connections that the calls of a table run on

Every call runs on a connection of its own.  A call that reads or writes gives it back when it is
over, however it ends.  A scan leaves it to the cursor that it opens, and the cursor gives it back
when it is closed; a scan that fails gives it back itself.  What is refused before the database is
asked takes out no connection.

A `LeasedTable` is an `SqlTable` that accounts for its connections.
-/

namespace ConnectionCatalog.Sql

/-- A cursor, with the number of the connection that it reads from. -/
structure Lease where
  cursor : Cursor
  connection : Nat

/-- A table of a database, with the cursors that its scans opened, and all connections that its
calls took out, by number: whether each is still open. -/
structure LeasedTable where
  spec : TableSpec
  route : Upsert
  database : Database
  leases : List Lease
  connections : List Bool

namespace LeasedTable

/-- The table, without what it accounts for. -/
def table (t : LeasedTable) : SqlTable := ⟨t.spec, t.route, t.database, t.leases.map Lease.cursor⟩

/-- Takes out a connection; gives its number. -/
def connect : Access LeasedTable Nat := do
  let t ← get
  set { t with connections := t.connections ++ [true] }
  return t.connections.length

/-- Gives a connection back. -/
def disconnect (n : Nat) (t : LeasedTable) : LeasedTable :=
  { t with connections := t.connections.set n false }

/-- Runs a call of the table on a connection of its own, which is given back however the call
ends. -/
def connected {α : Type} (access : Access SqlTable α) : Access LeasedTable α := do
  let n ← connect
  ExceptT.mk fun t =>
    let (r, s) := access.run t.table
    (r, disconnect n { t with database := s.database })

/-- Runs a call of the table, unless what it is given is refused before the database is asked. -/
def checked {α : Type} (refusal? : TableSpec → Option Failure) (access : Access SqlTable α) :
    Access LeasedTable α := do
  match refusal? (← get).spec with
  | some f => throw f
  | none => connected access

def upsert (row : Row) : Access LeasedTable Unit :=
  checked (fun spec => SqlTable.refused? spec row) (SqlTable.upsert row)

def read (key : Row) : Access LeasedTable (Option Row) :=
  checked (fun spec => SqlTable.missingKey? spec key) (SqlTable.read key)

def delete (key : Row) : Access LeasedTable Unit :=
  checked (fun spec => SqlTable.missingKey? spec key) (SqlTable.delete key)

/-- Opens a cursor on a connection of its own, unless the selection fails. -/
def scan (range : Range) (limit : Option Int) : Access LeasedTable Nat := do
  let t ← get
  if range.leads t.spec.key then
    let n ← connect
    match t.table.selected range limit with
    | .error f =>
      modify (disconnect n)
      throw f
    | .ok rows =>
      modify fun t => { t with leases := t.leases ++ [⟨⟨rows, false, true⟩, n⟩] }
      return t.leases.length
  else throw (.table (.notLeadingOf t.spec.name range.columns t.spec.key))

/-- Puts a cursor in the place of another one; one that is closed gives its connection back. -/
def setCursor (n : Nat) (c : Cursor) (t : LeasedTable) : LeasedTable :=
  match t.leases[n]? with
  | some lease =>
    let t := { t with leases := t.leases.set n { lease with cursor := c } }
    if c.closed then disconnect lease.connection t else t
  | none => t

instance : RowStore LeasedTable where
  upsert := upsert
  read := read
  delete := delete
  scan := scan
  cursor? t n := t.leases[n]?.map Lease.cursor
  setCursor := setCursor

end LeasedTable
end ConnectionCatalog.Sql
