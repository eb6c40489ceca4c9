import ConnectionCatalog.Table.Basic
import ConnectionCatalog.Table.Sorting

/-! # Table.Memory — a table that keeps its rows in memory

The rows are kept under their keys in the order in which the keys first came in.
Values are stored as they are given, and two keys are one if their values are
equal.  The table records the calls that are made, and an operation can be made
to fail.

Scans sort the keys, which fails where two of them have no order.
-/

namespace ConnectionCatalog

/-- The values of the key columns, in order. -/
abbrev Key := List Value

namespace Key

/-- Whether two keys are one. -/
def same : Key → Key → Bool
  | [], [] => true
  | a :: as, b :: bs => a.same b && same as bs
  | _, _ => false

/-- Whether a key comes before another: the first columns that differ decide. -/
def less : Key → Key → Except Failure Bool
  | a :: as, b :: bs =>
    if a.same b then less as bs
    else
      match a.before? b with
      | some r => .ok r
      | none => .error (.table (.unordered a.kindName b.kindName))
  | [], _ :: _ => .ok true
  | _, [] => .ok false

/-- Whether all of some keys have an order: each column holds values of one order. -/
def ordered : List Key → Bool
  | [] => true
  | key :: keys =>
    key.all (fun v => v.order?.isSome) &&
      keys.all fun other => other.map Value.order? == key.map Value.order?

/-- Whether a key comes before another, or is the same. -/
def atMost (a b : Key) : Bool :=
  match less b a with
  | .ok r => !r
  | .error _ => false

/-- Why a key cannot be looked up: lists and objects cannot be. -/
def unhashable? (key : Key) : Option Failure :=
  (key.find? fun
    | .list _ | .object _ => true
    | _ => false).map fun v => .table (.unhashable v.kindName)

end Key

/-- A call that was made on a table. -/
inductive Call
  | upsert (fields : Row)
  | read (key : Row)
  | delete (key : Row)
  | scan (pins : List (String × Value)) (limit : Option Int)

/-- The name of the operation that was called. -/
def Call.operation : Call → String
  | upsert _ => "upsert"
  | read _ => "read"
  | delete _ => "delete"
  | scan .. => "scan"

/-- A table in memory.  The first `forgotten` of its cursors are no longer listed. -/
structure MemoryTable where
  name : String
  key : List String
  rows : List (Key × Row)
  calls : List Call
  failures : TextMap Failure
  cursors : List Cursor
  forgotten : Nat

namespace MemoryTable

/-- An empty table; its key has a column at least. -/
def new (name : String) (key : List String) : Except Failure MemoryTable :=
  if key.isEmpty then .error (.table .noKeyColumns)
  else .ok ⟨name, key, [], [], .empty, [], 0⟩

/-! ## Rows by key -/

/-- The row under a key. -/
def find? (k : Key) : List (Key × Row) → Option Row
  | [] => none
  | r :: rs => if r.1.same k then some r.2 else find? k rs

/-- Puts a row under a key; a key that is there already stays as it is. -/
def put (k : Key) (row : Row) : List (Key × Row) → List (Key × Row)
  | [] => [(k, row)]
  | r :: rs => if r.1.same k then (r.1, row) :: rs else r :: put k row rs

/-- Takes the row under a key away. -/
def erase (k : Key) : List (Key × Row) → List (Key × Row)
  | [] => []
  | r :: rs => if r.1.same k then rs else r :: erase k rs

/-- Why a row cannot serve as a key: key columns that it lacks. -/
def lacking? (t : MemoryTable) (row : Row) : Option Failure :=
  let missing := t.key.filter fun column => !row.contains column
  if missing.isEmpty then none else some (.table (.missingKey t.name missing))

/-- The key of a row, which has to have all key columns. -/
def keyOf (t : MemoryTable) (row : Row) : Except Failure Key :=
  match t.lacking? row with
  | some f => .error f
  | none =>
    let key := t.key.map row.cell
    match Key.unhashable? key with
    | some f => .error f
    | none => .ok key

/-- All rows in the order of their keys.  If the keys have no order, what comes out
depends on the comparisons that are made. -/
def sortedRows (t : MemoryTable) : Except Failure (List Row) :=
  if Key.ordered (t.rows.map (·.1)) then
    .ok ((t.rows.mergeSort fun a b => Key.atMost a.1 b.1).map (·.2))
  else
    match Sorting.sortBy (fun a b => Key.less a.1 b.1) t.rows with
    | .error f => .error f
    | .ok rows => .ok (rows.map (·.2))

/-- Sorting neither loses a row nor adds one. -/
theorem sortedRows_perm {t : MemoryTable} {rows : List Row} (h : t.sortedRows = .ok rows) :
    rows.Perm (t.rows.map (·.2)) := by
  unfold sortedRows at h
  split at h
  · cases h
    exact (List.mergeSort_perm _ _).map _
  · split at h
    · cases h
    · rename_i sorted hsorted
      cases h
      exact (Sorting.sortBy_perm hsorted).map _

/-! ## Calls -/

/-- Records a call; it fails if its operation was made to fail. -/
def begin (call : Call) : Access MemoryTable Unit := do
  modify fun t => { t with calls := t.calls ++ [call] }
  match (← get).failures.get? call.operation with
  | some f => throw f
  | none => pure ()

def upsert (row : Row) : Access MemoryTable Unit := do
  begin (.upsert row)
  let key ← Access.ofExcept ((← get).keyOf row)
  modify fun t => { t with rows := put key row t.rows }

def read (key : Row) : Access MemoryTable (Option Row) := do
  begin (.read key)
  let t ← get
  return find? (← Access.ofExcept (t.keyOf key)) t.rows

/-- Takes a row away; in a table without rows no value is refused as a key. -/
def delete (key : Row) : Access MemoryTable Unit := do
  begin (.delete key)
  let t ← get
  match t.rows.isEmpty, t.lacking? key with
  | true, none => return
  | _, _ =>
    let key ← Access.ofExcept (t.keyOf key)
    set { t with rows := erase key t.rows }

/-- At most so many rows; a negative limit leaves out as many at the end. -/
def limited (limit : Option Int) (rows : List Row) : List Row :=
  match limit with
  | none => rows
  | some (.ofNat n) => rows.take n
  | some (.negSucc n) => rows.take (rows.length - (n + 1))

/-- The rows that a scan selects. -/
def selected (t : MemoryTable) (range : Range) (limit : Option Int) :
    Except Failure (List Row) :=
  if range.leads t.key then
    match t.sortedRows with
    | .error f => .error f
    | .ok rows => .ok (limited limit (rows.filter range.contains))
  else .error (.table (.notLeading range.columns t.key))

def scan (range : Range) (limit : Option Int) : Access MemoryTable Nat := do
  begin (.scan range.pins limit)
  let t ← get
  let rows ← Access.ofExcept (t.selected range limit)
  set { t with cursors := t.cursors ++ [(⟨rows, false, false⟩ : Cursor)] }
  return t.cursors.length

instance : RowStore MemoryTable where
  upsert := upsert
  read := read
  delete := delete
  scan := scan
  cursor? t n := t.cursors[n]?
  setCursor n c t := { t with cursors := t.cursors.set n c }

/-! ## Arranging a table -/

/-- Stores a row without recording a call. -/
def seed (row : Row) : Access MemoryTable Unit := do
  let key ← Access.ofExcept ((← get).keyOf row)
  modify fun t => { t with rows := put key row t.rows }

/-- Makes every further call of an operation fail. -/
def failOn (t : MemoryTable) (operation : String) (f : Failure) : MemoryTable :=
  { t with failures := t.failures.insert operation f }

/-- Forgets rows, calls, failures and cursors; a cursor that is open goes on. -/
def clear (t : MemoryTable) : MemoryTable :=
  { t with rows := [], calls := [], failures := .empty, forgotten := t.cursors.length }

/-- The calls of an operation, or all calls. -/
def callsOf (t : MemoryTable) (operation? : Option String) : List Call :=
  match operation? with
  | none => t.calls
  | some operation => t.calls.filter fun call => call.operation == operation

/-- Which of the listed cursors are closed. -/
def cursorsClosed (t : MemoryTable) : List Bool :=
  (t.cursors.drop t.forgotten).map Cursor.closed

end MemoryTable

/-! ## Contexts -/

/-- The tables that were made, by number, and those that are found under an id. -/
structure MemoryContext where
  tables : List MemoryTable
  ids : TextMap Nat

namespace MemoryContext

def empty : MemoryContext := ⟨[], .empty⟩

/-- Takes up a new table, without an id; gives its number. -/
def make (t : MemoryTable) (c : MemoryContext) : Nat × MemoryContext :=
  (c.tables.length, { c with tables := c.tables ++ [t] })

/-- Lets a table be found under an id; a table that had it is found no more. -/
def publish (id : String) (n : Nat) (c : MemoryContext) : MemoryContext :=
  { c with ids := c.ids.insert id n }

/-- The number of the table that is found under an id. -/
def find (id : String) (c : MemoryContext) : Except Failure Nat :=
  match c.ids.get? id with
  | some n => .ok n
  | none => .error (.tableNotFound id)

/-- Makes a call of a table. -/
def call {α : Type} (n : Nat) (access : Access MemoryTable α) (c : MemoryContext) :
    Option (Except Failure α × MemoryContext) :=
  (c.tables[n]?).map fun t =>
    let (r, t) := access.run t
    (r, { c with tables := c.tables.set n t })

end MemoryContext
end ConnectionCatalog
