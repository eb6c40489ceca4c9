import ConnectionCatalog.Failure
import ConnectionCatalog.Field.Check

/-! # Table.Basic — what every table offers

A table keeps rows under a key, which some of the columns form.  It is written
and read one row at a time, and scanned over a range of keys.  A scan opens a
cursor: the rows that the scan selected, which are then handed out one by one.

`RowStore` is the interface: calls that change a state and may fail.
-/

namespace ConnectionCatalog

/-- A row: the values of its columns. -/
abbrev Row := Fields

/-- The value of a column; a column that a row lacks holds nothing. -/
def TextMap.cell (row : Row) (column : String) : Value := (row.get? column).getD .null

/-! ## Ranges -/

/-- A range of keys: columns that are pinned to values, in the order given. -/
structure Range where
  pins : List (String × Value)

namespace Range

/-- The range of all keys. -/
def all : Range := ⟨[]⟩

/-- Pins a column, in the place where it is pinned already if it is. -/
def pin (column : String) (v : Value) : List (String × Value) → List (String × Value)
  | [] => [(column, v)]
  | p :: ps => if p.1 = column then (column, v) :: ps else p :: pin column v ps

/-- The range in which columns are pinned to values; of two pins of one column the
later counts. -/
def ofPins (pins : List (String × Value)) : Range :=
  ⟨pins.foldl (fun ps p => pin p.1 p.2 ps) []⟩

def columns (r : Range) : List String := r.pins.map (·.1)

/-- Whether every pinned column of a row has its value. -/
def contains (r : Range) (row : Row) : Bool :=
  r.pins.all fun p => (row.cell p.1).same p.2

/-- Whether the pinned columns are the first columns of a key, in order. -/
def leads (r : Range) (key : List String) : Bool := r.columns == key.take r.columns.length

@[simp] theorem contains_all (row : Row) : all.contains row = true := rfl

end Range

/-! ## Cursors -/

/-- The rows of a scan that were not handed out yet.  Some cursors close when they
come to their end. -/
structure Cursor where
  rest : List Row
  closed : Bool
  closesAtEnd : Bool

namespace Cursor

def close (c : Cursor) : Cursor := { c with closed := true }

/-- The rows that are still to come; a closed cursor has none. -/
def pending (c : Cursor) : List Row := if c.closed then [] else c.rest

/-- Hands out the next row. -/
def next (c : Cursor) : Option Row × Cursor :=
  if c.closed then (none, c)
  else
    match c.rest with
    | [] => (none, if c.closesAtEnd then c.close else c)
    | row :: rest => (some row, { c with rest := rest })

/-- Hands out the next `count` rows, or nothing in the place of each that is
missing. -/
def take : (count : Nat) → Cursor → List (Option Row) × Cursor
  | 0, c => ([], c)
  | count + 1, c =>
    let (row?, c) := c.next
    let (rows, c) := take count c
    (row? :: rows, c)

/-- Hands out all rows up to the end. -/
def takeAll (c : Cursor) : List Row × Cursor :=
  let (rows, c) := c.take (c.pending.length + 1)
  (rows.filterMap id, c)

end Cursor

/-! ## Calls -/

/-- A call that may change a state and may fail; what a failing call changed
before it failed stays changed. -/
abbrev Access (τ α : Type) := ExceptT Failure (StateM τ) α

namespace Access

variable {τ α : Type}

/-- A call that fails. -/
def fail (f : Failure) : Access τ α := throw f

/-- A call whose outcome is settled already. -/
def ofExcept (r : Except Failure α) : Access τ α := ExceptT.mk (pure r)

section Run

variable {β : Type} {s s' : τ} {f : Failure}

/-- What follows a call that succeeds goes on from what it left. -/
theorem run_bind_ok {x : Access τ α} {g : α → Access τ β} {a : α} (h : x.run s = (.ok a, s')) :
    (x >>= g).run s = (g a).run s' := by
  have hbind : (x >>= g).run s = ExceptT.bindCont g (x.run s).1 (x.run s).2 := rfl
  rw [hbind, h]
  rfl

/-- What follows a call that fails is left out. -/
theorem run_bind_error {x : Access τ α} {g : α → Access τ β} (h : x.run s = (.error f, s')) :
    (x >>= g).run s = (.error f, s') := by
  have hbind : (x >>= g).run s = ExceptT.bindCont g (x.run s).1 (x.run s).2 := rfl
  rw [hbind, h]
  rfl

theorem run_get (s : τ) : (get : Access τ τ).run s = (.ok s, s) := rfl

theorem run_ofExcept (r : Except Failure α) (s : τ) : (ofExcept r).run s = (r, s) := rfl

end Run

end Access

/-- The interface of a table with states `τ`.  A scan gives the number of its
cursor. -/
class RowStore (τ : Type) where
  upsert : Row → Access τ Unit
  read : Row → Access τ (Option Row)
  delete : Row → Access τ Unit
  scan : Range → Option Int → Access τ Nat
  cursor? : τ → Nat → Option Cursor
  setCursor : Nat → Cursor → τ → τ

namespace RowStore

variable {τ : Type} [RowStore τ]

/-- The rows that a cursor has still to hand out. -/
def pending (table : τ) (n : Nat) : List Row := ((cursor? table n).map Cursor.pending).getD []

/-- Closes a cursor. -/
def close (n : Nat) (table : τ) : τ :=
  match cursor? table n with
  | some c => setCursor n c.close table
  | none => table

end RowStore
end ConnectionCatalog
