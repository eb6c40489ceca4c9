import ConnectionCatalog.Failure
import ConnectionCatalog.Number.Number
import ConnectionCatalog.Sql.Numeral

/-! # Sql.Cell — what a database column holds

A cell holds nothing, a whole number of 64 bits, a double, a text or bytes.  A
column has an affinity: what is stored in it, or compared with it, is turned into
the kind of cell that the column prefers where that loses nothing.

Cells are ordered by kind first: nothing, numbers, texts, bytes.

Main statements: `Affinity.apply_text_text` and `Affinity.apply_integer_int`;
what a column prefers is left as it is.
-/

namespace ConnectionCatalog.Sql

/-- What one column of a stored row holds. -/
inductive Cell
  | null
  | int (n : Int)
  | real (d : Double)
  | text (s : String)
  | blob (bs : List UInt8)
deriving DecidableEq, Repr

namespace Cell

def toValue : Cell → Value
  | null => .null
  | int n => .int n
  | real d => .float d
  | text s => .text s
  | blob bs => .bytes bs

/-- Whether a whole number fits into a cell. -/
def fits (n : Int) : Bool := Number.fitsWord n

/-! ## Comparison -/

/-- The number in a cell. -/
def number? : Cell → Option Number
  | int n => some (.whole n)
  | real d => some (.real d)
  | _ => none

/-- The place of a kind of cell in the order of cells. -/
def rank : Cell → Nat
  | null => 0
  | int _ => 1
  | real _ => 1
  | text _ => 2
  | blob _ => 3

/-- Equality as a condition sees it: nothing equals nothing. -/
def same (a b : Cell) : Bool :=
  match a.number?, b.number? with
  | some x, some y => x.same y
  | _, _ =>
    match a, b with
    | text s, text t => s == t
    | blob xs, blob ys => xs == ys
    | _, _ => false

/-- Whether a cell comes before another one. -/
def less (a b : Cell) : Bool :=
  match a.number?, b.number? with
  | some x, some y => x.lt y
  | _, _ =>
    match a, b with
    | text s, text t => decide (s < t)
    | blob xs, blob ys => decide (xs < ys)
    | _, _ => a.rank < b.rank

end Cell

/-! ## Affinities -/

/-- What a column prefers to hold. -/
inductive Affinity
  | text
  | integer
deriving DecidableEq, Repr

namespace Affinity

/-- The blanks that may stand around a number in a text. -/
def isBlank (c : Char) : Bool := c = ' ' || (9 ≤ c.toNat && c.toNat ≤ 13)

/-- A double as a whole number, if it is one that fits; the two outermost do not
count. -/
def wholeCell (d : Double) : Cell :=
  match d.truncate? with
  | some n =>
    if d.isWhole && Number.fitsWord (n - 1) && Number.fitsWord (n + 1) then .int n else .real d
  | none => .real d

/-- The number that a text writes, if it writes nothing else. -/
def numberCell? (s : String) : Option Cell :=
  let cs := ((s.toList.dropWhile isBlank).reverse.dropWhile isBlank).reverse
  match Literal.read? cs with
  | some (l, []) =>
    if l.plain && Cell.fits l.toInt then some (.int l.toInt)
    else some (wholeCell (Numeral.toDouble l))
  | _ => none

/-- Turns a cell into what a column prefers. -/
def apply : Affinity → Cell → Cell
  | text, .int n => .text (toString n)
  | text, .real d => .text (Numeral.write d)
  | integer, .real d => wholeCell d
  | integer, .text s => (numberCell? s).getD (.text s)
  | _, c => c

@[simp] theorem apply_null (a : Affinity) : a.apply .null = .null := by
  cases a <;> rfl

@[simp] theorem apply_text_text (s : String) : text.apply (.text s) = .text s := rfl

@[simp] theorem apply_integer_int (n : Int) : integer.apply (.int n) = .int n := rfl

end Affinity

/-! ## Parameters -/

/-- The cell that a value is bound as, at a position in a statement; what is not a
number is bound as nothing. -/
def bindValue (position : Nat) : Value → Except Failure Cell
  | .null => .ok .null
  | .bool b => .ok (.int (if b then 1 else 0))
  | .int n => if Cell.fits n then .ok (.int n) else .error (.database .integerTooLarge)
  | .float .nan => .ok .null
  | .float d => .ok (.real d)
  | .text s => .ok (.text s)
  | .stray s => .error (.database (.unencodable s.codes))
  | .bytes bs => .ok (.blob bs)
  | .type t => .ok (.text t.name)
  | v => .error (.database (.unsupportedParameter position v.kindName))

/-- Binds values one after the other; the first that cannot be bound decides. -/
def bindAll : (position : Nat) → List Value → Except Failure (List Cell)
  | _, [] => .ok []
  | position, v :: vs =>
    match bindValue position v with
    | .error f => .error f
    | .ok c =>
      match bindAll (position + 1) vs with
      | .error f => .error f
      | .ok cs => .ok (c :: cs)

end ConnectionCatalog.Sql
