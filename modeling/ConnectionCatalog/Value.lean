import ConnectionCatalog.Connection.Id
import ConnectionCatalog.Connection.Kind
import ConnectionCatalog.Number.Number
import ConnectionCatalog.Number.Spelled
import ConnectionCatalog.Text.Quoted

/-! # Value — dynamic values

What a caller may hand in for a field and what a table may hold in a column:
nothing, truth values, numbers, texts, bytes, kinds and places of connections,
and lists and objects of these.

Numbers are equal by value, whatever their kind, and truth values count as zero
and one; a kind of connection equals the text of its name.  Order is only
defined among numbers, among texts and among byte strings.  A text may have a
lone surrogate; such a text is a kind of value of its own here.
-/

namespace ConnectionCatalog

/-- A dynamic value. -/
inductive Value
  | null
  | bool (b : Bool)
  | int (n : Int)
  | float (d : Double)
  | text (s : String)
  | stray (s : Codes.Stray)
  | bytes (bs : List UInt8)
  | type (t : ConnectionType)
  | id (i : NamespacedId)
  | list (xs : List Value)
  | object (fields : List (String × Value))
deriving Inhabited

namespace Value

/-- The name of a value's kind, as error messages give it. -/
def kindName : Value → String
  | null => "NoneType"
  | bool _ => "bool"
  | int _ => "int"
  | float _ => "float"
  | text _ | stray _ => "str"
  | bytes _ => "bytes"
  | type _ => "ConnectionType"
  | id _ => "NamespacedId"
  | list _ => "list"
  | object _ => "dict"

/-- The number that a value is or counts as. -/
def number? : Value → Option Number
  | bool b => some (.whole (if b then 1 else 0))
  | int n => some (.whole n)
  | float d => some (.real d)
  | _ => none

/-- The text that a value is or counts as. -/
def text? : Value → Option String
  | text s => some s
  | type t => some t.name
  | _ => none

/-- The code points of the text that a value is or counts as. -/
def codes? : Value → Option Codes
  | stray s => some s.codes
  | v => v.text?.map Codes.ofString

/-- The text of some code points. -/
def ofCodes (codes : Codes) : Value :=
  match h : codes.toString? with
  | some s => text s
  | none => stray ⟨codes, h⟩

/-! ## Equality -/

/-- Equality of values that are neither lists nor objects. -/
def sameAtom (a b : Value) : Bool :=
  match a.number?, b.number? with
  | some x, some y => x.same y
  | _, _ =>
    match a.text?, b.text? with
    | some s, some t => s == t
    | _, _ =>
      match a, b with
      | null, null => true
      | stray s, stray t => decide (s = t)
      | bytes xs, bytes ys => xs == ys
      | id i, id j => decide (i = j)
      | _, _ => false

/-- The value of the first field with a name. -/
def field? (k : String) : List (String × Value) → Option Value
  | [] => none
  | (j, v) :: rest => if j = k then some v else field? k rest

mutual

/-- Equality of values; objects are equal as maps. -/
def same : Value → Value → Bool
  | list xs, list ys => sameList xs ys
  | object xs, object ys => xs.length == ys.length && sameFields xs ys
  | a, b => sameAtom a b

def sameList : List Value → List Value → Bool
  | [], [] => true
  | x :: xs, y :: ys => same x y && sameList xs ys
  | _, _ => false

/-- Whether every field of the first list has an equal one in the second. -/
def sameFields : List (String × Value) → List (String × Value) → Bool
  | [], _ => true
  | (k, v) :: rest, ys =>
    (match field? k ys with
      | some w => same v w
      | none => false) && sameFields rest ys

end

/-! ## Order -/

/-- Whether `a` comes before `b`; no answer where the two have no order. -/
def before? (a b : Value) : Option Bool :=
  match a.number?, b.number? with
  | some x, some y => some (x.lt y)
  | _, _ =>
    match a.text?, b.text? with
    | some s, some t => some (decide (s < t))
    | _, _ =>
      match a.codes?, b.codes? with
      | some xs, some ys => some (decide (xs < ys))
      | _, _ =>
        match a, b with
        | bytes xs, bytes ys => some (decide (xs < ys))
        | _, _ => none

/-- The kinds of values in each of which any two have an order. -/
inductive Order
  | numbers
  | texts
  | bytes
deriving DecidableEq

/-- The order that a value is part of; what is no number has none.  Texts with lone
surrogates are compared one by one, and not counted here. -/
def order? : Value → Option Order
  | bool _ | int _ => some .numbers
  | float .nan => none
  | float _ => some .numbers
  | text _ | type _ => some .texts
  | bytes _ => some .bytes
  | null | stray _ | id _ | list _ | object _ => none

/-! ## Truth -/

/-- Whether a value counts as true: all do but nothing, false, zero and what is
empty. -/
def truth : Value → Bool
  | null => false
  | bool b => b
  | int n => n != 0
  | float (.finite _ n) => n != 0
  | float _ => true
  | text s => !s.isEmpty
  | stray _ => true
  | bytes bs => !bs.isEmpty
  | type _ => true
  | id _ => true
  | list xs => !xs.isEmpty
  | object fields => !fields.isEmpty

/-! ## Text -/

/-- The text of a truth value. -/
def boolText (b : Bool) : String := if b then "True" else "False"

mutual

/-- A value as it stands inside a list or an object. -/
def quoted : Value → String
  | null => "None"
  | bool b => boolText b
  | int n => toString n
  | float d => d.toText
  | text s => Text.quote s
  | stray s => Text.quoteCodes s.codes
  | bytes bs => Text.quoteBytes bs
  | type t => "<ConnectionType." ++ t.name ++ ": " ++ Text.quote t.name ++ ">"
  | id i =>
    "NamespacedId(namespace=" ++ Text.quote i.namespaceName ++ ", id=" ++ Text.quote i.id ++ ")"
  | list xs => "[" ++ ", ".intercalate (quotedList xs) ++ "]"
  | object fields => "\x7b" ++ ", ".intercalate (quotedFields fields) ++ "\x7d"

def quotedList : List Value → List String
  | [] => []
  | x :: xs => quoted x :: quotedList xs

def quotedFields : List (String × Value) → List String
  | [] => []
  | (k, v) :: rest => (Text.quote k ++ ": " ++ quoted v) :: quotedFields rest

end

/-- A value as it stands alone in a line of text; lone surrogates are replaced there. -/
def toText : Value → String
  | text s => s
  | stray s => s.codes.lossy
  | type t => "ConnectionType." ++ t.name
  | id i => i.toText
  | v => v.quoted

mutual

/-- Whether every whole number in a value has so few digits that it can be written. -/
def isWritable : Value → Bool
  | int n => Spelled.isWritable n
  | list xs => isWritableList xs
  | object fields => isWritableFields fields
  | _ => true

def isWritableList : List Value → Bool
  | [] => true
  | x :: xs => isWritable x && isWritableList xs

def isWritableFields : List (String × Value) → Bool
  | [] => true
  | (_, v) :: rest => isWritable v && isWritableFields rest

end

theorem isWritable_object_iff {fields : List (String × Value)} :
    isWritable (object fields) = true ↔ ∀ d ∈ fields, d.2.isWritable = true := by
  rw [isWritable]
  induction fields with
  | nil => simp [isWritableFields]
  | cons d fields ih => simp [isWritableFields, ih]

end Value
end ConnectionCatalog
