import ConnectionCatalog.Json.Basic
import ConnectionCatalog.Text.Quoted

/-! # Json.Printer — documents as text

A printed document is one line of printable ASCII: every other character is
escaped, those beyond U+FFFF as a surrogate pair.  A `Style` says what is written
between items and after a name.
-/

namespace ConnectionCatalog.Json

/-- What separates items, and names from values. -/
structure Style where
  item : String
  name : String
deriving DecidableEq, Repr

/-- A space follows each comma and colon. -/
def spaced : Style := ⟨", ", ": "⟩

/-- Nothing that can be left out is written. -/
def compact : Style := ⟨",", ":"⟩

/-- The escape of a code unit of sixteen bits. -/
def escapeUnit (n : Nat) : List Char := '\\' :: 'u' :: Text.hex 4 n

/-- A code point inside a text. -/
def escape (n : Nat) : List Char :=
  if n = 0x22 then ['\\', '"']
  else if n = 0x5C then ['\\', '\\']
  else if n = 0x0A then ['\\', 'n']
  else if n = 0x0D then ['\\', 'r']
  else if n = 0x09 then ['\\', 't']
  else if n = 0x08 then ['\\', 'b']
  else if n = 0x0C then ['\\', 'f']
  else if 0x20 ≤ n ∧ n < 0x7F then [Char.ofNat n]
  else if n < 0x10000 then escapeUnit n
  else escapeUnit (0xD800 + (n - 0x10000) / 0x400) ++ escapeUnit (0xDC00 + (n - 0x10000) % 0x400)

/-- A text in double quotes. -/
def printText (codes : Codes) : List Char := '"' :: codes.flatMap escape ++ ['"']

/-- A double; what is not a finite number is spelled out. -/
def printDouble : Double → String
  | .nan => "NaN"
  | .infinite s => Double.signText s "Infinity"
  | d => d.toText

mutual

/-- A document in a style. -/
def print (st : Style) : Json → List Char
  | null => "null".toList
  | bool b => if b then "true".toList else "false".toList
  | int n => (toString n).toList
  | float d => (printDouble d).toList
  | text codes => printText codes
  | array items => '[' :: printItems st items ++ [']']
  | object members => '{' :: printMembers st members ++ ['}']

def printItems (st : Style) : List Json → List Char
  | [] => []
  | [v] => print st v
  | v :: w :: vs => print st v ++ st.item.toList ++ printItems st (w :: vs)

def printMembers (st : Style) : List (Codes × Json) → List Char
  | [] => []
  | [(k, v)] => printText k ++ st.name.toList ++ print st v
  | (k, v) :: m :: ms =>
    printText k ++ st.name.toList ++ print st v ++ st.item.toList ++ printMembers st (m :: ms)

end

/-- A document in a style, as a text. -/
def toText (st : Style) (j : Json) : String := String.ofList (print st j)

end ConnectionCatalog.Json
