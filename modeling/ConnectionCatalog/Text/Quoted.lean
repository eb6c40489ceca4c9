import ConnectionCatalog.Text.Codes
import ConnectionCatalog.Text.Unprintable

/-! # Text.Quoted — texts, byte strings and lists of names in quotes

A quoted text stands between single quotes, or between double quotes when it
holds a single quote and no double quote.  Backslash, the quote in use and the
characters that do not print are escaped, so a quoted text always fits on one
line.
-/

namespace ConnectionCatalog.Text

/-- The digits of a number below sixteen, in lower case. -/
def hexDigit (n : Nat) : Char :=
  if n < 10 then Char.ofNat (48 + n) else Char.ofNat (87 + n)

/-- The last `width` hexadecimal digits of a number. -/
def hex : Nat → Nat → List Char
  | 0, _ => []
  | width + 1, n => hex width (n / 16) ++ [hexDigit (n % 16)]

/-- The quote that is put around a text: the double one only where that saves an
escape. -/
def quoteFor (hasSingle hasDouble : Bool) : Char :=
  if hasSingle && !hasDouble then '"' else '\''

/-- A character by its number. -/
def numbered (c : Char) : List Char :=
  if c.toNat < 0x100 then '\\' :: 'x' :: hex 2 c.toNat
  else if c.toNat < 0x10000 then '\\' :: 'u' :: hex 4 c.toNat
  else '\\' :: 'U' :: hex 8 c.toNat

/-- A character inside a text that is quoted with `q`. -/
def quotedChar (q c : Char) : List Char :=
  if c = q || c = '\\' then ['\\', c]
  else if c = '\t' then ['\\', 't']
  else if c = '\n' then ['\\', 'n']
  else if c = '\r' then ['\\', 'r']
  else if isPrintable c then [c]
  else numbered c

/-- A text in quotes. -/
def quote (s : String) : String :=
  let cs := s.toList
  let q := quoteFor (cs.contains '\'') (cs.contains '"')
  String.ofList (q :: cs.flatMap (quotedChar q) ++ [q])

/-- A code point inside a text that is quoted with `q`; a surrogate is given by its
number. -/
def quotedCode (q : Char) (n : Nat) : List Char :=
  if n.isValidChar then quotedChar q (Char.ofNat n) else '\\' :: 'u' :: hex 4 n

/-- A text that may have lone surrogates in quotes. -/
def quoteCodes (codes : Codes) : String :=
  let q := quoteFor (codes.contains 39) (codes.contains 34)
  String.ofList (q :: codes.flatMap (quotedCode q) ++ [q])

/-- A text with the characters outside ASCII by their numbers. -/
def inAscii (s : String) : String :=
  String.ofList (s.toList.flatMap fun c => if c.toNat < 128 then [c] else numbered c)

/-- A byte inside a byte string that is quoted with `q`. -/
def quotedByte (q : Char) (b : UInt8) : List Char :=
  let c := Char.ofNat b.toNat
  if c = q || c = '\\' then ['\\', c]
  else if c = '\t' then ['\\', 't']
  else if c = '\n' then ['\\', 'n']
  else if c = '\r' then ['\\', 'r']
  else if 0x20 <= b.toNat && b.toNat < 0x7F then [c]
  else '\\' :: 'x' :: hex 2 b.toNat

/-- A byte string in quotes, marked by a leading `b`. -/
def quoteBytes (bs : List UInt8) : String :=
  let q := quoteFor (bs.contains 39) (bs.contains 34)
  String.ofList ('b' :: q :: bs.flatMap (quotedByte q) ++ [q])

/-- A list of names, each in quotes. -/
def quoteNames (names : List String) : String :=
  "[" ++ ", ".intercalate (names.map quote) ++ "]"

end ConnectionCatalog.Text
