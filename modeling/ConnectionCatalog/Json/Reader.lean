import ConnectionCatalog.Json.Basic
import ConnectionCatalog.Number.Spelled

/-! # Json.Reader — documents from text

Reading works on the code points that are left: each reader takes the rest of the
text and hands back what it read together with what remains.  A problem says how
much of the text remained where it was found; `Json.read` turns that into a line,
a column and a position.

Recursion is on the number of levels of arrays and objects that may still be opened,
so a document that opens more is refused as such, before anything that may be wrong
behind that point.
-/

namespace ConnectionCatalog.Json

/-- What is wrong with a text that is no document. -/
inductive Malformed
  | expectedValue
  | expectedName
  | expectedColon
  | expectedComma
  | extraData
  | unterminatedText
  | badEscape
  | badUnicodeEscape
  | controlCharacter
  | byteOrderMark
deriving DecidableEq, Repr

def Malformed.message : Malformed → String
  | expectedValue => "Expecting value"
  | expectedName => "Expecting property name enclosed in double quotes"
  | expectedColon => "Expecting ':' delimiter"
  | expectedComma => "Expecting ',' delimiter"
  | extraData => "Extra data"
  | unterminatedText => "Unterminated string starting at"
  | badEscape => "Invalid \\escape"
  | badUnicodeEscape => "Invalid \\uXXXX escape"
  | controlCharacter => "Invalid control character at"
  | byteOrderMark => "Unexpected UTF-8 BOM (decode using utf-8-sig)"

/-- A problem met on the way: a malformed text with so many code points left, an
integer of too many digits, or too many open levels. -/
inductive Problem
  | malformed (what : Malformed) (left : Nat)
  | longInteger (digits : Nat)
  | tooDeep (inArray : Bool)
deriving DecidableEq, Repr

/-- What is read, and what is left to read. -/
abbrev Reading (α : Type) := Except Problem (α × Codes)

/-! ## Code points of the notation -/

def isDigitCode (n : Nat) : Bool := 48 ≤ n && n ≤ 57

/-- The blanks of the notation: space, tab, line feed and carriage return. -/
def isBlankCode (n : Nat) : Bool := n == 32 || n == 9 || n == 10 || n == 13

def skipBlanks (cs : Codes) : Codes := cs.dropWhile isBlankCode

/-- The value of a hexadecimal digit. -/
def hexValue? (n : Nat) : Option Nat :=
  if 48 ≤ n ∧ n ≤ 57 then some (n - 48)
  else if 97 ≤ n ∧ n ≤ 102 then some (n - 87)
  else if 65 ≤ n ∧ n ≤ 70 then some (n - 55)
  else none

/-- The value of four hexadecimal digits. -/
def hexFour? (a b c d : Nat) : Option Nat :=
  match hexValue? a, hexValue? b, hexValue? c, hexValue? d with
  | some a, some b, some c, some d => some (((a * 16 + b) * 16 + c) * 16 + d)
  | _, _, _, _ => none

/-- What a backslash in front of a code point other than a u stands for. -/
def simpleEscape? (n : Nat) : Option Nat :=
  if n = 34 ∨ n = 92 ∨ n = 47 then some n
  else if n = 98 then some 8
  else if n = 102 then some 12
  else if n = 110 then some 10
  else if n = 114 then some 13
  else if n = 116 then some 9
  else none

/-! ## Texts -/

/-- Puts a code point in front of what is read. -/
def Reading.push (n : Nat) : Reading Codes → Reading Codes
  | .ok (ns, rest) => .ok (n :: ns, rest)
  | .error p => .error p

/-- Reads a text behind its opening quote; `start` is what was left at that quote.
After four digits of a unicode escape there has to be at least one more
code point, and a pair of escapes counts as a surrogate pair only if one follows
it as well. -/
def readText (start : Codes) : Codes → Reading Codes
  | [] => .error (.malformed .unterminatedText start.length)
  | 34 :: rest => .ok ([], rest)
  | [92] => .error (.malformed .unterminatedText start.length)
  | 92 :: 117 :: a :: b :: c :: d :: 92 :: 117 :: e :: f :: g :: h :: x :: rest =>
    match hexFour? a b c d with
    | none => .error (.malformed .badUnicodeEscape (rest.length + 12))
    | some high =>
      if Codes.isHighSurrogate high then
        match hexFour? e f g h with
        | none => .error (.malformed .badUnicodeEscape (rest.length + 6))
        | some low =>
          if Codes.isLowSurrogate low then
            (readText start (x :: rest)).push (Codes.joinSurrogates high low)
          else (readText start (92 :: 117 :: e :: f :: g :: h :: x :: rest)).push high
      else (readText start (92 :: 117 :: e :: f :: g :: h :: x :: rest)).push high
  | 92 :: 117 :: a :: b :: c :: d :: x :: rest =>
    match hexFour? a b c d with
    | none => .error (.malformed .badUnicodeEscape (rest.length + 6))
    | some n => (readText start (x :: rest)).push n
  | 92 :: 117 :: rest => .error (.malformed .badUnicodeEscape (rest.length + 1))
  | 92 :: c :: rest =>
    match simpleEscape? c with
    | none => .error (.malformed .badEscape (rest.length + 2))
    | some n => (readText start rest).push n
  | c :: rest =>
    if c < 32 then .error (.malformed .controlCharacter (rest.length + 1))
    else (readText start rest).push c

/-! ## Numbers and words -/

/-- Digits as characters. -/
def digitChars (cs : Codes) : List Char := cs.map Char.ofNat

/-- The part of a number after its integer digits: a fraction, if a digit follows
the point. -/
def readFraction : Codes → Option Codes × Codes
  | 46 :: d :: rest =>
    if isDigitCode d then (some (d :: rest.takeWhile isDigitCode), rest.dropWhile isDigitCode)
    else (none, 46 :: d :: rest)
  | cs => (none, cs)

/-- The exponent of a number, if a digit follows its letter and sign. -/
def readExponent (cs : Codes) : Option (Bool × Codes) × Codes :=
  match cs with
  | e :: rest =>
    if e = 101 ∨ e = 69 then
      let (negative, rest) :=
        match rest with
        | 45 :: more => (true, more)
        | 43 :: more => (false, more)
        | _ => (false, rest)
      let ds := rest.takeWhile isDigitCode
      if ds.isEmpty then (none, cs) else (some (negative, ds), rest.dropWhile isDigitCode)
    else (none, cs)
  | [] => (none, [])

/-- Reads the part of a number behind its sign; `start` is what was left in front of
that sign.  A zero in front stands alone. -/
def readNumber (start : Codes) (negative : Bool) (cs : Codes) : Reading Json :=
  let integer? : Option (Codes × Codes) :=
    match cs with
    | 48 :: rest => some ([48], rest)
    | c :: rest =>
      if isDigitCode c then some (c :: rest.takeWhile isDigitCode, rest.dropWhile isDigitCode)
      else none
    | [] => none
  match integer? with
  | none => .error (.malformed .expectedValue start.length)
  | some (ds, rest) =>
    let (fraction, rest) := readFraction rest
    let (exponent, rest) := readExponent rest
    if fraction.isNone && exponent.isNone then
      if Spelled.maxDigits < ds.length then .error (.longInteger ds.length)
      else .ok (.int (Double.signed negative (digitsValue (digitChars ds))), rest)
    else
      let fraction := fraction.getD []
      let (down, power) := exponent.getD (false, [])
      let e : Int := digitsValue (digitChars power)
      let m := digitsValue (digitChars (ds ++ fraction))
      let d := Double.ofDecimal negative m ((if down then -e else e) - fraction.length)
      .ok (.float d, rest)

/-- The words of the notation. -/
def words : List (String × Json) :=
  [("null", .null), ("true", .bool true), ("false", .bool false), ("NaN", .float .nan),
    ("Infinity", .float (.infinite false)), ("-Infinity", .float (.infinite true))]

/-- The rest of a text behind a word that it starts with. -/
def afterWord? : (word : Codes) → Codes → Option Codes
  | [], cs => some cs
  | w :: ws, c :: cs => if w = c then afterWord? ws cs else none
  | _ :: _, [] => none

/-- The word that a text starts with. -/
def readWord? (cs : Codes) : Option (Json × Codes) :=
  words.findSome? fun w => (afterWord? (Codes.ofString w.1) cs).map fun rest => (w.2, rest)

/-- Reads a value that is neither an array nor an object. -/
def readScalar (cs : Codes) : Reading Json :=
  match cs with
  | 34 :: rest =>
    match readText cs rest with
    | .ok (codes, rest) => .ok (.text codes, rest)
    | .error p => .error p
  | _ =>
    match readWord? cs with
    | some r => .ok r
    | none =>
      match cs with
      | 45 :: rest => readNumber cs true rest
      | _ => readNumber cs false cs

/-! ## Arrays and objects -/

/-- Reads items up to the closing bracket, each with `read`; every item takes a
code point and a comma, so as many steps as code points are enough. -/
def readItems (read : Codes → Reading Json) : (steps : Nat) → Codes → Reading (List Json)
  | 0, cs => .error (.malformed .expectedValue cs.length)
  | steps + 1, cs =>
    match read cs with
    | .error p => .error p
    | .ok (v, rest) =>
      match skipBlanks rest with
      | 93 :: rest => .ok ([v], rest)
      | 44 :: rest =>
        match readItems read steps (skipBlanks rest) with
        | .ok (vs, rest) => .ok (v :: vs, rest)
        | .error p => .error p
      | rest => .error (.malformed .expectedComma rest.length)

/-- Reads an array behind its opening bracket. -/
def readArray (read : Codes → Reading Json) (cs : Codes) : Reading Json :=
  match skipBlanks cs with
  | 93 :: rest => .ok (.array [], rest)
  | cs =>
    match readItems read (cs.length + 1) cs with
    | .ok (vs, rest) => .ok (.array vs, rest)
    | .error p => .error p

/-- Reads a name, a colon and a value. -/
def readMember (read : Codes → Reading Json) (cs : Codes) : Reading (Codes × Json) :=
  match cs with
  | 34 :: rest =>
    match readText cs rest with
    | .error p => .error p
    | .ok (name, rest) =>
      match skipBlanks rest with
      | 58 :: rest =>
        match read (skipBlanks rest) with
        | .ok (v, rest) => .ok ((name, v), rest)
        | .error p => .error p
      | rest => .error (.malformed .expectedColon rest.length)
  | _ => .error (.malformed .expectedName cs.length)

/-- Reads members up to the closing brace. -/
def readMembers (read : Codes → Reading Json) :
    (steps : Nat) → Codes → Reading (List (Codes × Json))
  | 0, cs => .error (.malformed .expectedName cs.length)
  | steps + 1, cs =>
    match readMember read cs with
    | .error p => .error p
    | .ok (m, rest) =>
      match skipBlanks rest with
      | 125 :: rest => .ok ([m], rest)
      | 44 :: rest =>
        match readMembers read steps (skipBlanks rest) with
        | .ok (ms, rest) => .ok (m :: ms, rest)
        | .error p => .error p
      | rest => .error (.malformed .expectedComma rest.length)

/-- Reads an object behind its opening brace. -/
def readObject (read : Codes → Reading Json) (cs : Codes) : Reading Json :=
  match skipBlanks cs with
  | 125 :: rest => .ok (.object [], rest)
  | cs =>
    match readMembers read (cs.length + 1) cs with
    | .ok (ms, rest) => .ok (ofMembers ms, rest)
    | .error p => .error p

/-- Reads a value in which `depth` levels may be opened. -/
def readValue : (depth : Nat) → Codes → Reading Json
  | 0, 91 :: _ => .error (.tooDeep true)
  | 0, 123 :: _ => .error (.tooDeep false)
  | 0, cs => readScalar cs
  | depth + 1, 91 :: rest => readArray (readValue depth) rest
  | depth + 1, 123 :: rest => readObject (readValue depth) rest
  | _ + 1, cs => readScalar cs

/-! ## Documents -/

/-- Why a text is no document, with the place at fault. -/
inductive Fault
  | malformed (what : Malformed) (line column position : Nat)
  | longInteger (digits : Nat)
  | tooDeep (inArray : Bool)
deriving DecidableEq, Repr

def Fault.message : Fault → String
  | malformed what line column position =>
    what.message ++ ": line " ++ toString line ++ " column " ++ toString column ++
      " (char " ++ toString position ++ ")"
  | longInteger digits => Spelled.tooLongMessage digits
  | tooDeep inArray =>
    "maximum recursion depth exceeded while decoding a JSON " ++
      (if inArray then "array" else "object") ++ " from a unicode string"

/-- The place in a text where `left` code points are left: lines and columns are
counted from one, and a line ends with a line feed. -/
def place (cs : Codes) (left : Nat) : Nat × Nat × Nat :=
  let before := cs.take (cs.length - left)
  (before.count 10 + 1, (before.reverse.takeWhile (· ≠ 10)).length + 1, before.length)

def Problem.locate (cs : Codes) : Problem → Fault
  | malformed what left =>
    let (line, column, position) := place cs left
    .malformed what line column position
  | longInteger digits => .longInteger digits
  | tooDeep inArray => .tooDeep inArray

/-- Reads a value with blanks around it and nothing else. -/
def readAll (depth : Nat) (cs : Codes) : Except Problem Json :=
  match readValue depth (skipBlanks cs) with
  | .error p => .error p
  | .ok (v, rest) =>
    match skipBlanks rest with
    | [] => .ok v
    | rest => .error (.malformed .extraData rest.length)

/-- The document that a text denotes, which may open `depth` levels. -/
def read (depth : Nat) (cs : Codes) : Except Fault Json :=
  match readAll depth cs with
  | .ok v => .ok v
  | .error p => .error (p.locate cs)

/-- The document that a text denotes; it must not start with a byte order mark. -/
def readCodes (depth : Nat) (cs : Codes) : Except Fault Json :=
  match cs with
  | 0xFEFF :: _ => .error ((Problem.malformed .byteOrderMark cs.length).locate cs)
  | _ => read depth cs

/-- The document that a text without lone surrogates denotes. -/
def readString (depth : Nat) (s : String) : Except Fault Json := readCodes depth (Codes.ofString s)

end ConnectionCatalog.Json
