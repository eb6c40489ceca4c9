import ConnectionCatalog.Number.Decimal
import ConnectionCatalog.Text.Blank
import ConnectionCatalog.Text.Digit
import ConnectionCatalog.Text.LowerCase
import ConnectionCatalog.Text.Quoted

/-! # Number.Spelled — numbers as people spell them

Numbers that somebody writes by hand may have spaces around them, a sign, an
underscore between two digits, and digits of any script.  A whole number has no
more than so many digits; a double is a literal, an infinity or no number at all,
in letters of either case.
-/

namespace ConnectionCatalog

/-- Why a text does not spell a number. -/
inductive SpellingFault
  | notWhole (text : String)
  | tooLong (digits : Nat)
  | notReal (quoted : String)
  /-- Something of a kind that spells no whole number. -/
  | wholeOfKind (kind : String)
  /-- Something of a kind that spells no number. -/
  | realOfKind (kind : String)
deriving DecidableEq, Repr

namespace Spelled

/-- The number of digits that a whole number may have when it is spelled or written. -/
def maxDigits : Nat := 4300

/-- What is said of a whole number with too many digits. -/
def tooLongMessage (digits : Nat) : String :=
  "Exceeds the limit (" ++ toString maxDigits ++
    " digits) for integer string conversion: value has " ++ toString digits ++
    " digits; use sys.set_int_max_str_digits() to increase the limit"

/-- What is said of a whole number that has too many digits to be written. -/
def unwritableMessage : String :=
  "Exceeds the limit (" ++ toString maxDigits ++
    " digits) for integer string conversion; use sys.set_int_max_str_digits() to increase the limit"

/-- Whether a whole number has so few digits that it can be written; its sign does not count. -/
def isWritable (n : Int) : Bool := (digitsOf n.natAbs).length ≤ maxDigits

/-- The quoted text of what is no whole number is cut off here. -/
def shownLength : Nat := 200

end Spelled

def SpellingFault.message : SpellingFault → String
  | notWhole text =>
    "invalid literal for int() with base 10: " ++
      String.ofList ((Text.quote text).toList.take Spelled.shownLength)
  | tooLong digits => Spelled.tooLongMessage digits
  | notReal quoted => "could not convert string to float: " ++ quoted
  | wholeOfKind kind =>
    "int() argument must be a string, a bytes-like object or a real number, not '" ++ kind ++ "'"
  | realOfKind kind =>
    "float() argument must be a string or a real number, not '" ++ kind ++ "'"

namespace Spelled

/-- A text without the spaces around it, in digits of ASCII. -/
def plain (s : String) : List Char := Text.asciiDigits (Text.trimSpaces s.toList)

/-- Digits without the underscores between them, and what follows; `afterDigit` says
whether a digit stands before them.  An underscore follows a digit, and the last one
stands before a digit. -/
def takeSpaced (afterDigit : Bool) : List Char → Option (List Char × List Char)
  | [] => if afterDigit then some ([], []) else none
  | c :: cs =>
    if c = '_' then if afterDigit then takeSpaced false cs else none
    else if c.isDigit then (takeSpaced true cs).map fun (ds, rest) => (c :: ds, rest)
    else if afterDigit then some ([], c :: cs)
    else none

/-- Reads a whole number; too many digits are found before anything that follows
them. -/
def whole (s : String) : Except SpellingFault Int :=
  let (negative, cs) := Literal.takeSign (plain s)
  match takeSpaced false cs with
  | none => .error (.notWhole s)
  | some (digits, rest) =>
    if maxDigits < digits.length then .error (.tooLong digits.length)
    else if !rest.isEmpty then .error (.notWhole s)
    else .ok (Double.signed negative (digitsValue digits))

/-- A text without underscores; each of them stands between two digits. -/
def withoutUnderscores (afterDigit : Bool) : List Char → Option (List Char)
  | [] => some []
  | '_' :: c :: cs =>
    if afterDigit && c.isDigit then (withoutUnderscores true cs).map (c :: ·) else none
  | ['_'] => none
  | c :: cs => (withoutUnderscores c.isDigit cs).map (c :: ·)

/-- An infinity or what is not a number, in letters of either case. -/
def word? (cs : List Char) : Option Double :=
  let (negative, cs) := Literal.takeSign cs
  match String.ofList (cs.map Char.toLower) with
  | "inf" | "infinity" => some (.infinite negative)
  | "nan" => some .nan
  | _ => none

/-- Reads a double. -/
def double? (s : String) : Option Double :=
  (withoutUnderscores false (plain s)).bind fun cs =>
    match Literal.read? cs with
    | some (l, []) => some l.toDouble
    | _ => word? cs

/-- Reads a double from a text. -/
def double (s : String) : Except SpellingFault Double :=
  match double? s with
  | some d => .ok d
  | none => .error (.notReal (Text.quote s))

end Spelled
end ConnectionCatalog
