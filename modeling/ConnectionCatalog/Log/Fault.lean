import ConnectionCatalog.Text.Quoted

/-! # Log.Fault — why a line cannot be written

The template of a line may have no field, or a field that the record has no value
for, that ends too early or that the value does not fit.  The time of a record may
have no date.
-/

namespace ConnectionCatalog.Log

/-- Why a template does not give a line. -/
inductive TemplateFault
  | noField (template : String)
  | noValue (name : String)
  | openName
  | unfinished
  | tooWide
  | tooPrecise
  | widthNotWhole
  | widthTooLarge
  /-- A precision from a value that is too large for one. -/
  | precisionOfWord
  /-- A whole number with too many digits. -/
  | precisionTooLarge
  | outOfMemory
  | tooFewValues
  | notNumeric (letter : Char) (kind : String)
  | notWhole (letter : Char) (kind : String)
  | notReal (kind : String)
  | notCharacter
  | noSuchCharacter
  | unknownLetter (letter : Char) (position : Nat)
deriving DecidableEq, Repr

/-- Why a time has no date. -/
inductive TimeFault
  | notANumber
  | outOfRange
  | outsideCalendar
  | lateYear
deriving DecidableEq, Repr

/-! ## Texts -/

/-- A letter in a message; a question mark stands for most that do not print. -/
def shownLetter (c : Char) : Char := if 31 ≤ c.toNat ∧ c.toNat < 127 then c else '?'

def TemplateFault.message : TemplateFault → String
  | noField template => "Invalid format '" ++ template ++ "' for '%' style"
  | noValue name => "Formatting field not found in record: " ++ Text.quote name
  | openName => "incomplete format key"
  | unfinished => "incomplete format"
  | tooWide => "width too big"
  | tooPrecise => "precision too big"
  | widthNotWhole => "* wants int"
  | widthTooLarge => "Python int too large to convert to C ssize_t"
  | precisionOfWord => "Python int too large to convert to C int"
  | precisionTooLarge => "precision too large"
  | outOfMemory => ""
  | tooFewValues => "not enough arguments for format string"
  | notNumeric letter kind =>
    "%" ++ String.singleton letter ++ " format: a real number is required, not " ++ kind
  | notWhole letter kind =>
    "%" ++ String.singleton letter ++ " format: an integer is required, not " ++ kind
  | notReal kind => "must be real number, not " ++ kind
  | notCharacter => "%c requires int or char"
  | noSuchCharacter => "%c arg not in range(0x110000)"
  | unknownLetter letter position =>
    "unsupported format character '" ++ String.singleton (shownLetter letter) ++ "' (0x" ++
      String.ofList (Nat.toDigits 16 letter.toNat) ++ ") at index " ++ toString position

def TimeFault.message : TimeFault → String
  | notANumber => "Invalid value NaN (not a number)"
  | outOfRange => "timestamp out of range for platform time_t"
  | outsideCalendar => "Value too large for defined data type"
  | lateYear => "signed integer is greater than maximum"

end ConnectionCatalog.Log
