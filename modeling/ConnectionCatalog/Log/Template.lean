import ConnectionCatalog.Failure
import ConnectionCatalog.Log.Basic
import ConnectionCatalog.Number.Rounded
import ConnectionCatalog.Text.Digit
import ConnectionCatalog.Text.Word

/-! # Log.Template — lines from templates

A template is a text with fields: a percent sign, a name in parentheses, flags, a
width, a precision and a letter that says how the value is written.  Two percent
signs stand for one.  A field without a name stands for the whole record, and only
in front of all other fields.

A field may be unfinished or may not fit its value; the line then fails, but only
if no earlier field did.

Main statement: `readField_suffix`; reading a field goes on in the template.
-/

namespace ConnectionCatalog.Log

/-! ## Fields -/

/-- How a field ends: with a letter, at a position in the template, or too early. -/
inductive Ending
  | letter (c : Char) (position : Nat)
  | unfinished
  | tooWide
  | tooPrecise
deriving DecidableEq, Repr

/-- A field of a template.  A starred width or precision is to come from a value of its
own. -/
structure Field where
  name? : Option String
  flags : List Char
  width : Nat
  starredWidth : Bool
  precision? : Option Nat
  starredPrecision : Bool
  ending : Ending
deriving DecidableEq, Repr

/-- A part of a template. -/
inductive Piece
  | literal (c : Char)
  | openName
  | field (f : Field)
deriving DecidableEq, Repr

/-! ## Reading -/

/-- What stands in parentheses, after the first of them, and the rest; parentheses
inside come in pairs. -/
def takeName? : (depth : Nat) → List Char → Option (List Char × List Char)
  | _, [] => none
  | depth, '(' :: cs => (takeName? (depth + 1) cs).map fun (name, rest) => ('(' :: name, rest)
  | 0, ')' :: cs => some ([], cs)
  | depth + 1, ')' :: cs => (takeName? depth cs).map fun (name, rest) => (')' :: name, rest)
  | depth, c :: cs => (takeName? depth cs).map fun (name, rest) => (c :: name, rest)

def isFlag (c : Char) : Bool := ['#', '0', '+', ' ', '-'].contains c

/-- A width or a precision, the star in place of one, and the rest. -/
def takeExtent : List Char → Nat × Bool × List Char
  | '*' :: cs => (0, true, cs)
  | cs => (digitsValue (cs.takeWhile Char.isDigit), false, cs.dropWhile Char.isDigit)

/-- A precision, if there is one, and the rest. -/
def takePrecision : List Char → Option Nat × Bool × List Char
  | '.' :: cs =>
    let (n, starred, rest) := takeExtent cs
    (some n, starred, rest)
  | cs => (none, false, cs)

/-- Skips a mark of size, which changes nothing. -/
def skipSize : List Char → List Char
  | 'h' :: cs => cs
  | 'l' :: cs => cs
  | 'L' :: cs => cs
  | cs => cs

/-- The largest width. -/
def maxWidth : Nat := 9223372036854775807

/-- The largest precision. -/
def maxPrecision : Nat := 2147483647

/-- A field from its flags on, and the rest.  Positions count from the start of a
template of a length. -/
def readField (length : Nat) (name? : Option String) (cs : List Char) : Field × List Char :=
  let flags := cs.takeWhile isFlag
  let (width, starredWidth, afterWidth) := takeExtent (cs.dropWhile isFlag)
  let (precision?, starredPrecision, afterPrecision) := takePrecision afterWidth
  let (ending, rest) : Ending × List Char :=
    if maxWidth < width then (.tooWide, [])
    else if maxPrecision < precision?.getD 0 then (.tooPrecise, [])
    else
      match skipSize afterPrecision with
      | [] => (.unfinished, [])
      | c :: rest => (.letter c (length - (rest.length + 1)), rest)
  (⟨name?, flags, width, starredWidth, precision?, starredPrecision, ending⟩, rest)

theorem takeName_suffix {depth : Nat} {cs name rest : List Char}
    (h : takeName? depth cs = some (name, rest)) : rest <:+ cs := by
  fun_induction takeName? depth cs generalizing name rest with
  | case1 => simp at h
  | case3 => simp_all
  | case2 depth cs ih | case4 depth cs ih | case5 depth c cs _ _ _ ih =>
    obtain ⟨⟨name', rest'⟩, h', he⟩ := Option.map_eq_some_iff.1 h
    obtain ⟨_, rfl⟩ := Prod.mk.inj he
    exact (ih h').trans (List.suffix_cons _ _)

theorem takeExtent_suffix (cs : List Char) : (takeExtent cs).2.2 <:+ cs := by
  unfold takeExtent
  split
  · exact List.suffix_cons _ _
  · exact List.dropWhile_suffix _

theorem takePrecision_suffix (cs : List Char) : (takePrecision cs).2.2 <:+ cs := by
  unfold takePrecision
  split
  · exact (takeExtent_suffix _).trans (List.suffix_cons _ _)
  · exact List.suffix_refl _

theorem skipSize_suffix (cs : List Char) : skipSize cs <:+ cs := by
  unfold skipSize
  split <;> first | exact List.suffix_cons _ _ | exact List.suffix_refl _

/-- What follows a field is the end of what it was read from. -/
theorem readField_suffix (length : Nat) (name? : Option String) (cs : List Char) :
    (readField length name? cs).2 <:+ cs := by
  have afterWidth := (takeExtent_suffix (cs.dropWhile isFlag)).trans (List.dropWhile_suffix isFlag)
  have afterPrecision := (takePrecision_suffix _).trans afterWidth
  have letter := (skipSize_suffix _).trans afterPrecision
  simp only [readField]
  split
  · exact List.nil_suffix
  · split
    · exact List.nil_suffix
    · split
      · exact List.nil_suffix
      · rename_i h
        exact (h ▸ List.suffix_cons _ _).trans letter

/-- The parts of a template of a length. -/
def readPieces (length : Nat) : List Char → List Piece
  | [] => []
  | '%' :: '%' :: cs => .literal '%' :: readPieces length cs
  | '%' :: '(' :: cs =>
    match _h : takeName? 0 cs with
    | none => [.openName]
    | some (name, rest) =>
      .field (readField length (some (String.ofList name)) rest).1 ::
        readPieces length (readField length (some (String.ofList name)) rest).2
  | '%' :: cs =>
    .field (readField length none cs).1 :: readPieces length (readField length none cs).2
  | c :: cs => .literal c :: readPieces length cs
termination_by cs => cs.length
decreasing_by
  all_goals try simp only [List.length_cons]; omega
  · have := (readField_suffix length (some (String.ofList name)) rest).length_le
    have := (takeName_suffix ‹takeName? 0 cs = some (name, rest)›).length_le
    simp only [List.length_cons]
    omega
  · have := (readField_suffix length none cs).length_le
    simp only [List.length_cons]
    omega

/-! ## Templates -/

/-- The letters that may end a field, in either case, and those outside ASCII that
have one of them as their other case. -/
def fieldLetters : List Char := "diouxefgcrsaDIOUXEFGCRSA%\u0130\u0131\u017F".toList

/-- What follows a width or a precision in digits of any script, or a star. -/
def afterExtent : List Char → List Char
  | '*' :: cs => cs
  | cs => cs.dropWhile Text.isDecimal

/-- Whether a field follows a percent sign: its name, and an end that is a letter.
Digits of all scripts count here, though only those of ASCII give a width. -/
def startsField : List Char → Bool
  | '(' :: cs =>
    match cs.takeWhile Text.isWord, cs.dropWhile Text.isWord with
    | _ :: _, ')' :: rest =>
      let afterWidth := afterExtent (rest.dropWhile isFlag)
      let afterPrecision :=
        match afterWidth with
        | '.' :: d :: rest =>
          if d = '*' ∨ Text.isDecimal d then afterExtent (d :: rest) else afterWidth
        | _ => afterWidth
      match afterPrecision with
      | c :: _ => fieldLetters.contains c
      | [] => false
    | _, _ => false
  | _ => false

/-- Whether a text has a field and so can be a template. -/
def hasField : List Char → Bool
  | [] => false
  | c :: cs => (c = '%' && startsField cs) || hasField cs

/-- The parts of a template, which has a field at least. -/
def pieces (template : String) : Except TemplateFault (List Piece) :=
  if hasField template.toList then .ok (readPieces template.length template.toList)
  else .error (.noField template)

/-! ## Values in fields -/

/-- What a template names: a value, or a group of things that has one text. -/
inductive Shown
  | value (v : Value)
  | group (text : String)

namespace Shown

def kindName : Shown → String
  | value v => v.kindName
  | group _ => "tuple"

def number? : Shown → Option Number
  | value v => v.number?
  | group _ => none

/-- Whether it can be written as a text. -/
def isWritable : Shown → Bool
  | value v => v.isWritable
  | group _ => true

def toText : Shown → String
  | value v => v.toText
  | group text => text

/-- The text in which texts are in quotes. -/
def quoted : Shown → String
  | value v => v.quoted
  | group text => text

/-- As a part of something larger. -/
def toValue : Shown → Value
  | value v => v
  | group text => .text text

end Shown

/-- What a template may name. -/
abbrev Named := List (String × Shown)

/-- What has a name. -/
def Named.get? (name : String) (values : Named) : Option Shown :=
  (values.find? fun p => p.1 = name).map (·.2)

/-- How the value of a field is written. -/
inductive Conversion
  | text
  | quoted
  | ascii
  | whole
  | octal
  | hexadecimal
  | fixed
  | scientific
  | general
  | character
deriving DecidableEq, Repr

def Conversion.ofLetter? : Char → Option Conversion
  | 's' => some .text
  | 'r' => some .quoted
  | 'a' => some .ascii
  | 'd' | 'i' | 'u' => some .whole
  | 'o' => some .octal
  | 'x' | 'X' => some .hexadecimal
  | 'f' | 'F' => some .fixed
  | 'e' | 'E' => some .scientific
  | 'g' | 'G' => some .general
  | 'c' => some .character
  | _ => none

/-- What a field gives before it is brought to its width; a number may have a sign
and a mark of its base in front. -/
structure Filling where
  isNumber : Bool
  sign : String
  mark : String
  body : String
deriving DecidableEq, Repr

namespace Field

/-- The sign that a number gets. -/
def sign (f : Field) (negative : Bool) : String :=
  if negative then "-"
  else if f.flags.contains '+' then "+"
  else if f.flags.contains ' ' then " "
  else ""

/-- A text, cut to the precision. -/
def ofText (f : Field) (s : String) : Filling :=
  let s :=
    match f.precision? with
    | some n => String.ofList (s.toList.take n)
    | none => s
  ⟨false, "", "", s⟩

/-- A whole number in a base, with so many digits as the precision asks for. -/
def ofInt (f : Field) (base : Nat) (mark : String) (n : Int) : Filling :=
  let ds := Nat.toDigits base n.natAbs
  let zeros := List.replicate (f.precision?.getD 1 - ds.length) '0'
  ⟨true, f.sign (n < 0), if f.flags.contains '#' then mark else "", String.ofList (zeros ++ ds)⟩

/-- The length that what a field gives may have at most. -/
def maxLength : Nat := 1073741824

/-- The largest precision of a whole number. -/
def maxWholePrecision : Nat := 2147483644

/-- A whole number in a base, unless too many digits are asked for.  In base ten it must
not have too many digits itself. -/
def ofIntWithin (f : Field) (base : Nat) (mark : String) (n : Int) : Except Failure Filling :=
  if maxWholePrecision < f.precision?.getD 1 then .error (.template .precisionTooLarge)
  else if base = 10 && !Spelled.isWritable n then .error (.number .tooManyDigits)
  else .ok (f.ofInt base mark n)

/-- A double; the precision is six where none is given. -/
def ofDouble (f : Field) (write : Nat → Bool → Nat → String) (d : Double) :
    Except Failure Filling :=
  let filling := fun body => ⟨true, f.sign d.isNegative, "", body⟩
  match d with
  | .nan => .ok (filling "nan")
  | .infinite _ => .ok (filling "inf")
  | .finite _ n =>
    let places := f.precision?.getD 6
    if maxLength < places then .error (.template .outOfMemory)
    else .ok (filling (write places (f.flags.contains '#') n))

/-- The same in capital letters. -/
def raised (isCapital : Bool) (x : Filling) : Filling :=
  if isCapital then { x with mark := x.mark.toUpper, body := x.body.toUpper } else x

/-- A double from a value, which has to be a number. -/
def doubleOf (v : Shown) : Except Failure Double :=
  match v.number? with
  | none => .error (.template (.notReal v.kindName))
  | some x =>
    match x.toDouble? with
    | none => .error (.number .tooLarge)
    | some d => .ok d

/-- A whole number from a value, which has to be one. -/
def intOf (letter : Char) (v : Shown) : Except Failure Int :=
  match v.number? with
  | some (.whole n) => .ok n
  | _ => .error (.template (.notWhole letter v.kindName))

/-- A whole number from a value, which has to be a number; a fraction is cut off. -/
def wholePartOf (letter : Char) (v : Shown) : Except Failure Int :=
  match v.number? with
  | some x => x.wholePart.mapError Failure.number
  | none => .error (.template (.notNumeric letter v.kindName))

/-- A character from a value: a text of one character, or its number. -/
def characterOf (v : Shown) : Except Failure String :=
  match v with
  | .value (.text s) => if s.length = 1 then .ok s else .error (.template .notCharacter)
  | .value (.stray s) =>
    if s.codes.length = 1 then .ok s.codes.lossy else .error (.template .notCharacter)
  | v =>
    match v.number? with
    | some (.whole n) =>
      if 0 ≤ n ∧ n < 0x110000 then .ok (String.singleton (Char.ofNat n.toNat))
      else .error (.template .noSuchCharacter)
    | _ => .error (.template .notCharacter)

/-- What a field gives for a value, as its letter asks. -/
def fill (f : Field) (letter : Char) (position : Nat) (v : Shown) : Except Failure Filling :=
  let isCapital := letter.isUpper
  let text := fun s => if v.isWritable then .ok (f.ofText s) else .error (.number .tooManyDigits)
  match Conversion.ofLetter? letter with
  | none => .error (.template (.unknownLetter letter position))
  | some .text => text v.toText
  | some .quoted => text v.quoted
  | some .ascii => text (Text.inAscii v.quoted)
  | some .whole => (wholePartOf letter v).bind (f.ofIntWithin 10 "")
  | some .octal => (intOf letter v).bind (f.ofIntWithin 8 "0o")
  | some .hexadecimal =>
    ((intOf letter v).bind (f.ofIntWithin 16 "0x")).map (raised isCapital)
  | some .fixed =>
    ((doubleOf v).bind (f.ofDouble Double.fixedText)).map (raised isCapital)
  | some .scientific =>
    ((doubleOf v).bind (f.ofDouble Double.scientificText)).map (raised isCapital)
  | some .general =>
    ((doubleOf v).bind (f.ofDouble Double.generalText)).map (raised isCapital)
  | some .character => (characterOf v).map fun s => ⟨false, "", "", s⟩

/-- A filling brought to the width: to the left, or to the right with spaces in front,
or for a number with zeros after the sign. -/
def widened (f : Field) (x : Filling) : Except Failure String :=
  let room := f.width - (x.sign ++ x.mark ++ x.body).length
  let filled := fun c => String.ofList (List.replicate room c)
  if maxLength < room then .error (.template .outOfMemory)
  else if f.flags.contains '-' then .ok (x.sign ++ x.mark ++ x.body ++ filled ' ')
  else if f.flags.contains '0' && x.isNumber then
    .ok (x.sign ++ x.mark ++ filled '0' ++ x.body)
  else .ok (filled ' ' ++ x.sign ++ x.mark ++ x.body)

/-- The value of a field; without a name it is the one that is left. -/
def value (f : Field) (values : Named) (left? : Option Shown) : Except Failure Shown :=
  match f.name? with
  | some name =>
    match values.get? name with
    | some v => .ok v
    | none => .error (.template (.noValue name))
  | none =>
    match left? with
    | some v => .ok v
    | none => .error (.template .tooFewValues)

/-- Takes the value of a field for its width or its precision, which has to be a whole
number below a bound. -/
def takeExtentOf (f : Field) (values : Named) (left? : Option Shown) (bound : Int)
    (fault : TemplateFault) : Except Failure Unit := do
  let check := fun n : Int =>
    if -bound ≤ n ∧ n < bound then .ok () else .error (.template fault)
  match ← f.value values left? with
  | .value (.bool b) => check (if b then 1 else 0)
  | .value (.int n) => check n
  | _ => throw (.template .widthNotWhole)

/-- A precision that comes from a value lies below this bound. -/
def precisionBound : Int := 2147483648

/-- A field in a line.  A field takes its value for the width, the precision or the
text, and has none left for what comes after. -/
def write (f : Field) (values : Named) (left? : Option Shown) : Except Failure String := do
  if f.name?.isSome then let _ ← f.value values left?
  if f.ending = .tooWide then throw (.template .tooWide)
  if f.starredWidth then f.takeExtentOf values left? Number.wordBound .widthTooLarge
  if f.starredPrecision then
    if f.starredWidth then throw (.template .tooFewValues)
    f.takeExtentOf values left? precisionBound .precisionOfWord
  match f.ending with
  | .tooWide => throw (.template .tooWide)
  | .tooPrecise => throw (.template .tooPrecise)
  | .unfinished => throw (.template .unfinished)
  | .letter c position =>
    if f.starredWidth || f.starredPrecision then throw (.template .tooFewValues)
    f.widened (← f.fill c position (← f.value values left?))

end Field

/-! ## Lines -/

/-- The line of the parts of a template; the first that cannot be written decides.
The record as a whole is left until a field has a value. -/
def writePieces (values : Named) :
    (left? : Option Shown) → List Piece → Except Failure String
  | _, [] => .ok ""
  | left?, .literal c :: ps => (writePieces values left? ps).map (String.singleton c ++ ·)
  | _, .openName :: _ => .error (.template .openName)
  | left?, .field f :: ps =>
    match f.write values left? with
    | .error e => .error e
    | .ok s => (writePieces values none ps).map (s ++ ·)

/-- The line of a template, for the values that a record has. -/
def fillTemplate (values : Named) (ps : List Piece) : Except Failure String :=
  writePieces values (some (.value (.object (values.map fun p => (p.1, p.2.toValue))))) ps

end ConnectionCatalog.Log
