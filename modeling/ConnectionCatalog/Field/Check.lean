import ConnectionCatalog.Field.Fault
import ConnectionCatalog.Text.Blank
import ConnectionCatalog.Text.Encoding
import ConnectionCatalog.TextMap
import ConnectionCatalog.Value

/-! # Field.Check — reading the values of fields

Fields are read leniently: a text may be given as bytes or as a kind of
connection, a whole number as a truth value, as a whole double or as digits.
What is read is never read differently the second time: the text, number or kind
that a check returns passes the same check unchanged.

Main statements: `checkText_text`, `checkWhole_int`, `checkKind_type` and
`checkTextMap_textsValue`.
-/

namespace ConnectionCatalog

/-- Named values. -/
abbrev Fields := TextMap Value

/-! ## Texts and kinds -/

def checkText : Value → Except FieldFault String
  | .text s => .ok s
  | .type t => .ok t.name
  | .bytes bs =>
    match Text.utf8Text? bs with
    | some s => .ok s
    | none => .error .undecodable
  | .stray _ => .error .undecodable
  | _ => .error .notText

def checkKind : Value → Except FieldFault ConnectionType
  | .type t => .ok t
  | .text s =>
    match ConnectionType.ofName? s with
    | some t => .ok t
    | none => .error .notMember
  | .bytes bs =>
    match (Text.utf8Text? bs).bind ConnectionType.ofName? with
    | some t => .ok t
    | none => .error .notMember
  | _ => .error .notMember

/-! ## Whole numbers -/

/-- An optional minus sign. -/
def takeMinus : List Char → Bool × List Char
  | '-' :: cs => (true, cs)
  | cs => (false, cs)

/-- The number of digits that a whole number may have. -/
def maxWholeDigits : Nat := 4300

/-- A whole number as it is written out: a zero, or digits of which the first is none,
and a minus sign before it or not.  Too many digits are found before anything that
follows them. -/
def plainWhole (cs : List Char) : Except FieldFault Int :=
  let (negative, ds) := takeMinus cs
  match ds with
  | '0' :: rest => if rest.isEmpty then .ok 0 else .error .unreadableWhole
  | _ =>
    let (digits, rest) := Literal.takeDigits ds
    if maxWholeDigits < digits.length then .error .oversizedWhole
    else if digits.isEmpty || !rest.isEmpty then .error .unreadableWhole
    else .ok (Double.signed negative (digitsValue digits))

/-- What is left of a number when zeros and underscores that follow its first zero are
passed over: it goes on with a digit or a minus sign, and keeps the last character
before a point or before the end. -/
def withoutZerosAfter (last : Char) : List Char → Option (List Char)
  | [] => some [last]
  | c :: cs =>
    if c = '0' ∨ c = '_' then withoutZerosAfter c cs
    else if c = '.' then some (last :: c :: cs)
    else if c.isDigit ∨ c = '-' then some (c :: cs)
    else none

/-- A number without the zeros that it starts with. -/
def withoutZeros : List Char → Option (List Char)
  | [] => none
  | c :: cs =>
    if c = '0' then withoutZerosAfter c cs
    else if c.isDigit ∨ c = '-' then some (c :: cs)
    else none

/-- A number without its point, if a zero follows it and nothing but zeros. -/
def withoutFraction (cs : List Char) : List Char :=
  match cs.dropWhile (· ≠ '.') with
  | _ :: z :: zs => if (z :: zs).all (· = '0') then cs.takeWhile (· ≠ '.') else cs
  | _ => cs

/-- Whether an underscore follows another one. -/
def hasDoubledUnderscore : List Char → Bool
  | '_' :: '_' :: _ => true
  | _ :: cs => hasDoubledUnderscore cs
  | [] => false

/-- A number without underscores, if they stand one by one between other characters. -/
def withoutUnderscores (cs : List Char) : List Char :=
  if cs.head? = some '_' ∨ cs.getLast? = some '_' ∨ hasDoubledUnderscore cs then cs
  else cs.filter (· ≠ '_')

/-- A number without its sign, if it has one, and whether the sign is a minus. -/
def takeSingleSign : List Char → Option (Bool × List Char)
  | '+' :: '-' :: _ => none
  | '+' :: cs => some (false, cs)
  | cs => some (takeMinus cs)

/-- A number as it would be written out, from one with spaces around it, a plus sign,
zeros in front of its digits, a fraction of zeros or underscores between digits. -/
def writtenOut? (cs : List Char) : Option (List Char) :=
  (takeSingleSign (Text.trimSpaces cs)).bind fun (negative, cs) =>
    (withoutZeros cs).map fun cs =>
      let cs := withoutUnderscores (withoutFraction cs)
      if negative then '-' :: cs else cs

/-- A whole number given as text, written out or not. -/
def wholeOfText (s : String) : Except FieldFault Int :=
  match plainWhole s.toList with
  | .ok n => .ok n
  | .error .oversizedWhole => .error .oversizedWhole
  | .error _ =>
    match ((writtenOut? s.toList).getD []) |> plainWhole with
    | .ok n => .ok n
    | .error _ => .error .unreadableWhole

/-- The doubles that are taken for whole numbers lie within 64 bits. -/
def wholeOfDouble (d : Double) : Except FieldFault Int :=
  match d.truncate? with
  | none => .error .notFinite
  | some n =>
    if !d.isWhole then .error .fractional
    else if Number.fitsWord n && Number.fitsWord (-n) then .ok n
    else .error .oversizedWhole

def checkWhole : Value → Except FieldFault Int
  | .int n => .ok n
  | .bool b => .ok (if b then 1 else 0)
  | .float d => wholeOfDouble d
  | .text s => wholeOfText s
  | .bytes bs =>
    match Text.utf8Text? bs with
    | some s => wholeOfText s
    | none => .error .unreadableWhole
  | .stray _ => .error .undecodable
  | .type _ => .error .unreadableWhole
  | _ => .error .notWhole

/-! ## Truth values -/

/-- The words for true and for false. -/
def boolOfText (s : String) : Except FieldFault Bool :=
  let word := String.ofList (s.toList.map Char.toLower)
  if ["1", "on", "t", "true", "y", "yes"].contains word then .ok true
  else if ["0", "off", "f", "false", "n", "no"].contains word then .ok false
  else .error .unreadableBool

def boolOfWhole (n : Int) : Except FieldFault Bool :=
  if n = 0 then .ok false
  else if n = 1 then .ok true
  else .error .unreadableBool

def checkBool : Value → Except FieldFault Bool
  | .bool b => .ok b
  | .int n =>
    if Number.fitsWord n then boolOfWhole n else .error .notBool
  | .float d =>
    match wholeOfDouble d with
    | .ok n => boolOfWhole n
    | .error _ => .error .notBool
  | .text s => boolOfText s
  | .type t => boolOfText t.name
  | .bytes bs =>
    match Text.utf8Text? bs with
    | some s => boolOfText s
    | none => .error .unreadableBool
  | .stray _ => .error .undecodable
  | _ => .error .notBool

/-! ## Several fields -/

/-- What a check of fields returns: a result, or all that is wrong. -/
abbrev Checked (α : Type) := Except (List Issue) α

namespace Checked

variable {α β : Type}

/-- Both results, or everything that is wrong with either. -/
def both : Checked α → Checked β → Checked (α × β)
  | .ok a, .ok b => .ok (a, b)
  | .ok _, .error js => .error js
  | .error is, .ok _ => .error is
  | .error is, .error js => .error (is ++ js)

def map (f : α → β) : Checked α → Checked β
  | .ok a => .ok (f a)
  | .error issues => .error issues

/-- A result for the field at a path. -/
def atPath (path : List String) : Except FieldFault α → Checked α
  | .ok a => .ok a
  | .error fault => .error [⟨path, fault⟩]

/-- The result as a record of a kind. -/
def forRecord (record : String) : Checked α → Except Invalid α
  | .ok a => .ok a
  | .error issues => .error ⟨record, issues⟩

end Checked

/-- A field that has to be there. -/
def Fields.require {α : Type} (fs : Fields) (name : String)
    (check : Value → Except FieldFault α) : Checked α :=
  match fs.get? name with
  | some v => .atPath [name] (check v)
  | none => .error [⟨[name], .missing⟩]

/-- A field that is `absent` where it is left out. -/
def Fields.optional {α : Type} (fs : Fields) (name : String) (absent : α)
    (check : Value → Checked α) : Checked α :=
  match fs.get? name with
  | some v => check v
  | none => .ok absent

/-! ## Maps of texts -/

/-- Reads the texts of a map, each at its own path; of two with one name the first
counts. -/
def checkTexts (field : String) : List (String × Value) → Checked (TextMap String)
  | [] => .ok .empty
  | (k, v) :: rest =>
    (Checked.both (.atPath [field, k] (checkText v)) (checkTexts field rest)).map
      fun (s, texts) => texts.insert k s

def checkTextMap (field : String) : Value → Checked (TextMap String)
  | .object fields => checkTexts field fields
  | _ => .error [⟨[field], .notMap⟩]

/-- A map of texts as a value. -/
def textsValue (texts : TextMap String) : Value := .object (texts.map Value.text).entries

/-! ## A second check changes nothing -/

@[simp] theorem checkText_text (s : String) : checkText (.text s) = .ok s := rfl

@[simp] theorem checkWhole_int (n : Int) : checkWhole (.int n) = .ok n := rfl

@[simp] theorem checkKind_type (t : ConnectionType) : checkKind (.type t) = .ok t := rfl

theorem checkTexts_texts (field : String) {es : List (String × String)}
    (h : es.Pairwise fun a b => a.1 < b.1) :
    checkTexts field (es.map fun e => (e.1, .text e.2)) = .ok ⟨es, h⟩ := by
  induction es with
  | nil => rfl
  | cons e es ih =>
    obtain ⟨he, hes⟩ := List.pairwise_cons.1 h
    simp [checkTexts, ih hes, Checked.both, Checked.atPath, Checked.map, TextMap.insert,
      TextMap.insertEntry_of_lt he]

@[simp] theorem checkTextMap_textsValue (field : String) (texts : TextMap String) :
    checkTextMap field (textsValue texts) = .ok texts :=
  checkTexts_texts field texts.sorted

end ConnectionCatalog
