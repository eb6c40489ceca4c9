import ConnectionCatalog.Text.Encoding

/-! # Text.Percent — bytes spelled by percent signs

A percent sign and two hexadecimal digits stand for a byte, and the bytes of a run
of ASCII are read together as UTF-8.  Bytes that are not UTF-8 become replacement
characters; a percent sign without two digits stands for itself.
-/

namespace ConnectionCatalog.Text

/-! ## Reading -/

/-- Code points from bytes, a replacement character for each stretch at fault; as
every stretch takes a byte or more, as many steps as bytes are enough. -/
def lossyUtf8 : (steps : Nat) → List UInt8 → Codes
  | 0, _ => []
  | _, [] => []
  | steps + 1, bs =>
    match utf8Front bs with
    | .ok (code, size) => code :: lossyUtf8 steps (bs.drop size)
    | .error (size, _) => 0xFFFD :: lossyUtf8 steps (bs.drop size)

/-- The value of a character as a hexadecimal digit. -/
def percentDigit? (c : Char) : Option Nat :=
  if c.isDigit then some (c.toNat - 48)
  else if 'a' ≤ c ∧ c ≤ 'f' then some (c.toNat - 87)
  else if 'A' ≤ c ∧ c ≤ 'F' then some (c.toNat - 55)
  else none

/-- The byte that the two characters after a percent sign stand for. -/
def percentByte? (a b : Char) : Option UInt8 :=
  match percentDigit? a, percentDigit? b with
  | some x, some y => some (UInt8.ofNat (16 * x + y))
  | _, _ => none

/-- The bytes that ASCII characters spell. -/
def percentBytes : List Char → List UInt8
  | '%' :: a :: b :: cs =>
    match percentByte? a b with
    | some byte => byte :: percentBytes cs
    | none => 37 :: percentBytes (a :: b :: cs)
  | c :: cs => UInt8.ofNat c.toNat :: percentBytes cs
  | [] => []

def isAscii (c : Char) : Bool := c.toNat < 0x80

/-- A run of ASCII, read as bytes. -/
def percentRun (cs : List Char) : List Char :=
  let bs := percentBytes cs
  (Codes.lossy (lossyUtf8 bs.length bs)).toList

/-- Reads a text: the runs of ASCII stand for bytes, and any other character for
itself.  `run` is the run so far, the last character first. -/
def percentRead (run : List Char) : List Char → List Char
  | [] => percentRun run.reverse
  | c :: cs =>
    if isAscii c then percentRead (c :: run) cs
    else percentRun run.reverse ++ c :: percentRead [] cs

def percentDecode (s : String) : String := String.ofList (percentRead [] s.toList)

/-- Reads a text in which a plus sign stands for a space. -/
def formDecode (s : String) : String :=
  percentDecode (String.ofList (s.toList.map fun c => if c = '+' then ' ' else c))

/-! ## Writing -/

/-- The characters that are never spelled by percent signs. -/
def isUnreserved (c : Char) : Bool :=
  c.isAlphanum || c = '_' || c = '.' || c = '-' || c = '~'

/-- The digits of a byte after a percent sign. -/
def percentSpelled (b : UInt8) : List Char := '%' :: (hex 2 b.toNat).map Char.toUpper

/-- Spells all characters by percent signs but the unreserved ones and those that are
`safe`. -/
def percentEncode (safe : List Char) (s : String) : String :=
  String.ofList (s.toList.flatMap fun c =>
    if isUnreserved c || safe.contains c then [c]
    else (String.singleton c).toUTF8.toList.flatMap percentSpelled)

/-- Spells a text so that a plus sign stands for a space. -/
def formEncode (s : String) : String :=
  String.ofList ((percentEncode [' '] s).toList.map fun c => if c = ' ' then '+' else c)

end ConnectionCatalog.Text
