import ConnectionCatalog.Number.Double

/-! # Number.Decimal — decimal texts of numbers

Writing: `Double.shortest` finds the fewest decimal digits that read back as the
same double, the nearest such decimal if there are several; `Double.significant`
rounds to a given number of digits.  Where the digits are put is a `Notation`:
which decimal exponents are written without an exponent part, and whether
trailing zeros are kept.

Reading: `Double.ofDecimal` is the double nearest to a decimal, whatever its
number of digits.
-/

namespace ConnectionCatalog

/-- The value of a string of decimal digits. -/
def digitsValue (cs : List Char) : Nat :=
  cs.foldl (fun n c => 10 * n + (c.toNat - 48)) 0

/-- The decimal digits of a natural number. -/
def digitsOf (n : Nat) : List Char := (toString n).toList

/-- Decimal digits `d₁d₂…` of a positive number d₁.d₂… · 10^exponent. -/
structure Decimal where
  digits : List Char
  exponent : Int
deriving DecidableEq, Repr

namespace Double

/-! ## Digits of a double -/

/-- The decimal exponent of `units` > 0: the power of ten of its first digit. -/
def decimalExponent (units : Nat) : Int :=
  (digitsOf (units * Nat.pow 10 400 / unitsPerOne)).length - 1 - 400

/-- `units · 10^shift` as a quotient, in ones. -/
def scaled (units : Nat) (shift : Int) : Nat × Nat :=
  if shift < 0 then (units, unitsPerOne * Nat.pow 10 shift.natAbs)
  else (units * Nat.pow 10 shift.natAbs, unitsPerOne)

/-- Digits without the zeros that end them. -/
def dropEndZeros (cs : List Char) : List Char :=
  match (cs.reverse.dropWhile (· == '0')).reverse with
  | [] => ['0']
  | ds => ds

/-- The decimal with the digits of `n`, the last of them at 10^place. -/
def decimalAt (n : Nat) (place : Int) : Decimal :=
  let ds := digitsOf n
  ⟨dropEndZeros ds, place + ds.length - 1⟩

/-- Whether `c · 10^place` reads back as the double of `units`: it lies within
half the distance to its neighbours, the ends counting if the significand is
even. -/
def readsBack (units c : Nat) (place : Int) : Bool :=
  let gap := spacing units
  let below := if units = Nat.pow 2 (bitLength units - 1) ∧ 1 < gap then gap else 2 * gap
  let even := units / gap % 2 == 0
  let p := Nat.pow 10 place.natAbs
  let (x, one) :=
    if place < 0 then (4 * c * unitsPerOne, p) else (4 * c * p * unitsPerOne, 1)
  let lo := (4 * units - below) * one
  let hi := (4 * units + 2 * gap) * one
  if even then lo ≤ x && x ≤ hi else lo < x && x < hi

/-- The nearer of the two neighbours of `units` on the grid of 10^place that read
back, if any does; halfway, the one with the even last digit. -/
def candidate? (units : Nat) (place : Int) : Option Nat :=
  let (num, den) := scaled units (-place)
  let c := num / den
  let r := num % den
  match readsBack units c place, readsBack units (c + 1) place with
  | true, true =>
    if 2 * r < den then some c
    else if den < 2 * r then some (c + 1)
    else some (if c % 2 = 0 then c else c + 1)
  | true, false => some c
  | false, true => some (c + 1)
  | false, false => none

/-- `units` > 0 rounded to `count` significant digits, halves going up. -/
def significant (count units : Nat) : Decimal :=
  let place := decimalExponent units - count + 1
  let quotient := scaled units (-place)
  decimalAt ((2 * quotient.1 + quotient.2) / (2 * quotient.2)) place

/-- The fewest digits that read back as the double of `units` > 0; seventeen
always do. -/
def shortest (units : Nat) : Decimal :=
  let exponent := decimalExponent units
  let found := (List.range 17).findSome? fun count =>
    let place := exponent - (count : Nat)
    (candidate? units place).map fun c => decimalAt c place
  found.getD (significant 17 units)

/-! ## Notation -/

/-- How a decimal is laid out: the exponents that need no exponent part, and
whether a whole number keeps its point in front of one. -/
structure Layout where
  positionalFrom : Int
  positionalBelow : Int
  pointBeforeExponent : Bool
deriving DecidableEq, Repr

/-- Numbers from 10⁻⁴ up to 10¹⁶ are written without an exponent. -/
def plainLayout : Layout := ⟨-4, 16, false⟩

/-- A decimal in a layout: a point and at least one digit after it where there is
no exponent; an exponent has a sign and at least two digits. -/
def Layout.write (l : Layout) (d : Decimal) : String :=
  let ds := d.digits
  if l.positionalFrom ≤ d.exponent ∧ d.exponent < l.positionalBelow then
    if d.exponent < 0 then
      String.ofList ("0.".toList ++ List.replicate (d.exponent.natAbs - 1) '0' ++ ds)
    else
      let whole := d.exponent.natAbs + 1
      let front := ds.take whole ++ List.replicate (whole - ds.length) '0'
      let back := ds.drop whole
      String.ofList (front ++ '.' :: (if back.isEmpty then ['0'] else back))
  else
    let back := ds.drop 1
    let mantissa :=
      if back.isEmpty then
        if l.pointBeforeExponent then ds ++ ['.', '0'] else ds
      else ds.take 1 ++ '.' :: back
    let e := digitsOf d.exponent.natAbs
    let e := if e.length < 2 then '0' :: e else e
    String.ofList (mantissa ++ 'e' :: (if d.exponent < 0 then '-' else '+') :: e)

/-- A sign in front of a text. -/
def signText (negative : Bool) (s : String) : String :=
  if negative then "-" ++ s else s

/-- The text of a double: the fewest digits that read back. -/
def toText : Double → String
  | nan => "nan"
  | infinite s => signText s "inf"
  | finite s 0 => signText s "0.0"
  | finite s (n + 1) => signText s (plainLayout.write (shortest (n + 1)))

/-! ## Reading -/

/-- The double nearest to `m · 10^e`. -/
def ofDecimal (negative : Bool) (m : Nat) (e : Int) : Double :=
  if m = 0 then finite negative 0
  else
    let size := (digitsOf m).length + e
    if 320 < size then infinite negative
    else if size < -330 then finite negative 0
    else if e < 0 then nearest negative (m * unitsPerOne) (Nat.pow 10 e.natAbs)
    else nearest negative (m * Nat.pow 10 e.natAbs * unitsPerOne) 1

end Double

/-! ## Decimal literals -/

/-- A decimal literal taken apart: a sign, the digits before and after the point,
and the exponent. -/
structure Literal where
  negative : Bool
  whole : List Char
  fraction : List Char
  exponent : Int
  /-- Neither a point nor an exponent was written. -/
  plain : Bool
deriving DecidableEq, Repr

namespace Literal

/-- An optional sign. -/
def takeSign : List Char → Bool × List Char
  | '-' :: cs => (true, cs)
  | '+' :: cs => (false, cs)
  | cs => (false, cs)

/-- The digits that a text starts with, and the rest. -/
def takeDigits (cs : List Char) : List Char × List Char :=
  (cs.takeWhile Char.isDigit, cs.dropWhile Char.isDigit)

/-- The literal that a text starts with, and the rest.  There is a digit before
or after the point, and an exponent has a digit. -/
def read? (cs : List Char) : Option (Literal × List Char) :=
  let (negative, cs) := takeSign cs
  let (whole, cs) := takeDigits cs
  let (point, fraction, cs) :=
    match cs with
    | '.' :: rest => (true, takeDigits rest)
    | _ => (false, [], cs)
  if whole.isEmpty && fraction.isEmpty then none
  else
    match cs with
    | e :: rest =>
      if e = 'e' ∨ e = 'E' then
        let (negativeExponent, rest) := takeSign rest
        let (ds, rest) := takeDigits rest
        if ds.isEmpty then some (⟨negative, whole, fraction, 0, !point⟩, cs)
        else
          let n : Int := digitsValue ds
          some (⟨negative, whole, fraction, if negativeExponent then -n else n, false⟩, rest)
      else some (⟨negative, whole, fraction, 0, !point⟩, cs)
    | [] => some (⟨negative, whole, fraction, 0, !point⟩, [])

/-- The double nearest to a literal. -/
def toDouble (l : Literal) : Double :=
  Double.ofDecimal l.negative (digitsValue (l.whole ++ l.fraction))
    (l.exponent - l.fraction.length)

/-- The whole number that a plain literal writes. -/
def toInt (l : Literal) : Int := Double.signed l.negative (digitsValue l.whole)

end Literal

/-- Reads a double: a literal, an infinity or a text for what is not a number. -/
def Double.ofText? (s : String) : Option Double :=
  match Literal.read? s.toList with
  | some (l, []) => some l.toDouble
  | _ =>
    let (negative, cs) := Literal.takeSign s.toList
    match String.ofList cs with
    | "inf" => some (.infinite negative)
    | "nan" => some .nan
    | _ => none

end ConnectionCatalog
