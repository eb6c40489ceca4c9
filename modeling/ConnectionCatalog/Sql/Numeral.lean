import ConnectionCatalog.Number.Decimal
import ConnectionCatalog.Number.Extended

/-! # Sql.Numeral — numbers as texts in a database

A database reads and writes doubles step by step with significands of 64 bits.  Each
step rounds, so that the last digits may differ from those of the exact value.

Reading takes up digits until 64 bits are full and then scales by a power of ten.  Writing
scales into the range from one to ten, adds half a unit of the fifteenth digit and takes
fifteen digits off.
-/

namespace ConnectionCatalog.Sql.Numeral

/-- The largest whole number of a cell. -/
def largestWhole : Nat := Nat.pow 2 63 - 1

/-! ## Reading -/

/-- From here on a further digit need not fit. -/
def full : Nat := (largestWhole - 9) / 10

/-- Takes up digits before the point; those that are left over when no more fit are
counted. -/
def takeWhole : Nat → List Char → Nat × Nat
  | s, [] => (s, 0)
  | s, c :: cs =>
    let s := 10 * s + digitsValue [c]
    if full ≤ s then (s, cs.length) else takeWhole s cs

/-- Takes up digits behind the point as long as they fit, and counts them. -/
def takeFraction : Nat → List Char → Nat × Nat
  | s, [] => (s, 0)
  | s, c :: cs =>
    if s < full then
      let (s, count) := takeFraction (10 * s + digitsValue [c]) cs
      (s, count + 1)
    else (s, 0)

/-- An exponent as far as it is read: one of more than five digits is cut down. -/
def readExponent (e : Int) : Int := if 99999 < e.natAbs then 10000 * e.sign else e

/-- Multiplies by ten up to `e` times, as long as the product fits; gives what is left
of `e`. -/
def raise : Nat → (e : Nat) → Nat × Nat
  | s, 0 => (s, 0)
  | s, e + 1 => if largestWhole / 10 ≤ s then (s, e + 1) else raise (10 * s) e

/-- Divides by ten up to `e` times, as long as that leaves no rest; gives what is left
of `e`. -/
def lower : Nat → (e : Nat) → Nat × Nat
  | s, 0 => (s, 0)
  | s, e + 1 => if s % 10 = 0 then lower (s / 10) e else (s, e + 1)

/-- The powers of ten beyond this one need a second step. -/
def farthest : Nat := 308

/-- The double `10^farthest`. -/
def farthestUnits : Nat :=
  match Double.ofDecimal false 1 farthest with
  | .finite _ units => units
  | _ => 1

/-- `s · 10^e`, of a positive number. -/
def scaleUp (negative : Bool) (s e : Nat) : Double :=
  if e < farthest then ((Extended.ofNat s).mul (Extended.tenTo e)).toDouble negative
  else if e < 342 then
    match ((Extended.ofNat s).mul (Extended.tenTo (e - farthest))).toDouble negative with
    | .finite _ units => Double.nearest negative (units * farthestUnits) Double.unitsPerOne
    | d => d
  else .infinite negative

/-- `s / 10^e`, of a positive number. -/
def scaleDown (negative : Bool) (s e : Nat) : Double :=
  if e < farthest then ((Extended.ofNat s).div (Extended.tenTo e)).toDouble negative
  else if e < 342 then
    match ((Extended.ofNat s).div (Extended.tenTo (e - farthest))).toDouble negative with
    | .finite _ units => Double.nearest negative (units * Double.unitsPerOne) farthestUnits
    | d => d
  else .finite negative 0

/-- The double that is read for `s · 10^e`. -/
def scaled (negative : Bool) (s : Nat) (e : Int) : Double :=
  if s = 0 then .finite negative 0
  else if 0 ≤ e then
    let (s, e) := raise s e.natAbs
    scaleUp negative s e
  else
    let (s, e) := lower s e.natAbs
    scaleDown negative s e

/-- The double that is read for a literal. -/
def toDouble (l : Literal) : Double :=
  let (s, skipped) := takeWhole 0 l.whole
  let (s, count) := takeFraction s l.fraction
  scaled l.negative s (readExponent l.exponent + skipped - count)

/-! ## Writing -/

/-- The size of the double nearest to `m · 10^e`. -/
def constant (m : Nat) (e : Int) : Extended := Extended.ofDouble (Double.ofDecimal false m e)

/-- Multiplies a scale by `10^places` as long as `x` is not below it then, and adds the
places to an exponent. -/
def grow (x : Extended) (places : Nat) :
    (steps : Nat) → Extended → Int → Extended × Int
  | 0, scale, exponent => (scale, exponent)
  | steps + 1, scale, exponent =>
    let next := (constant 1 places).mul scale
    if next.le x then grow x places steps next (exponent + places) else (scale, exponent)

/-- Multiplies `x` by `10^places` as long as it is below a bound, and takes the places off
an exponent. -/
def shrink (bound : Extended) (places : Nat) :
    (steps : Nat) → Extended → Int → Extended × Int
  | 0, x, exponent => (x, exponent)
  | steps + 1, x, exponent =>
    if bound.le x then (x, exponent)
    else shrink bound places steps (x.mul (constant 1 places)) (exponent - places)

/-- A positive number scaled into the range from one to ten, and its decimal exponent.
Scaling takes at most a dozen steps of a hundred, ten and one place, and small numbers at
most fifty of eight. -/
def normalize (x : Extended) : Extended × Int :=
  let (scale, exponent) := grow x 100 12 (.ofNat 1) 0
  let (scale, exponent) := grow x 10 12 scale exponent
  let (scale, exponent) := grow x 1 12 scale exponent
  let (x, exponent) := shrink (constant 1 (-8)) 8 50 (x.div scale) exponent
  shrink (.ofNat 1) 1 12 x exponent

/-- Half a unit of the fifteenth digit: the product of two doubles. -/
def rounder : Extended :=
  match Double.ofDecimal false 5 (-5), Double.ofDecimal false 1 (-10) with
  | .finite _ m, .finite _ n => .ofDouble (Double.nearest false (m * n) Double.unitsPerOne)
  | _, _ => .ofNat 0

/-- The digits of a number below ten. -/
def takeDigits : (count : Nat) → Extended → List Char
  | 0, _ => []
  | count + 1, x =>
    let digit := x.floor
    digitsOf digit ++ takeDigits count ((x.sub (.ofNat digit)).mul (.ofNat 10))

/-- The fifteen digits of a positive number, without the zeros that end them. -/
def fifteenDigits (x : Extended) : Decimal :=
  let (x, exponent) := normalize x
  let x := x.add rounder
  let (x, exponent) :=
    if (Extended.ofNat 10).le x then (x.mul (constant 1 (-1)), exponent + 1) else (x, exponent)
  ⟨Double.dropEndZeros (takeDigits 15 x), exponent⟩

/-- Numbers from 10⁻⁴ up to 10¹⁵ are written without an exponent, and there is
always a point. -/
def layout : Double.Layout := ⟨-4, 15, true⟩

/-- The text of a double; a zero has no sign. -/
def write : Double → String
  | .nan => ""
  | .infinite s => Double.signText s "Inf"
  | .finite _ 0 => "0.0"
  | .finite s (n + 1) => Double.signText s (layout.write (fifteenDigits (.ofUnits (n + 1))))

end ConnectionCatalog.Sql.Numeral
