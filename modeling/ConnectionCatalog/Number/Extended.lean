import ConnectionCatalog.Number.Double

/-! # Number.Extended — numbers with a significand of 64 bits

Arithmetic that keeps more digits than a double does.  A number is a whole number times
a power of two; every operation is exact and then rounded in one place,
`Extended.nearest`, to 64 binary digits, halfway to the even one.  There are no signs, and
exponents have no bounds.
-/

namespace ConnectionCatalog

/-- The number `significand · 2^exponent`. -/
structure Extended where
  significand : Nat
  exponent : Int
deriving DecidableEq, Repr

namespace Extended

/-- The least significand that has too many digits. -/
def overflow : Nat := Nat.pow 2 64

/-- The quotient `num / den / 2^shift`. -/
def shifted (num den : Nat) (shift : Int) : Nat × Nat :=
  if shift < 0 then (num * Nat.pow 2 shift.natAbs, den) else (num, den * Nat.pow 2 shift.natAbs)

/-- The number `num / den · 2^exponent`, rounded.  The numbers of digits of `num` and `den`
tell where the quotient has 64 digits or 65; if it has 65, it is shifted by one more. -/
def nearest (num den : Nat) (exponent : Int) : Extended :=
  let least : Int := Double.bitLength num - Double.bitLength den - 64
  let (n, d) := shifted num den least
  let shift := if n / d < overflow then least else least + 1
  let (n, d) := shifted num den shift
  ⟨Double.roundHalfEven n d, exponent + shift⟩

/-- A natural number; it has at most 64 digits. -/
def ofNat (n : Nat) : Extended := ⟨n, 0⟩

/-- The number of so many of the units in which doubles are counted. -/
def ofUnits (units : Nat) : Extended := nearest units 1 (-1074)

/-- The size of a double that is finite. -/
def ofDouble : Double → Extended
  | .finite _ units => ofUnits units
  | _ => ofNat 0

/-- The nearest double. -/
def toDouble (negative : Bool) (x : Extended) : Double :=
  let shift := x.exponent + 1074
  if shift < 0 then Double.nearest negative x.significand (Nat.pow 2 shift.natAbs)
  else Double.nearest negative (x.significand * Nat.pow 2 shift.natAbs) 1

/-! ## Arithmetic -/

def mul (x y : Extended) : Extended :=
  nearest (x.significand * y.significand) 1 (x.exponent + y.exponent)

def div (x y : Extended) : Extended :=
  nearest x.significand y.significand (x.exponent - y.exponent)

/-- The significand of a number whose exponent is lowered. -/
def alignedTo (exponent : Int) (x : Extended) : Nat :=
  x.significand * Nat.pow 2 (x.exponent - exponent).natAbs

/-- The lower of two exponents, and the significands of both numbers with it. -/
def align (x y : Extended) : Int × Nat × Nat :=
  let exponent := min x.exponent y.exponent
  (exponent, x.alignedTo exponent, y.alignedTo exponent)

def add (x y : Extended) : Extended :=
  let (exponent, m, n) := x.align y
  nearest (m + n) 1 exponent

/-- The difference to a number that is not larger. -/
def sub (x y : Extended) : Extended :=
  let (exponent, m, n) := x.align y
  nearest (m - n) 1 exponent

def le (x y : Extended) : Bool :=
  let (_, m, n) := x.align y
  m ≤ n

/-- The whole part. -/
def floor (x : Extended) : Nat :=
  if x.exponent < 0 then x.significand / Nat.pow 2 x.exponent.natAbs
  else x.significand * Nat.pow 2 x.exponent.natAbs

/-- The product of `r` and a power of `x`, which is squared for each binary digit of
`n`. -/
def timesPower (r x : Extended) (n : Nat) : Extended :=
  let r := if n % 2 = 1 then r.mul x else r
  if n < 2 then r else timesPower r (x.mul x) (n / 2)
termination_by n

/-- A power of ten. -/
def tenTo (n : Nat) : Extended := timesPower (ofNat 1) (ofNat 10) n

end Extended
end ConnectionCatalog
