import ConnectionCatalog.Number.Decimal

/-! # Number.Rounded — numbers with a given number of digits

A double rounded to so many digits after the point, or to so many significant
digits; halfway, the last digit is even.  The texts have no sign.  A point that no
digit follows is written only if asked for.
-/

namespace ConnectionCatalog

/-- A number with zeros in front, up to a width. -/
def padded (width n : Nat) : String :=
  let s := toString n
  String.ofList (List.replicate (width - s.length) '0') ++ s

namespace Double

/-! ## Points -/

/-- Digits before and after a point. -/
def withPoint (keepPoint : Bool) (whole fraction : List Char) : List Char :=
  if fraction.isEmpty && !keepPoint then whole else whole ++ '.' :: fraction

/-- Digits without the zeros at their end. -/
def withoutEndZeros (cs : List Char) : List Char := (cs.reverse.dropWhile (· == '0')).reverse

/-- An exponent: its sign and at least two digits. -/
def exponentPart (e : Int) : List Char :=
  'e' :: (if e < 0 then '-' else '+') :: (padded 2 e.natAbs).toList

/-! ## Rounding -/

/-- So many digits of `units`, which are zeros for no units. -/
def rounded (count units : Nat) : Decimal :=
  if units = 0 then ⟨List.replicate count '0', 0⟩
  else
    let place := decimalExponent units - count + 1
    let (num, den) := scaled units (-place)
    let ds := digitsOf (roundHalfEven num den)
    ⟨ds.take count, place + ds.length - 1⟩

/-- So many digits after the point. -/
def fixedText (places : Nat) (keepPoint : Bool) (units : Nat) : String :=
  let one := Nat.pow 10 places
  let n := roundHalfEven (units * one) unitsPerOne
  let fraction := if places = 0 then [] else (padded places (n % one)).toList
  String.ofList (withPoint keepPoint (digitsOf (n / one)) fraction)

/-- One digit before the point, so many after it, and an exponent. -/
def scientificText (places : Nat) (keepPoint : Bool) (units : Nat) : String :=
  let d := rounded (places + 1) units
  String.ofList (withPoint keepPoint (d.digits.take 1) (d.digits.drop 1) ++ exponentPart d.exponent)

/-- So many significant digits, one at least, with an exponent where the number is
below 10⁻⁴ or has more digits before the point than that.  Zeros at the end and the
point in front of them are written only if asked for. -/
def generalText (count : Nat) (keepPoint : Bool) (units : Nat) : String :=
  let count := max count 1
  let d := rounded count units
  let trimmed := fun fraction => if keepPoint then fraction else withoutEndZeros fraction
  String.ofList <|
    if d.exponent < -4 ∨ count ≤ d.exponent then
      withPoint keepPoint (d.digits.take 1) (trimmed (d.digits.drop 1)) ++ exponentPart d.exponent
    else if d.exponent < 0 then
      withPoint keepPoint ['0']
        (trimmed (List.replicate (d.exponent.natAbs - 1) '0' ++ d.digits))
    else
      let whole := d.exponent.natAbs + 1
      withPoint keepPoint (d.digits.take whole) (trimmed (d.digits.drop whole))

end Double
end ConnectionCatalog
