import ConnectionCatalog.Number.Decimal

/-! # Number.Number — whole numbers of any size and doubles, together

The two kinds of number are compared by value, exactly: no whole number is
rounded to be compared with a double.
-/

namespace ConnectionCatalog

/-- A number: a whole number of any size or a double. -/
inductive Number
  | whole (n : Int)
  | real (d : Double)
deriving DecidableEq, Repr

/-- Why a number does not turn into one of the other kind, or into a text. -/
inductive NumberFault
  | notANumber
  | infinite
  | tooLarge
  | tooManyDigits
deriving DecidableEq, Repr

namespace Number

/-- Equality of values. -/
def same : Number → Number → Bool
  | whole m, whole n => m == n
  | whole m, real (.finite s n) => Double.placeOfInt m == Double.signed s n
  | real (.finite s n), whole m => Double.signed s n == Double.placeOfInt m
  | real a, real b => a.same b
  | _, _ => false

/-- Order of values. -/
def lt : Number → Number → Bool
  | whole m, whole n => m < n
  | whole m, real (.finite s n) => Double.placeOfInt m < Double.signed s n
  | real (.finite s n), whole m => Double.signed s n < Double.placeOfInt m
  | whole _, real (.infinite s) => !s
  | real (.infinite s), whole _ => s
  | real a, real b => a.lt b
  | _, _ => false

def le (a b : Number) : Bool := a.lt b || a.same b

@[simp] theorem real_le_real (a b : Double) : (real a).le (real b) = a.le b := by
  rw [Bool.eq_iff_iff]
  cases ha : a.place? <;> cases hb : b.place? <;>
    simp [le, lt, same, Double.lt, Double.same, Double.le, ha, hb, Int.le_iff_lt_or_eq]

/-! ## Words -/

/-- The whole numbers of 64 bits with a sign lie below this bound, and not below its
negative. -/
def wordBound : Int := 9223372036854775808

/-- Whether a whole number fits into 64 bits with a sign. -/
def fitsWord (n : Int) : Bool := -wordBound ≤ n && n < wordBound

/-! ## From one kind to the other -/

/-- A number as a double, unless it is too large to be one. -/
def toDouble? : Number → Option Double
  | whole n => Double.ofInt? n
  | real d => some d

/-- A number without its fraction; it has to be finite. -/
def wholePart : Number → Except NumberFault Int
  | whole n => .ok n
  | real .nan => .error .notANumber
  | real (.infinite _) => .error .infinite
  | real (.finite s n) => .ok (Double.signed s (n / Double.unitsPerOne))

end Number
end ConnectionCatalog
