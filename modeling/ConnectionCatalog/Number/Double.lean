/-! # Number.Double — double precision numbers as exact multiples of one unit

Every finite double is a whole number of units of 2⁻¹⁰⁷⁴.  A `Double` keeps that
number together with a sign (zero has two of them), so that comparing and adding
doubles is arithmetic on integers, and rounding happens in one place,
`Double.nearest`: the quotient of two natural numbers, in units, is taken to the
nearest double, and halfway to the one with the even significand.

Main statements: `Double.le_trans`; comparison is transitive.  `Double.sub_ne_nan`; the
difference of two finite doubles is a number.
-/

namespace ConnectionCatalog

/-- A double precision number. `finite s n` is n units of 2⁻¹⁰⁷⁴, negated if `s`. -/
inductive Double
  | nan
  | infinite (negative : Bool)
  | finite (negative : Bool) (units : Nat)
deriving DecidableEq, Repr

namespace Double

/-- The number of units in one. -/
def unitsPerOne : Nat := Nat.pow 2 1074

/-- The least number of units that is too large for a finite double. -/
def overflow : Nat := Nat.pow 2 2098

def zero : Double := finite false 0

/-- The number of binary digits. -/
def bitLength (n : Nat) : Nat := if n = 0 then 0 else n.log2 + 1

/-- The distance of a double of `n` units to the next larger one. -/
def spacing (n : Nat) : Nat := Nat.pow 2 (bitLength n - 53)

/-- The nearest whole number to `num / den`; halfway, the even one. -/
def roundHalfEven (num den : Nat) : Nat :=
  let q := num / den
  let r := num % den
  if 2 * r > den || (2 * r == den && q % 2 == 1) then q + 1 else q

/-- The double nearest to `num / den` units; halfway, the one with the even
significand. -/
def nearest (negative : Bool) (num den : Nat) : Double :=
  let gap := spacing (num / den)
  let units := roundHalfEven num (den * gap) * gap
  if units < overflow then finite negative units else infinite negative

theorem nearest_ne_nan (negative : Bool) (num den : Nat) : nearest negative num den ≠ nan := by
  simp only [nearest]
  split <;> simp

/-- A whole number as a double, unless it is too large to be one. -/
def ofInt? (n : Int) : Option Double :=
  match nearest (n < 0) (n.natAbs * unitsPerOne) 1 with
  | infinite _ => none
  | d => some d

/-- A natural number as a double. -/
def ofNat (n : Nat) : Double := nearest false (n * unitsPerOne) 1

/-! ## Signs and whole parts -/

def isNegative : Double → Bool
  | nan => false
  | infinite s => s
  | finite s _ => s

def neg : Double → Double
  | nan => nan
  | infinite s => infinite (!s)
  | finite s n => finite (!s) n

/-- Signed units. -/
def signed (negative : Bool) (units : Nat) : Int :=
  if negative then -(units : Int) else units

/-- The whole part: the fraction is cut off. -/
def truncate? : Double → Option Int
  | finite s n => some (signed s (n / unitsPerOne))
  | _ => none

/-- Whether a number has no fraction. -/
def isWhole : Double → Bool
  | finite _ n => n % unitsPerOne == 0
  | _ => false

/-! ## Order -/

/-- The place of a double on the line of units.  The infinities lie beyond all
finite doubles, whose units are fewer than `overflow`, and what is not a number
has no place. -/
def place? : Double → Option Int
  | nan => none
  | infinite s => some (signed s overflow)
  | finite s n => some (signed s (min n (overflow - 1)))

/-- The place of a whole number on the line of units. -/
def placeOfInt (n : Int) : Int := n * unitsPerOne

def le (a b : Double) : Bool :=
  match a.place?, b.place? with
  | some x, some y => x ≤ y
  | _, _ => false

def lt (a b : Double) : Bool :=
  match a.place?, b.place? with
  | some x, some y => x < y
  | _, _ => false

/-- Numeric equality: the two zeros are equal, and what is not a number equals
nothing. -/
def same (a b : Double) : Bool :=
  match a.place?, b.place? with
  | some x, some y => x == y
  | _, _ => false

theorem le_trans {a b c : Double} (hab : a.le b = true) (hbc : b.le c = true) :
    a.le c = true := by
  unfold le at *
  cases ha : a.place? <;> cases hb : b.place? <;> cases hc : c.place? <;> simp_all
  omega

theorem signed_le (negative : Bool) (units : Nat) : signed negative units ≤ units := by
  cases negative with
  | false => exact Int.le_refl _
  | true =>
    change -(units : Int) ≤ units
    omega

theorem place?_le_overflow {a : Double} {x : Int} (h : a.place? = some x) : x ≤ overflow := by
  cases a with
  | nan => cases h
  | infinite s =>
    obtain rfl := Option.some.inj h
    exact signed_le s overflow
  | finite s n =>
    obtain rfl := Option.some.inj h
    have hmin : min n (overflow - 1) ≤ overflow :=
      Nat.le_trans (Nat.min_le_right _ _) (Nat.sub_le _ _)
    exact Int.le_trans (signed_le s _) (Int.ofNat_le.2 hmin)

/-- Above all doubles that are numbers lies the positive infinity. -/
theorem le_infinite_iff {a : Double} : a.le (infinite false) = true ↔ a ≠ nan := by
  constructor
  · rintro h rfl
    cases h
  · intro h
    obtain ⟨x, hx⟩ : ∃ x, a.place? = some x := by
      cases a with
      | nan => exact absurd rfl h
      | infinite s => exact ⟨_, rfl⟩
      | finite s n => exact ⟨_, rfl⟩
    rw [le, hx]
    exact decide_eq_true (place?_le_overflow hx)

/-! ## Addition -/

/-- The sum, rounded to the nearest double.  Opposite infinities have no sum, and
a sum of zero is negative only if both terms are. -/
def add (a b : Double) : Double :=
  match a, b with
  | nan, _ => nan
  | _, nan => nan
  | infinite s, infinite t => if s = t then infinite s else nan
  | infinite s, finite _ _ => infinite s
  | finite _ _, infinite t => infinite t
  | finite s m, finite t n =>
    let sum := signed s m + signed t n
    if sum = 0 then finite (s && t) 0
    else nearest (sum < 0) sum.natAbs 1

def sub (a b : Double) : Double := a.add b.neg

/-- Whether a double is a finite number. -/
def isFinite : Double → Bool
  | finite _ _ => true
  | _ => false

/-- Finite numbers have a difference, if only an infinite one. -/
theorem sub_ne_nan {a b : Double} (ha : a.isFinite = true) (hb : b.isFinite = true) :
    a.sub b ≠ nan := by
  cases a with
  | nan => cases ha
  | infinite s => cases ha
  | finite s m =>
    cases b with
    | nan => cases hb
    | infinite t => cases hb
    | finite t n =>
      simp only [sub, neg, add]
      split
      · simp
      · exact nearest_ne_nan _ _ _

end Double
end ConnectionCatalog
