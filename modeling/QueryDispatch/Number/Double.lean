/-! # Double-precision numbers

  A finite double is a sign, a mantissa and a power of two, kept as exact
  integers: its value is `± mantissa · 2 ^ exponent`. Every operation works on
  exact ratios and rounds once, to the nearest double, a tie going to the even
  mantissa. Values too large for a finite double have no result.
-/

namespace QueryDispatch

/-- A finite double. Values built here have `mantissa < 2 ^ 53` and
    `-1074 ≤ exponent ≤ 971`, and a mantissa below `2 ^ 52` only at the lowest exponent. -/
structure Double where
  /-- The sign; zero has one too. -/
  negative : Bool
  /-- The whole number that is scaled. -/
  mantissa : Nat
  /-- The power of two it is scaled by. -/
  exponent : Int
  deriving DecidableEq, Repr

namespace Double

/-- Zero with a sign. -/
def zero (negative : Bool) : Double := ⟨negative, 0, -1074⟩

/-- Whether the value is zero, of either sign. -/
def isZero (d : Double) : Bool := d.mantissa == 0

/-- The numerator of the absolute value. -/
def numerator (d : Double) : Nat := d.mantissa * Nat.pow 2 d.exponent.toNat

/-- The denominator of the absolute value. -/
def denominator (d : Double) : Nat := Nat.pow 2 (-d.exponent).toNat

/-- The value with its sign turned. -/
def neg (d : Double) : Double := { d with negative := !d.negative }

/-! ### Rounding -/

/-- The whole number nearest to `num / den`; of two equally near ones the even one. -/
def roundHalfEven (num den : Nat) : Nat :=
  let q := num / den
  let twice := 2 * (num % den)
  if twice < den then q
  else if den < twice then q + 1
  else if q % 2 = 0 then q else q + 1

/-- The greatest `k` with `2 ^ k ≤ num / den`, for positive `num` and `den`. -/
def floorLog2 (num den : Nat) : Int :=
  let k : Int := (num.log2 : Int) - (den.log2 : Int)
  if den * Nat.pow 2 k.toNat ≤ num * Nat.pow 2 (-k).toNat then k else k - 1

/-- The double nearest to `± num / den`, or `none` beyond the largest finite double. -/
def ofRatio (negative : Bool) (num den : Nat) : Option Double :=
  if num = 0 then some (zero negative)
  else
    let e : Int := max (floorLog2 num den - 52) (-1074)
    let q := roundHalfEven (num * Nat.pow 2 (-e).toNat) (den * Nat.pow 2 e.toNat)
    let (m, e) := if q = Nat.pow 2 53 then (Nat.pow 2 52, e + 1) else (q, e)
    if 971 < e then none else some ⟨negative, m, e⟩

/-- The double nearest to an integer. -/
def ofInt (i : Int) : Option Double := ofRatio (i < 0) i.natAbs 1

/-- The double nearest to a product. -/
def mul (a b : Double) : Option Double :=
  ofRatio (a.negative != b.negative) (a.numerator * b.numerator)
    (a.denominator * b.denominator)

/-- The double nearest to a quotient; a zero divisor gives none. -/
def div (a b : Double) : Option Double :=
  if b.mantissa = 0 then none
  else ofRatio (a.negative != b.negative) (a.numerator * b.denominator)
    (a.denominator * b.numerator)

/-- How many decimal digits a number is written with. -/
def decimalLength (n : Nat) : Nat := (Nat.toDigits 10 n).length

/-- The double nearest to `± digits · 10 ^ scale`. Scales far outside the range of doubles are
    answered without computing the power. -/
def ofDecimal (negative : Bool) (digits : Nat) (scale : Int) : Option Double :=
  if digits = 0 then some (zero negative)
  else if 400 < scale then none
  else if (decimalLength digits : Int) + scale < -400 then some (zero negative)
  else ofRatio negative (digits * Nat.pow 10 scale.toNat) (Nat.pow 10 (-scale).toNat)

/-! ### Whole numbers -/

/-- The value cut to a whole number, toward zero. -/
def truncate (d : Double) : Int :=
  let n : Int := (d.numerator / d.denominator : Nat)
  if d.negative then -n else n

/-- The greatest whole number that is not above the value. -/
def floor (d : Double) : Int :=
  let n : Int := d.numerator
  (if d.negative then -n else n) / (d.denominator : Int)

/-- How far the value is above its floor, rounded to a double. -/
def aboveFloor (d : Double) : Option Double :=
  let n : Int := d.numerator
  ofRatio false ((if d.negative then -n else n) % (d.denominator : Int)).toNat d.denominator

/-- The whole number nearest to the absolute value; of two equally near ones the greater one. -/
def roundHalfUp (d : Double) : Nat := (2 * d.numerator + d.denominator) / (2 * d.denominator)

end Double

end QueryDispatch
