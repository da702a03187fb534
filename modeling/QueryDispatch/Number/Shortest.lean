import QueryDispatch.Number.Double

/-! # Shortest decimal texts

  The decimal digits of a double are the fewest that still round back to it,
  and of those the nearest to its value. How the digits are laid out (where
  the point goes, when an exponent is written) is a `Layout`.
-/

namespace QueryDispatch

/-- A decimal value `digits · 10 ^ scale`. -/
structure Decimal where
  /-- The digits read as one whole number. -/
  digits : Nat
  /-- The power of ten of the last digit. -/
  scale : Int
  deriving DecidableEq, Repr

namespace Double

/-- The position of the decimal point: the `p` with `10 ^ (p - 1) ≤ value < 10 ^ p`. -/
def pointPosition (d : Double) : Int :=
  (decimalLength (d.numerator * Nat.pow 10 350 / d.denominator) : Int) - 350

/-- The multiple of `10 ^ scale` that rounds back to the double, if there is one: one of the two
    neighbours of the value on that grid, the nearer of the two if both do, the even one if they
    are equally near. -/
def onGrid (d : Double) (scale : Int) : Option Decimal :=
  let up := Nat.pow 2 (d.exponent - 2).toNat * Nat.pow 10 (-scale).toNat
  let down := Nat.pow 2 (2 - d.exponent).toNat * Nat.pow 10 scale.toNat
  let below := if d.mantissa = Nat.pow 2 52 ∧ -1074 < d.exponent then 1 else 2
  let value := 4 * d.mantissa * up
  let low := (4 * d.mantissa - below) * up
  let high := (4 * d.mantissa + 2) * up
  let roundsBack (n : Nat) : Bool :=
    if d.mantissa % 2 = 0 then low ≤ n * down && n * down ≤ high
    else low < n * down && n * down < high
  let a := value / down
  match roundsBack a, roundsBack (a + 1) with
  | true, false => some ⟨a, scale⟩
  | false, true => some ⟨a + 1, scale⟩
  | false, false => none
  | true, true =>
    let toA := value - a * down
    let toNext := (a + 1) * down - value
    if toA < toNext then some ⟨a, scale⟩
    else if toNext < toA then some ⟨a + 1, scale⟩
    else if a % 2 = 0 then some ⟨a, scale⟩ else some ⟨a + 1, scale⟩

/-- The shortest decimal of a nonzero double: the first grid, from one digit upwards, on which some
    multiple rounds back. Seventeen digits always suffice. -/
def shortest (d : Double) : Decimal :=
  let p := d.pointPosition
  ((List.range 17).findSome? fun (n : Nat) => d.onGrid (p - n - 1)).getD ⟨0, 0⟩

end Double

/-- The digits of a decimal without trailing zeros, and the position of the point behind them:
    the value is `0.digits · 10 ^ position`. -/
def Decimal.significant (x : Decimal) : List Char × Int :=
  let all := Nat.toDigits 10 x.digits
  let kept := (all.reverse.dropWhile (· == '0')).reverse
  (kept, (all.length : Int) + x.scale)

/-- How the digits of a double are laid out. -/
structure Layout where
  /-- Positional notation is used for points after this position. -/
  positionalAfter : Int
  /-- Positional notation is used for points up to this position. -/
  positionalUpTo : Int
  /-- Whole values end in `.0`. -/
  showsPoint : Bool
  /-- Positive exponents are written with a `+`. -/
  showsPlus : Bool

namespace Layout

/-- Digits around a decimal point at `p`, filled up with zeros. -/
def positional (layout : Layout) (digits : List Char) (p : Int) : List Char :=
  if p ≤ 0 then '0' :: '.' :: (List.replicate (-p).toNat '0' ++ digits)
  else
    let whole := p.toNat
    if digits.length ≤ whole then
      digits ++ List.replicate (whole - digits.length) '0' ++
        (if layout.showsPoint then ['.', '0'] else [])
    else digits.take whole ++ '.' :: digits.drop whole

/-- One digit, the rest behind a point, and the power of ten. -/
def scientific (layout : Layout) (digits : List Char) (p : Int) : List Char :=
  let e := p - 1
  let mantissa := match digits with
    | [] => ['0']
    | [c] => [c]
    | c :: rest => c :: '.' :: rest
  let sign := if e < 0 then ['-'] else if layout.showsPlus then ['+'] else []
  mantissa ++ 'e' :: (sign ++ Nat.toDigits 10 e.natAbs)

/-- The text of a double. -/
def render (layout : Layout) (d : Double) : String :=
  let sign := if d.negative then ['-'] else []
  let body :=
    if d.isZero then (if layout.showsPoint then ['0', '.', '0'] else ['0'])
    else
      let (digits, p) := d.shortest.significant
      if layout.positionalAfter < p ∧ p ≤ layout.positionalUpTo then layout.positional digits p
      else layout.scientific digits p
  String.ofList (sign ++ body)

/-- Numbers in JSON: positional from `0.00001` up to sixteen digits before the point, always with a
    point there; otherwise an exponent with its sign. -/
def json : Layout := ⟨-5, 16, true, true⟩

/-- Numbers written out in full, without an exponent and without a point after a whole value. -/
def plain : Layout := ⟨-400, 400, false, false⟩

end Layout

end QueryDispatch
