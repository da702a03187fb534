import QueryDispatch.Number.Modular

/-! # Elliptic curves

  The curves `y² = x³ - 3x + b` over a prime field that keys are made of. A
  private key is a number, and its public key is that multiple of the base
  point.
-/

namespace QueryDispatch

/-- A point of a curve: its coordinates, or none for the point at infinity. -/
abbrev CurvePoint := Option (Nat × Nat)

/-- A curve with a base point. Sums of points do not depend on `b`. -/
structure Curve where
  prime : Nat
  /-- How often the base point can be added before the multiples come around. -/
  order : Nat
  baseX : Nat
  baseY : Nat

namespace Curve

/-- The sum of two points: the line through them, or the tangent, meets the curve once more. -/
def add (c : Curve) : CurvePoint → CurvePoint → CurvePoint
  | none, q => q
  | p, none => p
  | some (x₁, y₁), some (x₂, y₂) =>
    if x₁ = x₂ ∧ (y₁ + y₂) % c.prime = 0 then none
    else
      let slope :=
        if x₁ = x₂ then divMod (subMod (3 * x₁ * x₁) 3 c.prime) (2 * y₁) c.prime
        else divMod (subMod y₂ y₁ c.prime) (subMod x₂ x₁ c.prime) c.prime
      let x := subMod (slope * slope) (x₁ + x₂) c.prime
      some (x, subMod (slope * subMod x₁ x c.prime) y₁ c.prime)

/-- A multiple of a point, by repeated doubling. -/
def times (c : Curve) (n : Nat) (p : CurvePoint) : CurvePoint :=
  if n = 0 then none
  else
    let half := c.times (n / 2) p
    let double := c.add half half
    if n % 2 = 0 then double else c.add double p
termination_by n
decreasing_by omega

/-- The public key of a private one. -/
def publicKey (c : Curve) (secret : Nat) : CurvePoint := c.times secret (some (c.baseX, c.baseY))

/-- How many bytes a coordinate has. -/
def size (c : Curve) : Nat := (bitLength c.prime + 7) / 8

/-- The curve over 256 bits. -/
def p256 : Curve where
  prime := Nat.pow 2 256 - Nat.pow 2 224 + Nat.pow 2 192 + Nat.pow 2 96 - 1
  order := 0xffffffff00000000ffffffffffffffffbce6faada7179e84f3b9cac2fc632551
  baseX := 0x6b17d1f2e12c4247f8bce6e563a440f277037d812deb33a0f4a13945d898c296
  baseY := 0x4fe342e2fe1a7f9b8ee7eb4a7c0f9e162bce33576b315ececbb6406837bf51f5

/-- The curve over 384 bits. -/
def p384 : Curve where
  prime := Nat.pow 2 384 - Nat.pow 2 128 - Nat.pow 2 96 + Nat.pow 2 32 - 1
  order := 0xffffffffffffffffffffffffffffffffffffffffffffffffc7634d81f4372ddf581a0db248b0a77aecec196accc52973
  baseX := 0xaa87ca22be8b05378eb1c71ef320ad746e1d3b628ba79b9859f741e082542a385502f25dbf55296c3a545e3872760ab7
  baseY := 0x3617de4a96262c6f5d9e98bf9292dc29f8f41dbd289a147ce9da3113b5f0b8c00a60b1ce1d7e819d7a431d7c90ea0e5f

end Curve

end QueryDispatch
