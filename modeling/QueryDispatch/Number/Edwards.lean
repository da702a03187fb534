import QueryDispatch.Digest.Sha512
import QueryDispatch.Number.Modular

/-! # The Edwards curve

  The curve `y² - x² = 1 + d x² y²` over the field of `2²⁵⁵ - 19` elements, on
  which a private key is 32 arbitrary bytes. The multiple that makes the public
  key comes from their digest.
-/

namespace QueryDispatch.Edwards

/-- The size of the field. -/
def prime : Nat := Nat.pow 2 255 - 19

/-- The coefficient `d`. -/
def coefficient : Nat := divMod (prime - 121665) 121666 prime

/-- The base point. -/
def base : Nat × Nat :=
  (0x216936d3cd6e53fec0a4e231fdd6dc5c692cc7609525a7b2c9562d608f25d51a,
    0x6666666666666666666666666666666666666666666666666666666666666658)

/-- The sum of two points. -/
def add (p q : Nat × Nat) : Nat × Nat :=
  let k := coefficient * (p.1 * q.1 % prime) * (p.2 * q.2 % prime) % prime
  (divMod (p.1 * q.2 + q.1 * p.2) (1 + k) prime,
    divMod (p.2 * q.2 + p.1 * q.1) (subMod 1 k prime) prime)

/-- A multiple of a point, by repeated doubling. -/
def times (n : Nat) (p : Nat × Nat) : Nat × Nat :=
  if n = 0 then (0, 1)
  else
    let half := times (n / 2) p
    let double := add half half
    if n % 2 = 0 then double else add double p
termination_by n
decreasing_by omega

/-- The number that bytes form, the last one the most significant. -/
def number (bytes : List UInt8) : Nat := bytes.foldr (fun b n => b.toNat + 256 * n) 0

/-- The multiple for a private key: from the first half of its digest, with the highest bit fixed
    and the lowest three cleared. -/
def multiple (secret : List UInt8) : Nat :=
  let n := number ((Sha512.digest secret).take 32) % Nat.pow 2 254
  Nat.pow 2 254 + (n - n % 8)

/-- The public key of a private one: the second coordinate, and in its highest bit whether the first
    one is odd. -/
def publicKey (secret : List UInt8) : List UInt8 :=
  let (x, y) := times (multiple secret) base
  (Sha256.bigEndian 32 (y + x % 2 * Nat.pow 2 255)).reverse

end QueryDispatch.Edwards
