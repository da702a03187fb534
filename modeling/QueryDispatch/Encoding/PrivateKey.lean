import QueryDispatch.Encoding.PublicKey
import QueryDispatch.Number.Edwards

/-! # Private keys

  Private keys come in three forms: bare numbers of an RSA key, bare numbers of
  a key on a curve, or either of them wrapped with the name of its algorithm.
  A key is only used if its parts fit together, and then its public key is
  known.
-/

namespace QueryDispatch.PrivateKey

open PublicKey (NamedCurve)

/-! ### Keys on a curve -/

/-- The public key of a private one, if that is in the range of keys. -/
def publicKey? (c : NamedCurve) (secret : List UInt8) : Option (List UInt8) :=
  let n := Der.number secret
  if secret.length = c.curve.size ∧ 0 < n ∧ n < c.curve.order then
    (c.curve.publicKey n).map fun (x, y) =>
      4 :: (Base64.bytesOf c.curve.size x ++ Base64.bytesOf c.curve.size y)
  else none

/-- What a key on a curve may say about the curve: its name, or nothing. -/
def takeName? (c : NamedCurve) (bytes : List UInt8) : Option (List UInt8) :=
  if bytes.head? = some (Der.numbered 0) then
    match Der.take? (Der.numbered 0) bytes with
    | some (name, rest) => if name = c.name then some rest else none
    | none => none
  else some bytes

/-- The public key of a bare key on a curve. The key holds it too, and both have to agree. -/
def readOn? (c : NamedCurve) (bytes : List UInt8) : Option (List UInt8) := do
  let body ← Der.whole? Der.sequence bytes
  let (version, rest) ← Der.takeSmall? body
  let (secret, rest) ← Der.take? Der.octetString rest
  let rest ← takeName? c rest
  let bits ← Der.whole? Der.bitString (← Der.whole? (Der.numbered 1) rest)
  let stated ← Der.wholeBits? bits
  let key ← publicKey? c secret
  if version = 1 ∧ stated = key then return PublicKey.info c.algorithm key else none

/-! ### RSA keys -/

/-- The numbers of an RSA key: the modulus is the product of two primes, and the private exponents
    undo the public one modulo it and modulo each prime. -/
structure RsaNumbers where
  modulus : Nat
  exponent : Nat
  secret : Nat
  prime₁ : Nat
  prime₂ : Nat
  secret₁ : Nat
  secret₂ : Nat
  /-- The inverse of the second prime modulo the first. -/
  inverse : Nat

namespace RsaNumbers

/-- Whether a private exponent can be one modulo a prime. -/
def fits (secret prime : Nat) : Bool := secret % 2 == 1 && secret < prime

/-- Whether the parts of a key fit together and the key is of a usable size. -/
def isUsable (k : RsaNumbers) : Bool :=
  let half := (bitLength k.modulus + 1) / 2
  2048 ≤ bitLength k.modulus && bitLength k.modulus ≤ 4096 && half % 512 == 0 &&
    k.modulus % 2 == 1 && k.exponent % 2 == 1 && 65537 ≤ k.exponent && bitLength k.exponent ≤ 33 &&
    bitLength k.prime₁ == half && bitLength k.prime₂ == half && k.prime₁ != k.prime₂ &&
    k.prime₁ * k.prime₂ == k.modulus &&
    fits k.secret k.modulus && half < bitLength k.secret &&
    fits k.secret₁ k.prime₁ && fits k.secret₂ k.prime₂ &&
    (k.prime₁ < k.prime₂ ||
      (k.inverse < k.prime₁ && k.inverse * k.prime₂ % k.prime₁ == 1))

/-- The public key. -/
def publicKey (k : RsaNumbers) : List UInt8 :=
  PublicKey.info PublicKey.rsaAlgorithm
    (Der.value Der.sequence (Der.natural k.modulus ++ Der.natural k.exponent))

end RsaNumbers

/-- Takes a positive number off the front. -/
def takePositive? (bytes : List UInt8) : Option (Nat × List UInt8) :=
  (Der.takeNatural? bytes).filter fun (n, _) => 0 < n

/-- The public key of a bare RSA key. -/
def readRsa? (bytes : List UInt8) : Option (List UInt8) := do
  let body ← Der.whole? Der.sequence bytes
  let (version, rest) ← Der.takeSmall? body
  let (modulus, rest) ← takePositive? rest
  let (exponent, rest) ← takePositive? rest
  let (secret, rest) ← takePositive? rest
  let (prime₁, rest) ← takePositive? rest
  let (prime₂, rest) ← takePositive? rest
  let (secret₁, rest) ← takePositive? rest
  let (secret₂, rest) ← takePositive? rest
  let (inverse, rest) ← takePositive? rest
  let key : RsaNumbers := ⟨modulus, exponent, secret, prime₁, prime₂, secret₁, secret₂, inverse⟩
  if version = 0 ∧ rest = [] ∧ key.isUsable then return key.publicKey else none

/-! ### Forms -/

/-- The public key of a bare key on a curve. -/
def readCurve? (bytes : List UInt8) : Option (List UInt8) := PublicKey.curves.findSome? fun c => readOn? c bytes

/-- What stands behind the attributes of a wrapped key, if it has any. -/
def afterAttributes? (bytes : List UInt8) : Option (List UInt8) :=
  if bytes.head? = some (Der.numbered 0) then (Der.take? (Der.numbered 0) bytes).map (·.2)
  else some bytes

/-- The public key that stands behind a wrapped key; none if there is nothing. -/
def statedKey? (version : Nat) (bytes : List UInt8) : Option (Option (List UInt8)) :=
  if version = 0 ∧ bytes = [] then some none
  else if version = 1 then
    ((Der.whole? Der.shortBits bytes).bind Der.wholeBits?).map some
  else none

/-- The public key of a key on the Edwards curve. If the key states it, both have to agree. -/
def readEdwards? (bytes : List UInt8) (stated : Option (List UInt8)) : Option (List UInt8) := do
  let secret ← Der.whole? Der.octetString bytes
  let key := Edwards.publicKey secret
  if secret.length = 32 ∧ stated.all (· == key) then
    return PublicKey.info PublicKey.edwardsAlgorithm key
  else none

/-- The public key of a wrapped key. Only keys on the Edwards curve may state their public key
    outside. -/
def readWrapped? (bytes : List UInt8) : Option (List UInt8) := do
  let body ← Der.whole? Der.sequence bytes
  let (version, rest) ← Der.takeSmall? body
  let (algorithm, rest) ← Der.take? Der.sequence rest
  let (key, rest) ← Der.take? Der.octetString rest
  let stated ← statedKey? version (← afterAttributes? rest)
  if algorithm = PublicKey.edwardsAlgorithm then readEdwards? key stated
  else if version ≠ 0 then none
  else if algorithm = PublicKey.rsaAlgorithm then readRsa? key
  else (PublicKey.curves.find? (·.algorithm == algorithm)).bind fun c => readOn? c key

end QueryDispatch.PrivateKey
