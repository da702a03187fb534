import QueryDispatch.Encoding.Der
import QueryDispatch.Number.Curve

/-! # Public keys

  The names of the algorithms that keys belong to, and public keys as they
  stand in certificates.
-/

namespace QueryDispatch.PublicKey

/-- The name of the RSA algorithm, with its empty parameters. -/
def rsaAlgorithm : List UInt8 :=
  [0x06, 0x09, 0x2A, 0x86, 0x48, 0x86, 0xF7, 0x0D, 0x01, 0x01, 0x01, 0x05, 0x00]

/-- The name of the algorithm on the Edwards curve. -/
def edwardsAlgorithm : List UInt8 := [0x06, 0x03, 0x2B, 0x65, 0x70]

/-- A curve with its name. -/
structure NamedCurve where
  curve : Curve
  name : List UInt8

/-- The curves that are known. -/
def curves : List NamedCurve :=
  [⟨.p256, [0x06, 0x08, 0x2A, 0x86, 0x48, 0xCE, 0x3D, 0x03, 0x01, 0x07]⟩,
    ⟨.p384, [0x06, 0x05, 0x2B, 0x81, 0x04, 0x00, 0x22]⟩]

/-- The name of the algorithm of keys on a curve. -/
def NamedCurve.algorithm (c : NamedCurve) : List UInt8 :=
  [0x06, 0x07, 0x2A, 0x86, 0x48, 0xCE, 0x3D, 0x02, 0x01] ++ c.name

/-- A public key with its algorithm, as certificates hold it. -/
def info (algorithm key : List UInt8) : List UInt8 :=
  Der.value Der.sequence algorithm ++ Der.value Der.bitString (0 :: key)

end QueryDispatch.PublicKey
