import QueryDispatch.Digest.Sha256

/-! # Fingerprints

  The identity of a cache entry and of a job in flight: a digest over a data
  source and the effective text of a query.
-/

namespace QueryDispatch

/-- A fingerprint, as 64 hexadecimal digits when it was computed here. -/
structure Fingerprint where
  text : String
  deriving DecidableEq, Repr

namespace Fingerprint

/-- What is hashed: the data source's id in eight bytes, a zero byte, and the text in UTF-8. -/
def key (source : Int64) (text : String) : List UInt8 :=
  Sha256.bigEndian 8 source.toUInt64.toNat ++ 0 :: text.toUTF8.data.toList

/-- The fingerprint of a text on a data source. -/
def of (source : Int64) (text : String) : Fingerprint :=
  ⟨String.ofList (Sha256.hexText (Sha256.digest (key source text)))⟩

end Fingerprint

end QueryDispatch
