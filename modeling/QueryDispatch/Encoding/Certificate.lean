import QueryDispatch.Encoding.Der

/-! # Certificates

  The form of a certificate: a signed body that names the algorithm of its
  signature, its issuer, the time in which it is valid, its subject, the
  subject's public key and extensions. Only the form is read; whether the
  signature fits or the time has come is not looked at.
-/

namespace QueryDispatch

/-- What is kept of a certificate. -/
structure Certificate where
  /-- The subject's public key with its algorithm. -/
  publicKey : List UInt8
  deriving DecidableEq

namespace Certificate

/-- No certificate is as long as this. -/
def maxLength : Nat := 65535

/-- The body of a certificate and the algorithm of its signature. -/
def signed? (bytes : List UInt8) : Option (List UInt8 × List UInt8) := do
  let all ← Der.whole? Der.sequence bytes
  let (body, rest) ← Der.take? Der.sequence all
  let (algorithm, rest) ← Der.take? Der.sequence rest
  let signature ← Der.whole? Der.bitString rest
  if (Der.wholeBits? signature).isSome && decide (all.length < maxLength) then
    return (body, algorithm)
  else none

/-! ### Extensions -/

/-- An extension. -/
structure Extension where
  id : List UInt8
  critical : Bool
  content : List UInt8

/-- Reads an extension: it counts as critical only if it says so. -/
def Extension.read? (bytes : List UInt8) : Option Extension := do
  let (id, rest) ← Der.take? Der.identifier bytes
  if rest.head? = some Der.boolean then
    let (truth, rest) ← Der.take? Der.boolean rest
    let content ← Der.whole? Der.octetString rest
    if truth = [0xFF] then return ⟨id, true, content⟩
    else if truth = [0] then return ⟨id, false, content⟩
    else none
  else return ⟨id, false, ← Der.whole? Der.octetString rest⟩

/-- What the identifiers of the standard extensions begin with. -/
def standardArc : List UInt8 := [0x55, 0x1D]

/-- The extension for the usage of the key; its content is read when it is needed. -/
def keyUsage : List UInt8 := standardArc ++ [15]

/-- The extensions that are understood: usage of the key, other names of the subject, basic
    constraints, constraints on names, places of revocation lists, and extended usage. -/
def understood : List (List UInt8) :=
  ([15, 17, 19, 30, 31, 37] : List UInt8).map fun n => standardArc ++ [n]

/-- Whether an extension can be in a certificate: it is understood and well formed, or it is not
    critical. -/
def Extension.isAcceptable (e : Extension) : Bool :=
  if understood.contains e.id then
    e.id == keyUsage || (Der.whole? Der.sequence e.content).isSome
  else !e.critical

/-- Whether extensions can be together in a certificate: none that is understood stands there
    twice. -/
def areAcceptable (extensions : List Extension) : Bool :=
  extensions.all (·.isAcceptable) &&
    understood.all fun id => (extensions.filter (·.id == id)).length ≤ 1

/-- Reads what stands behind the public key: nothing, or extensions. -/
def readExtensions? (bytes : List UInt8) : Option (List Extension) :=
  if bytes.isEmpty then some []
  else do
    let wrapped ← Der.whole? (Der.numbered 3) bytes
    let items ← Der.all? Der.sequence (← Der.whole? Der.sequence wrapped)
    items.mapM Extension.read?

/-! ### Bodies -/

/-- The version of certificates with extensions, as it is written. -/
def thirdVersion : List UInt8 := Der.natural 2

/-- Takes the parts of a body from the serial number to the public key off the front: the algorithm,
    the public key and the rest. -/
def takeParts? (bytes : List UInt8) : Option (List UInt8 × List UInt8 × List UInt8) := do
  let (_, rest) ← Der.take? Der.integer bytes
  let (algorithm, rest) ← Der.take? Der.sequence rest
  let (_, rest) ← Der.take? Der.sequence rest
  let (_, rest) ← Der.take? Der.sequence rest
  let (_, rest) ← Der.take? Der.sequence rest
  let (publicKey, rest) ← Der.take? Der.sequence rest
  return (algorithm, publicKey, rest)

/-- Reads a certificate of the third version. The body names the algorithm that the signature is
    of. -/
def read? (bytes : List UInt8) : Option Certificate := do
  let (body, algorithm) ← signed? bytes
  let (version, rest) ← Der.take? (Der.numbered 0) body
  let (named, publicKey, rest) ← takeParts? rest
  let extensions ← readExtensions? rest
  if version = thirdVersion ∧ named = algorithm ∧ areAcceptable extensions then
    return ⟨publicKey⟩
  else none

/-- Whether bytes have the form of a certificate of the first version, which has neither a version
    nor extensions. -/
def isFirstVersion (bytes : List UInt8) : Bool :=
  match (signed? bytes).bind fun (body, _) => takeParts? body with
  | some (_, _, rest) => rest.isEmpty
  | none => false

/-- Whether bytes are a certificate that can be trusted from the start. -/
def isAnchor (bytes : List UInt8) : Bool := (read? bytes).isSome || isFirstVersion bytes

end Certificate

end QueryDispatch
