import QueryDispatch.Encoding.Armor
import QueryDispatch.Encoding.Certificate
import QueryDispatch.Encoding.PrivateKey
import QueryDispatch.Runner.Error

/-! # Certificates

  The certificate material of a runner that speaks HTTP comes as base64 in its
  options. It is decoded for one request and gone with it. A client identity
  needs a certificate and a key; one without the other is not used.
-/

namespace QueryDispatch

/-- The decoded material of one request. -/
structure CertificateSet where
  ca : Option (List UInt8)
  certificate : Option (List UInt8)
  key : Option (List UInt8)
  deriving DecidableEq

namespace CertificateSet

/-- Decodes one piece. A blank text is no piece. -/
def decodeOne (credential : Credential) :
    Option String → Except ConfigurationFault (Option (List UInt8))
  | none => .ok none
  | some text =>
    let trimmed := Text.trim text.toList
    if trimmed.isEmpty then .ok none
    else ((Base64.decode (Text.utf8 trimmed)).map some).mapError (.base64 credential)

/-- Decodes the pieces in order. -/
def decode (ca certificate key : Option String) : Except ConfigurationFault CertificateSet := do
  return ⟨← decodeOne .ca ca, ← decodeOne .certificate certificate, ← decodeOne .key key⟩

/-- The pieces that are there, in order. -/
def files (set : CertificateSet) : List (List UInt8) :=
  [set.ca, set.certificate, set.key].filterMap id

/-! ### Clients -/

/-- A private key of an identity, by the form it comes in. -/
structure IdentityKey where
  form : Armor.SectionKind
  bytes : List UInt8
  deriving DecidableEq

/-- The public key that belongs to the private one. -/
def IdentityKey.publicKey? (key : IdentityKey) : Option (List UInt8) :=
  match key.form with
  | .privateKey => PrivateKey.readWrapped? key.bytes
  | .rsaPrivateKey => PrivateKey.readRsa? key.bytes
  | .ecPrivateKey => PrivateKey.readCurve? key.bytes
  | _ => none

/-- What a client shows of itself: certificates, its own first, and its key. -/
structure Identity where
  own : List UInt8
  others : List (List UInt8)
  key : IdentityKey
  deriving DecidableEq

/-- Whether a section holds a private key. -/
def isKey (s : Armor.Section) : Bool :=
  s.kind == .privateKey || s.kind == .rsaPrivateKey || s.kind == .ecPrivateKey

/-- The certificates of a bundle. -/
def certificates (sections : List Armor.Section) : List (List UInt8) :=
  (sections.filter (·.kind == .certificate)).map (·.bytes)

/-- The identity in a bundle: it holds nothing but certificates and keys, at least one of each, and
    the last key counts. -/
def identity? (bundle : List UInt8) : Option Identity :=
  match Armor.sections bundle with
  | .error _ => none
  | .ok sections =>
    match certificates sections, (sections.filter isKey).getLast? with
    | own :: others, some key =>
      if sections.all fun s => isKey s || s.kind == .certificate then
        some ⟨own, others, ⟨key.kind, key.bytes⟩⟩
      else none
    | _, _ => none

/-- Whether the key of an identity belongs to its own certificate. The others are not looked at. -/
def Identity.isUsable (identity : Identity) : Bool :=
  match Certificate.read? identity.own, identity.key.publicKey? with
  | some certificate, some key => certificate.publicKey == key
  | _, _ => false

/-- Checks whether a client can work with the material. -/
def checkClient (set : CertificateSet) : Except ConfigurationFault Unit := do
  match set.certificate, set.key with
  | some certificate, some key =>
    match identity? (certificate ++ 10 :: key) with
    | none => throw .clientCertificate
    | some identity => if !identity.isUsable then throw .client
  | _, _ => pure ()
  match set.ca with
  | some ca =>
    match Armor.sections ca with
    | .error _ => throw .client
    | .ok sections => if !(certificates sections).all Certificate.isAnchor then throw .client
  | none => pure ()

end CertificateSet

end QueryDispatch
