import QueryDispatch.Encoding.Armor
import QueryDispatch.Encoding.PublicKey
import QueryDispatch.Number.Modular
import QueryDispatch.Runner.Error

/-! # Login keys

  A warehouse hands out a public key with which the password is encrypted
  before it travels. Keys come as armored text, bare or wrapped with the name
  of their algorithm. The password is padded with bytes that differ from zero,
  so it may be at most eleven bytes shorter than the key.
-/

namespace QueryDispatch

/-- A public key: numbers are encrypted by raising them to a power modulo a number. -/
structure LoginKey where
  modulus : Nat
  exponent : Nat
  deriving DecidableEq, Repr

namespace LoginKey

/-! ### Reading -/

/-- The largest modulus that is accepted has this many bits. -/
def maxBits : Nat := 4096

/-- Whether two numbers can be a key. -/
def isUsable (key : LoginKey) : Bool :=
  key.modulus < Nat.pow 2 maxBits && key.modulus % 2 == 1 && key.exponent % 2 == 1 &&
    2 ≤ key.exponent && key.exponent < Nat.pow 2 33 && key.exponent < key.modulus

/-- Reads the sequence of modulus and exponent. -/
def ofDer? (bytes : List UInt8) : Option LoginKey := do
  let body ← Der.whole? Der.sequence bytes
  let (modulus, rest) ← Der.takeNatural? body
  let (exponent, rest) ← Der.takeNatural? rest
  let key := LoginKey.mk modulus exponent
  if rest.isEmpty && key.isUsable then some key else none

/-- Reads a key that is wrapped with the name of its algorithm. -/
def ofWrappedDer? (bytes : List UInt8) : Option LoginKey := do
  let body ← Der.whole? Der.sequence bytes
  let (name, rest) ← Der.take? Der.sequence body
  let bits ← Der.whole? Der.bitString rest
  match bits with
  | 0 :: inner => if name = PublicKey.rsaAlgorithm then ofDer? inner else none
  | _ => none

/-- Reads an armored key of either form. -/
def read? (text : String) : Option LoginKey :=
  let bytes := Text.utf8 text.toList
  ((Armor.single? "RSA PUBLIC KEY" bytes).bind ofDer?).orElse fun _ =>
    (Armor.single? "PUBLIC KEY" bytes).bind ofWrappedDer?

/-! ### Encrypting -/

/-- How many bytes the modulus has. -/
def size (key : LoginKey) : Nat := (key.modulus.log2 + 8) / 8

/-- The bytes that are encrypted: a message behind padding. `noise` gives the padding. -/
def padded (size : Nat) (noise : Nat → UInt8) (message : List UInt8) : List UInt8 :=
  let padding := (List.range (size - message.length - 3)).map fun i =>
    if noise i = 0 then 1 else noise i
  0 :: 2 :: (padding ++ 0 :: message)

/-- Encrypts a message that fits. -/
def encrypt (key : LoginKey) (noise : Nat → UInt8) (message : List UInt8) :
    Except FormatFault (List UInt8) :=
  if key.size < message.length + 11 then .error .passwordLength
  else .ok (Base64.bytesOf key.size
    (powMod (Der.number (padded key.size noise message)) key.exponent key.modulus))

end LoginKey

/-- The form in which a password travels: encrypted with an armored key, in base64. -/
def encryptPassword (key : String) (noise : Nat → UInt8) (password : String) :
    Except FormatFault String :=
  match LoginKey.read? key with
  | none => .error .loginKey
  | some key => do
    let bytes ← key.encrypt noise (Text.utf8 password.toList)
    return String.ofList (Base64.encode bytes)

end QueryDispatch
