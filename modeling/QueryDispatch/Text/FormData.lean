import QueryDispatch.Json.Printer
import QueryDispatch.Json.Reader
import QueryDispatch.Text.Blank
import QueryDispatch.Text.Utf8

/-! # Form data

  Pairs of names and values as they stand in the query part of an address:
  pairs are joined by `&`, a name and its value by `=`, a blank is a `+`, and
  other special bytes are written as `%` and two hexadecimal digits.
-/

namespace QueryDispatch.FormData

/-- The byte that a hexadecimal digit stands for. -/
def hexByte? (b : UInt8) : Option Nat := Json.hexValue? (Char.ofNat b.toNat)

/-- Replaces `+` by a blank and percent forms by the byte they stand for. A `%` without two digits
    behind it stays. -/
def decodeBytes : List UInt8 → List UInt8
  | 37 :: a :: b :: rest =>
    match hexByte? a, hexByte? b with
    | some x, some y => UInt8.ofNat (x * 16 + y) :: decodeBytes rest
    | _, _ => 37 :: decodeBytes (a :: b :: rest)
  | b :: rest => (if b = 43 then 32 else b) :: decodeBytes rest
  | [] => []

/-- The text that a written name or value stands for. -/
def decode (s : List Char) : String :=
  String.ofList (Text.readUtf8 (decodeBytes (Text.utf8 s)))

/-- Splits a pair at its first `=`; without one the value is empty. -/
def readPair (s : List Char) : String × String :=
  match Text.cutAt? ['='] s with
  | some (name, value) => (decode name, decode value)
  | none => (decode s, "")

/-- The pairs of a text, in order; empty pieces are passed over. -/
def read (s : List Char) : List (String × String) :=
  ((Text.splitAt '&' s).filter (!·.isEmpty)).map readPair

/-- The written form of one byte. -/
def encodeByte (b : UInt8) : List Char :=
  let c := Char.ofNat b.toNat
  if c.isAlphanum || c == '*' || c == '-' || c == '.' || c == '_' then [c]
  else if b = 32 then ['+']
  else ['%', (Json.hexDigit (b.toNat / 16)).toUpper, (Json.hexDigit (b.toNat % 16)).toUpper]

/-- The written form of a name or value. -/
def encode (s : String) : List Char := (Text.utf8 s.toList).flatMap encodeByte

/-- The written form of pairs. -/
def write (pairs : List (String × String)) : List Char :=
  Text.joinWith ['&'] (pairs.map fun (name, value) => encode name ++ '=' :: encode value)

end QueryDispatch.FormData
