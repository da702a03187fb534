import QueryDispatch.Json.Printer
import QueryDispatch.Json.Reader
import QueryDispatch.Json.Wire

/-! # Identifiers of 128 bits

  Jobs and results carry identifiers of 128 bits. They are written as 32
  hexadecimal digits in five groups; on reading, the hyphens may be missing
  and braces or the `urn:uuid:` form may stand around the groups.
-/

namespace QueryDispatch

/-- An identifier of 128 bits. -/
structure Uuid where
  value : BitVec 128
  deriving DecidableEq

namespace Uuid

/-- The identifier with a number. -/
def ofNat (n : Nat) : Uuid := ⟨BitVec.ofNat 128 n⟩

/-- The hexadecimal digits of a number, `count` of them. -/
def hexDigits (count n : Nat) : List Char :=
  (List.range count).map fun i => Json.hexDigit (n / Nat.pow 16 (count - 1 - i))

/-- The five groups of digits with hyphens between them. -/
def chars (u : Uuid) : List Char :=
  let digits := hexDigits 32 u.value.toNat
  Text.joinWith ['-'] [digits.take 8, (digits.drop 8).take 4, (digits.drop 12).take 4,
    (digits.drop 16).take 4, digits.drop 20]

/-- The written form. -/
def text (u : Uuid) : String := String.ofList u.chars

/-- Reads 32 hexadecimal digits. -/
def readDigits? (s : List Char) : Option Uuid :=
  if s.length = 32 then
    (s.mapM Json.hexValue?).map fun digits =>
      ofNat (digits.foldl (fun n d => n * 16 + d) 0)
  else none

/-- Reads five groups of digits. -/
def readGroups? (s : List Char) : Option Uuid :=
  match (Text.splitAt '-' s) with
  | [a, b, c, d, e] =>
    if a.length = 8 ∧ b.length = 4 ∧ c.length = 4 ∧ d.length = 4 then
      readDigits? (a ++ b ++ c ++ d ++ e)
    else none
  | _ => none

/-- Reads an identifier in any of its forms. -/
def read? (s : String) : Option Uuid :=
  let chars := s.toList
  if chars.length = 32 then readDigits? chars
  else if chars.length = 36 then readGroups? chars
  else if chars.length = 38 then
    match chars with
    | '\x7b' :: rest => if rest.getLast? = some '\x7d' then readGroups? rest.dropLast else none
    | _ => none
  else if chars.length = 45 then (Text.after? "urn:uuid:".toList chars).bind readGroups?
  else none

end Uuid

instance : Wire Uuid where
  encode u := .string u.text
  decode? j := j.asString?.bind Uuid.read?

end QueryDispatch
