import QueryDispatch.Json.Basic
import QueryDispatch.Number.Numeral

/-! # Reading JSON texts

  A text is read as one value with blanks around it. Integers keep their exact
  value while they fit 64 bits (unsigned, or signed when negative). Any other
  number becomes a double in two rounded steps: the leading digits, as many as
  fit 64 bits, and then one scaling by a power of ten; a number beyond the
  range of doubles is refused. At most 127 lists and objects may be nested.
-/

namespace QueryDispatch

namespace JsonNumber

/-- The largest unsigned number of 64 bits. -/
def maxUnsigned : Nat := UInt64.size - 1

/-- The digits of a number as far as they fit 64 bits, and the power of ten that is left over. -/
structure Significand where
  /-- The digits that fit. -/
  digits : Nat
  /-- The power of ten of the last of them. -/
  scale : Int

/-- Appends a digit if the result fits 64 bits. -/
def appendDigit? (digits : Nat) (c : Char) : Option Nat :=
  let next := digits * 10 + digitValue c
  if next ≤ maxUnsigned then some next else none

/-- Reads digits in front of the point. The first digit that does not fit and all behind it only
    raise the power of ten. -/
def wholeDigits (digits : Nat) : List Char → Significand
  | [] => ⟨digits, 0⟩
  | c :: rest =>
    match appendDigit? digits c with
    | some next => wholeDigits next rest
    | none => ⟨digits, ((c :: rest).length : Int)⟩

/-- Reads digits behind the point. The first digit that does not fit and all behind it are
    dropped. -/
def fractionDigits (s : Significand) : List Char → Significand
  | [] => s
  | c :: rest =>
    match appendDigit? s.digits c with
    | some next => fractionDigits ⟨next, s.scale - 1⟩ rest
    | none => s

/-- The nearest double to a power of ten up to `10 ^ 308`. -/
def powerOfTen (n : Nat) : Double := (Double.ofRatio false (Nat.pow 10 n) 1).getD (Double.zero false)

/-- Divides by `10 ^ n`, each time by at most `10 ^ 308`. -/
def scaleDown (fuel : Nat) (d : Double) (n : Nat) : Double :=
  match fuel with
  | 0 => d
  | fuel + 1 =>
    if n ≤ 308 then (d.div (powerOfTen n)).getD d
    else if d.isZero then d
    else scaleDown fuel ((d.div (powerOfTen 308)).getD d) (n - 308)

/-- The double that a significand is read as, or `none` beyond the range. Six divisions bring any
    significand down to zero. -/
def scaled? (negative : Bool) (s : Significand) : Option Double := do
  let base ← Double.ofRatio false s.digits 1
  let d ←
    if 0 ≤ s.scale then
      if s.scale ≤ 308 then base.mul (powerOfTen s.scale.toNat)
      else if base.isZero then some base else none
    else some (scaleDown 6 base (-s.scale).toNat)
  return if negative then d.neg else d

/-- Adds an exponent to a significand. An exponent beyond 32 bits empties a number, or refuses it
    when it is positive and the number is not zero. -/
def withExponent? (s : Significand) (e : Int) : Option Significand :=
  if e.natAbs ≤ 2147483647 then some ⟨s.digits, s.scale + e⟩
  else if s.digits ≠ 0 ∧ 0 < e then none
  else some ⟨0, 0⟩

/-- Reads the digits behind an `e`, with an optional sign. -/
def readExponent? (s : List Char) : Option (Int × List Char) :=
  let (negative, rest) := takeSign s
  let digits := rest.takeWhile Char.isDigit
  if digits.isEmpty then none
  else
    let n : Int := digitsValue digits
    some (if negative then -n else n, rest.dropWhile Char.isDigit)

/-- Reads an exponent, if there is one, and gives the double. -/
def readScaled? (negative : Bool) (s : Significand) (rest : List Char) :
    Option (JsonNumber × List Char) := do
  match rest with
  | c :: more =>
    if c = 'e' ∨ c = 'E' then
      let (e, more) ← readExponent? more
      let s ← withExponent? s e
      return (.double (← scaled? negative s), more)
    else return (.double (← scaled? negative s), rest)
  | [] => return (.double (← scaled? negative s), [])

/-- The number of a run of digits without point and exponent. Zero with a minus is a double. -/
def ofDigits? (negative : Bool) (s : Significand) : Option JsonNumber :=
  if s.scale = 0 then
    if negative then
      if s.digits = 0 then some (.double (Double.zero true))
      else if s.digits ≤ 9223372036854775808 then some (.int (-(s.digits : Int)))
      else (Double.ofRatio true s.digits 1).map .double
    else some (.int s.digits)
  else (scaled? negative s).map .double

/-- Reads a number off the front. Leading zeros are refused, and so is a point without digits
    behind it. -/
def read? (input : List Char) : Option (JsonNumber × List Char) := do
  let (negative, body) := match input with
    | '-' :: rest => (true, rest)
    | rest => (false, rest)
  let digits := body.takeWhile Char.isDigit
  let rest := body.dropWhile Char.isDigit
  if digits.isEmpty then none
  else if digits.head? = some '0' ∧ 1 < digits.length then none
  else
    let whole := wholeDigits 0 digits
    match rest with
    | '.' :: more =>
      let fraction := more.takeWhile Char.isDigit
      if fraction.isEmpty then none
      else readScaled? negative (fractionDigits whole fraction) (more.dropWhile Char.isDigit)
    | c :: _ =>
      if c = 'e' ∨ c = 'E' then readScaled? negative whole rest
      else return (← ofDigits? negative whole, rest)
    | [] => return (← ofDigits? negative whole, [])

end JsonNumber

namespace Json

/-- The characters that may stand between tokens. -/
def isSpace (c : Char) : Bool := c == ' ' || c == '\n' || c == '\t' || c == '\r'

/-- Skips blanks. -/
def skipSpace (s : List Char) : List Char := s.dropWhile isSpace

/-- The value of a hexadecimal digit of either case. -/
def hexValue? (c : Char) : Option Nat :=
  if c.isDigit then some (digitValue c)
  else if 'a' ≤ c ∧ c ≤ 'f' then some (c.toNat - 'a'.toNat + 10)
  else if 'A' ≤ c ∧ c ≤ 'F' then some (c.toNat - 'A'.toNat + 10)
  else none

/-- Reads four hexadecimal digits. -/
def hexFour? : List Char → Option (Nat × List Char)
  | a :: b :: c :: d :: rest => do
    let w ← hexValue? a
    let x ← hexValue? b
    let y ← hexValue? c
    let z ← hexValue? d
    return (((w * 16 + x) * 16 + y) * 16 + z, rest)
  | _ => none

/-- Reads what follows `\u`: one code point, or two halves of one. A half on its own is refused. -/
def unicodeEscape? (s : List Char) : Option (Char × List Char) := do
  let (n, rest) ← hexFour? s
  if 0xDC00 ≤ n ∧ n ≤ 0xDFFF then none
  else if 0xD800 ≤ n ∧ n ≤ 0xDBFF then
    match rest with
    | '\\' :: 'u' :: more =>
      let (low, more) ← hexFour? more
      if 0xDC00 ≤ low ∧ low ≤ 0xDFFF then
        return (Char.ofNat (0x10000 + (n - 0xD800) * 0x400 + (low - 0xDC00)), more)
      else none
    | _ => none
  else return (Char.ofNat n, rest)

/-- The character that a one-letter escape stands for. -/
def shortEscape? (c : Char) : Option Char :=
  if c = '"' ∨ c = '\\' ∨ c = '/' then some c
  else if c = 'b' then some (Char.ofNat 8)
  else if c = 'f' then some (Char.ofNat 12)
  else if c = 'n' then some (Char.ofNat 10)
  else if c = 'r' then some (Char.ofNat 13)
  else if c = 't' then some (Char.ofNat 9)
  else none

/-- Reads the characters of a text up to its closing quote, `read` being those before in reverse. -/
def readQuoted? (fuel : Nat) (read : List Char) (s : List Char) : Option (String × List Char) :=
  match fuel, s with
  | 0, _ => none
  | _ + 1, [] => none
  | fuel + 1, c :: rest =>
    if c = '"' then some (String.ofList read.reverse, rest)
    else if c = '\\' then
      match rest with
      | 'u' :: more =>
        match unicodeEscape? more with
        | some (d, more) => readQuoted? fuel (d :: read) more
        | none => none
      | e :: more =>
        match shortEscape? e with
        | some d => readQuoted? fuel (d :: read) more
        | none => none
      | [] => none
    else if c.toNat < 32 then none
    else readQuoted? fuel (c :: read) rest

mutual

/-- Reads a value; `depth` is how many lists and objects may still be opened. -/
def readValue? (fuel depth : Nat) (input : List Char) : Option (Json × List Char) :=
  match fuel with
  | 0 => none
  | fuel + 1 =>
    match skipSpace input with
    | 'n' :: 'u' :: 'l' :: 'l' :: rest => some (.null, rest)
    | 't' :: 'r' :: 'u' :: 'e' :: rest => some (.bool true, rest)
    | 'f' :: 'a' :: 'l' :: 's' :: 'e' :: rest => some (.bool false, rest)
    | '"' :: rest => (readQuoted? (rest.length + 1) [] rest).map fun (s, rest) => (.string s, rest)
    | '[' :: rest =>
      match depth with
      | 0 => none
      | depth + 1 =>
        match skipSpace rest with
        | ']' :: rest => some (.array [], rest)
        | rest => (readItems? fuel depth rest).map fun (items, rest) => (.array items, rest)
    | '\x7b' :: rest =>
      match depth with
      | 0 => none
      | depth + 1 =>
        match skipSpace rest with
        | '\x7d' :: rest => some (.object [], rest)
        | rest => (readFields? fuel depth rest).map fun (fields, rest) => (record fields, rest)
    | c :: rest =>
      if c = '-' ∨ c.isDigit then
        (JsonNumber.read? (c :: rest)).map fun (n, rest) => (.number n, rest)
      else none
    | [] => none

/-- Reads the items of a list and its closing bracket. -/
def readItems? (fuel depth : Nat) (input : List Char) : Option (List Json × List Char) :=
  match fuel with
  | 0 => none
  | fuel + 1 =>
    match readValue? fuel depth input with
    | none => none
    | some (item, rest) =>
      match skipSpace rest with
      | ',' :: rest => (readItems? fuel depth rest).map fun (items, rest) => (item :: items, rest)
      | ']' :: rest => some ([item], rest)
      | _ => none

/-- Reads the fields of an object, in the order they stand there, and its closing brace. -/
def readFields? (fuel depth : Nat) (input : List Char) :
    Option (List (String × Json) × List Char) :=
  match fuel with
  | 0 => none
  | fuel + 1 =>
    match skipSpace input with
    | '"' :: rest =>
      match readQuoted? (rest.length + 1) [] rest with
      | none => none
      | some (key, rest) =>
        match skipSpace rest with
        | ':' :: rest =>
          match readValue? fuel depth rest with
          | none => none
          | some (value, rest) =>
            match skipSpace rest with
            | ',' :: rest =>
              (readFields? fuel depth rest).map fun (fields, rest) => ((key, value) :: fields, rest)
            | '\x7d' :: rest => some ([(key, value)], rest)
            | _ => none
        | _ => none
    | _ => none

end

/-- Reads a text that is one value with blanks around it. Every step takes a character, so the
    length of the text bounds the steps. -/
def read? (s : String) : Option Json :=
  let input := s.toList
  match readValue? (2 * input.length + 2) 127 input with
  | some (j, rest) => if (skipSpace rest).isEmpty then some j else none
  | none => none

end Json

end QueryDispatch
