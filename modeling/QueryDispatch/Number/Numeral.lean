import QueryDispatch.Number.Double
import QueryDispatch.Text.Blank

/-! # Numerals

  Texts that are read as numbers. A numeral is a sign, digits with an optional
  point (a digit on at least one side of it) and an optional exponent; the
  words `inf`, `infinity` and `nan` count as numerals too, in any case.
-/

namespace QueryDispatch

/-- What a numeral denotes. -/
inductive Numeral where
  /-- The word for "not a number". -/
  | nan
  /-- A word for infinity. -/
  | infinite (negative : Bool)
  /-- `± digits · 10 ^ scale`. -/
  | decimal (negative : Bool) (digits : Nat) (scale : Int)
  deriving DecidableEq, Repr

/-- The value of a digit. -/
def digitValue (c : Char) : Nat := c.toNat - '0'.toNat

/-- The number that a run of digits denotes. -/
def digitsValue (s : List Char) : Nat := s.foldl (fun n c => n * 10 + digitValue c) 0

/-- A decimal text of a natural number. -/
def natText (n : Nat) : List Char := Nat.toDigits 10 n

/-- A decimal text of an integer, with `-` in front of negative ones. -/
def intText (i : Int) : List Char :=
  if i < 0 then '-' :: natText i.natAbs else natText i.natAbs

/-- Reads a number made of digits only, at least one. -/
def readNat? (s : List Char) : Option Nat :=
  if s.isEmpty || !s.all Char.isDigit then none else some (digitsValue s)

/-- Takes a sign off the front: whether it was a minus, and the rest. -/
def takeSign : List Char → Bool × List Char
  | '+' :: rest => (false, rest)
  | '-' :: rest => (true, rest)
  | s => (false, s)

/-- Reads an unsigned number that may carry a `+`. -/
def readUnsigned? : List Char → Option Nat
  | '+' :: rest => readNat? rest
  | s => readNat? s

/-- Reads an integer with an optional sign. -/
def readInt? (s : List Char) : Option Int :=
  let (negative, rest) := takeSign s
  (readNat? rest).map fun n => if negative then -(n : Int) else n

namespace Numeral

/-- Reads the exponent part: nothing, or `e` with an optionally signed number. -/
def readExponent? : List Char → Option Int
  | [] => some 0
  | c :: rest => if c = 'e' ∨ c = 'E' then readInt? rest else none

/-- Reads digits, an optional point with digits, and an exponent. -/
def readUnsigned? (negative : Bool) (s : List Char) : Option Numeral :=
  let whole := s.takeWhile Char.isDigit
  let rest := s.dropWhile Char.isDigit
  let (fraction, rest) := match rest with
    | '.' :: more => (more.takeWhile Char.isDigit, more.dropWhile Char.isDigit)
    | rest => ([], rest)
  if whole.isEmpty && fraction.isEmpty then none
  else (readExponent? rest).map fun e =>
    .decimal negative (digitsValue (whole ++ fraction)) (e - fraction.length)

/-- Reads a numeral; the whole text has to be one. -/
def read? (s : List Char) : Option Numeral :=
  let (negative, rest) := takeSign s
  let word (w : String) : Bool := Text.equalIgnoringCase rest w.toList
  if word "nan" then some .nan
  else if word "inf" || word "infinity" then some (.infinite negative)
  else readUnsigned? negative rest

/-- The double nearest to a numeral; none for the words and beyond the range. -/
def toDouble? : Numeral → Option Double
  | .decimal negative digits scale => Double.ofDecimal negative digits scale
  | _ => none

end Numeral

end QueryDispatch
