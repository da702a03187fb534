import QueryDispatch.Calendar.Date
import QueryDispatch.Data.Table
import QueryDispatch.Runner.Error
import QueryDispatch.Text.Slice

/-! # Native types

  The types of a warehouse's columns, and what becomes of their cells.
  Decimals without fraction digits are integers while all their values survive
  a round trip through a double; wider ones stay texts, so that no digit is
  lost. Dates and times are read by position.
-/

namespace QueryDispatch

/-- The type of a column as the warehouse declares it. -/
structure NativeType where
  name : String
  precision : Option UInt32
  scale : Option UInt32
  deriving DecidableEq

instance : Wire NativeType where
  encode t := .object [
    ("precision", Wire.encode t.precision),
    ("scale", Wire.encode t.scale),
    ("type", .string t.name)]
  decode? j := do
    let f ← Fields.of? 3 j
    return ⟨← f.required 0 "type", ← f.orDefault 1 "precision" none, ← f.orDefault 2 "scale" none⟩

namespace NativeType

/-- The least precision whose decimals stay texts. -/
def textPrecision : UInt32 := 16

/-- Whether the type is the decimal one. -/
def isDecimal (t : NativeType) : Bool := t.name == "DECIMAL"

/-- The type that cells are mapped to. -/
def columnType (t : NativeType) : ColumnType :=
  if t.isDecimal then
    if t.scale.getD 0 ≠ 0 then .float
    else if t.precision.getD 0 < textPrecision then .integer
    else .string
  else if t.name = "DATE" then .date
  else if t.name = "TIMESTAMP" then .datetime
  else .string

end NativeType

namespace Cell

/-! ### Numbers -/

/-- Cuts a number to the range of 64 bits. -/
def clamp (i : Int) : Int := max Int64.minValue.toInt (min i Int64.maxValue.toInt)

/-- An integer of 64 bits: a number cut to one, or a text between blanks that is one. -/
def integer? : Json → Option Int
  | .number (.int i) =>
    if i ≤ Int64.maxValue.toInt then some i else (Double.ofInt i).map fun d => clamp d.truncate
  | .number (.double d) => some (clamp d.truncate)
  | .string s =>
    (readInt? (Text.trim s.toList)).bind fun i => if clamp i = i then some i else none
  | _ => none

/-- A finite double: a number, or a text between blanks that is a numeral. -/
def double? : Json → Option Double
  | .string s => (Numeral.read? (Text.trim s.toList)).bind (·.toDouble?)
  | j => Wire.double? j

/-! ### Dates and times -/

/-- The number at some byte positions of a text. -/
def field (s : List Char) (start finish : Nat) : Except FormatFault Nat :=
  match (Text.slice? start finish s).bind readUnsigned? with
  | some n => .ok n
  | none => .error (.dateTime (String.ofList s))

/-- Reads a date: the year, month and day at their positions, whatever stands between them. -/
def readDate (s : List Char) : Except FormatFault Date := do
  let year ← field s 0 4
  let month ← field s 5 7
  let day ← field s 8 10
  match Date.of? year month day with
  | some d => return d
  | none => throw (.date (String.ofList s))

/-- The microseconds of a fraction: up to six digits behind position 20, filled up with zeros. A
    fraction cut within a character counts as none. -/
def readFraction (s : List Char) : Except FormatFault Nat :=
  if Text.byteLength s ≤ 20 then .ok 0
  else
    let digits := (Text.slice? 20 (min (Text.byteLength s) 26) s).getD []
    match readUnsigned? (digits ++ List.replicate (6 - digits.length) '0') with
    | some n => .ok n
    | none => .error (.fraction (String.ofList s))

/-- Reads a date with a time, by position. There are no leap seconds. -/
def readTimestamp (s : List Char) : Except FormatFault DateTime := do
  let date ← readDate s
  let hour ← field s 11 13
  let minute ← field s 14 16
  let second ← field s 17 19
  let microsecond ← readFraction s
  match if second < 60 then TimeOfDay.of? hour minute second (microsecond * 1000) else none with
  | some time => return ⟨date, time⟩
  | none => throw (.timestamp (String.ofList s))

/-! ### Cells -/

/-- The text of a cell that has to be one. -/
def text (value : Json) : Except FormatFault (List Char) :=
  match value with
  | .string s => .ok s.toList
  | value => .error (.notText value)

/-- The cell of a table that a native cell becomes. -/
def map (type : NativeType) (value : Json) : Except FormatFault Json :=
  if value.isNull then .ok .null
  else match type.columnType with
    | .integer =>
      match integer? value with
      | some i => .ok (.int i)
      | none => .error (.notInteger value)
    | .float =>
      match double? value with
      | some d => .ok (.number (.double d))
      | none => .error (.notNumber value)
    | .date => do return .string (← readDate (← text value)).text
    | .datetime => do return .string (← readTimestamp (← text value)).text
    | .string =>
      match type.isDecimal, value with
      | true, .number n => .ok (.string n.text)
      | _, value => .ok value
    | .boolean => .ok value

end Cell

end QueryDispatch
