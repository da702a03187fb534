import QueryDispatch.Calendar.Date

/-! # Date and time patterns

  A pattern is a list of items; texts are read and written by the same list.
  Reading is lenient about blanks in front of numbers and about leading zeros,
  and strict about all else. It names the first thing that is wrong.
-/

namespace QueryDispatch

/-- Why a text is not a date or time. -/
inductive ReadFault where
  /-- A number, or the whole, names no day or time. -/
  | outOfRange
  /-- A character that cannot stand there. -/
  | invalid
  /-- The text ends too early. -/
  | tooShort
  /-- The text goes on behind the last item. -/
  | tooLong
  deriving DecidableEq, Repr

/-- The wording of a fault. -/
def ReadFault.message : ReadFault → String
  | .outOfRange => "input is out of range"
  | .invalid => "input contains invalid characters"
  | .tooShort => "premature end of input"
  | .tooLong => "trailing input"

/-- An item of a pattern. -/
inductive PatternItem where
  | year
  | month
  | day
  | hour
  | minute
  | second
  /-- A character that stands for itself. -/
  | literal (c : Char)
  /-- Any number of blanks; written as one. -/
  | blanks
  deriving DecidableEq, Repr

/-- The numbers read so far. -/
structure DateFields where
  year : Int := 0
  month : Nat := 0
  day : Nat := 0
  hour : Nat := 0
  minute : Nat := 0
  second : Nat := 0

namespace Pattern

/-- Reads a number of at most `width` digits, at least one. -/
def readNumber (width : Nat) (s : List Char) : Except ReadFault (Nat × List Char) :=
  match s with
  | [] => .error .tooShort
  | c :: _ =>
    if c.isDigit then
      let digits := (s.take width).takeWhile Char.isDigit
      .ok (digitsValue digits, s.drop digits.length)
    else .error .invalid

/-- Reads a year: up to four digits, or a sign and any number of digits. -/
def readYear (s : List Char) : Except ReadFault (Int × List Char) := do
  let (year, rest) ← match s with
    | '-' :: more => do
      let (n, rest) ← readNumber more.length more
      pure (-(n : Int), rest)
    | '+' :: more => do
      let (n, rest) ← readNumber more.length more
      pure ((n : Int), rest)
    | s => do
      let (n, rest) ← readNumber 4 s
      pure ((n : Int), rest)
  if Int32.minValue.toInt ≤ year ∧ year ≤ Int32.maxValue.toInt then return (year, rest)
  else throw .outOfRange

/-- Reads a number of at most two digits between two bounds. -/
def readTwo (low high : Nat) (s : List Char) : Except ReadFault (Nat × List Char) := do
  let (n, rest) ← readNumber 2 s
  if low ≤ n ∧ n ≤ high then return (n, rest) else throw .outOfRange

/-- Reads one item into the fields. -/
def readItem (item : PatternItem) (fields : DateFields) (s : List Char) :
    Except ReadFault (DateFields × List Char) :=
  let t := Text.trimStart s
  match item with
  | .year => do
    let (n, rest) ← readYear t
    return ({ fields with year := n }, rest)
  | .month => do
    let (n, rest) ← readTwo 1 12 t
    return ({ fields with month := n }, rest)
  | .day => do
    let (n, rest) ← readTwo 1 31 t
    return ({ fields with day := n }, rest)
  | .hour => do
    let (n, rest) ← readTwo 0 23 t
    return ({ fields with hour := n }, rest)
  | .minute => do
    let (n, rest) ← readTwo 0 59 t
    return ({ fields with minute := n }, rest)
  | .second => do
    let (n, rest) ← readTwo 0 60 t
    return ({ fields with second := n }, rest)
  | .literal c =>
    match s with
    | [] => .error .tooShort
    | d :: rest => if c = d then .ok (fields, rest) else .error .invalid
  | .blanks => .ok (fields, t)

/-- Reads the items of a pattern one after the other. -/
def readItems : List PatternItem → DateFields → List Char →
    Except ReadFault (DateFields × List Char)
  | [], fields, s => .ok (fields, s)
  | item :: items, fields, s => do
    let (fields, rest) ← readItem item fields s
    readItems items fields rest

/-- Reads a whole text. -/
def readAll (pattern : List PatternItem) (s : List Char) : Except ReadFault DateFields := do
  let (fields, rest) ← readItems pattern {} s
  if rest.isEmpty then return fields else throw .tooLong

/-- The text of one item. -/
def writeItem (d : DateTime) : PatternItem → List Char
  | .year => yearText d.date.year
  | .month => paddedText 2 d.date.month
  | .day => paddedText 2 d.date.day
  | .hour => paddedText 2 d.time.hour
  | .minute => paddedText 2 d.time.minute
  | .second => paddedText 2 d.time.second
  | .literal c => [c]
  | .blanks => [' ']

/-- `YYYY-MM-DD`. -/
def date : List PatternItem := [.year, .literal '-', .month, .literal '-', .day]

/-- `YYYY-MM-DD hh:mm`. -/
def dateMinute : List PatternItem := date ++ [.blanks, .hour, .literal ':', .minute]

/-- `YYYY-MM-DD hh:mm:ss`. -/
def dateSecond : List PatternItem := dateMinute ++ [.literal ':', .second]

end Pattern

/-- Reads a date as `YYYY-MM-DD`. -/
def Date.read (s : List Char) : Except ReadFault Date := do
  let fields ← Pattern.readAll Pattern.date s
  match Date.of? fields.year fields.month fields.day with
  | some d => return d
  | none => throw .outOfRange

/-- Reads a day and a time by a pattern. -/
def DateTime.read (pattern : List PatternItem) (s : List Char) : Except ReadFault DateTime := do
  let fields ← Pattern.readAll pattern s
  match Date.of? fields.year fields.month fields.day,
      TimeOfDay.of? fields.hour fields.minute fields.second 0 with
  | some d, some t => return ⟨d, t⟩
  | _, _ => throw .outOfRange

/-- The text of a day and a time by a pattern. -/
def DateTime.write (pattern : List PatternItem) (d : DateTime) : List Char :=
  pattern.flatMap (Pattern.writeItem d)

end QueryDispatch
