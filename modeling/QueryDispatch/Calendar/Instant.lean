import QueryDispatch.Calendar.Pattern

/-! # Instants

  Points in time, in whole seconds since the start of 1970 and nanoseconds.
  Nanoseconds from a thousand million up stand for a leap second. On the wire
  an instant is a date, a time and an offset.
-/

namespace QueryDispatch

namespace Instant

/-- The first second of the calendar. -/
def earliest : Int := -8334601228800

/-- The last second of the calendar. -/
def latest : Int := 8210266876799

end Instant

/-- Numbers that make an instant. Only the last second of a minute can be followed by a leap
    second. -/
def IsInstant (seconds : Int) (nanosecond : Nat) : Prop :=
  (Instant.earliest ≤ seconds ∧ seconds ≤ Instant.latest) ∧
    (nanosecond < 1000000000 ∨ (nanosecond < 2000000000 ∧ seconds % 60 = 59))

instance (seconds : Int) (nanosecond : Nat) : Decidable (IsInstant seconds nanosecond) :=
  inferInstanceAs (Decidable (_ ∧ _))

/-- A point in time within the calendar. -/
structure Instant where
  seconds : Int
  nanosecond : Nat
  is_instant : IsInstant seconds nanosecond
  deriving DecidableEq

namespace Instant

/-- The instant with these numbers, if there is one. -/
def of? (seconds : Int) (nanosecond : Nat) : Option Instant :=
  if h : IsInstant seconds nanosecond then some ⟨seconds, nanosecond, h⟩ else none

/-- The start of 1970. -/
def epoch : Instant := ⟨0, 0, by decide⟩

/-- Nanoseconds since the start of 1970. -/
def nanoseconds (t : Instant) : Int := t.seconds * 1000000000 + t.nanosecond

/-- The instant a number of nanoseconds after the start of 1970. -/
def ofNanoseconds? (n : Int) : Option Instant :=
  of? (n / 1000000000) (n % 1000000000).toNat

/-- The instant a number of microseconds after the start of 1970. -/
def ofMicroseconds? (n : Int) : Option Instant := ofNanoseconds? (n * 1000)

/-- The day and time of an instant. -/
def dateTime? (t : Instant) : Option DateTime := do
  let leap := 1000000000 ≤ t.nanosecond
  let secondOfDay := (t.seconds % 86400).toNat
  let date ← Date.ofDays? (t.seconds / 86400)
  let time ← TimeOfDay.of? (secondOfDay / 3600) (secondOfDay / 60 % 60)
    (secondOfDay % 60 + if leap then 1 else 0) (t.nanosecond % 1000000000)
  return ⟨date, time⟩

/-- The instant of a day and time at an offset from universal time. -/
def ofDateTime? (d : DateTime) (offsetSeconds : Int) : Option Instant :=
  let leap := d.time.second = 60
  let second := if leap then 59 else d.time.second
  let ofDay : Int := (d.time.hour * 3600 + d.time.minute * 60 + second : Nat)
  of? (d.date.toDays * 86400 + ofDay - offsetSeconds)
    (d.time.nanosecond + if leap then 1000000000 else 0)

/-! ### Order and difference -/

/-- Instants are ordered by their seconds, and within a second by the nanoseconds. A leap second
    belongs to the second in front of it, and comes before the next one. -/
instance : LE Instant where
  le s t := s.seconds < t.seconds ∨ s.seconds = t.seconds ∧ s.nanosecond ≤ t.nanosecond

instance (s t : Instant) : Decidable (s ≤ t) :=
  inferInstanceAs (Decidable (_ ∨ _))

/-- The second of the day. -/
def secondOfDay (t : Instant) : Int := t.seconds % 86400

/-- The seconds that a leap second adds to a difference, counted from `s` to `t`: one when the time
    of day that is in it comes before the other one. What days these are does not matter. -/
def leapBetween (s t : Instant) : Int :=
  if s.secondOfDay < t.secondOfDay ∧ 1000000000 ≤ s.nanosecond then 1
  else if t.secondOfDay < s.secondOfDay ∧ 1000000000 ≤ t.nanosecond then -1
  else 0

/-- The nanoseconds from `s` to `t`: those of the days, and those between the times of day. -/
def since (t s : Instant) : Int :=
  t.nanoseconds - s.nanoseconds + leapBetween s t * 1000000000

/-! ### Wire form -/

/-- The fraction of a second, with as many groups of three digits as it needs. -/
def fractionText (nanosecond : Nat) : List Char :=
  if nanosecond = 0 then []
  else if nanosecond % 1000000 = 0 then '.' :: paddedText 3 (nanosecond / 1000000)
  else if nanosecond % 1000 = 0 then '.' :: paddedText 6 (nanosecond / 1000)
  else '.' :: paddedText 9 nanosecond

/-- The wire form, in universal time. -/
def text (t : Instant) : String :=
  match t.dateTime? with
  | some d => String.ofList (d.date.chars ++ 'T' :: (d.time.chars ++
      (fractionText d.time.nanosecond ++ ['Z'])))
  | none => ""

/-- Reads a fraction of a second, if there is one: nine digits count. -/
def readFraction? : List Char → Option (Nat × List Char)
  | '.' :: rest =>
    let digits := rest.takeWhile Char.isDigit
    if digits.isEmpty then none
    else
      let kept := digits.take 9
      some (digitsValue kept * Nat.pow 10 (9 - kept.length), rest.drop digits.length)
  | s => some (0, s)

/-- Reads two digits. -/
def readPair? : List Char → Option (Nat × List Char)
  | a :: b :: rest => if a.isDigit && b.isDigit then some (digitsValue [a, b], rest) else none
  | _ => none

/-- Reads an offset from universal time, in seconds: a letter for none, or a signed hour and
    minute, with colons or blanks between them. -/
def readOffset? (s : List Char) : Option (Int × List Char) := do
  match Text.after? ['u', 't', 'c'] ((s.take 3).map Text.lowerAscii), s with
  | some _, s => return (0, s.drop 3)
  | none, c :: rest =>
    if c = 'Z' ∨ c = 'z' then return (0, rest)
    else
      let negative ← if c = '+' then some false
        else if c = '-' ∨ c = '−' then some true else none
      let (hours, rest) ← readPair? rest
      let (minutes, rest) ← readPair? (rest.dropWhile fun d => d == ':' || Text.isBlank d)
      if 60 ≤ minutes then none
      else
        let seconds : Int := (hours * 3600 + minutes * 60 : Nat)
        return (if negative then -seconds else seconds, rest)
  | none, [] => none

/-- The date part: blanks may stand in front of its separators too. -/
def datePattern : List PatternItem :=
  [.year, .blanks, .literal '-', .month, .blanks, .literal '-', .day]

/-- The time part, without the fraction. -/
def timePattern : List PatternItem :=
  [.hour, .blanks, .literal ':', .minute, .blanks, .literal ':', .second]

/-- Reads the wire form; the separator between date and time may be a `T` or a space. -/
def read? (s : String) : Option Instant := do
  let (fields, rest) ← (Pattern.readItems datePattern {} s.toList).toOption
  let rest ← match rest with
    | c :: rest => if c = 't' ∨ c = 'T' ∨ c = ' ' then some rest else none
    | [] => none
  let (fields, rest) ← (Pattern.readItems timePattern fields rest).toOption
  let (nanosecond, rest) ← readFraction? rest
  let (offset, rest) ← readOffset? (Text.trimStart rest)
  if !(Text.trimStart rest).isEmpty then none
  else if 86400 ≤ offset.natAbs then none
  else
    let date ← Date.of? fields.year fields.month fields.day
    let time ← TimeOfDay.of? fields.hour fields.minute fields.second nanosecond
    ofDateTime? ⟨date, time⟩ offset

end Instant

end QueryDispatch
