import QueryDispatch.Number.Numeral

/-! # Dates and times of day

  Days of the proleptic Gregorian calendar, year zero included, in a span of
  about 262 thousand years around it, and times of day with nanoseconds.
-/

namespace QueryDispatch

/-! ### Days -/

/-- Whether a year has a 29th of February. -/
def isLeapYear (year : Int) : Bool := year % 4 == 0 && (year % 100 != 0 || year % 400 == 0)

/-- How many days a month has; a number that is no month has none. -/
def daysInMonth (year : Int) (month : Nat) : Nat :=
  match month with
  | 1 | 3 | 5 | 7 | 8 | 10 | 12 => 31
  | 4 | 6 | 9 | 11 => 30
  | 2 => if isLeapYear year then 29 else 28
  | _ => 0

/-- A day that exists, in the span of years that is kept. -/
def IsDate (year : Int) (month day : Nat) : Prop :=
  (-262143 ≤ year ∧ year ≤ 262142) ∧ 1 ≤ day ∧ day ≤ daysInMonth year month

instance (year : Int) (month day : Nat) : Decidable (IsDate year month day) :=
  inferInstanceAs (Decidable (_ ∧ _))

/-- A day of the calendar. -/
structure Date where
  year : Int
  month : Nat
  day : Nat
  exists_day : IsDate year month day
  deriving DecidableEq

namespace Date

/-- The day with these numbers, if there is one. -/
def of? (year : Int) (month day : Nat) : Option Date :=
  if h : IsDate year month day then some ⟨year, month, day, h⟩ else none

/-- The number of days from 1 January 1970, for any year, month and day. -/
def dayNumber (year : Int) (month day : Nat) : Int :=
  let y := if month ≤ 2 then year - 1 else year
  let era := y / 400
  let yearOfEra := y - era * 400
  let shifted : Int := ((month + 9) % 12 : Nat)
  let dayOfYear := (153 * shifted + 2) / 5 + day - 1
  era * 146097 + yearOfEra * 365 + yearOfEra / 4 - yearOfEra / 100 + dayOfYear - 719468

/-- The number of days from 1 January 1970. -/
def toDays (d : Date) : Int := dayNumber d.year d.month d.day

/-- The day that is `n` days from 1 January 1970, if it is in the span of years. -/
def ofDays? (n : Int) : Option Date :=
  let z := n + 719468
  let era := z / 146097
  let dayOfEra := z - era * 146097
  let yearOfEra :=
    (dayOfEra - dayOfEra / 1460 + dayOfEra / 36524 - dayOfEra / 146096) / 365
  let dayOfYear := dayOfEra - (365 * yearOfEra + yearOfEra / 4 - yearOfEra / 100)
  let shifted := (5 * dayOfYear + 2) / 153
  let day := dayOfYear - (153 * shifted + 2) / 5 + 1
  let month := if shifted < 10 then shifted + 3 else shifted - 9
  let year := yearOfEra + era * 400 + (if month ≤ 2 then 1 else 0)
  of? year month.toNat day.toNat

end Date

/-! ### Times of day -/

/-- A time that a clock shows; second 60 is a leap second. -/
def IsTime (hour minute second nanosecond : Nat) : Prop :=
  hour < 24 ∧ minute < 60 ∧ second ≤ 60 ∧ nanosecond < 1000000000

instance (hour minute second nanosecond : Nat) :
    Decidable (IsTime hour minute second nanosecond) :=
  inferInstanceAs (Decidable (_ ∧ _))

/-- A time of day. -/
structure TimeOfDay where
  hour : Nat
  minute : Nat
  second : Nat
  nanosecond : Nat
  exists_time : IsTime hour minute second nanosecond
  deriving DecidableEq

namespace TimeOfDay

/-- The time with these numbers, if there is one. -/
def of? (hour minute second nanosecond : Nat) : Option TimeOfDay :=
  if h : IsTime hour minute second nanosecond then some ⟨hour, minute, second, nanosecond, h⟩
  else none

end TimeOfDay

/-- A day and a time on it. -/
structure DateTime where
  date : Date
  time : TimeOfDay
  deriving DecidableEq

/-! ### Texts -/

/-- A number in at least `width` digits. -/
def paddedText (width n : Nat) : List Char := Text.padStart width '0' (natText n)

/-- A year in four digits; outside of 0 to 9999 with its sign. -/
def yearText (year : Int) : List Char :=
  if 0 ≤ year ∧ year ≤ 9999 then paddedText 4 year.toNat
  else (if year < 0 then '-' else '+') :: paddedText 4 year.natAbs

/-- A date as `YYYY-MM-DD`. -/
def Date.chars (d : Date) : List Char :=
  yearText d.year ++ '-' :: (paddedText 2 d.month ++ '-' :: paddedText 2 d.day)

/-- A date as `YYYY-MM-DD`. -/
def Date.text (d : Date) : String := String.ofList d.chars

/-- A time as `hh:mm:ss`. -/
def TimeOfDay.chars (t : TimeOfDay) : List Char :=
  paddedText 2 t.hour ++ ':' :: (paddedText 2 t.minute ++ ':' :: paddedText 2 t.second)

/-- The form of dates with times in results: `YYYY-MM-DDThh:mm:ss.ffffff`. -/
def DateTime.text (d : DateTime) : String :=
  String.ofList (d.date.chars ++ 'T' :: (d.time.chars ++
    '.' :: paddedText 6 (d.time.nanosecond / 1000)))

end QueryDispatch
