import QueryDispatch.Calendar.Instant
import QueryDispatch.Runner.Error

/-! # Durations

  A duration is a sequence of amounts with units, such as `1h30m` or `250ms`.
  Its value is the exact sum in milliseconds; an amount of more than 31 bits
  or a sum of more than 63 bits makes the text invalid.
-/

namespace QueryDispatch

namespace Duration

/-- The largest amount that may stand before a unit. -/
def largestAmount : Nat := 2147483647

/-- The longest duration, in milliseconds. -/
def longest : Nat := 9223372036854775807

/-- The milliseconds of a second, which the longer units are multiples of. -/
def second : Nat := 1000

/-- The milliseconds of a day. -/
def day : Nat := 24 * 60 * 60 * second

/-- The milliseconds of a unit. A year has 365 days. -/
def unit? (name : List Char) : Option Nat :=
  match name with
  | ['m', 's'] => some 1
  | ['s'] => some second
  | ['m'] => some (60 * second)
  | ['h'] => some (60 * 60 * second)
  | ['d'] => some day
  | ['w'] => some (7 * day)
  | ['y'] => some (365 * day)
  | _ => none

/-- An amount with its unit, as they stand in a text. -/
structure Term where
  amount : List Char
  unit : List Char
  deriving DecidableEq, Repr

/-- The milliseconds of a term. -/
def Term.value? (t : Term) : Option Nat :=
  if t.amount.isEmpty ∨ largestAmount < digitsValue t.amount then none
  else (unit? t.unit).map (digitsValue t.amount * ·)

/-- Takes a term off the front: digits, and what follows up to the next digit. -/
def takeTerm (s : List Char) : Term × List Char :=
  let rest := s.dropWhile Char.isDigit
  (⟨s.takeWhile Char.isDigit, rest.takeWhile (!Char.isDigit ·)⟩, rest.dropWhile (!Char.isDigit ·))

theorem length_takeTerm (c : Char) (s : List Char) :
    (takeTerm (c :: s)).2.length < (c :: s).length := by
  have drop_le : ∀ (p : Char → Bool) (t : List Char), (t.dropWhile p).length ≤ t.length :=
    fun p t => (List.dropWhile_sublist p).length_le
  by_cases h : c.isDigit
  · have h₁ := drop_le (!Char.isDigit ·) (s.dropWhile Char.isDigit)
    have h₂ := drop_le Char.isDigit s
    simp only [takeTerm, List.dropWhile_cons, h, if_true, List.length_cons]
    omega
  · have h₁ := drop_le (!Char.isDigit ·) s
    simp only [takeTerm, List.dropWhile_cons, h, List.length_cons]
    simp only [Bool.not_false, if_true, Bool.false_eq_true, if_false, List.dropWhile_cons, h]
    omega

/-- The terms of a text. -/
def terms : List Char → List Term
  | [] => []
  | c :: s => (takeTerm (c :: s)).1 :: terms (takeTerm (c :: s)).2
termination_by s => s.length
decreasing_by exact length_takeTerm c s

/-- Adds terms to a sum, each sum within bounds. -/
def sum? (total : Nat) : List Term → Option Nat
  | [] => some total
  | t :: rest =>
    match t.value? with
    | none => none
    | some n => if total + n ≤ longest then sum? (total + n) rest else none

/-- The milliseconds of a duration. -/
def read (text : String) : Except FormatFault Nat :=
  match text.toList with
  | [] => .error (.duration text)
  | s =>
    match sum? 0 (terms s) with
    | some n => .ok n
    | none => .error (.duration text)

end Duration

/-- The instant some milliseconds earlier, if it is within the calendar. Less than a second before
    a moment in a leap second is still counted from the start of that second. -/
def Instant.before? (t : Instant) (milliseconds : Nat) : Option Instant :=
  let n := milliseconds * 1000000
  if 1000000000 ≤ t.nanosecond ∧ n < 1000000000 then Instant.of? t.seconds (t.nanosecond - n)
  else Instant.ofNanoseconds? (t.nanoseconds - n)

end QueryDispatch
