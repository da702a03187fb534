import QueryDispatch.TimeSeries.Duration

/-! # Time bounds

  A bound is `now`, a time before now, or any other text, which is passed on
  for the backend to read. A request may bring bounds of its own; they take
  the place of everything behind the first parameter of the query text.
-/

namespace QueryDispatch

namespace TimeBound

/-- The seconds of an instant, as text. -/
def secondsText (t : Instant) : String := String.ofList (intText t.seconds)

/-- The text for a time before now. `value` is what a failure shows. -/
def earlier (value : String) (now : Instant) (milliseconds : Nat) : Except FormatFault String :=
  match now.before? milliseconds with
  | some t => .ok (secondsText t)
  | none => .error (.timeRange value)

/-- The text for a bound: `now`, `now-` or `-` with a duration are taken from now, in seconds; a
    `-` with a numeral and any other text are passed on. -/
def resolve (value : String) (now : Instant) : Except FormatFault String :=
  if value = "now" then earlier value now 0
  else match Text.after? "now-".toList value.toList with
    | some rest => do earlier value now (← Duration.read (String.ofList rest))
    | none =>
      match value.toList with
      | '-' :: rest =>
        match Duration.read (String.ofList rest) with
        | .ok d => earlier value now d
        | .error fault => if (Numeral.read? rest).isSome then .ok value else .error fault
      | _ => .ok value

end TimeBound

/-- Explicit bounds for a query text. -/
structure TimeRange where
  start : Option String
  finish : Option String
  deriving DecidableEq, Repr

namespace TimeRange

/-- A parameter to append, if there is a value. -/
def parameter (name : String) : Option String → List Char
  | some value => '&' :: (name.toList ++ '=' :: value.toList)
  | none => []

/-- Keeps the text up to the first `&` and appends the bounds. Without bounds the text stays. -/
def apply (range : TimeRange) (text : String) : String :=
  if range.start.isNone && range.finish.isNone then text
  else String.ofList (text.toList.takeWhile (· != '&') ++ parameter "start" range.start ++
    parameter "end" range.finish)

end TimeRange

end QueryDispatch
