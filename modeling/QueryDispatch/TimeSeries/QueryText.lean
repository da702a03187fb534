import QueryDispatch.Text.FormData
import QueryDispatch.TimeSeries.Bounds

/-! # Query texts of time series

  A query text is form data, such as `query=up&start=now-1d&step=60s`. It is
  resolved at every run, so that a text that says `now` keeps meaning now. A
  text without bounds asks for the last hour.
-/

namespace QueryDispatch

/-- Parameters by name, in the order in which they first got a value. -/
abbrev Parameters := List (String × String)

namespace Parameters

/-- Adds a pair unless its value is empty or its name is there already. -/
def addNew (params : Parameters) (pair : String × String) : Parameters :=
  if pair.2.isEmpty || params.any (·.1 == pair.1) then params else params ++ [pair]

/-- Sets the value of a name at its place, or at the end if it is new. -/
def set (name value : String) : Parameters → Parameters
  | [] => [(name, value)]
  | (n, v) :: rest => if n = name then (n, value) :: rest else (n, v) :: set name value rest

end Parameters

/-- A query text with its bounds resolved. -/
structure ResolvedQuery where
  params : Parameters
  /-- Whether the text gives a step. -/
  hasStep : Bool
  deriving DecidableEq, Repr

namespace ResolvedQuery

/-- How long the time range is if no start is given, in milliseconds. -/
def defaultWindow : Nat := 3600 * 1000

/-- The step if none is given. -/
def defaultStep : String := "1s"

/-- What the result calls the kind of query. -/
def queryType (q : ResolvedQuery) : String := if q.hasStep then "query_range" else "query"

/-- The value of a name. -/
def get? (q : ResolvedQuery) (name : String) : Option String := q.params.lookup name

/-- The parameters that a query text gives: each name with its first value that is not empty. A
    text that does not start with `query=` is the query itself. -/
def given (text : String) : Parameters :=
  let s := text.toList
  let s := if (Text.after? "query=".toList s).isSome then s else "query=".toList ++ s
  (FormData.read s).foldl Parameters.addNew []

/-- Resolves a query text at an instant, the end before the start. -/
def of (text : String) (now : Instant) : Except FormatFault ResolvedQuery := do
  let params := given text
  let finish ← TimeBound.resolve ((params.lookup "end").getD "now") now
  let start ← match params.lookup "start" with
    | some start => TimeBound.resolve start now
    | none => TimeBound.earlier "now" now defaultWindow
  let hasStep := (params.lookup "step").isSome
  let bounded := (params.set "end" finish).set "start" start
  return ⟨if hasStep then bounded else bounded.set "step" defaultStep, hasStep⟩

end ResolvedQuery

end QueryDispatch
