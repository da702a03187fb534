import QueryDispatch.Calendar.Instant
import QueryDispatch.Data.Table
import QueryDispatch.Json.Printer
import QueryDispatch.Runner.Error

/-! # Series as tables

  A backend answers with series: labels, and one sample or a list of samples.
  Every sample becomes a row that has its series' labels beside its time and
  value. Which of the two forms the series have is decided by the first one.
-/

namespace QueryDispatch

/-- The forms of series. -/
inductive SeriesShape where
  /-- A list of samples under `values`. -/
  | range
  /-- One sample under `value`. -/
  | single
  deriving DecidableEq, Repr

namespace Series

/-- The form of a series. -/
def shape (series : Json) : Except FormatFault SeriesShape :=
  if (series.get? "values").isSome then .ok .range
  else if (series.get? "value").isSome then .ok .single
  else .error .resultShape

/-- The labels of a series. -/
def labels (series : Json) : JsonFields :=
  match series.get? "metric" with
  | some (.object fields) => fields
  | _ => []

/-- The samples of a series of a form. -/
def samples (shape : SeriesShape) (series : Json) : Except FormatFault (List Json) :=
  match shape with
  | .range =>
    match series.get? "values" with
    | some (.array samples) => .ok samples
    | _ => .error .noValues
  | .single =>
    match series.get? "value" with
    | some sample => .ok [sample]
    | none => .error .noValue

/-- The nanoseconds that a time in seconds has beyond its whole seconds. -/
def nanosecondsOf (seconds : Double) : Nat :=
  let scaled := do (← seconds.aboveFloor).mul (← Double.ofInt 1000000000)
  min ((scaled.map (·.roundHalfUp)).getD 0) 999999999

/-- The text of a sample's time, which is given in seconds since the start of 1970. -/
def timeText (time : Json) : Except FormatFault String :=
  match Wire.double? time with
  | none => .error (.sampleTime time)
  | some seconds =>
    match (Instant.of? seconds.floor (nanosecondsOf seconds)).bind (·.dateTime?) with
    | some d => .ok d.text
    | none => .error (.sampleTimeRange seconds)

/-- The row of a sample: the labels, and the time and value of the sample over them. -/
def row (labels : JsonFields) (sample : Json) : Except FormatFault Row :=
  match sample with
  | .array [time, value] => do
    let text ← timeText time
    return ((Row.mk labels).set "timestamp" (.string text)).set "value" value
  | sample => .error (.sample sample)

/-- The rows of a series of a form. -/
def rows (shape : SeriesShape) (series : Json) : Except FormatFault (List Row) := do
  (← samples shape series).mapM (row (labels series))

/-- The columns that a first series gives: time, value, and its labels. -/
def columns (first : Json) : List Column :=
  Column.plain "timestamp" .datetime :: Column.plain "value" .string ::
    (labels first).map fun (name, _) => Column.plain name .string

/-- The table of a list of series. -/
def table (series : List Json) : Except RunnerError Table :=
  match series with
  | [] => .error .noSeries
  | first :: _ =>
    (do
      let shape ← shape first
      let rows ← series.mapM (rows shape)
      return Table.of (columns first) rows.flatten).mapError .format

end Series

end QueryDispatch
