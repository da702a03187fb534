import QueryDispatch.TimeSeries.Server
import QueryDispatch.Warehouse.Session
import QueryDispatch.Data.Source

/-! # Runners

  A runner runs query texts on one backend. Besides that it may add a row
  limit to a text, and it may be able to browse its backend or to test the
  connection; whoever wants these asks whether they are there.
-/

namespace QueryDispatch

/-- How runners reach their backends. -/
structure Network where
  exchange : Exchange
  /-- The frames of a warehouse that is dialed. -/
  dial : WarehouseSettings → Except TransportFault (List Frame)
  client : Line.Client

/-- How a run ends. -/
inductive RunOutcome where
  | rows (data : Table)
  | failed (error : RunnerError)
  /-- The runner itself broke off, with a text that says why if there is one. -/
  | crashed (cause : Option String)

namespace RunOutcome

/-- The outcome of a run that does not break off. -/
def of : Except RunnerError Table → RunOutcome
  | .ok data => .rows data
  | .error e => .failed e

end RunOutcome

/-- A runner. -/
structure Runner where
  /-- The name of its kind of backend, whatever name it is registered under. -/
  type : String
  /-- A query text with a row limit, if that is wanted and the backend knows row limits. -/
  limitRows : String → Bool → String
  browsesSchema : Bool
  testsConnection : Bool
  /-- Runs a query text for a user at an instant. -/
  run : Network → Instant → String → Option User → RunOutcome

end QueryDispatch
