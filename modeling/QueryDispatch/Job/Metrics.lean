import QueryDispatch.Json.Wire
import QueryDispatch.Number.Shortest

/-! # Counters

  How many requests and jobs there were, for monitoring.
-/

namespace QueryDispatch

/-- Counts of requests and of ended jobs. -/
structure Counters where
  /-- Requests that created a job. -/
  enqueued : Nat
  /-- Requests that joined a job. -/
  deduplicated : Nat
  succeeded : Nat
  failed : Nat
  cancelled : Nat
  deriving DecidableEq, Repr

/-- Nothing counted yet. -/
def Counters.zero : Counters := ⟨0, 0, 0, 0, 0⟩

/-- The counters with the seconds that all ended runs took. -/
structure MetricsSnapshot where
  counters : Counters
  totalRuntime : Double

/-- The mean runtime of the jobs that ran to their end; zero if there are none. -/
def MetricsSnapshot.averageRuntime (m : MetricsSnapshot) : Double :=
  match Double.ofInt (m.counters.succeeded + m.counters.failed : Nat) with
  | some finished =>
    if finished.isZero then Double.zero false
    else (m.totalRuntime.div finished).getD (Double.zero false)
  | none => Double.zero false

/-- The wire form. -/
def MetricsSnapshot.toJson (m : MetricsSnapshot) : Json :=
  .object [
    ("cancelled", .nat m.counters.cancelled),
    ("deduplicated", .nat m.counters.deduplicated),
    ("enqueued", .nat m.counters.enqueued),
    ("failed", .nat m.counters.failed),
    ("succeeded", .nat m.counters.succeeded),
    ("total_runtime_secs", Wire.encode m.totalRuntime)]

end QueryDispatch
