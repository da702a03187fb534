import QueryDispatch.Dispatch.Board

/-! # Completion

  When a run has ended, the worker stores its rows and then says that the job
  succeeded. A job that was cancelled meanwhile leaves no result, and a result
  that cannot be stored fails the job. A runner that breaks off fails only its
  own job.
-/

namespace QueryDispatch

/-- How the run of a job ends. -/
inductive JobOutcome where
  | rows (data : Table)
  /-- The runner, or building it, failed. -/
  | failed (error : DispatchError)
  /-- The runner itself broke off, with a text that says why if there is one. -/
  | crashed (cause : Option String)

namespace JobOutcome

/-- What is kept of a runner's outcome. -/
def ofRun : RunOutcome → JobOutcome
  | .rows data => .rows data
  | .failed error => .failed (.runner error)
  | .crashed cause => .crashed cause

end JobOutcome

/-- What is kept with a job whose runner broke off. -/
def crashMessage (cause : Option String) : String :=
  "Query runner panicked: " ++ cause.getD "unknown cause"

/-- What a worker brings along when a run has ended. -/
structure Completion where
  outcome : JobOutcome
  /-- The identifier for the result. -/
  result : ResultId
  now : Instant
  /-- How long the run took, in seconds. -/
  runtime : Double

namespace JobBoard

/-- Makes a result the latest one of the request's saved query. A failure is passed over. -/
def pointTo (store : Store) (request : JobRequest) (result : ResultId) : Store :=
  match request.metadata.query with
  | none => store
  | some query => (store.updateLatest query result).toOption.getD store

/-- Stores the rows of a running job and ends it. -/
def complete (b : JobBoard) (store : Store) (a : Assignment) (c : Completion) (data : Table) :
    JobBoard × Store :=
  if (b.find? a.job).map (·.status) = some .running then
    let result := StoredResult.of c.result a.request.source.id a.request.text data c.now c.runtime
    match store.insert result with
    | .error e => (b.failJob a.job ("Failed to store result: " ++ e.message) c.now, store)
    | .ok store => (b.succeedJob a.job c.result c.now, pointTo store a.request c.result)
  else (b, store)

/-- Ends a job as its run ended. -/
def settleJob (b : JobBoard) (store : Store) (a : Assignment) (c : Completion) :
    JobBoard × Store :=
  match c.outcome with
  | .rows data => b.complete store a c data
  | .failed error => (b.failJob a.job error.message c.now, store)
  | .crashed cause => (b.failJob a.job (crashMessage cause) c.now, store)

/-- A worker deals with the end of a run, and is free again. -/
def finish? (b : JobBoard) (store : Store) (id : JobId) (c : Completion) :
    Option (JobBoard × Store) :=
  (b.running? id).map fun a =>
    let (b, store) := b.settleJob store a c
    (b.retire id, store)

end JobBoard

end QueryDispatch
