import QueryDispatch.Dispatch.Completion
import QueryDispatch.Service.Request

/-! # The service

  The service answers requests from the store or with jobs. Its state changes
  in steps, each of which is what one task does between two waits: a call goes
  as far as it gets, a worker takes a job or deals with its end, somebody
  cancels. The steps come in any order; identifiers and times come with them.
-/

namespace QueryDispatch

/-! ### State -/

/-- The state of the service. -/
structure Service where
  board : JobBoard
  store : Store
  pool : RunnerPool
  /-- What was decided so far, in order. -/
  events : List ExecutionEvent

namespace Service

/-- A service that has done nothing yet. -/
def start (config : Config) (store : Store) (registry : Registry) :
    Except DispatchError Service := do
  config.check.mapError .config
  return ⟨JobBoard.empty config.dispatch, store, RunnerPool.of registry, []⟩

/-! ### Steps -/

/-- What happens in a step. -/
inductive Label where
  /-- A request, with the identifier for a job if it needs one. -/
  | request (r : QueryRequest) (id : JobId) (now : Instant)
  /-- A call for a job without a look into the store. -/
  | enqueue (r : JobRequest) (id : JobId) (now : Instant)
  /-- A waiting call goes on. -/
  | proceed (id : JobId) (now : Instant)
  /-- A waiting call is given up. -/
  | abandon (id : JobId) (now : Instant)
  | cancel (id : JobId) (now : Instant)
  /-- A worker takes a job, and gets a runner for it. -/
  | take (now : Instant)
  /-- A worker deals with the end of a run. -/
  | finish (id : JobId) (completion : Completion)
  /-- A worker stops at a cancelled job. -/
  | stop (id : JobId) (now : Instant)
  | shutDown (now : Instant)

/-- What whoever made a step gets. -/
inductive Reply where
  /-- Nothing. -/
  | done
  /-- A job that was created or joined. -/
  | queued (job : Job)
  | cached (result : StoredResult)
  /-- The call waits with a job. -/
  | waits (id : JobId)
  /-- A job that was asked for. -/
  | job (job : Job)
  /-- What a worker is at from now on. -/
  | runs (a : Assignment)

/-- An answer. -/
abbrev Answer := Except DispatchError Reply

/-- The answer to a call for a job. -/
def answerCall (id : JobId) : JobBoard.CallOutcome → Answer
  | .joined job | .queued job => .ok (.queued job)
  | .waits => .ok (.waits id)
  | .refused => .error .closed

/-- Calls for a job. -/
def enqueue (s : Service) (r : JobRequest) (id : JobId) (now : Instant) : Answer × Service :=
  let (outcome, board) := s.board.enqueue id r now
  (answerCall id outcome, { s with board })

/-- Answers a request: from the store, or with a job. The decision is recorded. -/
def request (s : Service) (r : QueryRequest) (id : JobId) (now : Instant) : Answer × Service :=
  match r.decide s.store s.pool now with
  | (.error e, pool) => (.error e, { s with pool })
  | (.ok decision, pool) =>
    let s := { s with pool, events := s.events ++ [ExecutionEvent.of r decision] }
    match decision.cached with
    | some result => (.ok (.cached result), s)
    | none =>
      s.enqueue (((JobRequest.of decision.source decision.text).withUser r.user).withQuery r.saved)
        id now

/-- Makes a step, if it can be made. -/
def step? (s : Service) : Label → Option (Answer × Service)
  | .request r id now => some (s.request r id now)
  | .enqueue r id now => some (s.enqueue r id now)
  | .proceed id now =>
    (s.board.proceed? id now).map fun (outcome, board) =>
      (answerCall id outcome, { s with board })
  | .abandon id now =>
    (s.board.abandon? id now).map fun board => (.ok .done, { s with board })
  | .cancel id now =>
    let board := s.board.cancel id now
    some ((board.fetch id).map .job, { s with board })
  | .take now =>
    (s.board.take? now).map fun
      | (none, board) => (.ok .done, { s with board })
      | (some a, board) => (.ok (.runs a), { s with board, pool := s.pool.after a.request.source })
  | .finish id completion =>
    (s.board.finish? s.store id completion).map fun (board, store) =>
      (.ok .done, { s with board, store })
  | .stop id now => (s.board.stop? id now).map fun board => (.ok .done, { s with board })
  | .shutDown now => some (.ok .done, { s with board := s.board.shutDown now })

/-! ### Runs -/

/-- The identifiers of jobs that a step may create. -/
def Label.newJob? : Label → Option JobId
  | .request _ id _ | .enqueue _ id _ => some id
  | _ => none

/-- The identifier of the result that a step may store. -/
def Label.newResult? : Label → Option ResultId
  | .finish _ completion => some completion.result
  | _ => none

/-- Whether a step uses identifiers that are not in use yet. -/
def Fresh (s : Service) (l : Label) : Prop :=
  (∀ id, l.newJob? = some id → s.board.find? id = none) ∧
    ∀ id, l.newResult? = some id → s.store.records.result? id = none

/-- A run: steps with their answers, the last one first, from one state to another. -/
inductive Run (s₀ : Service) : List (Label × Answer) → Service → Prop where
  | start : Run s₀ [] s₀
  | step {trace : List (Label × Answer)} {s t : Service} {l : Label} {a : Answer} :
      Run s₀ trace s → Fresh s l → s.step? l = some (a, t) → Run s₀ ((l, a) :: trace) t

end Service

end QueryDispatch
