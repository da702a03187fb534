import QueryDispatch.Service.Basic

/-! # The schedule

  Between two calls from outside the service moves on by itself: free workers
  take jobs, waiting calls go on where there is room, cancelled runs stop and
  runs end. The schedule is one order of these steps that leaves nothing
  undone. Which run may end next is decided outside, as it hangs on the
  backends.
-/

namespace QueryDispatch

/-- Times and identifiers for steps to come. -/
structure Supply where
  now : Instant
  /-- The number for the next identifier. -/
  next : Nat

namespace Supply

/-- The identifier for a new job. -/
def job (u : Supply) : JobId := ⟨Uuid.ofNat u.next⟩

/-- The identifier for a new result. -/
def result (u : Supply) : ResultId := ⟨Uuid.ofNat u.next⟩

/-- The supply for the step after this one, a microsecond later. -/
def tick (u : Supply) : Supply :=
  ⟨(Instant.ofNanoseconds? (u.now.nanoseconds + 1000)).getD u.now, u.next + 1⟩

end Supply

/-- Picks the run that ends next, if one may end. The choice may use up something. -/
abbrev Pace (γ : Type) := γ → List Assignment → Option (JobId × γ)

/-- How many steps can still be made without a call from outside: a waiting call has its own, that
    of the worker that takes its job, and that of the end. -/
def JobBoard.stepsLeft (b : JobBoard) : Nat :=
  3 * b.waiting.length + 2 * b.queue.length + b.running.length

namespace Service

/-- How the run of a job ends, by the runner of its data source. -/
def outcome (s : Service) (network : Network) (now : Instant) (a : Assignment) : JobOutcome :=
  match s.pool.get a.request.source with
  | .error e => .failed (.registry e)
  | .ok (held, _) => .ofRun (held.runner.run network now a.request.text a.request.user)

/-! ### One step -/

/-- The first waiting call that can go on. -/
def nextCall? (s : Service) : Option JobId :=
  if s.board.closed || s.board.hasRoom then s.board.waiting.head?.map (·.job) else none

/-- Whether a job is cancelled, so that a worker that is still at it stops. -/
def stops (s : Service) (id : JobId) : Bool :=
  (s.board.find? id).any fun job => decide (job.status = .cancelled)

/-- The first cancelled job that a worker is still at. -/
def nextStop? (s : Service) : Option JobId :=
  (s.board.running.find? fun a => s.stops a.job).map (·.job)

/-- The end of a run that may end. -/
def nextEnd? {γ : Type} (s : Service) (network : Network) (pace : Pace γ) (means : γ)
    (u : Supply) : Option (Label × γ) := do
  let (id, means) ← pace means s.board.running
  let a ← s.board.running? id
  let outcome := s.outcome network u.now a
  return (.finish id ⟨outcome, u.result, u.now, Double.zero false⟩, means)

/-- The step that is made next: a worker takes a job before a call goes on, and runs stop before
    others end. -/
def nextLabel? {γ : Type} (s : Service) (network : Network) (pace : Pace γ) (means : γ)
    (u : Supply) : Option (Label × γ) :=
  if !s.board.queue.isEmpty && s.board.hasIdleWorker then some (.take u.now, means)
  else match s.nextCall?, s.nextStop? with
    | some id, _ => some (.proceed id u.now, means)
    | none, some id => some (.stop id u.now, means)
    | none, none => s.nextEnd? network pace means u

/-! ### All steps -/

/-- What comes of making steps: the steps with their answers, in order, and what is left. -/
structure Settled (γ : Type) where
  trace : List (Label × Answer)
  service : Service
  means : γ
  supply : Supply

/-- Makes up to `count` steps. -/
def settleFor {γ : Type} (count : Nat) (network : Network) (pace : Pace γ) (means : γ)
    (u : Supply) (s : Service) : Settled γ :=
  match count with
  | 0 => ⟨[], s, means, u⟩
  | count + 1 =>
    match s.nextLabel? network pace means u with
    | none => ⟨[], s, means, u⟩
    | some (label, means) =>
      match s.step? label with
      | none => ⟨[], s, means, u⟩
      | some (answer, s) =>
        let rest := settleFor count network pace means u.tick s
        { rest with trace := (label, answer) :: rest.trace }

/-- Makes steps until nothing is left to be done. -/
def settle {γ : Type} (network : Network) (pace : Pace γ) (means : γ) (u : Supply)
    (s : Service) : Settled γ :=
  settleFor s.board.stepsLeft network pace means u s

end Service

end QueryDispatch
