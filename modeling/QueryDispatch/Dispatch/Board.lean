import QueryDispatch.Dispatch.Error
import QueryDispatch.Job.Basic
import QueryDispatch.Job.Metrics

/-! # The job board

  The board keeps the jobs: those that have not been retired, those that have,
  and where each one is on its way from a call to a worker. A call registers
  its job before the job is in the queue, so others can join it at once; while
  the queue is full the call waits. A job is retired when it has ended, and
  then its fingerprint is free for another job.
-/

namespace QueryDispatch

/-! ### State -/

/-- A job on its way, with the request that created it. -/
structure Assignment where
  job : JobId
  request : JobRequest

/-- The jobs and where they are. -/
structure JobBoard where
  config : DispatchConfig
  /-- Jobs that have not been retired. -/
  active : Assoc JobId Job
  /-- Retired jobs. -/
  finished : Assoc JobId Job
  /-- The job that answers requests with a fingerprint. -/
  inFlight : Assoc Fingerprint JobId
  /-- What workers take from, in order; a job that was cancelled stays in its place. -/
  queue : List Assignment
  /-- Calls that wait for room in the queue, in order. -/
  waiting : List Assignment
  /-- What the workers are at. -/
  running : List Assignment
  counters : Counters
  /-- Whether the queue is closed for good. -/
  closed : Bool

namespace JobBoard

/-- A board without jobs. -/
def empty (config : DispatchConfig) : JobBoard :=
  ⟨config, [], [], [], [], [], [], Counters.zero, false⟩

/-- Whether the queue takes one more job. -/
def hasRoom (b : JobBoard) : Bool := decide (b.queue.length < b.config.queueSize.toNat)

/-- Whether a worker is free. -/
def hasIdleWorker (b : JobBoard) : Bool := decide (b.running.length < b.config.workers.toNat)

/-- A job as it can be asked for. -/
def find? (b : JobBoard) (id : JobId) : Option Job :=
  match b.active.find? id with
  | some job => some job
  | none => b.finished.find? id

/-- The job that answers requests with a fingerprint: registered for it, and not ended. -/
def live? (b : JobBoard) (fingerprint : Fingerprint) : Option Job :=
  ((b.inFlight.find? fingerprint).bind b.active.find?).filter fun job => !job.status.isTerminal

/-! ### Changes of one job -/

/-- Changes an active job, if the change applies. -/
def update? (b : JobBoard) (id : JobId) (change : Job → Option Job) : Option JobBoard :=
  ((b.active.find? id).bind change).map fun job => { b with active := b.active.put id job }

/-- The board with other counters. -/
def count (b : JobBoard) (change : Counters → Counters) : JobBoard :=
  { b with counters := change b.counters }

/-- Cancels a job unless it has ended. -/
def cancelJob (b : JobBoard) (id : JobId) (now : Instant) : JobBoard :=
  match b.update? id (·.cancel? now) with
  | some b => b.count fun c => { c with cancelled := c.cancelled + 1 }
  | none => b

/-- Ends a job with an error unless it has ended. -/
def failJob (b : JobBoard) (id : JobId) (error : String) (now : Instant) : JobBoard :=
  match b.update? id (·.fail? error now) with
  | some b => b.count fun c => { c with failed := c.failed + 1 }
  | none => b

/-- Ends a job with a result unless it has ended. -/
def succeedJob (b : JobBoard) (id : JobId) (result : ResultId) (now : Instant) : JobBoard :=
  match b.update? id (·.succeed? result now) with
  | some b => b.count fun c => { c with succeeded := c.succeeded + 1 }
  | none => b

/-- Frees the fingerprint of a job and retires it. A second time this does nothing, also when
    another job has got the fingerprint. -/
def release (b : JobBoard) (id : JobId) : JobBoard :=
  match b.find? id with
  | none => b
  | some job =>
    let inFlight :=
      if b.inFlight.find? job.fingerprint = some id then b.inFlight.erase job.fingerprint
      else b.inFlight
    if (b.active.find? id).isSome then
      { b with inFlight, active := b.active.erase id, finished := b.finished.put id job }
    else { b with inFlight }

/-- Cancels a job and retires it. -/
def drop (b : JobBoard) (id : JobId) (now : Instant) : JobBoard := (b.cancelJob id now).release id

/-! ### Calls -/

/-- What a call that asks for a job comes to. -/
inductive CallOutcome where
  /-- There is such a job already. -/
  | joined (job : Job)
  /-- The job is in the queue. -/
  | queued (job : Job)
  /-- The job waits for room in the queue. -/
  | waits
  /-- The queue is closed, and the job is cancelled. -/
  | refused
  deriving DecidableEq

/-- Registers a new job. -/
def register (b : JobBoard) (id : JobId) (request : JobRequest) (now : Instant) : JobBoard :=
  let job := Job.of id request.source.id request.text request.metadata now
  { b with
    active := b.active.put id job
    inFlight := b.inFlight.put request.fingerprint id }

/-- Puts a job at the end of the queue. -/
def send (b : JobBoard) (a : Assignment) : JobBoard :=
  { b with queue := b.queue ++ [a] }.count fun c => { c with enqueued := c.enqueued + 1 }

/-- Asks for a job: joins the one that is live for the request's fingerprint, or registers a new one
    and sends it to the queue. -/
def enqueue (b : JobBoard) (id : JobId) (request : JobRequest) (now : Instant) :
    CallOutcome × JobBoard :=
  match b.live? request.fingerprint with
  | some job => (.joined job, b.count fun c => { c with deduplicated := c.deduplicated + 1 })
  | none =>
    let registered := b.register id request now
    if b.closed then (.refused, registered.drop id now)
    else if b.hasRoom then
      (.queued (Job.of id request.source.id request.text request.metadata now),
        registered.send ⟨id, request⟩)
    else (.waits, { registered with waiting := b.waiting ++ [⟨id, request⟩] })

/-- The call that waits with a job. -/
def waiting? (b : JobBoard) (id : JobId) : Option Assignment := b.waiting.find? (·.job == id)

/-- The board without the call that waits with a job. -/
def withoutWaiting (b : JobBoard) (id : JobId) : JobBoard :=
  { b with waiting := b.waiting.filter (·.job != id) }

/-- Lets a waiting call go on: it is refused when the queue is closed, and it sends its job when
    there is room, whatever has become of the job meanwhile. -/
def proceed? (b : JobBoard) (id : JobId) (now : Instant) : Option (CallOutcome × JobBoard) := do
  let a ← b.waiting? id
  if b.closed then return (.refused, (b.withoutWaiting id).drop id now)
  else if b.hasRoom then return (.queued (← b.find? id), (b.withoutWaiting id).send a)
  else none

/-- Gives up a waiting call; its job is cancelled. -/
def abandon? (b : JobBoard) (id : JobId) (now : Instant) : Option JobBoard :=
  (b.waiting? id).map fun _ => (b.withoutWaiting id).drop id now

/-- Cancels a job that has not ended. -/
def cancel (b : JobBoard) (id : JobId) (now : Instant) : JobBoard :=
  if (b.active.find? id).isSome then b.drop id now else b

/-- The job of an identifier, or an error. -/
def fetch (b : JobBoard) (id : JobId) : Except DispatchError Job :=
  match b.find? id with
  | some job => .ok job
  | none => .error (.noSuchJob id)

/-- What someone who waits for a job gets: nothing while the job is active and has not ended. A job
    that is not active is looked up, and got as it is. -/
def wait? (b : JobBoard) (id : JobId) : Except DispatchError (Option Job) :=
  match b.active.find? id with
  | some job => .ok (if job.status.isTerminal then some job else none)
  | none => (b.fetch id).map some

/-- Cancels all jobs that have not ended and closes the queue. -/
def shutDown (b : JobBoard) (now : Instant) : JobBoard :=
  { b.active.keys.foldl (fun b id => b.cancel id now) b with closed := true }

/-! ### Workers -/

/-- A free worker takes the first job of the queue. If the job is queued, it runs from now on, and
    the worker is at it. -/
def take? (b : JobBoard) (now : Instant) : Option (Option Assignment × JobBoard) :=
  match b.queue with
  | [] => none
  | a :: rest =>
    if !b.hasIdleWorker then none
    else
      let b := { b with queue := rest }
      match b.active.find? a.job with
      | none => some (none, b)
      | some _ =>
        match b.update? a.job (·.moveTo? .running now) with
        | some b => some (some a, { b with running := b.running ++ [a] })
        | none => some (none, b.release a.job)

/-- What a worker is at. -/
def running? (b : JobBoard) (id : JobId) : Option Assignment := b.running.find? (·.job == id)

/-- Frees the worker of a job and retires the job. -/
def retire (b : JobBoard) (id : JobId) : JobBoard :=
  { b with running := b.running.filter (·.job != id) }.release id

/-- A worker stops because its job was cancelled. -/
def stop? (b : JobBoard) (id : JobId) (now : Instant) : Option JobBoard :=
  match b.running? id, b.find? id with
  | some _, some job =>
    if job.status = .cancelled then some ((b.cancelJob id now).retire id) else none
  | _, _ => none

end JobBoard

end QueryDispatch
