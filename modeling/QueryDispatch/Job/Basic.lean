import QueryDispatch.Data.Result

/-! # Jobs

  A job is one run of a query text on a data source. It is queued, then it
  runs, and it ends once: it succeeds with a result, fails with an error, or
  is cancelled on the way.
-/

namespace QueryDispatch

/-! ### Status -/

/-- Where a job stands. -/
inductive JobStatus where
  | queued
  | running
  | succeeded
  | failed
  | cancelled
  deriving DecidableEq, Repr

namespace JobStatus

/-- All statuses. -/
def all : List JobStatus := [.queued, .running, .succeeded, .failed, .cancelled]

/-- The name of a status. -/
def name : JobStatus → String
  | .queued => "queued"
  | .running => "running"
  | .succeeded => "succeeded"
  | .failed => "failed"
  | .cancelled => "cancelled"

/-- The status with a name. -/
def ofName? (name : String) : Option JobStatus := all.find? fun s => s.name == name

/-- Whether a job with this status has ended. -/
def isTerminal : JobStatus → Bool
  | .succeeded | .failed | .cancelled => true
  | .queued | .running => false

/-- The status diagram. -/
def canMoveTo : JobStatus → JobStatus → Bool
  | .queued, .running | .queued, .cancelled => true
  | .running, .succeeded | .running, .failed | .running, .cancelled => true
  | _, _ => false

/-- A job that has ended does not move. -/
theorem canMoveTo_of_isTerminal {s t : JobStatus} (h : s.isTerminal = true) :
    s.canMoveTo t = false := by
  cases s <;> cases t <;> simp_all [isTerminal, canMoveTo]

end JobStatus

instance : Wire JobStatus where
  encode s := .string s.name
  decode? j := (Wire.variant? j).bind JobStatus.ofName?

/-! ### Jobs -/

/-- What is kept about the request that created a job. -/
structure JobMetadata where
  username : Option String
  query : Option QueryId
  isApiUser : Bool
  deriving DecidableEq

/-- What is kept about a user's request. -/
def JobMetadata.of (user : Option User) (query : Option QueryId) : JobMetadata :=
  ⟨user.map (·.name), query, user.any (·.isApiUser)⟩

instance : Wire JobMetadata where
  encode m := .object [
    ("isApiUser", .bool m.isApiUser),
    ("queryId", Wire.encode m.query),
    ("username", Wire.encode m.username)]
  decode? j := do
    let f ← Fields.of? 3 j
    return ⟨← f.optional 0 "username", ← f.optional 1 "queryId",
      ← f.orDefault 2 "isApiUser" false⟩

/-- A job as it can be asked for. -/
structure Job where
  id : JobId
  fingerprint : Fingerprint
  source : SourceId
  text : String
  status : JobStatus
  error : Option String
  result : Option ResultId
  metadata : JobMetadata
  createdAt : Instant
  updatedAt : Instant
  deriving DecidableEq

namespace Job

/-- A new job, queued. -/
def of (id : JobId) (source : SourceId) (text : String) (metadata : JobMetadata)
    (now : Instant) : Job :=
  ⟨id, Fingerprint.of source.value text, source, text, .queued, none, none, metadata, now, now⟩

/-- The job with another status, if the diagram has that move. -/
def moveTo? (job : Job) (status : JobStatus) (now : Instant) : Option Job :=
  if job.status.canMoveTo status then some { job with status, updatedAt := now } else none

/-- The job ended with a result. -/
def succeed? (job : Job) (result : ResultId) (now : Instant) : Option Job :=
  (job.moveTo? .succeeded now).map fun j => { j with result := some result }

/-- The job ended with an error. -/
def fail? (job : Job) (error : String) (now : Instant) : Option Job :=
  (job.moveTo? .failed now).map fun j => { j with error := some error }

/-- The job cancelled. -/
def cancel? (job : Job) (now : Instant) : Option Job := job.moveTo? .cancelled now

end Job

instance : Wire Job where
  encode j := .withPresent [
    ("createdAt", some (Wire.encode j.createdAt)),
    ("dataSourceId", some (Wire.encode j.source)),
    ("error", j.error.map .string),
    ("fingerprint", some (Wire.encode j.fingerprint)),
    ("id", some (Wire.encode j.id)),
    ("metadata", some (Wire.encode j.metadata)),
    ("queryText", some (.string j.text)),
    ("resultId", j.result.map Wire.encode),
    ("status", some (Wire.encode j.status)),
    ("updatedAt", some (Wire.encode j.updatedAt))]
  decode? j := do
    let f ← Fields.of? 10 j
    return ⟨← f.required 0 "id", ← f.required 1 "fingerprint", ← f.required 2 "dataSourceId",
      ← f.required 3 "queryText", ← f.required 4 "status", ← f.orDefault 5 "error" none,
      ← f.orDefault 6 "resultId" none, ← f.required 7 "metadata", ← f.required 8 "createdAt",
      ← f.required 9 "updatedAt"⟩

/-! ### Requests -/

/-- A request to run a text on a data source. -/
structure JobRequest where
  source : DataSource
  /-- The text as it goes to the runner. -/
  text : String
  user : Option User
  metadata : JobMetadata

namespace JobRequest

/-- A request by nobody. -/
def of (source : DataSource) (text : String) : JobRequest :=
  ⟨source, text, none, JobMetadata.of none none⟩

/-- The request by a user. -/
def withUser (r : JobRequest) (user : Option User) : JobRequest :=
  { r with user, metadata := JobMetadata.of user r.metadata.query }

/-- The request for a saved query. -/
def withQuery (r : JobRequest) (query : Option QueryId) : JobRequest :=
  { r with metadata := { r.metadata with query } }

/-- The fingerprint of the source and the text. -/
def fingerprint (r : JobRequest) : Fingerprint := Fingerprint.of r.source.id.value r.text

end JobRequest

end QueryDispatch
