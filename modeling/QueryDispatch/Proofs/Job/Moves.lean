import QueryDispatch.Job.Basic

/-! # Moves of a job

  The forms that a job takes on its way, and what stays of it: a move changes
  the status and what comes with it, never the identity or the request. Each
  guarded move of the model is one of these forms exactly when the status
  diagram has it.
-/

namespace QueryDispatch

namespace Job

/-! ### Forms -/

/-- The job with another status. -/
def moved (job : Job) (status : JobStatus) (now : Instant) : Job :=
  { job with status, updatedAt := now }

/-- The job ended with a result. -/
def succeeded (job : Job) (result : ResultId) (now : Instant) : Job :=
  { job.moved .succeeded now with result := some result }

/-- The job ended with an error. -/
def failed (job : Job) (error : String) (now : Instant) : Job :=
  { job.moved .failed now with error := some error }

@[simp] theorem moved_status (job : Job) (status : JobStatus) (now : Instant) :
    (job.moved status now).status = status := rfl

@[simp] theorem succeeded_status (job : Job) (result : ResultId) (now : Instant) :
    (job.succeeded result now).status = .succeeded := rfl

@[simp] theorem failed_status (job : Job) (error : String) (now : Instant) :
    (job.failed error now).status = .failed := rfl

theorem moveTo?_eq {job : Job} {status : JobStatus} (h : job.status.canMoveTo status = true)
    (now : Instant) : job.moveTo? status now = some (job.moved status now) := by
  simp [moveTo?, h, moved]

theorem moveTo?_eq_none {job : Job} {status : JobStatus} (h : job.status.canMoveTo status = false)
    (now : Instant) : job.moveTo? status now = none := by
  simp [moveTo?, h]

/-- A job that has not ended can be cancelled. -/
theorem cancel?_of_live {job : Job} (h : job.status.isTerminal = false) (now : Instant) :
    job.cancel? now = some (job.moved .cancelled now) := by
  apply moveTo?_eq
  cases hs : job.status <;> simp_all [JobStatus.isTerminal, JobStatus.canMoveTo]

theorem succeed?_of_running {job : Job} (h : job.status = .running) (result : ResultId)
    (now : Instant) : job.succeed? result now = some (job.succeeded result now) := by
  have hm : job.moveTo? .succeeded now = some (job.moved .succeeded now) :=
    moveTo?_eq (by rw [h]; rfl) now
  unfold succeed?
  rw [hm]
  rfl

theorem fail?_of_running {job : Job} (h : job.status = .running) (error : String)
    (now : Instant) : job.fail? error now = some (job.failed error now) := by
  have hm : job.moveTo? .failed now = some (job.moved .failed now) :=
    moveTo?_eq (by rw [h]; rfl) now
  unfold fail?
  rw [hm]
  rfl

/-! ### What stays -/

/-- A later form of the same job: it belongs to the same request. -/
structure Follows (later job : Job) : Prop where
  id_eq : later.id = job.id
  fingerprint_eq : later.fingerprint = job.fingerprint
  source_eq : later.source = job.source
  text_eq : later.text = job.text
  metadata_eq : later.metadata = job.metadata
  createdAt_eq : later.createdAt = job.createdAt

namespace Follows

theorem refl (job : Job) : Follows job job := ⟨rfl, rfl, rfl, rfl, rfl, rfl⟩

theorem trans {a b c : Job} (h : Follows a b) (g : Follows b c) : Follows a c where
  id_eq := h.id_eq.trans g.id_eq
  fingerprint_eq := h.fingerprint_eq.trans g.fingerprint_eq
  source_eq := h.source_eq.trans g.source_eq
  text_eq := h.text_eq.trans g.text_eq
  metadata_eq := h.metadata_eq.trans g.metadata_eq
  createdAt_eq := h.createdAt_eq.trans g.createdAt_eq

end Follows

theorem moved_follows (job : Job) (status : JobStatus) (now : Instant) :
    Follows (job.moved status now) job := ⟨rfl, rfl, rfl, rfl, rfl, rfl⟩

theorem succeeded_follows (job : Job) (result : ResultId) (now : Instant) :
    Follows (job.succeeded result now) job := ⟨rfl, rfl, rfl, rfl, rfl, rfl⟩

theorem failed_follows (job : Job) (error : String) (now : Instant) :
    Follows (job.failed error now) job := ⟨rfl, rfl, rfl, rfl, rfl, rfl⟩

/-! ### Well-formed jobs -/

/-- A job under its own identifier, with the fingerprint of its text, that carries a result exactly
    when it succeeded and an error exactly when it failed. -/
structure Intact (id : JobId) (job : Job) : Prop where
  id_eq : job.id = id
  fingerprint_eq : job.fingerprint = Fingerprint.of job.source.value job.text
  succeeded_iff : job.status = .succeeded ↔ job.result.isSome = true
  failed_iff : job.status = .failed ↔ job.error.isSome = true

namespace Intact

variable {id : JobId} {job : Job}

theorem of_new (id : JobId) (source : SourceId) (text : String) (metadata : JobMetadata)
    (now : Instant) : Intact id (Job.of id source text metadata now) :=
  ⟨rfl, rfl, by simp [Job.of], by simp [Job.of]⟩

/-- A job that has not ended carries neither result nor error. -/
theorem empty_of_live (h : Intact id job) (hl : job.status.isTerminal = false) :
    job.result = none ∧ job.error = none := by
  have hr := h.succeeded_iff
  have he := h.failed_iff
  constructor
  · -- a result would mean that the job succeeded
    cases hres : job.result with
    | none => rfl
    | some r =>
      have hs : job.status = .succeeded := hr.mpr (by rw [hres]; rfl)
      simp [hs, JobStatus.isTerminal] at hl
  · -- an error would mean that it failed
    cases herr : job.error with
    | none => rfl
    | some e =>
      have hs : job.status = .failed := he.mpr (by rw [herr]; rfl)
      simp [hs, JobStatus.isTerminal] at hl

/-- A move to a status without a result or an error. -/
theorem moved (h : Intact id job) (hl : job.status.isTerminal = false) {status : JobStatus}
    (hs : status ≠ .succeeded) (hf : status ≠ .failed) (now : Instant) :
    Intact id (job.moved status now) := by
  obtain ⟨hr, he⟩ := h.empty_of_live hl
  refine ⟨h.id_eq, h.fingerprint_eq, ?_, ?_⟩
  · simp [Job.moved, hs, hr]
  · simp [Job.moved, hf, he]

theorem succeeded (h : Intact id job) (hl : job.status.isTerminal = false) (result : ResultId)
    (now : Instant) : Intact id (job.succeeded result now) := by
  obtain ⟨-, he⟩ := h.empty_of_live hl
  refine ⟨h.id_eq, h.fingerprint_eq, ?_, ?_⟩
  · simp [Job.succeeded, Job.moved]
  · simp [Job.succeeded, Job.moved, he]

theorem failed (h : Intact id job) (hl : job.status.isTerminal = false) (error : String)
    (now : Instant) : Intact id (job.failed error now) := by
  obtain ⟨hr, -⟩ := h.empty_of_live hl
  refine ⟨h.id_eq, h.fingerprint_eq, ?_, ?_⟩
  · simp [Job.failed, Job.moved, hr]
  · simp [Job.failed, Job.moved]

end Intact

end Job

/-- The job that a request creates. -/
def JobRequest.newJob (r : JobRequest) (id : JobId) (now : Instant) : Job :=
  Job.of id r.source.id r.text r.metadata now

@[simp] theorem JobRequest.newJob_fingerprint (r : JobRequest) (id : JobId) (now : Instant) :
    (r.newJob id now).fingerprint = r.fingerprint := rfl

@[simp] theorem JobRequest.newJob_status (r : JobRequest) (id : JobId) (now : Instant) :
    (r.newJob id now).status = .queued := rfl

@[simp] theorem JobRequest.newJob_id (r : JobRequest) (id : JobId) (now : Instant) :
    (r.newJob id now).id = id := rfl

@[simp] theorem JobRequest.newJob_metadata (r : JobRequest) (id : JobId) (now : Instant) :
    (r.newJob id now).metadata = r.metadata := rfl

theorem JobRequest.newJob_intact (r : JobRequest) (id : JobId) (now : Instant) :
    (r.newJob id now).Intact id :=
  Job.Intact.of_new id r.source.id r.text r.metadata now

end QueryDispatch
