import QueryDispatch.Dispatch.Completion
import QueryDispatch.Proofs.Job.Moves

/-! # Forms of board changes

  Every call on the board comes to a few plain changes: a job is registered,
  started, or closed, which moves it from the active table to the finished
  one in its last form. Here each of them is given as one record update, with
  what a look-up sees afterwards, and the guarded operations of the board are
  shown to be these updates.
-/

namespace QueryDispatch

namespace Counters

/-- One more request joined a job. -/
def addDeduplicated (c : Counters) : Counters := { c with deduplicated := c.deduplicated + 1 }

def addSucceeded (c : Counters) : Counters := { c with succeeded := c.succeeded + 1 }

def addFailed (c : Counters) : Counters := { c with failed := c.failed + 1 }

def addCancelled (c : Counters) : Counters := { c with cancelled := c.cancelled + 1 }

end Counters

namespace JobBoard

variable {b : JobBoard} {id : JobId} {job later : Job}

/-! ### Look-ups -/

theorem find?_of_active (h : b.active.find? id = some job) : b.find? id = some job := by
  unfold find?
  rw [h]

theorem find?_of_not_active (h : b.active.find? id = none) :
    b.find? id = b.finished.find? id := by
  unfold find?
  rw [h]

/-- A job that cannot be asked for is not active either. -/
theorem not_active_of_find?_eq_none (h : b.find? id = none) : b.active.find? id = none := by
  cases ha : b.active.find? id with
  | none => rfl
  | some job =>
    rw [find?_of_active ha] at h
    exact absurd h (by simp)

theorem find?_unique (h : b.find? id = some job) (h' : b.find? id = some later) :
    job = later := by
  rw [h] at h'
  simpa using h'

@[simp] theorem find?_count (b : JobBoard) (change : Counters → Counters) (id : JobId) :
    (b.count change).find? id = b.find? id := rfl

@[simp] theorem find?_send (b : JobBoard) (a : Assignment) (id : JobId) :
    (b.send a).find? id = b.find? id := rfl

@[simp] theorem find?_withoutWaiting (b : JobBoard) (gone id : JobId) :
    (b.withoutWaiting gone).find? id = b.find? id := rfl

/-! ### Plain changes -/

/-- The board with an active job in its last form. -/
def close (b : JobBoard) (id : JobId) (last : Job) (change : Counters → Counters) : JobBoard :=
  { b with
    active := b.active.erase id
    finished := b.finished.put id last
    inFlight := b.inFlight.erase last.fingerprint
    counters := change b.counters }

/-- The board with an active job in another form. -/
def revise (b : JobBoard) (id : JobId) (later : Job) (change : Counters → Counters) : JobBoard :=
  { b with active := b.active.put id later, counters := change b.counters }

/-- The board with a worker at a job from now on. -/
def start (b : JobBoard) (a : Assignment) (job : Job) (now : Instant) : JobBoard :=
  { b with
    active := b.active.put a.job (job.moved .running now)
    running := b.running ++ [a] }

/-- The board without the worker of a job. -/
def withoutRunning (b : JobBoard) (id : JobId) : JobBoard :=
  { b with running := b.running.filter (·.job != id) }

theorem find?_close (b : JobBoard) (id other : JobId) (last : Job)
    (change : Counters → Counters) :
    (b.close id last change).find? other = if other = id then some last else b.find? other := by
  unfold find? close
  simp only [Assoc.find?_erase, Assoc.find?_put]
  by_cases h : other = id <;> simp [h]

/-- The fingerprint of a closed job is free. -/
theorem live?_close (b : JobBoard) (id : JobId) (last : Job) (change : Counters → Counters) :
    (b.close id last change).live? last.fingerprint = none := by
  have hfree : (b.close id last change).inFlight.find? last.fingerprint = none :=
    Assoc.find?_erase_self b.inFlight last.fingerprint
  unfold live?
  rw [hfree]
  rfl

theorem find?_register (b : JobBoard) (id other : JobId) (r : JobRequest) (now : Instant) :
    (b.register id r now).find? other =
      if other = id then some (r.newJob id now) else b.find? other := by
  unfold find? register
  simp only [Assoc.find?_put]
  by_cases h : other = id <;> simp [h, JobRequest.newJob]

/-- A job that is closed when it has just been registered. -/
theorem find?_register_close (b : JobBoard) (id other : JobId) (r : JobRequest) (now : Instant)
    (last : Job) (change : Counters → Counters) :
    ((b.register id r now).close id last change).find? other =
      if other = id then some last else b.find? other := by
  rw [find?_close, find?_register]
  by_cases h : other = id <;> simp [h]

theorem find?_start (b : JobBoard) (a : Assignment) (job : Job) (now : Instant) (other : JobId) :
    (b.start a job now).find? other =
      if other = a.job then some (job.moved .running now) else b.find? other := by
  unfold find? start
  simp only [Assoc.find?_put]
  by_cases h : other = a.job <;> simp [h]

/-! ### Guarded operations as plain changes -/

theorem update?_of_active (h : b.active.find? id = some job) {change : Job → Option Job}
    (hc : change job = some later) :
    b.update? id change = some { b with active := b.active.put id later } := by
  simp [update?, h, hc]

theorem update?_of_not_active (h : b.active.find? id = none) (change : Job → Option Job) :
    b.update? id change = none := by
  simp [update?, h]

/-- Releasing an active job in its new form closes it. -/
theorem release_revise (hf : b.inFlight.find? later.fingerprint = some id)
    (change : Counters → Counters) :
    (b.revise id later change).release id = b.close id later change := by
  have ha : (b.revise id later change).active.find? id = some later :=
    Assoc.find?_put_self b.active id later
  have hi : (b.revise id later change).inFlight.find? later.fingerprint = some id := hf
  have he : (b.active.put id later).erase id = b.active.erase id :=
    Assoc.erase_put_self b.active id later
  -- the look-ups of `release` see the last form, so they free its fingerprint
  unfold release
  rw [find?_of_active ha]
  simp only [hi, ha, if_true, Option.isSome_some]
  unfold close
  rw [← he]
  rfl

/-- Releasing a job a second time changes nothing. -/
theorem release_of_not_active (ha : b.active.find? id = none)
    (hf : ∀ job, b.find? id = some job → b.inFlight.find? job.fingerprint ≠ some id) :
    b.release id = b := by
  unfold release
  -- neither table nor map has anything to remove
  cases hj : b.find? id with
  | none => rfl
  | some job => simp [hf job hj, ha]

theorem cancelJob_of_active (ha : b.active.find? id = some job)
    (hl : job.status.isTerminal = false) (now : Instant) :
    b.cancelJob id now = b.revise id (job.moved .cancelled now) Counters.addCancelled := by
  unfold cancelJob
  rw [update?_of_active ha (Job.cancel?_of_live hl now)]
  rfl

theorem cancelJob_of_not_active (ha : b.active.find? id = none) (now : Instant) :
    b.cancelJob id now = b := by
  unfold cancelJob
  rw [update?_of_not_active ha]

theorem failJob_of_running (ha : b.active.find? id = some job) (hs : job.status = .running)
    (error : String) (now : Instant) :
    b.failJob id error now = b.revise id (job.failed error now) Counters.addFailed := by
  unfold failJob
  rw [update?_of_active ha (Job.fail?_of_running hs error now)]
  rfl

theorem failJob_of_not_active (ha : b.active.find? id = none) (error : String) (now : Instant) :
    b.failJob id error now = b := by
  unfold failJob
  rw [update?_of_not_active ha]

theorem succeedJob_of_running (ha : b.active.find? id = some job) (hs : job.status = .running)
    (result : ResultId) (now : Instant) :
    b.succeedJob id result now = b.revise id (job.succeeded result now) Counters.addSucceeded := by
  unfold succeedJob
  rw [update?_of_active ha (Job.succeed?_of_running hs result now)]
  rfl

/-- Dropping an active job closes it as cancelled. -/
theorem drop_of_active (ha : b.active.find? id = some job) (hl : job.status.isTerminal = false)
    (hf : b.inFlight.find? job.fingerprint = some id) (now : Instant) :
    b.drop id now = b.close id (job.moved .cancelled now) Counters.addCancelled := by
  unfold drop
  rw [cancelJob_of_active ha hl]
  have hm : b.inFlight.find? (job.moved .cancelled now).fingerprint = some id := hf
  exact release_revise hm Counters.addCancelled

/-- Dropping a job that was retired changes nothing. -/
theorem drop_of_not_active (ha : b.active.find? id = none)
    (hf : ∀ job, b.find? id = some job → b.inFlight.find? job.fingerprint ≠ some id)
    (now : Instant) : b.drop id now = b := by
  unfold drop
  rw [cancelJob_of_not_active ha]
  exact release_of_not_active ha hf

/-! ### The end of a run -/

/-- The last form of a running job, what becomes of the store, and what is counted. -/
inductive Ending (store : Store) (a : Assignment) (c : Completion) (job : Job) :
    Job → Store → (Counters → Counters) → Prop where
  | stored {data : Table} {kept : Store} (ho : c.outcome = .rows data)
      (hi : store.insert (StoredResult.of c.result a.request.source.id a.request.text data c.now
        c.runtime) = .ok kept) :
      Ending store a c job (job.succeeded c.result c.now) (pointTo kept a.request c.result)
        Counters.addSucceeded
  | unstored {data : Table} {e : StoreError} (ho : c.outcome = .rows data)
      (hi : store.insert (StoredResult.of c.result a.request.source.id a.request.text data c.now
        c.runtime) = .error e) :
      Ending store a c job (job.failed ("Failed to store result: " ++ e.message) c.now) store
        Counters.addFailed
  | failed {error : DispatchError} (ho : c.outcome = .failed error) :
      Ending store a c job (job.failed error.message c.now) store Counters.addFailed
  | crashed {cause : Option String} (ho : c.outcome = .crashed cause) :
      Ending store a c job (job.failed (crashMessage cause) c.now) store Counters.addFailed

variable {store kept : Store} {a : Assignment} {c : Completion} {change : Counters → Counters}

theorem Ending.follows (h : Ending store a c job later kept change) : later.Follows job := by
  cases h with
  | stored => exact Job.succeeded_follows job c.result c.now
  | unstored | failed | crashed => exact Job.failed_follows job _ c.now

theorem Ending.isTerminal (h : Ending store a c job later kept change) :
    later.status.isTerminal = true := by
  cases h <;> rfl

theorem Ending.intact (h : Ending store a c job later kept change) (hi : job.Intact id)
    (hl : job.status.isTerminal = false) : later.Intact id := by
  cases h with
  | stored => exact hi.succeeded hl c.result c.now
  | unstored | failed | crashed => exact hi.failed hl _ c.now

/-- There is one way for each completion. -/
theorem Ending.unique (h : Ending store a c job later kept change) {later' : Job} {kept' : Store}
    {change' : Counters → Counters} (h' : Ending store a c job later' kept' change') :
    later' = later ∧ kept' = kept ∧ change' = change := by
  -- the outcome and the answer of the store decide which ending it is
  cases h with
  | stored ho hi =>
    cases h' with
    | stored ho' hi' =>
      obtain rfl := JobOutcome.rows.inj (ho.symm.trans ho')
      obtain rfl := Except.ok.inj (hi.symm.trans hi')
      exact ⟨rfl, rfl, rfl⟩
    | unstored ho' hi' =>
      obtain rfl := JobOutcome.rows.inj (ho.symm.trans ho')
      exact absurd (hi.symm.trans hi') (by simp)
    | failed ho' => exact absurd (ho.symm.trans ho') (by simp)
    | crashed ho' => exact absurd (ho.symm.trans ho') (by simp)
  | unstored ho hi =>
    cases h' with
    | stored ho' hi' =>
      obtain rfl := JobOutcome.rows.inj (ho.symm.trans ho')
      exact absurd (hi.symm.trans hi') (by simp)
    | unstored ho' hi' =>
      obtain rfl := JobOutcome.rows.inj (ho.symm.trans ho')
      obtain rfl := Except.error.inj (hi.symm.trans hi')
      exact ⟨rfl, rfl, rfl⟩
    | failed ho' => exact absurd (ho.symm.trans ho') (by simp)
    | crashed ho' => exact absurd (ho.symm.trans ho') (by simp)
  | failed ho =>
    cases h' with
    | failed ho' =>
      obtain rfl := JobOutcome.failed.inj (ho.symm.trans ho')
      exact ⟨rfl, rfl, rfl⟩
    | stored ho' | unstored ho' | crashed ho' => exact absurd (ho.symm.trans ho') (by simp)
  | crashed ho =>
    cases h' with
    | crashed ho' =>
      obtain rfl := JobOutcome.crashed.inj (ho.symm.trans ho')
      exact ⟨rfl, rfl, rfl⟩
    | stored ho' | unstored ho' | failed ho' => exact absurd (ho.symm.trans ho') (by simp)

/-- A running job ends in one of these ways. -/
theorem settleJob_of_running (ha : b.active.find? a.job = some job) (hs : job.status = .running)
    (store : Store) (c : Completion) :
    ∃ later kept change, Ending store a c job later kept change ∧
      b.settleJob store a c = (b.revise a.job later change, kept) := by
  have hfind : b.find? a.job = some job := find?_of_active ha
  unfold settleJob
  cases ho : c.outcome with
  | rows data =>
    simp only [complete, hfind, Option.map_some, hs, if_true]
    -- a store that refuses the rows fails the job
    cases hi : store.insert (StoredResult.of c.result a.request.source.id a.request.text data c.now
        c.runtime) with
    | error e =>
      refine ⟨_, _, _, .unstored ho hi, ?_⟩
      simp only [failJob_of_running ha hs]
    | ok kept =>
      refine ⟨_, _, _, .stored ho hi, ?_⟩
      simp only [succeedJob_of_running ha hs]
  | failed error =>
    refine ⟨_, _, _, .failed ho, ?_⟩
    simp only [failJob_of_running ha hs]
  | crashed cause =>
    refine ⟨_, _, _, .crashed ho, ?_⟩
    simp only [failJob_of_running ha hs]

/-- What a runner delivers for a job that was retired meanwhile is lost. -/
theorem settleJob_of_not_active (ha : b.active.find? a.job = none)
    (hs : ∀ job, b.find? a.job = some job → job.status ≠ .running) (store : Store)
    (c : Completion) : b.settleJob store a c = (b, store) := by
  unfold settleJob
  cases c.outcome with
  | rows data =>
    -- rows are stored for a running job only
    have hn : (b.find? a.job).map (·.status) ≠ some .running := by
      cases hj : b.find? a.job with
      | none => simp
      | some job => simpa using hs job hj
    simp only [complete, hn, if_false]
  | failed error => simp only [failJob_of_not_active ha]
  | crashed cause => simp only [failJob_of_not_active ha]

end JobBoard

end QueryDispatch
