import QueryDispatch.Proofs.Service.Enabled

/-! # Single flight

  At any time no two jobs that have not ended are for the same text on the
  same data source. The map of fingerprints leads to the one there is, and
  calls with its fingerprint join it, in whatever order jobs are called for,
  given up, cancelled, run and ended.
-/

namespace QueryDispatch

namespace Service

variable {s : Service} {id : JobId} {job : Job} {r : JobRequest}

/-- A call for a fingerprint that has a job joins it, and registers none. -/
theorem enqueue_joins (h : s.board.Sound) (hj : s.board.active.find? id = some job)
    (hr : r.fingerprint = job.fingerprint) (new : JobId) (now : Instant) :
    s.enqueue r new now =
      (.ok (.queued job), { s with board := s.board.count Counters.addDeduplicated }) := by
  have hlive : s.board.live? r.fingerprint = some job :=
    h.live?_eq_some_iff.mpr ⟨id, hj, hr.symm⟩
  simp only [enqueue, JobBoard.enqueue, hlive]
  rfl

/-- A request that the store has no answer for goes on as a call for a job. -/
theorem request_eq_enqueue {q : QueryRequest} {d : Decision} {pool : RunnerPool} {now : Instant}
    (hd : q.decide s.store s.pool now = (.ok d, pool)) (hc : d.cached = none) (id : JobId) :
    s.request q id now =
      enqueue { s with pool, events := s.events ++ [ExecutionEvent.of q d] }
        (((JobRequest.of d.source d.text).withUser q.user).withQuery q.saved) id now := by
  unfold request
  rw [hd]
  simp only [hc]

/-- Such a request joins a job for its text as well. -/
theorem request_joins (h : s.board.Sound) {q : QueryRequest} {d : Decision} {pool : RunnerPool}
    {now : Instant} (hd : q.decide s.store s.pool now = (.ok d, pool)) (hc : d.cached = none)
    (hj : s.board.active.find? id = some job)
    (hr : Fingerprint.of d.source.id.value d.text = job.fingerprint) (new : JobId) :
    s.step? (.request q new now) =
      some (.ok (.queued job),
        { s with
          board := s.board.count Counters.addDeduplicated
          pool
          events := s.events ++ [ExecutionEvent.of q d] }) := by
  have hfp : (((JobRequest.of d.source d.text).withUser q.user).withQuery q.saved).fingerprint =
      job.fingerprint := hr
  show some (s.request q new now) = _
  rw [request_eq_enqueue hd hc, enqueue_joins (by exact h) (by exact hj) hfp]

/-- Single flight holds in every state that a run reaches: jobs that have not ended differ in their
    fingerprints, the map has each of them, and a call for its fingerprint gets it. -/
theorem single_flight {config : Config} {store : Store} {registry : Registry} {s₀ : Service}
    {trace : List (Label × Answer)} (hstart : Service.start config store registry = .ok s₀)
    (hrun : Run s₀ trace s) :
    (∀ (id₁ id₂ : JobId) (job₁ job₂ : Job), s.board.find? id₁ = some job₁ →
      s.board.find? id₂ = some job₂ → job₁.status.isTerminal = false →
      job₂.status.isTerminal = false → job₁.fingerprint = job₂.fingerprint → id₁ = id₂) ∧
    ∀ (id : JobId) (job : Job), s.board.find? id = some job → job.status.isTerminal = false →
      s.board.inFlight.find? job.fingerprint = some id ∧
      ∀ (r : JobRequest) (new : JobId) (now : Instant), r.fingerprint = job.fingerprint →
        s.step? (.enqueue r new now) =
          some (.ok (.queued job),
            { s with board := s.board.count Counters.addDeduplicated }) := by
  have h : s.board.Sound := hrun.sound (start_sound hstart)
  -- the map and the active table agree on a sound board
  constructor
  · intro id₁ id₂ job₁ job₂ hj₁ hj₂ hl₁ hl₂ he
    exact h.eq_of_fingerprint (h.active_of_live hj₁ hl₁) (h.active_of_live hj₂ hl₂) he
  · intro id job hj hl
    have ha := h.active_of_live hj hl
    refine ⟨h.inFlight_of_active ha, ?_⟩
    intro r new now hr
    exact congrArg some (enqueue_joins h ha hr new now)

/-- After one call the next one with the same request gets the same job. -/
theorem single_flight_of_two_calls :
    ∃ trace s, Run (small Store.empty Registry.empty) trace s ∧
      s.board.inFlight.find? someRequest.fingerprint = some (jobId 1) ∧
      s.step? (.enqueue someRequest (jobId 2) .epoch) =
        some (.ok (.queued (someRequest.newJob (jobId 1) .epoch)),
          { s with board := s.board.count Counters.addDeduplicated }) := by
  have hrun := small_enqueue Store.empty Registry.empty someRequest (jobId 1) .epoch
  have hj := smallQueued_active Store.empty Registry.empty someRequest (jobId 1) .epoch
  obtain ⟨hmap, hjoin⟩ :=
    (single_flight (small_start _ _) hrun).2 _ _ (JobBoard.find?_of_active hj) rfl
  exact ⟨_, _, hrun, hmap, hjoin someRequest (jobId 2) .epoch rfl⟩

end Service

end QueryDispatch
