import QueryDispatch.Proofs.Board.Forms

/-! # The tables of the board

  Between steps the two job tables and the map of fingerprints agree. A job in
  the active table has not ended, one in the finished table has, and the map
  sends exactly the fingerprints of the active jobs to their identifiers. Each
  plain change of the board keeps this.
-/

namespace QueryDispatch

namespace JobBoard

/-- The tables agree with each other and with what their jobs say. -/
structure Tidy (b : JobBoard) : Prop where
  intact : ∀ {id : JobId} {job : Job}, b.find? id = some job → job.Intact id
  active_live : ∀ {id : JobId} {job : Job},
    b.active.find? id = some job → job.status.isTerminal = false
  finished_ended : ∀ {id : JobId} {job : Job},
    b.finished.find? id = some job → job.status.isTerminal = true
  inFlight_iff : ∀ {fingerprint : Fingerprint} {id : JobId},
    b.inFlight.find? fingerprint = some id ↔
      ∃ job, b.active.find? id = some job ∧ job.fingerprint = fingerprint

variable {b c : JobBoard} {id : JobId} {job last : Job} {r : JobRequest} {now : Instant}

namespace Tidy

/-! ### What the tables say -/

/-- A job that has not ended is in the active table. -/
theorem active_of_live (h : b.Tidy) (hj : b.find? id = some job)
    (hl : job.status.isTerminal = false) : b.active.find? id = some job := by
  cases ha : b.active.find? id with
  | some other =>
    rw [find?_of_active ha] at hj
    exact hj
  | none =>
    rw [find?_of_not_active ha] at hj
    have ht := h.finished_ended hj
    rw [hl] at ht
    exact absurd ht (by simp)

theorem ended_of_not_active (h : b.Tidy) (ha : b.active.find? id = none)
    (hj : b.find? id = some job) : job.status.isTerminal = true := by
  rw [find?_of_not_active ha] at hj
  exact h.finished_ended hj

theorem not_active_of_ended (h : b.Tidy) (hj : b.find? id = some job)
    (ht : job.status.isTerminal = true) : b.active.find? id = none := by
  cases ha : b.active.find? id with
  | none => rfl
  | some other =>
    rw [find?_of_active ha] at hj
    obtain rfl : other = job := by simpa using hj
    have hl := h.active_live ha
    rw [ht] at hl
    exact absurd hl (by simp)

theorem inFlight_of_active (h : b.Tidy) (ha : b.active.find? id = some job) :
    b.inFlight.find? job.fingerprint = some id :=
  h.inFlight_iff.mpr ⟨job, ha, rfl⟩

theorem not_inFlight (h : b.Tidy) (ha : b.active.find? id = none) (fingerprint : Fingerprint) :
    b.inFlight.find? fingerprint ≠ some id := by
  intro hf
  obtain ⟨job, hj, -⟩ := h.inFlight_iff.mp hf
  rw [ha] at hj
  exact absurd hj (by simp)

/-- Two active jobs with one fingerprint are one job. -/
theorem eq_of_fingerprint (h : b.Tidy) {id₁ id₂ : JobId} {job₁ job₂ : Job}
    (h₁ : b.active.find? id₁ = some job₁) (h₂ : b.active.find? id₂ = some job₂)
    (he : job₁.fingerprint = job₂.fingerprint) : id₁ = id₂ := by
  have hf₁ := h.inFlight_of_active h₁
  have hf₂ := h.inFlight_of_active h₂
  rw [he, hf₂] at hf₁
  simpa using hf₁.symm

/-- The job that answers requests with a fingerprint is the active one with it. -/
theorem live?_eq_some_iff (h : b.Tidy) {fingerprint : Fingerprint} :
    b.live? fingerprint = some job ↔
      ∃ id, b.active.find? id = some job ∧ job.fingerprint = fingerprint := by
  unfold live?
  constructor
  · intro hl
    obtain ⟨hb, -⟩ := Option.filter_eq_some_iff.mp hl
    obtain ⟨id, hf, ha⟩ := Option.bind_eq_some_iff.mp hb
    obtain ⟨other, ho, he⟩ := h.inFlight_iff.mp hf
    obtain rfl : other = job := by
      rw [ha] at ho
      simpa using ho.symm
    exact ⟨id, ha, he⟩
  · rintro ⟨id, ha, he⟩
    have hf : b.inFlight.find? fingerprint = some id := h.inFlight_iff.mpr ⟨job, ha, he⟩
    have hb : (b.inFlight.find? fingerprint).bind b.active.find? = some job := by
      rw [hf]
      exact ha
    -- active jobs have not ended, so the filter keeps the job
    refine Option.filter_eq_some_iff.mpr ⟨hb, ?_⟩
    simp [h.active_live ha]

theorem fingerprint_ne_of_live?_eq_none (h : b.Tidy) {fingerprint : Fingerprint}
    (hl : b.live? fingerprint = none) (ha : b.active.find? id = some job) :
    job.fingerprint ≠ fingerprint := by
  intro he
  have hs : b.live? fingerprint = some job := h.live?_eq_some_iff.mpr ⟨id, ha, he⟩
  rw [hl] at hs
  exact absurd hs (by simp)

/-! ### What keeps them in order -/

theorem empty (config : DispatchConfig) : (JobBoard.empty config).Tidy where
  intact h := by simp [find?, JobBoard.empty] at h
  active_live h := by simp [JobBoard.empty] at h
  finished_ended h := by simp [JobBoard.empty] at h
  inFlight_iff := by simp [JobBoard.empty]

/-- The queue, the waiting calls, the workers and the counters are no matter. -/
theorem congr (h : b.Tidy) (ha : c.active = b.active) (hf : c.finished = b.finished)
    (hi : c.inFlight = b.inFlight) : c.Tidy where
  intact hj := h.intact (by unfold find? at hj ⊢; rwa [ha, hf] at hj)
  active_live hj := h.active_live (by rwa [ha] at hj)
  finished_ended hj := h.finished_ended (by rwa [hf] at hj)
  inFlight_iff := by rw [hi, ha]; exact h.inFlight_iff

theorem register (h : b.Tidy) (hn : b.find? id = none) (hl : b.live? r.fingerprint = none) :
    (b.register id r now).Tidy := by
  have hna : b.active.find? id = none := not_active_of_find?_eq_none hn
  have hactive : ∀ other, (b.register id r now).active.find? other =
      if other = id then some (r.newJob id now) else b.active.find? other :=
    fun other => Assoc.find?_put b.active id other _
  -- the finished table is the same; the other three gain the new job
  refine ⟨?_, ?_, h.finished_ended, ?_⟩
  · intro other job hj
    rw [find?_register] at hj
    split at hj
    · next he =>
      obtain rfl : r.newJob id now = job := by simpa using hj
      rw [he]
      exact r.newJob_intact id now
    · exact h.intact hj
  · intro other job hj
    rw [hactive] at hj
    split at hj
    · obtain rfl : r.newJob id now = job := by simpa using hj
      rfl
    · exact h.active_live hj
  · intro fingerprint other
    have hf : (b.register id r now).inFlight.find? fingerprint =
        if fingerprint = r.fingerprint then some id else b.inFlight.find? fingerprint :=
      Assoc.find?_put b.inFlight r.fingerprint fingerprint id
    rw [hf, hactive]
    by_cases he : fingerprint = r.fingerprint
    · -- no active job has the fingerprint of the new one
      rw [if_pos he]
      by_cases ho : other = id
      · simp [ho, he]
      · simp only [Option.some.injEq, Ne.symm ho, ho, if_false, false_iff]
        rintro ⟨job, ha, hfp⟩
        exact h.fingerprint_ne_of_live?_eq_none hl ha (hfp.trans he)
    · rw [if_neg he]
      by_cases ho : other = id
      · have hne := h.not_inFlight hna fingerprint
        simp [ho, hne, Ne.symm he]
      · rw [if_neg ho]
        exact h.inFlight_iff

theorem close (h : b.Tidy) (ha : b.active.find? id = some job)
    (hfp : last.fingerprint = job.fingerprint) (hi : last.Intact id)
    (ht : last.status.isTerminal = true) (change : Counters → Counters) :
    (b.close id last change).Tidy := by
  have hactive : ∀ other, (b.close id last change).active.find? other =
      if other = id then none else b.active.find? other :=
    fun other => Assoc.find?_erase b.active id other
  -- each table differs at `id` only, and the map at the fingerprint of the job
  refine ⟨?_, ?_, ?_, ?_⟩
  · intro other later hj
    rw [find?_close] at hj
    split at hj
    · next he =>
      obtain rfl : last = later := by simpa using hj
      rw [he]
      exact hi
    · exact h.intact hj
  · intro other later hj
    rw [hactive] at hj
    split at hj
    · exact absurd hj (by simp)
    · exact h.active_live hj
  · intro other later hj
    have hf : (b.close id last change).finished.find? other =
        if other = id then some last else b.finished.find? other :=
      Assoc.find?_put b.finished id other last
    rw [hf] at hj
    split at hj
    · obtain rfl : last = later := by simpa using hj
      exact ht
    · exact h.finished_ended hj
  · intro fingerprint other
    have hf : (b.close id last change).inFlight.find? fingerprint =
        if fingerprint = last.fingerprint then none else b.inFlight.find? fingerprint :=
      Assoc.find?_erase b.inFlight last.fingerprint fingerprint
    rw [hf, hactive]
    by_cases he : fingerprint = last.fingerprint
    · -- the closed job was the only active one with its fingerprint
      rw [if_pos he]
      by_cases ho : other = id
      · simp [ho]
      · simp only [if_neg ho, reduceCtorEq, false_iff]
        rintro ⟨later, hl, hlf⟩
        have hsame : later.fingerprint = job.fingerprint := hlf.trans (he.trans hfp)
        exact ho (h.eq_of_fingerprint hl ha hsame)
    · rw [if_neg he]
      by_cases ho : other = id
      · simp only [ho, if_true, reduceCtorEq, false_and, exists_false, iff_false]
        intro hfid
        obtain ⟨other', hj, hjf⟩ := h.inFlight_iff.mp hfid
        obtain rfl : job = other' := by
          rw [ha] at hj
          simpa using hj
        exact he (hjf.symm.trans hfp.symm)
      · rw [if_neg ho]
        exact h.inFlight_iff

theorem start (h : b.Tidy) {a : Assignment} (ha : b.active.find? a.job = some job) :
    (b.start a job now).Tidy := by
  have hlive := h.active_live ha
  have hactive : ∀ other, (b.start a job now).active.find? other =
      if other = a.job then some (job.moved .running now) else b.active.find? other :=
    fun other => Assoc.find?_put b.active a.job other _
  refine ⟨?_, ?_, h.finished_ended, ?_⟩
  · intro other later hj
    rw [find?_start] at hj
    split at hj
    · next he =>
      obtain rfl : job.moved .running now = later := by simpa using hj
      rw [he]
      exact (h.intact (find?_of_active ha)).moved hlive (by simp) (by simp) now
    · exact h.intact hj
  · intro other later hj
    rw [hactive] at hj
    split at hj
    · obtain rfl : job.moved .running now = later := by simpa using hj
      rfl
    · exact h.active_live hj
  · intro fingerprint other
    rw [hactive]
    -- the fingerprint of a job that starts is the same, so the map still fits
    by_cases ho : other = a.job
    · have hiff : b.inFlight.find? fingerprint = some a.job ↔
          ∃ job, b.active.find? a.job = some job ∧ job.fingerprint = fingerprint :=
        h.inFlight_iff
      rw [ho, if_pos rfl]
      exact hiff.trans (by simp [ha, Job.moved])
    · rw [if_neg ho]
      exact h.inFlight_iff

/-! ### Operations on tidy tables -/

theorem drop_of_active (h : b.Tidy) (ha : b.active.find? id = some job) (now : Instant) :
    b.drop id now = b.close id (job.moved .cancelled now) Counters.addCancelled :=
  JobBoard.drop_of_active ha (h.active_live ha) (h.inFlight_of_active ha) now

theorem drop_of_not_active (h : b.Tidy) (ha : b.active.find? id = none) (now : Instant) :
    b.drop id now = b :=
  JobBoard.drop_of_not_active ha (fun job _ => h.not_inFlight ha job.fingerprint) now

theorem release_of_not_active (h : b.Tidy) (ha : b.active.find? id = none) :
    b.release id = b :=
  JobBoard.release_of_not_active ha fun job _ => h.not_inFlight ha job.fingerprint

theorem cancel_close (h : b.Tidy) (ha : b.active.find? id = some job) (now : Instant) :
    (b.close id (job.moved .cancelled now) Counters.addCancelled).Tidy := by
  have hi : (job.moved .cancelled now).Intact id :=
    (h.intact (find?_of_active ha)).moved (h.active_live ha) (by simp) (by simp) now
  have hfp : (job.moved .cancelled now).fingerprint = job.fingerprint := rfl
  exact h.close ha hfp hi rfl Counters.addCancelled

end Tidy

end JobBoard

end QueryDispatch
