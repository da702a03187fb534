import QueryDispatch.Proofs.Service.Steps

/-! # Runs

  The board is sound in every state that a run reaches. From one step to the
  next a job stays known: it keeps its form, starts, is cancelled for one of
  three reasons, or ends with its run. New jobs come from calls only, and the
  store changes only when a run ends.
-/

namespace QueryDispatch

namespace Service

variable {s₀ s t : Service} {b b' : JobBoard} {store kept : Store} {l : Label} {a : Answer}
  {id : JobId} {job : Job} {trace : List (Label × Answer)}

/-! ### Soundness -/

/-- A step keeps the board sound when the identifier for its job is new. -/
theorem Change.sound (hc : Change b store l a b' kept) (h : b.Sound)
    (hn : ∀ id, l.newJob? = some id → b.find? id = none) : b'.Sound := by
  cases hc with
  | answered => exact h
  | joined => exact h.count Counters.addDeduplicated
  | refused hl hlive => exact h.refused (hn _ hl.newJob?_eq) hlive
  | sent hl hlive hopen => exact h.sent (hn _ hl.newJob?_eq) hlive hopen
  | held hl hlive hopen => exact h.held (hn _ hl.newJob?_eq) hlive hopen
  | turnedAway ha hclosed => exact h.withoutWaiting ha (h.shut hclosed _)
  | admitted ha =>
    obtain ⟨hmem, rfl⟩ := JobBoard.mem_of_waiting? ha
    exact h.admitted hmem
  | abandoned ha hj =>
    exact h.cancel_close hj rfl rfl rfl (b.withoutWaiting_pending_sublist _)
      (fun x hx hne => JobBoard.mem_withoutWaiting_pending hx hne) rfl rfl
  | abandonedLate ha hj => exact h.withoutWaiting ha hj
  | cancelled hj =>
    exact h.cancel_close hj rfl rfl rfl (List.Sublist.refl _) (fun x hx _ => hx) rfl rfl
  | cancelledLate => exact h
  | started hw hq hj => exact h.started hq hj
  | skipped hw hq hj => exact h.skipped hq hj
  | finished ha hj hs he =>
    obtain ⟨hmem, hid⟩ := JobBoard.mem_of_running? ha
    exact h.finished hmem hid hj he
  | finishedLate ha hj => exact h.withoutRunning ha hj
  | stopped ha hj => exact h.withoutRunning ha hj
  | shutDown now => exact (JobBoard.shutDown_shut h now).sound

theorem start_eq {config : Config} {registry : Registry}
    (hs : Service.start config store registry = .ok s₀) :
    s₀.board = JobBoard.empty config.dispatch ∧ s₀.store = store := by
  unfold Service.start at hs
  cases hc : config.check with
  | error e =>
    rw [hc] at hs
    have hs' : (Except.error (.config e) : Except DispatchError Service) = .ok s₀ := hs
    exact absurd hs' (by simp)
  | ok _ =>
    rw [hc] at hs
    have hs' : (Except.ok ⟨JobBoard.empty config.dispatch, store, RunnerPool.of registry, []⟩ :
        Except DispatchError Service) = .ok s₀ := hs
    obtain rfl := Except.ok.inj hs'
    exact ⟨rfl, rfl⟩

theorem start_sound {config : Config} {registry : Registry}
    (hs : Service.start config store registry = .ok s₀) : s₀.board.Sound := by
  rw [(start_eq hs).1]
  exact JobBoard.Sound.empty config.dispatch

theorem start_find? {config : Config} {registry : Registry}
    (hs : Service.start config store registry = .ok s₀) (id : JobId) :
    s₀.board.find? id = none := by
  rw [(start_eq hs).1]
  rfl

/-- The board is sound all along a run. -/
theorem Run.sound (hr : Run s₀ trace s) (h₀ : s₀.board.Sound) : s.board.Sound := by
  -- induction on the run: a step on a sound board is a change, and changes keep it sound
  induction hr with
  | start => exact h₀
  | step hr hf hs ih => exact (step_change ih hf hs).sound ih hf.1

/-! ### What becomes of a job -/

/-- Why a step cancels a job: somebody asked for it, the service shuts down, or the call that waits
    with the job is given up. -/
def Label.Cancels (l : Label) (b : JobBoard) (id : JobId) : Prop :=
  (∃ now, l = .cancel id now) ∨ (∃ now, l = .shutDown now) ∨
    (∃ now, l = .abandon id now) ∧ (b.waiting? id).isSome = true

/-- What a step makes of a job that is on the board. -/
inductive JobStep (b : JobBoard) (store : Store) (l : Label) (kept : Store) (id : JobId)
    (job : Job) : Job → Prop where
  | same : JobStep b store l kept id job job
  | started {now : Instant} (hl : l = .take now) (hs : job.status = .queued) :
      JobStep b store l kept id job (job.moved .running now)
  | cancelled {now : Instant} (hl : l.Cancels b id) (hs : job.status.isTerminal = false) :
      JobStep b store l kept id job (job.moved .cancelled now)
  | ended {c : Completion} {a : Assignment} {last : Job} {change : Counters → Counters}
      (hl : l = .finish id c) (ha : b.running? id = some a) (hs : job.status = .running)
      (he : JobBoard.Ending store a c job last kept change) :
      JobStep b store l kept id job last

theorem JobStep.follows {later : Job} (h : JobStep b store l kept id job later) :
    later.Follows job := by
  cases h with
  | same => exact Job.Follows.refl job
  | started => exact job.moved_follows _ _
  | cancelled => exact job.moved_follows _ _
  | ended hl ha hs he => exact he.follows

/-- Closing a job is a step of that job and leaves the other ones. -/
theorem job_step_close {c : JobBoard} {other : JobId} {active last : Job}
    {change : Counters → Counters} (hc : ∀ i, c.find? i = b.find? i)
    (ha : b.active.find? other = some active) (hj : b.find? id = some job)
    (hstep : JobStep b store l kept other active last) :
    ∃ later, (c.close other last change).find? id = some later ∧
      JobStep b store l kept id job later := by
  rw [JobBoard.find?_close, hc]
  by_cases he : id = other
  · subst he
    obtain rfl : active = job := JobBoard.find?_unique (JobBoard.find?_of_active ha) hj
    exact ⟨last, if_pos rfl, hstep⟩
  · exact ⟨job, (if_neg he).trans hj, JobStep.same⟩

/-- Registering a job leaves the ones that are there. -/
theorem job_step_register {c : JobBoard} {new : JobId} {first : Job}
    (hc : ∀ i, c.find? i = if i = new then some first else b.find? i)
    (hn : b.find? new = none) (hj : b.find? id = some job) :
    ∃ later, c.find? id = some later ∧ JobStep b store l kept id job later := by
  have hne : id ≠ new := by
    rintro rfl
    rw [hn] at hj
    exact absurd hj (by simp)
  exact ⟨job, ((hc id).trans (if_neg hne)).trans hj, JobStep.same⟩

theorem Change.job_step (hc : Change b store l a b' kept) (h : b.Sound)
    (hn : ∀ id, l.newJob? = some id → b.find? id = none) (hj : b.find? id = some job) :
    ∃ later, b'.find? id = some later ∧ JobStep b store l kept id job later := by
  -- one case for each change; most of them leave the jobs as they are
  cases hc with
  | answered => exact ⟨job, hj, JobStep.same⟩
  | joined => exact ⟨job, hj, JobStep.same⟩
  | refused hl =>
    exact job_step_register (fun i => b.find?_register_close _ i _ _ _ _) (hn _ hl.newJob?_eq) hj
  | sent hl => exact job_step_register (fun i => b.find?_register _ i _ _) (hn _ hl.newJob?_eq) hj
  | held hl => exact job_step_register (fun i => b.find?_register _ i _ _) (hn _ hl.newJob?_eq) hj
  | turnedAway => exact ⟨job, hj, JobStep.same⟩
  | admitted => exact ⟨job, hj, JobStep.same⟩
  | @abandoned other now x _ ha hactive =>
    have hcause : (Label.abandon other now).Cancels b other :=
      Or.inr (Or.inr ⟨⟨now, rfl⟩, by rw [ha]; rfl⟩)
    exact job_step_close (b.find?_withoutWaiting other) hactive hj
      (JobStep.cancelled hcause (h.active_live hactive))
  | abandonedLate => exact ⟨job, hj, JobStep.same⟩
  | @cancelled other now _ hactive =>
    have hcause : (Label.cancel other now).Cancels b other := Or.inl ⟨now, rfl⟩
    exact job_step_close (fun _ => rfl) hactive hj
      (JobStep.cancelled hcause (h.active_live hactive))
  | cancelledLate => exact ⟨job, hj, JobStep.same⟩
  | @started now x rest active hw hq hactive hs =>
    have hfind : ({ b with queue := rest }.start x active now).find? id =
        if id = x.job then some (active.moved .running now) else b.find? id :=
      JobBoard.find?_start { b with queue := rest } x active now id
    by_cases he : id = x.job
    · subst he
      obtain rfl : active = job := JobBoard.find?_unique (JobBoard.find?_of_active hactive) hj
      exact ⟨_, hfind.trans (if_pos rfl), JobStep.started rfl hs⟩
    · exact ⟨job, (hfind.trans (if_neg he)).trans hj, JobStep.same⟩
  | skipped => exact ⟨job, hj, JobStep.same⟩
  | @finished other c x active last _ change ha hactive hs he =>
    have hsame : ∀ i, (b.withoutRunning other).find? i = b.find? i := fun _ => rfl
    exact job_step_close hsame hactive hj (JobStep.ended rfl ha hs he)
  | finishedLate => exact ⟨job, hj, JobStep.same⟩
  | stopped => exact ⟨job, hj, JobStep.same⟩
  | shutDown now =>
    have hshut := JobBoard.shutDown_shut h now
    cases hactive : b.active.find? id with
    | none => exact ⟨job, (hshut.kept hactive).trans hj, JobStep.same⟩
    | some active =>
      obtain rfl : active = job := JobBoard.find?_unique (JobBoard.find?_of_active hactive) hj
      have hcause : (Label.shutDown now).Cancels b id := Or.inr (Or.inl ⟨now, rfl⟩)
      exact ⟨_, hshut.cancelled hactive, JobStep.cancelled hcause (h.active_live hactive)⟩

/-- A job that was not on the board before was created by the step. -/
theorem Change.new_job (hc : Change b store l a b' kept) (h : b.Sound) (hn : b.find? id = none)
    (hj : b'.find? id = some job) :
    ∃ r now, l.Brings id r now ∧
      (job = r.newJob id now ∨ job = (r.newJob id now).moved .cancelled now) := by
  have hsame : b'.find? id = b.find? id → False := by
    intro he
    rw [he, hn] at hj
    exact absurd hj (by simp)
  -- a job that a step closes was there before
  have hclose : ∀ {other : JobId} {active last : Job} {c : JobBoard}
      {change : Counters → Counters}, b.active.find? other = some active →
      (∀ i, c.find? i = b.find? i) → (c.close other last change).find? id ≠ some job := by
    intro other active last c change hactive hc hlast
    rw [JobBoard.find?_close, hc, hn] at hlast
    by_cases he : id = other
    · rw [he, JobBoard.find?_of_active hactive] at hn
      exact absurd hn (by simp)
    · simp [he] at hlast
  -- only the three changes that register a job can bring a new one
  cases hc with
  | answered | joined | turnedAway | admitted | abandonedLate | cancelledLate | skipped
  | finishedLate | stopped => exact absurd rfl hsame
  | @refused _ new r now hl hlive hclosed =>
    rw [JobBoard.find?_close, JobBoard.find?_register, hn] at hj
    by_cases he : id = new
    · subst he
      exact ⟨r, now, hl, Or.inr (by simpa using hj.symm)⟩
    · simp [he] at hj
  | @sent _ new r now hl =>
    rw [JobBoard.find?_send, JobBoard.find?_register, hn] at hj
    by_cases he : id = new
    · subst he
      exact ⟨r, now, hl, Or.inl (by simpa using hj.symm)⟩
    · simp [he] at hj
  | @held _ new r now hl =>
    have hj' : (b.register new r now).find? id = some job := hj
    rw [JobBoard.find?_register, hn] at hj'
    by_cases he : id = new
    · subst he
      exact ⟨r, now, hl, Or.inl (by simpa using hj'.symm)⟩
    · simp [he] at hj'
  | abandoned ha hactive => exact absurd hj (hclose hactive (b.find?_withoutWaiting _))
  | cancelled hactive => exact absurd hj (hclose hactive fun _ => rfl)
  | @started now x rest active hw hq hactive hs =>
    have hfind : ({ b with queue := rest }.start x active now).find? id =
        if id = x.job then some (active.moved .running now) else b.find? id :=
      JobBoard.find?_start { b with queue := rest } x active now id
    have hne : id ≠ x.job := by
      intro he
      rw [he, JobBoard.find?_of_active hactive] at hn
      exact absurd hn (by simp)
    exact absurd (hfind.trans (if_neg hne)) hsame
  | finished ha hactive => exact absurd hj (hclose hactive fun _ => rfl)
  | shutDown now =>
    have hactive : b.active.find? id = none := JobBoard.not_active_of_find?_eq_none hn
    exact absurd ((JobBoard.shutDown_shut h now).kept hactive) hsame

end Service

end QueryDispatch
