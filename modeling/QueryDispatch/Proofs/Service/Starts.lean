import QueryDispatch.Proofs.Board.Standing
import QueryDispatch.Proofs.Service.SingleFlight
import QueryDispatch.Proofs.Service.Snapshots

/-! # From a call to a worker

  No job is lost on its way, and none is run twice. A job that has not ended
  stands in one place, from its creation on, and it leaves the queue once: a
  worker starts it, or passes over it because it was cancelled there. When the
  service shuts down all jobs end, and whoever waits or calls afterwards is
  told that the queue is closed.
-/

namespace QueryDispatch

/-- No job goes back to the queue. -/
theorem Job.Becomes.ne_queued {earlier later : Job} (h : earlier.Becomes later)
    (hs : earlier.status ≠ .queued) : later.status ≠ .queued := by
  -- the last move along the diagram would have to lead there
  rcases h.moves.cases_tail with heq | ⟨before, -, hmove⟩
  · rwa [heq]
  · intro hq
    rw [hq] at hmove
    cases before <;> cases hmove

namespace Service

variable {s₀ s t : Service} {b b' : JobBoard} {store kept : Store} {l : Label} {a : Answer}
  {id : JobId} {job : Job} {r : JobRequest} {now : Instant}
  {trace rest : List (Label × Answer)}

/-! ### Room -/

theorem Change.config_eq (hc : Change b store l a b' kept) (h : b.Sound) :
    b'.config = b.config := by
  cases hc with
  | shutDown now => exact h.shutDown_config now
  | _ => rfl

theorem Change.within (hc : Change b store l a b' kept) (h : b.Sound) (hw : b.Within) :
    b'.Within := by
  cases hc with
  | answered => exact hw
  | @sent _ id r now hl hlive hopen hroom =>
    -- the queue is as long as it was before the job was registered
    have hregistered : (b.register id r now).Within :=
      hw.mono rfl (Nat.le_refl _) (Nat.le_refl _)
    exact hregistered.send hroom ⟨id, r⟩
  | @admitted id now x job ha hopen hroom =>
    have hrest : (b.withoutWaiting id).Within := hw.mono rfl (Nat.le_refl _) (Nat.le_refl _)
    exact hrest.send hroom x
  | started hidle hq => exact hw.start hq hidle _ _
  | skipped hidle hq =>
    refine hw.mono rfl ?_ (Nat.le_refl _)
    rw [hq]
    exact Nat.le_succ _
  | finished | finishedLate | stopped =>
    exact hw.mono rfl (Nat.le_refl _) (List.length_filter_le _ _)
  | shutDown now =>
    have hshut := JobBoard.shutDown_shut h now
    exact hw.mono (h.shutDown_config now) (Nat.le_of_eq (congrArg _ hshut.queue_eq))
      (Nat.le_of_eq (congrArg _ hshut.running_eq))
  | _ => exact hw.mono rfl (Nat.le_refl _) (Nat.le_refl _)

/-- There are never more messages in the queue, or workers at a job, than the settings allow. -/
theorem Run.within (hr : Run s₀ trace s) (h₀ : s₀.board.Sound) (hw : s₀.board.Within) :
    s.board.Within ∧ s.board.config = s₀.board.config := by
  induction hr with
  | start => exact ⟨hw, rfl⟩
  | step hr hf hs ih =>
    have h := hr.sound h₀
    have hc := step_change h hf hs
    exact ⟨hc.within h ih.1, (hc.config_eq h).trans ih.2⟩

/-! ### Starts -/

/-- The job that a worker starts in a step. -/
def startedBy? : Label × Answer → Option JobId
  | (.take _, .ok (.runs x)) => some x.job
  | _ => none

/-- The jobs that were started in the steps of a trace, last first. -/
def startedIn (trace : List (Label × Answer)) : List JobId := trace.filterMap startedBy?

theorem startedBy?_eq_some_iff {e : Label × Answer} :
    startedBy? e = some id ↔ ∃ now x, e = (.take now, .ok (.runs x)) ∧ x.job = id := by
  unfold startedBy?
  split
  · next now x =>
    constructor
    · intro h
      exact ⟨now, x, rfl, Option.some.inj h⟩
    · rintro ⟨now', x', heq, rfl⟩
      obtain ⟨-, ha⟩ := Prod.mk.inj heq
      injection ha with ha
      injection ha with hx
      rw [hx]
  · next hne =>
    simp only [reduceCtorEq, false_iff]
    rintro ⟨now, x, rfl, -⟩
    exact hne now x rfl

/-- A job is queued when a worker starts it, and it runs afterwards. -/
theorem Change.of_started {x : Assignment}
    (hc : Change b store (.take now) (.ok (.runs x)) b' kept) :
    ∃ job, b.find? x.job = some job ∧ job.status = .queued ∧
      b'.find? x.job = some (job.moved .running now) := by
  cases hc with
  | @started _ _ rest job hw hq hj hs =>
    refine ⟨job, JobBoard.find?_of_active hj, hs, ?_⟩
    exact (JobBoard.find?_start { b with queue := rest } x job now x.job).trans (if_pos rfl)

/-- Whatever was started is not queued any more. -/
theorem Run.not_queued_of_started (hr : Run s₀ trace s) (h₀ : s₀.board.Sound)
    (hid : id ∈ startedIn trace) :
    ∃ job, s.board.find? id = some job ∧ job.status ≠ .queued := by
  obtain ⟨e, he, hstarted⟩ := List.mem_filterMap.mp hid
  obtain ⟨now, x, rfl, rfl⟩ := startedBy?_eq_some_iff.mp hstarted
  clear hid hstarted
  induction hr with
  | start => cases he
  | step hr hf hs ih =>
    have h := hr.sound h₀
    have hc := step_change h hf hs
    rcases List.mem_cons.mp he with heq | hold
    · obtain ⟨rfl, rfl⟩ := Prod.mk.injEq .. ▸ heq
      obtain ⟨job, -, -, hlater⟩ := hc.of_started
      exact ⟨_, hlater, by simp⟩
    · obtain ⟨before, hb, hne⟩ := ih hold
      obtain ⟨later, hlater, hstep⟩ := hc.job_step h hf.1 hb
      exact ⟨later, hlater, hstep.becomes.ne_queued hne⟩

/-- No job is started twice. -/
theorem Run.nodup_startedIn (hr : Run s₀ trace s) (h₀ : s₀.board.Sound) :
    (startedIn trace).Nodup := by
  induction hr with
  | start => exact List.nodup_nil
  | @step trace s t l a hr hf hs ih =>
    unfold startedIn at ih ⊢
    rw [List.filterMap_cons]
    cases hstarted : startedBy? (l, a) with
    | none => exact ih
    | some id =>
      refine List.nodup_cons.mpr ⟨?_, ih⟩
      intro hmem
      -- a worker starts queued jobs only, and what was started is not queued
      obtain ⟨now, x, heq, rfl⟩ := startedBy?_eq_some_iff.mp hstarted
      obtain ⟨rfl, rfl⟩ := Prod.mk.injEq .. ▸ heq
      obtain ⟨job, hj, hqueued, -⟩ := (step_change (hr.sound h₀) hf hs).of_started
      obtain ⟨other, ho, hne⟩ := hr.not_queued_of_started h₀ hmem
      obtain rfl := JobBoard.find?_unique hj ho
      exact hne hqueued

/-- A job that is not queued, because it was cancelled or for another reason, is not started from
    then on. -/
theorem Run.not_started (hr : Run s rest t) (h : s.board.Sound)
    (hj : s.board.find? id = some job) (hs : job.status ≠ .queued) : id ∉ startedIn rest := by
  induction hr with
  | start => exact List.not_mem_nil
  | @step rest t u l a hr hf hstep ih =>
    intro hmem
    obtain ⟨e, he, hstarted⟩ := List.mem_filterMap.mp hmem
    rcases List.mem_cons.mp he with rfl | hold
    · obtain ⟨now, x, heq, rfl⟩ := startedBy?_eq_some_iff.mp hstarted
      obtain ⟨rfl, rfl⟩ := Prod.mk.injEq .. ▸ heq
      obtain ⟨last, hlast, hqueued, -⟩ := (step_change (hr.sound h) hf hstep).of_started
      obtain ⟨later, hlater, hbecomes⟩ := hr.becomes h hj
      obtain rfl := JobBoard.find?_unique hlast hlater
      exact hbecomes.ne_queued hs hqueued
    · exact ih (List.mem_filterMap.mpr ⟨e, hold, hstarted⟩)

/-! ### The closed queue -/

/-- A queue that is closed is never opened again. -/
theorem Change.closed (hc : Change b store l a b' kept) (h : b.Sound) (hclosed : b.closed = true) :
    b'.closed = true := by
  cases hc with
  | shutDown now => exact (JobBoard.shutDown_shut h now).closed
  | _ => exact hclosed

theorem Run.closed (hr : Run s₀ trace s) (h₀ : s₀.board.Sound)
    (hmem : (.shutDown now, a) ∈ trace) : s.board.closed = true := by
  induction hr with
  | start => cases hmem
  | step hr hf hs ih =>
    rcases List.mem_cons.mp hmem with he | hold
    · obtain ⟨rfl, rfl⟩ := Prod.mk.injEq .. ▸ he
      obtain ⟨-, rfl⟩ := Prod.mk.injEq .. ▸ Option.some.inj hs
      rfl
    · have h := hr.sound h₀
      exact (step_change h hf hs).closed h (ih hold)

/-- The service tells the caller that the queue is closed, and leaves the new job cancelled. -/
theorem enqueue_closed (h : s.board.Sound) (hclosed : s.board.closed = true)
    (hn : s.board.find? id = none) (r : JobRequest) (now : Instant) :
    ∃ u, s.enqueue r id now = (.error .closed, u) ∧
      u.board.find? id = some ((r.newJob id now).moved .cancelled now) := by
  have hlive := h.live?_of_closed hclosed r.fingerprint
  obtain ⟨ht, ha⟩ := h.register_fresh hn hlive now
  have hrefused : s.enqueue r id now =
      (.error .closed, { s with
        board := (s.board.register id r now).close id ((r.newJob id now).moved .cancelled now)
          Counters.addCancelled }) := by
    simp only [enqueue, JobBoard.enqueue, hlive, hclosed, if_true, ht.drop_of_active ha now]
    rfl
  exact ⟨_, hrefused, (JobBoard.find?_close _ id id _ _).trans (if_pos rfl)⟩

/-- So does a request that the store has no answer for. -/
theorem request_closed (h : s.board.Sound) (hclosed : s.board.closed = true)
    (hn : s.board.find? id = none) {q : QueryRequest} {d : Decision} {pool : RunnerPool}
    (hd : q.decide s.store s.pool now = (.ok d, pool)) (hc : d.cached = none) :
    ∃ u, s.request q id now = (.error .closed, u) ∧
      u.board.find? id = some (((q.call d).newJob id now).moved .cancelled now) := by
  rw [request_eq_enqueue hd hc]
  exact enqueue_closed (s := { s with pool, events := s.events ++ [ExecutionEvent.of q d] }) h
    hclosed hn (q.call d) now

/-- A call that waits can go on, and is told so too. -/
theorem proceed_closed (h : s.board.Sound) (hclosed : s.board.closed = true) {x : Assignment}
    (hx : x ∈ s.board.waiting) (now : Instant) :
    ∃ u, s.step? (.proceed x.job now) = some (.error .closed, u) := by
  have hsome : (s.board.waiting? x.job).isSome = true := by
    unfold JobBoard.waiting?
    exact List.find?_isSome.mpr ⟨x, hx, by simp⟩
  obtain ⟨y, hy⟩ := Option.isSome_iff_exists.mp hsome
  have hc : Change s.board s.store (.proceed x.job now) (.error .closed)
      (s.board.withoutWaiting x.job) s.store := Change.turnedAway hy hclosed
  obtain ⟨u, hu, -⟩ := hc.enabled h (by simp [Label.newJob?]) (by simp)
  exact ⟨u, hu⟩

/-! ### Every job has its place -/

/-- In every state that a run reaches each created job is known, and one that has not ended stands
    in one place: its call waits to send it, one message of the queue names it, or one worker is at
    it. There is room for all messages, workers and running jobs. No job is started twice, and none
    that is not queued any more. Once the service has been shut down every job has ended, the calls
    that wait are turned away, and so are new ones, which leave their jobs cancelled. -/
theorem every_job_has_its_place {config : Config} {registry : Registry}
    (hstart : Service.start config store registry = .ok s₀) (hrun : Run s₀ trace s) :
    (∀ id ∈ createdIn trace, ∃ job, s.board.find? id = some job ∧
      (job.status.isTerminal = false → s.board.Stands id job.status)) ∧
    s.board.queue.length ≤ config.dispatch.queueSize.toNat ∧
    s.board.running.length ≤ config.dispatch.workers.toNat ∧
    s.board.tally (createdIn trace) .running ≤ config.dispatch.workers.toNat ∧
    (startedIn trace).Nodup ∧
    (∀ id job rest t, s.board.find? id = some job → job.status ≠ .queued → Run s rest t →
      id ∉ startedIn rest) ∧
    ((∃ now a, (.shutDown now, a) ∈ trace) →
      (∀ id ∈ createdIn trace, ∃ job, s.board.find? id = some job ∧
        job.status.isTerminal = true) ∧
      (∀ x ∈ s.board.waiting, ∀ now, ∃ u,
        s.step? (.proceed x.job now) = some (.error .closed, u)) ∧
      (∀ r id now, s.board.find? id = none → ∃ u last,
        s.step? (.enqueue r id now) = some (.error .closed, u) ∧
        u.board.find? id = some last ∧ last.status = .cancelled) ∧
      ∀ q id now d pool, q.decide s.store s.pool now = (.ok d, pool) → d.cached = none →
        s.board.find? id = none → ∃ u last,
          s.step? (.request q id now) = some (.error .closed, u) ∧
          u.board.find? id = some last ∧ last.status = .cancelled) := by
  have hboard := (start_eq hstart).1
  have h₀ : s₀.board.Sound := start_sound hstart
  have hempty := start_find? hstart
  have h : s.board.Sound := hrun.sound h₀
  obtain ⟨hwithin, hconfig⟩ := hrun.within h₀ (by rw [hboard]; exact JobBoard.Within.empty _)
  have hsettings : s.board.config = config.dispatch := by
    rw [hconfig, hboard]
    rfl
  have hworkers : s.board.running.length ≤ config.dispatch.workers.toNat :=
    hsettings ▸ hwithin.running_le
  have hrunning := h.tally_running_le (hrun.nodup_createdIn h₀ hempty)
  refine ⟨?_, hsettings ▸ hwithin.queue_le, hworkers, Nat.le_trans hrunning hworkers,
    hrun.nodup_startedIn h₀, ?_, ?_⟩
  · intro id hid
    obtain ⟨job, hj⟩ := hrun.find?_of_created h₀ hempty hid
    exact ⟨job, hj, h.stands hj⟩
  · intro id job rest t hj hs hrest
    exact hrest.not_started h hj hs
  · rintro ⟨now, a, hmem⟩
    have hclosed := hrun.closed h₀ hmem
    refine ⟨?_, ?_, ?_, ?_⟩
    · intro id hid
      obtain ⟨job, hj⟩ := hrun.find?_of_created h₀ hempty hid
      exact ⟨job, hj, h.ended_of_closed hclosed hj⟩
    · intro x hx now
      exact proceed_closed h hclosed hx now
    · intro r id now hn
      obtain ⟨u, hu, hlast⟩ := enqueue_closed h hclosed hn r now
      exact ⟨u, _, congrArg some hu, hlast, rfl⟩
    · intro q id now d pool hd hc hn
      obtain ⟨u, hu, hlast⟩ := request_closed h hclosed hn hd hc
      exact ⟨u, _, congrArg some hu, hlast, rfl⟩

/-- A job in the queue, which ends when the service shuts down; a call that comes later is told that
    the queue is closed. -/
theorem some_job_has_its_place :
    ∃ s t u, Run (small Store.empty Registry.empty)
        [(.enqueue someRequest (jobId 1) .epoch,
          .ok (.queued (someRequest.newJob (jobId 1) .epoch)))] s ∧
      s.step? (.shutDown .epoch) = some (.ok .done, t) ∧
      s.board.Stands (jobId 1) .queued ∧ (∃ job, t.board.find? (jobId 1) = some job ∧
        job.status.isTerminal = true) ∧
      t.step? (.enqueue someRequest (jobId 2) .epoch) = some (.error .closed, u) := by
  have hr₁ := small_enqueue Store.empty Registry.empty someRequest (jobId 1) .epoch
  have hj₁ := smallQueued_active Store.empty Registry.empty someRequest (jobId 1) .epoch
  obtain ⟨job, hj, hstands⟩ := (every_job_has_its_place (small_start _ _) hr₁).1 (jobId 1)
    (List.mem_singleton.mpr rfl)
  obtain rfl := JobBoard.find?_unique (JobBoard.find?_of_active hj₁) hj
  have hr₂ := hr₁.step (Fresh.of_none rfl rfl) (l := .shutDown .epoch) rfl
  obtain ⟨-, -, -, -, -, -, hshut⟩ := every_job_has_its_place (small_start _ _) hr₂
  obtain ⟨hended, -, hcalls, -⟩ := hshut ⟨.epoch, _, List.mem_cons_self ..⟩
  have hnew : ((smallQueued Store.empty Registry.empty someRequest (jobId 1) .epoch).board.shutDown
      .epoch).find? (jobId 2) = none := by
    have hn := smallQueued_find? Store.empty Registry.empty someRequest .epoch
      (show jobId 2 ≠ jobId 1 by decide)
    rw [(JobBoard.shutDown_shut (hr₁.sound (small_sound _ _)) .epoch).kept
      (JobBoard.not_active_of_find?_eq_none hn)]
    exact hn
  obtain ⟨u, -, hu, -⟩ := hcalls someRequest (jobId 2) .epoch hnew
  exact ⟨_, _, u, hr₁, rfl, hstands rfl, hended (jobId 1) (List.mem_singleton.mpr rfl), hu⟩

end Service

end QueryDispatch
