import QueryDispatch.Proofs.Service.Runs

/-! # Changes are steps

  The relation of changes holds no more than the steps do: apart from what a
  request comes to, each change of a sound board is made by the step it names,
  with the answer it names. So a run can be built from changes one by one.
-/

namespace QueryDispatch

namespace Service

variable {s₀ s : Service} {b : JobBoard} {store kept : Store} {l : Label} {a : Answer}
  {id : JobId} {r : JobRequest} {now : Instant} {trace : List (Label × Answer)}

/-- A call that is made directly. -/
theorem Label.Brings.eq_enqueue (hl : l.Brings id r now)
    (hq : ∀ q id now, l ≠ .request q id now) : l = .enqueue r id now := by
  cases hl with
  | enqueue => rfl
  | request q => exact absurd rfl (hq q id now)

theorem Change.enabled (hc : Change s.board s.store l a b kept) (h : s.board.Sound)
    (hn : ∀ id, l.newJob? = some id → s.board.find? id = none)
    (hq : ∀ q id now, l ≠ .request q id now) :
    ∃ t, s.step? l = some (a, t) ∧ t.board = b ∧ t.store = kept := by
  -- the guard of each change is what the step looks at, in the order of its code
  cases hc with
  | @answered q id now => exact absurd rfl (hq q id now)
  | joined hl hj =>
    obtain rfl := hl.eq_enqueue hq
    refine ⟨⟨s.board.count Counters.addDeduplicated, s.store, s.pool, s.events⟩, ?_, rfl, rfl⟩
    simp only [step?, enqueue, JobBoard.enqueue, hj]
    rfl
  | @refused _ id r now hl hlive hclosed =>
    obtain ⟨ht, ha⟩ := h.register_fresh (hn _ hl.newJob?_eq) hlive now
    obtain rfl := hl.eq_enqueue hq
    refine ⟨{ s with board := _ }, ?_, rfl, rfl⟩
    simp only [step?, enqueue, JobBoard.enqueue, hlive, hclosed, if_true,
      ht.drop_of_active ha now]
    rfl
  | @sent _ id r now hl hlive hopen hroom =>
    obtain rfl := hl.eq_enqueue hq
    refine ⟨⟨(s.board.register id r now).send ⟨id, r⟩, s.store, s.pool, s.events⟩, ?_, rfl, rfl⟩
    simp only [step?, enqueue, JobBoard.enqueue, hlive, hopen, hroom]
    rfl
  | @held _ id r now hl hlive hopen hroom =>
    obtain rfl := hl.eq_enqueue hq
    refine ⟨{ s with board := _ }, ?_, rfl, rfl⟩
    simp only [step?, enqueue, JobBoard.enqueue, hlive, hopen, hroom]
    rfl
  | @turnedAway id now x ha hclosed =>
    have ht : (s.board.withoutWaiting id).Tidy := h.toTidy.congr rfl rfl rfl
    have hno : (s.board.withoutWaiting id).active.find? id = none := h.shut hclosed id
    refine ⟨⟨s.board.withoutWaiting id, s.store, s.pool, s.events⟩, ?_, rfl, rfl⟩
    simp [step?, JobBoard.proceed?, ha, hclosed, ht.drop_of_not_active hno now, answerCall]
  | @admitted id now x job ha hopen hroom hj =>
    refine ⟨⟨(s.board.withoutWaiting id).send x, s.store, s.pool, s.events⟩, ?_, rfl, rfl⟩
    simp [step?, JobBoard.proceed?, ha, hopen, hroom, hj, answerCall]
  | @abandoned id now x job ha hj =>
    have ht : (s.board.withoutWaiting id).Tidy := h.toTidy.congr rfl rfl rfl
    have hj' : (s.board.withoutWaiting id).active.find? id = some job := hj
    refine ⟨⟨(s.board.withoutWaiting id).close id (job.moved .cancelled now)
      Counters.addCancelled, s.store, s.pool, s.events⟩, ?_, rfl, rfl⟩
    simp [step?, JobBoard.abandon?, ha, ht.drop_of_active hj' now]
  | @abandonedLate id now x ha hj =>
    have ht : (s.board.withoutWaiting id).Tidy := h.toTidy.congr rfl rfl rfl
    have hj' : (s.board.withoutWaiting id).active.find? id = none := hj
    refine ⟨⟨s.board.withoutWaiting id, s.store, s.pool, s.events⟩, ?_, rfl, rfl⟩
    simp [step?, JobBoard.abandon?, ha, ht.drop_of_not_active hj' now]
  | @cancelled id now job hj =>
    refine ⟨{ s with board := _ }, ?_, rfl, rfl⟩
    have hfetch : (s.board.close id (job.moved .cancelled now) Counters.addCancelled).fetch id =
        .ok (job.moved .cancelled now) := by
      unfold JobBoard.fetch
      rw [JobBoard.find?_close, if_pos rfl]
    simp only [step?, h.cancel_of_active hj now, hfetch]
    rfl
  | @cancelledLate id now hj =>
    refine ⟨s, ?_, rfl, rfl⟩
    simp only [step?, JobBoard.Sound.cancel_of_not_active hj now]
  | @started now x rest job hw hqueue hj hs =>
    have hm : job.moveTo? .running now = some (job.moved .running now) :=
      Job.moveTo?_eq (by rw [hs]; rfl) now
    refine ⟨{ s with board := _, pool := s.pool.after x.request.source }, ?_, rfl, rfl⟩
    simp only [step?, JobBoard.take?, hqueue, hw, hj, JobBoard.update?, Option.bind_some, hm]
    rfl
  | @skipped now x rest hw hqueue hj =>
    refine ⟨{ s with board := _ }, ?_, rfl, rfl⟩
    simp [step?, JobBoard.take?, hqueue, hw, hj]
  | @finished id c x job last _ change ha hj hs he =>
    refine ⟨{ s with board := _, store := _ }, ?_, rfl, rfl⟩
    simp only [step?, finish?_of_running h ha hj hs he]
    rfl
  | @finishedLate id c x ha hj =>
    refine ⟨⟨s.board.withoutRunning id, s.store, s.pool, s.events⟩, ?_, rfl, rfl⟩
    simp only [step?, finish?_of_not_active h ha hj, Option.map_some]
  | @stopped id now x ha hj =>
    obtain ⟨hmem, rfl⟩ := JobBoard.mem_of_running? ha
    have hall : x ∈ s.board.assignments := JobBoard.mem_assignments.mpr (Or.inr hmem)
    obtain ⟨job, hjob, -⟩ := h.assigned x hall
    have hs : job.status = .cancelled :=
      h.cancelled_of_ended hall hjob (h.ended_of_not_active hj hjob)
    refine ⟨⟨s.board.withoutRunning x.job, s.store, s.pool, s.events⟩, ?_, rfl, rfl⟩
    simp [step?, JobBoard.stop?, ha, hjob, hs, JobBoard.cancelJob_of_not_active hj,
      retire_of_not_active h hj]
  | shutDown now => exact ⟨{ s with board := s.board.shutDown now }, rfl, rfl, rfl⟩

/-- A step that names nothing new. -/
theorem Fresh.of_none (hj : l.newJob? = none) (hr : l.newResult? = none) : Fresh s l := by
  refine ⟨?_, ?_⟩
  · intro id hid
    rw [hj] at hid
    cases hid
  · intro result hres
    rw [hr] at hres
    cases hres

/-- A step that names a job which is not on the board. -/
theorem Fresh.of_job (hj : l.newJob? = some id) (hr : l.newResult? = none)
    (hn : s.board.find? id = none) : Fresh s l := by
  refine ⟨?_, ?_⟩
  · intro other ho
    obtain rfl := Option.some.inj (hj.symm.trans ho)
    exact hn
  · intro result hres
    rw [hr] at hres
    cases hres

/-- A run goes on with any change. -/
theorem Run.extend (hr : Run s₀ trace s) (h₀ : s₀.board.Sound) (hf : Fresh s l)
    (hq : ∀ q id now, l ≠ .request q id now) (hc : Change s.board s.store l a b kept) :
    ∃ t, Run s₀ ((l, a) :: trace) t ∧ t.board = b ∧ t.store = kept := by
  obtain ⟨t, ht, hb, hk⟩ := hc.enabled (hr.sound h₀) hf.1 hq
  exact ⟨t, hr.step hf ht, hb, hk⟩

/-- A free worker takes the first job of the queue and stores its rows. -/
theorem Run.complete {x : Assignment} {rest : List Assignment} {job : Job} {c : Completion}
    {data : Table} {inserted : Store} (hr : Run s₀ trace s) (h₀ : s₀.board.Sound)
    (hw : s.board.hasIdleWorker = true) (hrun : s.board.running = [])
    (hq : s.board.queue = x :: rest) (hj : s.board.active.find? x.job = some job)
    (hs : job.status = .queued) (hn : s.store.records.result? c.result = none)
    (ho : c.outcome = .rows data)
    (hi : s.store.insert (StoredResult.of c.result x.request.source.id x.request.text data c.now
      c.runtime) = .ok inserted) (now : Instant) :
    ∃ t, Run s₀ ((.finish x.job c, .ok .done) :: (.take now, .ok (.runs x)) :: trace) t ∧
      t.board.find? x.job = some ((job.moved .running now).succeeded c.result c.now) ∧
      t.store = JobBoard.pointTo inserted x.request c.result := by
  have hftake : Fresh s (.take now) := Fresh.of_none rfl rfl
  obtain ⟨m, hm, hmb, hmk⟩ := hr.extend h₀ hftake (by simp) (Change.started hw hq hj hs)
  -- the worker is at the job, which runs now
  have hx : m.board.running? x.job = some x := by
    rw [hmb]
    simp [JobBoard.running?, JobBoard.start, hrun]
  have hjm : m.board.active.find? x.job = some (job.moved .running now) := by
    rw [hmb]
    exact Assoc.find?_put_self s.board.active x.job _
  have hffin : Fresh m (.finish x.job c) := by
    refine ⟨by simp [Label.newJob?], ?_⟩
    intro result hres
    obtain rfl : c.result = result := by simpa [Label.newResult?] using hres
    rw [hmk]
    exact hn
  have he : JobBoard.Ending m.store x c (job.moved .running now) _ _ _ :=
    JobBoard.Ending.stored ho (by rw [hmk]; exact hi)
  obtain ⟨t, ht, htb, htk⟩ := hm.extend h₀ hffin (by simp) (Change.finished hx hjm rfl he)
  refine ⟨t, ht, ?_, htk⟩
  rw [htb, JobBoard.find?_close, if_pos rfl]

/-! ### A small service -/

/-- One worker, and a queue for one job. -/
def smallConfig : Config := ⟨⟨1, 1, 3600⟩, PoolConfig.default⟩

/-- The service with these settings, before its first step. -/
def small (store : Store) (registry : Registry) : Service :=
  ⟨JobBoard.empty smallConfig.dispatch, store, RunnerPool.of registry, []⟩

/-- The small service with one job in its queue. -/
def smallQueued (store : Store) (registry : Registry) (r : JobRequest) (id : JobId)
    (now : Instant) : Service :=
  { small store registry with
    board := ((JobBoard.empty smallConfig.dispatch).register id r now).send ⟨id, r⟩ }

theorem small_start (store : Store) (registry : Registry) :
    Service.start smallConfig store registry = .ok (small store registry) := rfl

theorem small_sound (store : Store) (registry : Registry) : (small store registry).board.Sound :=
  start_sound (small_start store registry)

/-- The first call for a job fills the queue. -/
theorem small_enqueue (store : Store) (registry : Registry) (r : JobRequest) (id : JobId)
    (now : Instant) :
    Run (small store registry) [(.enqueue r id now, .ok (.queued (r.newJob id now)))]
      (smallQueued store registry r id now) := by
  have hf : Fresh (small store registry) (.enqueue r id now) := Fresh.of_job rfl rfl rfl
  exact Run.step Run.start hf rfl

theorem smallQueued_active (store : Store) (registry : Registry) (r : JobRequest) (id : JobId)
    (now : Instant) :
    (smallQueued store registry r id now).board.active.find? id = some (r.newJob id now) :=
  Assoc.find?_put_self [] id _

/-- There is no other job. -/
theorem smallQueued_find? (store : Store) (registry : Registry) (r : JobRequest) (now : Instant)
    {id other : JobId} (ho : other ≠ id) :
    (smallQueued store registry r id now).board.find? other = none := by
  have hfind := JobBoard.find?_register (JobBoard.empty smallConfig.dispatch) id other r now
  rw [if_neg ho] at hfind
  exact hfind

/-- Some request for a job. -/
def someRequest : JobRequest :=
  JobRequest.of ⟨⟨1⟩, "main", "builtin", .null, false, none⟩ "SELECT 1"

/-- Some identifiers for jobs. -/
def jobId (n : Nat) : JobId := ⟨Uuid.ofNat n⟩

/-- The end of a run that found no rows. -/
def noRows : Completion :=
  ⟨.rows ⟨[], [], none⟩, ⟨Uuid.ofNat 7⟩, .epoch, Double.zero false⟩

end Service

end QueryDispatch
