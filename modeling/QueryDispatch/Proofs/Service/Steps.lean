import QueryDispatch.Proofs.Board.Closing
import QueryDispatch.Service.Basic

/-! # What a step does

  A step of the service is one of a few changes of the board and the store.
  The relation `Change` lists them, each with the guard under which it is made
  and the answer that goes with it. On a sound board every step is one of
  them, so what is proved of the changes holds of the steps.
-/

namespace QueryDispatch

namespace Service

/-- The call for a job that a step makes, with the identifier for the job. -/
inductive Label.Brings : Label → JobId → JobRequest → Instant → Prop where
  | enqueue (r : JobRequest) (id : JobId) (now : Instant) : Brings (.enqueue r id now) id r now
  /-- What a request comes to keeps the saved query. -/
  | request (q : QueryRequest) (source : DataSource) (text : String) (id : JobId)
      (now : Instant) :
      Brings (.request q id now) id
        (((JobRequest.of source text).withUser q.user).withQuery q.saved) now

theorem Label.Brings.newJob?_eq {l : Label} {id : JobId} {r : JobRequest} {now : Instant}
    (h : l.Brings id r now) : l.newJob? = some id := by
  cases h <;> rfl

/-- The changes of a board and a store, with the step and the answer. -/
inductive Change (b : JobBoard) (store : Store) : Label → Answer → JobBoard → Store → Prop where
  /-- A request is answered, or refused, without a job. -/
  | answered {q : QueryRequest} {id : JobId} {now : Instant} {a : Answer}
      (hq : ∀ job, a ≠ .ok (.queued job)) (hw : ∀ id, a ≠ .ok (.waits id)) :
      Change b store (.request q id now) a b store
  | joined {l : Label} {id : JobId} {r : JobRequest} {now : Instant} {job : Job}
      (hl : l.Brings id r now) (hj : b.live? r.fingerprint = some job) :
      Change b store l (.ok (.queued job)) (b.count Counters.addDeduplicated) store
  | refused {l : Label} {id : JobId} {r : JobRequest} {now : Instant}
      (hl : l.Brings id r now) (hn : b.live? r.fingerprint = none) (hc : b.closed = true) :
      Change b store l (.error .closed)
        ((b.register id r now).close id ((r.newJob id now).moved .cancelled now)
          Counters.addCancelled) store
  | sent {l : Label} {id : JobId} {r : JobRequest} {now : Instant}
      (hl : l.Brings id r now) (hn : b.live? r.fingerprint = none) (hc : b.closed = false)
      (hroom : b.hasRoom = true) :
      Change b store l (.ok (.queued (r.newJob id now)))
        ((b.register id r now).send ⟨id, r⟩) store
  | held {l : Label} {id : JobId} {r : JobRequest} {now : Instant}
      (hl : l.Brings id r now) (hn : b.live? r.fingerprint = none) (hc : b.closed = false)
      (hroom : b.hasRoom = false) :
      Change b store l (.ok (.waits id))
        { b.register id r now with waiting := b.waiting ++ [⟨id, r⟩] } store
  /-- A waiting call finds the queue closed; its job was cancelled before. -/
  | turnedAway {id : JobId} {now : Instant} {a : Assignment} (ha : b.waiting? id = some a)
      (hc : b.closed = true) :
      Change b store (.proceed id now) (.error .closed) (b.withoutWaiting id) store
  | admitted {id : JobId} {now : Instant} {a : Assignment} {job : Job}
      (ha : b.waiting? id = some a) (hc : b.closed = false) (hroom : b.hasRoom = true)
      (hj : b.find? id = some job) :
      Change b store (.proceed id now) (.ok (.queued job)) ((b.withoutWaiting id).send a) store
  | abandoned {id : JobId} {now : Instant} {a : Assignment} {job : Job}
      (ha : b.waiting? id = some a) (hj : b.active.find? id = some job) :
      Change b store (.abandon id now) (.ok .done)
        ((b.withoutWaiting id).close id (job.moved .cancelled now) Counters.addCancelled) store
  /-- The job of the call had been cancelled already. -/
  | abandonedLate {id : JobId} {now : Instant} {a : Assignment} (ha : b.waiting? id = some a)
      (hj : b.active.find? id = none) :
      Change b store (.abandon id now) (.ok .done) (b.withoutWaiting id) store
  | cancelled {id : JobId} {now : Instant} {job : Job} (hj : b.active.find? id = some job) :
      Change b store (.cancel id now) (.ok (.job (job.moved .cancelled now)))
        (b.close id (job.moved .cancelled now) Counters.addCancelled) store
  /-- The job had ended already, or there is none. -/
  | cancelledLate {id : JobId} {now : Instant} (hj : b.active.find? id = none) :
      Change b store (.cancel id now) ((b.fetch id).map .job) b store
  | started {now : Instant} {a : Assignment} {rest : List Assignment} {job : Job}
      (hw : b.hasIdleWorker = true) (hq : b.queue = a :: rest)
      (hj : b.active.find? a.job = some job) (hs : job.status = .queued) :
      Change b store (.take now) (.ok (.runs a)) ({ b with queue := rest }.start a job now) store
  /-- The first job of the queue was cancelled there. -/
  | skipped {now : Instant} {a : Assignment} {rest : List Assignment}
      (hw : b.hasIdleWorker = true) (hq : b.queue = a :: rest)
      (hj : b.active.find? a.job = none) :
      Change b store (.take now) (.ok .done) { b with queue := rest } store
  | finished {id : JobId} {c : Completion} {a : Assignment} {job last : Job} {kept : Store}
      {change : Counters → Counters} (ha : b.running? id = some a)
      (hj : b.active.find? id = some job) (hs : job.status = .running)
      (he : JobBoard.Ending store a c job last kept change) :
      Change b store (.finish id c) (.ok .done)
        ((b.withoutRunning id).close id last change) kept
  /-- The job was cancelled under the runner, and what it delivers is lost. -/
  | finishedLate {id : JobId} {c : Completion} {a : Assignment} (ha : b.running? id = some a)
      (hj : b.active.find? id = none) :
      Change b store (.finish id c) (.ok .done) (b.withoutRunning id) store
  | stopped {id : JobId} {now : Instant} {a : Assignment} (ha : b.running? id = some a)
      (hj : b.active.find? id = none) :
      Change b store (.stop id now) (.ok .done) (b.withoutRunning id) store
  | shutDown (now : Instant) : Change b store (.shutDown now) (.ok .done) (b.shutDown now) store

variable {s t : Service} {b : JobBoard} {store : Store} {id : JobId} {now : Instant}

/-! ### Every operation is a change -/

theorem enqueue_change (h : b.Sound) {l : Label} {r : JobRequest} (hl : l.Brings id r now)
    (hn : b.find? id = none) (store : Store) :
    Change b store l (answerCall id (b.enqueue id r now).1) (b.enqueue id r now).2 store := by
  unfold JobBoard.enqueue
  -- the cases follow the guards of the call: joined, refused, sent, held
  cases hlive : b.live? r.fingerprint with
  | some job => exact Change.joined hl hlive
  | none =>
    cases hc : b.closed with
    | true =>
      obtain ⟨ht, ha⟩ := h.register_fresh hn hlive now
      simp only [if_true]
      rw [ht.drop_of_active ha now]
      exact Change.refused hl hlive hc
    | false =>
      cases hroom : b.hasRoom with
      | true => exact Change.sent hl hlive hc hroom
      | false => exact Change.held hl hlive hc hroom

theorem proceed?_change (h : b.Sound) {outcome : JobBoard.CallOutcome} {b' : JobBoard}
    (hp : b.proceed? id now = some (outcome, b')) (store : Store) :
    Change b store (.proceed id now) (answerCall id outcome) b' store := by
  unfold JobBoard.proceed? at hp
  obtain ⟨a, ha, hp⟩ := Option.bind_eq_some_iff.mp hp
  cases hc : b.closed with
  | true =>
    -- no job is active once the queue is closed, so there is nothing to drop
    have hno : (b.withoutWaiting id).active.find? id = none := h.shut hc id
    have ht : (b.withoutWaiting id).Tidy := h.toTidy.congr rfl rfl rfl
    rw [hc, if_pos rfl, ht.drop_of_not_active hno now] at hp
    obtain ⟨rfl, rfl⟩ : JobBoard.CallOutcome.refused = outcome ∧ b.withoutWaiting id = b' := by
      simpa using hp
    exact Change.turnedAway ha hc
  | false =>
    rw [hc] at hp
    cases hroom : b.hasRoom with
    | true =>
      simp only [hroom, Bool.false_eq_true, if_false, if_true] at hp
      obtain ⟨job, hj, hp⟩ := Option.bind_eq_some_iff.mp hp
      obtain ⟨rfl, rfl⟩ : JobBoard.CallOutcome.queued job = outcome ∧
          (b.withoutWaiting id).send a = b' := by
        simpa using hp
      exact Change.admitted ha hc hroom hj
    | false => simp [hroom] at hp

theorem abandon?_change (h : b.Sound) {b' : JobBoard} (hp : b.abandon? id now = some b')
    (store : Store) : Change b store (.abandon id now) (.ok .done) b' store := by
  unfold JobBoard.abandon? at hp
  obtain ⟨a, ha, hb⟩ := Option.map_eq_some_iff.mp hp
  have ht : (b.withoutWaiting id).Tidy := h.toTidy.congr rfl rfl rfl
  have hsame : (b.withoutWaiting id).active.find? id = b.active.find? id := rfl
  -- the job may have been cancelled while the call waited
  cases hj : b.active.find? id with
  | some job =>
    rw [← hb, ht.drop_of_active (hsame.trans hj) now]
    exact Change.abandoned ha hj
  | none =>
    rw [← hb, ht.drop_of_not_active (hsame.trans hj) now]
    exact Change.abandonedLate ha hj

theorem cancel_change (h : b.Sound) (id : JobId) (now : Instant) (store : Store) :
    Change b store (.cancel id now) (((b.cancel id now).fetch id).map .job) (b.cancel id now)
      store := by
  cases hj : b.active.find? id with
  | some job =>
    rw [h.cancel_of_active hj]
    have hfetch : (b.close id (job.moved .cancelled now) Counters.addCancelled).fetch id =
        .ok (job.moved .cancelled now) := by
      unfold JobBoard.fetch
      rw [JobBoard.find?_close, if_pos rfl]
    rw [hfetch]
    exact Change.cancelled hj
  | none =>
    rw [JobBoard.Sound.cancel_of_not_active hj]
    exact Change.cancelledLate hj

/-- The first job of the queue, when it has not ended, is queued. -/
theorem queued_of_head (h : b.Sound) {a : Assignment} {rest : List Assignment} {job : Job}
    (hq : b.queue = a :: rest) (hj : b.active.find? a.job = some job) :
    job.status = .queued := by
  have hmem : a ∈ b.pending := JobBoard.mem_pending.mpr (Or.inl (by rw [hq]; simp))
  have hlive := h.active_live hj
  rcases h.pending_status a hmem job (JobBoard.find?_of_active hj) with hs | hs
  · exact hs
  · rw [hs] at hlive
    exact absurd hlive (by simp [JobStatus.isTerminal])

/-- A job that a worker is at, when it has not ended, runs. -/
theorem running_of_mem (h : b.Sound) {a : Assignment} {job : Job} (ha : a ∈ b.running)
    (hj : b.active.find? a.job = some job) : job.status = .running := by
  have hlive := h.active_live hj
  rcases h.running_status a ha job (JobBoard.find?_of_active hj) with hs | hs
  · exact hs
  · rw [hs] at hlive
    exact absurd hlive (by simp [JobStatus.isTerminal])

theorem take?_change (h : b.Sound) {got : Option Assignment} {b' : JobBoard}
    (ht : b.take? now = some (got, b')) (store : Store) :
    Change b store (.take now) (.ok (got.elim .done .runs)) b' store := by
  unfold JobBoard.take? at ht
  cases hq : b.queue with
  | nil => simp [hq] at ht
  | cons a rest =>
    cases hw : b.hasIdleWorker with
    | false => simp [hq, hw] at ht
    | true =>
      simp only [hq, hw, Bool.not_true, Bool.false_eq_true, if_false] at ht
      cases hj : b.active.find? a.job with
      | none =>
        simp only [hj, Option.some.injEq, Prod.mk.injEq] at ht
        obtain ⟨rfl, rfl⟩ := ht
        exact Change.skipped hw hq hj
      | some job =>
        -- the guard of the move cannot fail here
        have hs : job.status = .queued := queued_of_head h hq hj
        have hm : job.moveTo? .running now = some (job.moved .running now) :=
          Job.moveTo?_eq (by rw [hs]; rfl) now
        have hu : ({ b with queue := rest } : JobBoard).update? a.job (·.moveTo? .running now) =
            some { b with
              queue := rest
              active := b.active.put a.job (job.moved .running now) } := by
          have hj' : ({ b with queue := rest } : JobBoard).active.find? a.job = some job := hj
          exact JobBoard.update?_of_active hj' hm
        simp only [hj, hu, Option.some.injEq, Prod.mk.injEq] at ht
        obtain ⟨rfl, rfl⟩ := ht
        exact Change.started hw hq hj hs

/-- The end of a run on a sound board, as one record update. -/
theorem finish?_of_running (h : b.Sound) {c : Completion} {x : Assignment} {job last : Job}
    {kept : Store} {change : Counters → Counters} (ha : b.running? id = some x)
    (hj : b.active.find? id = some job) (hs : job.status = .running)
    (he : JobBoard.Ending store x c job last kept change) :
    b.finish? store id c = some ((b.withoutRunning id).close id last change, kept) := by
  obtain ⟨-, rfl⟩ := JobBoard.mem_of_running? ha
  obtain ⟨last', kept', change', he', hset⟩ := JobBoard.settleJob_of_running hj hs store c
  obtain ⟨rfl, rfl, rfl⟩ := he.unique he'
  have hfp : b.inFlight.find? last'.fingerprint = some x.job := by
    rw [he.follows.fingerprint_eq]
    exact h.inFlight_of_active hj
  -- the worker is gone before the job is retired, which closes it
  have hclose : (b.revise x.job last' change').retire x.job =
      (b.withoutRunning x.job).close x.job last' change' :=
    JobBoard.release_revise (b := b.withoutRunning x.job) hfp change'
  unfold JobBoard.finish?
  rw [ha, Option.map_some, hset]
  simp only [hclose]

/-- A worker whose job was retired gives up its place. -/
theorem retire_of_not_active (h : b.Sound) (hj : b.active.find? id = none) :
    b.retire id = b.withoutRunning id := by
  have ht : (b.withoutRunning id).Tidy := h.toTidy.congr rfl rfl rfl
  exact ht.release_of_not_active hj

/-- What a runner delivers for such a job is lost. -/
theorem finish?_of_not_active (h : b.Sound) {x : Assignment} (ha : b.running? id = some x)
    (hj : b.active.find? id = none) (store : Store) (c : Completion) :
    b.finish? store id c = some (b.withoutRunning id, store) := by
  obtain ⟨-, rfl⟩ := JobBoard.mem_of_running? ha
  -- a job that was retired does not run, so no rows are stored for it
  have hs : ∀ job, b.find? x.job = some job → job.status ≠ .running := by
    intro job hjob hrun
    have hend := h.ended_of_not_active hj hjob
    rw [hrun] at hend
    exact absurd hend (by simp [JobStatus.isTerminal])
  unfold JobBoard.finish?
  rw [ha, Option.map_some, JobBoard.settleJob_of_not_active hj hs store c]
  simp only [retire_of_not_active h hj]

theorem finish?_change (h : b.Sound) {c : Completion} {b' : JobBoard} {kept : Store}
    (hf : b.finish? store id c = some (b', kept)) :
    Change b store (.finish id c) (.ok .done) b' kept := by
  obtain ⟨a, ha, -⟩ := Option.map_eq_some_iff.mp hf
  obtain ⟨hmem, rfl⟩ := JobBoard.mem_of_running? ha
  -- whoever cancels a job retires it in the same step
  cases hj : b.active.find? a.job with
  | some job =>
    have hs : job.status = .running := running_of_mem h hmem hj
    obtain ⟨last, stored, change, he, -⟩ := JobBoard.settleJob_of_running hj hs store c
    rw [finish?_of_running h ha hj hs he] at hf
    obtain ⟨rfl, rfl⟩ : (b.withoutRunning a.job).close a.job last change = b' ∧
        stored = kept := by
      simpa using hf
    exact Change.finished ha hj hs he
  | none =>
    rw [finish?_of_not_active h ha hj] at hf
    obtain ⟨rfl, rfl⟩ : b.withoutRunning a.job = b' ∧ store = kept := by
      simpa using hf
    exact Change.finishedLate ha hj

theorem stop?_change (h : b.Sound) {b' : JobBoard} (hp : b.stop? id now = some b')
    (store : Store) : Change b store (.stop id now) (.ok .done) b' store := by
  unfold JobBoard.stop? at hp
  cases ha : b.running? id with
  | none => simp [ha] at hp
  | some a =>
    cases hj : b.find? id with
    | none => simp [ha, hj] at hp
    | some job =>
      by_cases hs : job.status = .cancelled
      · have hend : b.active.find? id = none := h.not_active_of_ended hj (by rw [hs]; rfl)
        simp only [ha, hj, hs, if_true, JobBoard.cancelJob_of_not_active hend,
          retire_of_not_active h hend, Option.some.injEq] at hp
        rw [← hp]
        exact Change.stopped ha hend
      · simp [ha, hj, hs] at hp

theorem request_change (h : s.board.Sound) (q : QueryRequest) (hn : s.board.find? id = none) :
    Change s.board s.store (.request q id now) (s.request q id now).1
      (s.request q id now).2.board (s.request q id now).2.store := by
  unfold request
  rcases hd : q.decide s.store s.pool now with ⟨decision, pool⟩
  cases decision with
  | error e => exact Change.answered (by simp) (by simp)
  | ok d =>
    cases hc : d.cached with
    | some result =>
      simp only [hc]
      exact Change.answered (by simp) (by simp)
    | none =>
      simp only [hc]
      exact enqueue_change h (Label.Brings.request q d.source d.text id now) hn s.store

/-- On a sound board every step is one of the changes. -/
theorem step_change (h : s.board.Sound) {l : Label} {a : Answer} (hf : Fresh s l)
    (hs : s.step? l = some (a, t)) : Change s.board s.store l a t.board t.store := by
  cases l with
  | request q id now =>
    have hn : s.board.find? id = none := hf.1 id rfl
    obtain ⟨rfl, rfl⟩ : (s.request q id now).1 = a ∧ (s.request q id now).2 = t := by
      simpa [step?, Prod.ext_iff] using hs
    exact request_change h q hn
  | enqueue r id now =>
    have hn : s.board.find? id = none := hf.1 id rfl
    obtain ⟨rfl, rfl⟩ : (s.enqueue r id now).1 = a ∧ (s.enqueue r id now).2 = t := by
      simpa [step?, Prod.ext_iff] using hs
    exact enqueue_change h (Label.Brings.enqueue r id now) hn s.store
  | proceed id now =>
    obtain ⟨⟨outcome, b⟩, hp, he⟩ := Option.map_eq_some_iff.mp hs
    obtain ⟨rfl, rfl⟩ := Prod.mk.injEq .. ▸ he
    exact proceed?_change h hp s.store
  | abandon id now =>
    obtain ⟨b, hp, he⟩ := Option.map_eq_some_iff.mp hs
    obtain ⟨rfl, rfl⟩ := Prod.mk.injEq .. ▸ he
    exact abandon?_change h hp s.store
  | cancel id now =>
    obtain ⟨rfl, rfl⟩ := Prod.mk.injEq .. ▸ Option.some.inj hs
    exact cancel_change h id now s.store
  | take now =>
    obtain ⟨⟨got, b⟩, hp, he⟩ := Option.map_eq_some_iff.mp hs
    have hc := take?_change h hp s.store
    cases got with
    | none =>
      obtain ⟨rfl, rfl⟩ := Prod.mk.injEq .. ▸ he
      exact hc
    | some x =>
      obtain ⟨rfl, rfl⟩ := Prod.mk.injEq .. ▸ he
      exact hc
  | finish id c =>
    obtain ⟨⟨b, kept⟩, hp, he⟩ := Option.map_eq_some_iff.mp hs
    obtain ⟨rfl, rfl⟩ := Prod.mk.injEq .. ▸ he
    exact finish?_change h hp
  | stop id now =>
    obtain ⟨b, hp, he⟩ := Option.map_eq_some_iff.mp hs
    obtain ⟨rfl, rfl⟩ := Prod.mk.injEq .. ▸ he
    exact stop?_change h hp s.store
  | shutDown now =>
    obtain ⟨rfl, rfl⟩ := Prod.mk.injEq .. ▸ Option.some.inj hs
    exact Change.shutDown now

end Service

end QueryDispatch
