import QueryDispatch.Proofs.Service.ComputedOnce
import QueryDispatch.Proofs.Service.Preparing

/-! # What is recorded of a request

  A request is refused before it reaches its decision, or the decision is
  recorded: once, and before anything else is done. A request that is refused
  leaves no trace but a runner in the pool, and one that is answered from the
  store leaves its record and nothing else. What is recorded, what the store
  was asked for and what the job runs is one and the same text.
-/

namespace QueryDispatch

namespace Service

variable {s₀ s t u v : Service} {a answer : Answer} {id i : JobId} {now : Instant}
  {q : QueryRequest} {d : Decision} {job : Job} {r : JobRequest} {e : DispatchError}
  {trace rest : List (Label × Answer)}

/-! ### Calls for a job -/

theorem enqueue_ne_cached (r : JobRequest) (result : StoredResult) :
    (s.enqueue r id now).1 ≠ .ok (.cached result) := by
  show answerCall id (s.board.enqueue id r now).1 ≠ _
  cases (s.board.enqueue id r now).1 <;> simp [answerCall]

/-- A call fails only when no job is taken any more. -/
theorem enqueue_error (h : (s.enqueue r id now).1 = .error e) : e = .closed := by
  have hanswer : answerCall id (s.board.enqueue id r now).1 = .error e := h
  cases houtcome : (s.board.enqueue id r now).1 <;> simp_all [answerCall]

/-- A call that waits does so with its own job. -/
theorem enqueue_waits (h : (s.enqueue r id now).1 = .ok (.waits i)) : i = id := by
  have hanswer : answerCall id (s.board.enqueue id r now).1 = .ok (.waits i) := h
  cases houtcome : (s.board.enqueue id r now).1 <;> simp_all [answerCall]

/-- The job that a call comes back with is its own, or another one with the same fingerprint. -/
theorem enqueue_queued (hs : s.board.Sound) (hn : s.board.find? id = none)
    (h : (s.enqueue r id now).1 = .ok (.queued job)) :
    job = r.newJob id now ∨
      job.id ≠ id ∧ Fingerprint.of job.source.value job.text = r.fingerprint := by
  have hchange := enqueue_change hs (Label.Brings.enqueue r id now) hn s.store
  rcases hchange.queued_cases h with ⟨id', r', now', hb, hj, -⟩ | ⟨id', r', now', hb, hj, -⟩ |
    ⟨id', x, now', hl, -⟩
  · cases hb
    obtain ⟨known, hactive, hfp⟩ := hs.live?_eq_some_iff.mp hj
    have hfind := JobBoard.find?_of_active hactive
    have hintact := hs.intact hfind
    refine Or.inr ⟨?_, hintact.fingerprint_eq.symm.trans hfp⟩
    -- a job that is joined was there before
    rintro rfl
    rw [← hintact.id_eq, hn] at hfind
    cases hfind
  · cases hb
    exact Or.inl hj
  · cases hl

/-- The text of the job is that of the call, unless two keys collide. -/
theorem isFor_of_enqueue (hs : s.board.Sound) (hn : s.board.find? id = none)
    (h : (s.enqueue r id now).1 = .ok (.queued job))
    (hsha : job.id = id ∨ Sha256.Separates (Fingerprint.key job.source.value job.text)
      (Fingerprint.key r.source.id.value r.text)) :
    job.IsFor r.source.id r.text := by
  rcases enqueue_queued hs hn h with rfl | ⟨hne, hfp⟩
  · exact ⟨rfl, rfl⟩
  · rcases hsha with hid | hkey
    · exact absurd hid hne
    · obtain ⟨hsource, htext⟩ := Fingerprint.eq_of_noCollision hfp hkey
      exact ⟨congrArg SourceId.mk hsource, htext⟩

/-- A call that waited comes back with its job, or because no job is taken any more. Nothing is
    recorded then. -/
theorem proceed_of_enqueue {now' : Instant} (hs : s.board.Sound)
    (hn : s.board.find? id = none) (h : (s.enqueue r id now).1 = .ok (.waits i))
    (hrest : Run (s.enqueue r id now).2 rest v)
    (hp : v.step? (.proceed i now') = some (answer, u)) :
    u = { v with board := u.board } ∧
      (answer = .error .closed ∨
        ∃ job, answer = .ok (.queued job) ∧ job.id = id ∧ job.IsFor r.source.id r.text) := by
  have hi := enqueue_waits h
  subst hi
  have hchange := enqueue_change hs (Label.Brings.enqueue r i now) hn s.store
  obtain ⟨r', now'', hb, hfind⟩ := hchange.waits_cases h
  cases hb
  have hsound : (s.enqueue r i now).2.board.Sound :=
    hchange.sound hs (by simpa [Label.newJob?] using hn)
  obtain ⟨later, hlater, hbecomes⟩ := hrest.becomes hsound hfind
  obtain ⟨⟨outcome, board⟩, hproceed, hpair⟩ := Option.map_eq_some_iff.mp hp
  obtain ⟨rfl, rfl⟩ := Prod.mk.inj hpair
  refine ⟨rfl, ?_⟩
  have hgo : Change v.board v.store (.proceed i now') (answerCall i outcome) board v.store :=
    proceed?_change (hrest.sound hsound) hproceed v.store
  generalize hanswer : answerCall i outcome = answer at hgo
  cases hgo with
  | joined hb | refused hb | sent hb | held hb => cases hb
  | turnedAway => exact Or.inl rfl
  | @admitted _ _ _ job _ _ _ hj =>
    obtain rfl := JobBoard.find?_unique hlater hj
    have hfollow := hbecomes.follows
    exact Or.inr ⟨later, rfl, hfollow.id_eq, hfollow.source_eq, hfollow.text_eq⟩

/-! ### The three ways of a request -/

/-- A request is refused before its decision, it is answered from the store, or it goes on as a
    call. The last two are recorded. -/
theorem request_cases (s : Service) (q : QueryRequest) (id : JobId) (now : Instant) :
    (∃ e, (q.decide s.store s.pool now).1 = .error e ∧
      s.request q id now = (.error e, { s with pool := (q.prepare s.store s.pool).2 })) ∨
    ∃ d, q.Reaches s.store s.pool now d ∧
      ((∃ result, d.cached = some result ∧
        s.request q id now = (.ok (.cached result), { s with
          pool := (q.prepare s.store s.pool).2
          events := s.events ++ [ExecutionEvent.of q d] })) ∨
      d.cached = none ∧
        s.request q id now = enqueue { s with
          pool := (q.prepare s.store s.pool).2
          events := s.events ++ [ExecutionEvent.of q d] } (q.call d) id now) := by
  have hpool : (q.decide s.store s.pool now).2 = (q.prepare s.store s.pool).2 := by
    rw [QueryRequest.decide_eq]
  rcases hd : q.decide s.store s.pool now with ⟨decision, pool⟩
  rw [hd] at hpool
  obtain rfl : pool = (q.prepare s.store s.pool).2 := hpool
  cases decision with
  | error e =>
    refine Or.inl ⟨e, rfl, ?_⟩
    unfold request
    rw [hd]
  | ok d =>
    have hreach : q.Reaches s.store s.pool now d := QueryRequest.decide_ok_iff.mp (by rw [hd])
    refine Or.inr ⟨d, hreach, ?_⟩
    cases hc : d.cached with
    | none => exact Or.inr ⟨rfl, request_eq_enqueue hd hc id⟩
    | some result =>
      refine Or.inl ⟨result, rfl, ?_⟩
      unfold request
      rw [hd]
      simp only [hc]

/-- A request that cannot be decided fails with just that error. -/
theorem request_of_decide_error (h : (q.decide s.store s.pool now).1 = .error e) (id : JobId) :
    (s.request q id now).1 = .error e := by
  unfold request
  rcases hd : q.decide s.store s.pool now with ⟨decision, pool⟩
  rw [hd] at h
  obtain rfl : decision = .error e := h
  rfl

/-- Otherwise it fails only when no job is taken any more. -/
theorem decide_error_of_request (h : (s.request q id now).1 = .error e) (hopen : e ≠ .closed) :
    (q.decide s.store s.pool now).1 = .error e := by
  rcases request_cases s q id now with ⟨e', hd, he⟩ | ⟨d, -, ⟨result, -, he⟩ | ⟨-, he⟩⟩
  · rw [he] at h
    rw [hd, Except.error.inj h]
  · rw [he] at h
    cases h
  · rw [he] at h
    exact absurd (enqueue_error h) hopen

/-! ### Records -/

/-- The decision `d` of a request is recorded, and the record agrees with the answer `a` and with
    all that comes of it. -/
structure Recorded (s t : Service) (q : QueryRequest) (id : JobId) (now : Instant) (a : Answer)
    (d : Decision) : Prop where
  events_eq : t.events = s.events ++ [ExecutionEvent.of q d]
  hit_iff : (ExecutionEvent.of q d).hit = true ↔ ∃ result, a = .ok (.cached result)
  /-- The store was asked for the text of the record, and what it had is the answer. -/
  asked : ∃ found, s.store.fresh (ExecutionEvent.of q d).source (ExecutionEvent.of q d).text q.age
    now = .ok found ∧ ∀ result, a = .ok (.cached result) ↔ found = some result
  /-- The job that is joined has another text only if the two keys collide. -/
  job_isFor : ∀ job, a = .ok (.queued job) →
    (job.id = id ∨ Sha256.Separates (Fingerprint.key job.source.value job.text)
      (Fingerprint.key (ExecutionEvent.of q d).source.value (ExecutionEvent.of q d).text)) →
    job.IsFor (ExecutionEvent.of q d).source (ExecutionEvent.of q d).text
  /-- A call that waits comes back later, with a job for the text or because no job is taken any
      more. Nothing more is recorded then. -/
  waiting : ∀ i, a = .ok (.waits i) → ∀ rest v later answer u, Run t rest v →
    v.step? (.proceed i later) = some (answer, u) →
    u = { v with board := u.board } ∧
      (answer = .error .closed ∨ ∃ job, answer = .ok (.queued job) ∧ job.id = id ∧
        job.IsFor (ExecutionEvent.of q d).source (ExecutionEvent.of q d).text)

theorem recorded_of_cached {result : StoredResult}
    (hreach : q.Reaches s.store s.pool now d) (hc : d.cached = some result)
    (he : t.events = s.events ++ [ExecutionEvent.of q d]) :
    Recorded s t q id now (.ok (.cached result)) d where
  events_eq := he
  hit_iff := by simp [ExecutionEvent.of, hc]
  asked := ⟨d.cached, hreach.answered, by simp [hc]⟩
  job_isFor := by simp
  waiting := by simp

theorem recorded_of_call {pool : RunnerPool} (hs : s.board.Sound) (hn : s.board.find? id = none)
    (hreach : q.Reaches s.store s.pool now d) (hc : d.cached = none) :
    let asked := { s with pool, events := s.events ++ [ExecutionEvent.of q d] }
    Recorded s (asked.enqueue (q.call d) id now).2 q id now
      (asked.enqueue (q.call d) id now).1 d := by
  intro asked
  have hno : ∀ result, (asked.enqueue (q.call d) id now).1 ≠ .ok (.cached result) :=
    fun result => enqueue_ne_cached (q.call d) result
  have hsound : asked.board.Sound := hs
  have hnew : asked.board.find? id = none := hn
  refine ⟨rfl, ?_, ⟨d.cached, hreach.answered, ?_⟩, ?_, ?_⟩
  · simp [ExecutionEvent.of, hc, hno]
  · simp [hc, hno]
  · intro job hjob hsha
    exact isFor_of_enqueue hsound hnew hjob hsha
  · intro i hwaits rest v later answer u hrest hp
    exact proceed_of_enqueue hsound hnew hwaits hrest hp

/-- In every state that a run reaches a request is recorded once if it reaches its decision, and the
    record agrees with the answer; otherwise it is not recorded. If it fails for another reason than
    that no job is taken any more, or is answered from the store, everything else is as before. The
    pool has gained the runner of its data source at most. -/
theorem request_recorded {config : Config} {store : Store} {registry : Registry}
    (hstart : Service.start config store registry = .ok s₀) (hrun : Run s₀ trace s)
    (hf : Fresh s (.request q id now)) :
    ∃ a t, s.step? (.request q id now) = some (a, t) ∧
      (∀ d, q.Reaches s.store s.pool now d → Recorded s t q id now a d) ∧
      ((∀ d, ¬ q.Reaches s.store s.pool now d) → t.events = s.events) ∧
      (∀ e, a = .error e → e ≠ .closed → t = { s with pool := t.pool }) ∧
      (∀ result, a = .ok (.cached result) →
        t = { s with pool := t.pool, events := t.events }) ∧
      (t.pool = s.pool ∨
        ∃ source held, q.source = some source ∧ s.pool.get source = .ok (held, t.pool)) := by
  have hs : s.board.Sound := hrun.sound (start_sound hstart)
  have hn : s.board.find? id = none := hf.1 id rfl
  have hpool := q.prepare_pool s.store s.pool
  refine ⟨(s.request q id now).1, (s.request q id now).2, rfl, ?_⟩
  rcases request_cases s q id now with ⟨e, hd, he⟩ | ⟨d, hreach, ⟨result, hc, he⟩ | ⟨hc, he⟩⟩
  · rw [he]
    refine ⟨?_, fun _ => rfl, fun _ _ _ => rfl, by simp, hpool⟩
    intro d hreach
    rw [QueryRequest.decide_ok_iff.mpr hreach] at hd
    cases hd
  · rw [he]
    refine ⟨?_, ?_, by simp, fun _ _ => rfl, hpool⟩
    · intro d' hreach'
      obtain rfl := hreach.unique hreach'
      exact recorded_of_cached hreach hc rfl
    · intro hno
      exact absurd hreach (hno d)
  · rw [he]
    refine ⟨?_, ?_, ?_, ?_, hpool⟩
    · intro d' hreach'
      obtain rfl := hreach.unique hreach'
      exact recorded_of_call hs hn hreach hc
    · intro hno
      exact absurd hreach (hno d)
    · intro e hfail hopen
      exact absurd (enqueue_error hfail) hopen
    · intro result hcached
      exact absurd hcached (enqueue_ne_cached _ result)

theorem patient_reaches :
    patientRequest.Reaches dailyStore (RunnerPool.of idleRegistry) .epoch
      ⟨someRequest.source, someRequest.text, none⟩ :=
  QueryRequest.decide_ok_iff.mp (by rw [patient_decide])

/-- The first request of all brings a job, and its record says so. -/
theorem request_recorded_of_patient :
    ∃ a t, (small dailyStore idleRegistry).step? (.request patientRequest (jobId 1) .epoch) =
        some (a, t) ∧
      t.events =
        [ExecutionEvent.of patientRequest ⟨someRequest.source, someRequest.text, none⟩] ∧
      ∀ job, a = .ok (.queued job) → job.id = jobId 1 →
        job.IsFor someRequest.source.id someRequest.text := by
  have hf : Fresh (small dailyStore idleRegistry) (.request patientRequest (jobId 1) .epoch) :=
    Fresh.of_job rfl rfl rfl
  obtain ⟨a, t, hstep, hreached, -⟩ := request_recorded (small_start _ _) Run.start hf
  have hrecorded := hreached _ patient_reaches
  exact ⟨a, t, hstep, hrecorded.events_eq,
    fun job hjob hid => hrecorded.job_isFor job hjob (Or.inl hid)⟩

end Service

end QueryDispatch
