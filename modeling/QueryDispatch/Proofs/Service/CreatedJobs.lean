import QueryDispatch.Proofs.Data.Chains
import QueryDispatch.Proofs.Service.Enabled

/-! # The jobs that were created

  A call creates a job unless it joins one: it comes back with a job of its
  own, it waits with that job, or it is refused and leaves the job cancelled.
  So the answers of a run tell which jobs it created. No job is lost, and an
  identifier is used once, so these are the jobs on the board, each named one
  time.
-/

namespace QueryDispatch

/-! ### Refusals of requests -/

/-- Whether an error is about a request itself, and not about the board. -/
def DispatchError.isRefusal : DispatchError → Bool
  | .closed | .noSuchJob _ => false
  | _ => true

namespace QueryRequest

variable {q : QueryRequest} {store : Store} {pool : RunnerPool} {now : Instant}
  {e : DispatchError}

theorem bindFor_error (h : q.bindFor store = .error e) : e.isRefusal = true := by
  unfold bindFor at h
  rcases bind_eq_error h with hsource | ⟨source, -, h⟩
  · -- there is no data source, or it is paused
    unfold available at hsource
    split at hsource
    · obtain rfl := Except.error.inj hsource
      rfl
    · split at hsource
      · obtain rfl := Except.error.inj hsource
        rfl
      · cases hsource
  · split at h
    · obtain rfl := Except.error.inj h
      rfl
    · rcases bind_eq_error h with hbind | ⟨query, -, h⟩
      · obtain ⟨d, rfl⟩ := mapError_eq_error hbind
        rfl
      · cases h

theorem decideText_error {source : DataSource} {query : ParameterizedQuery} {runner : Runner}
    (h : q.decideText store now source query runner = .error e) : e.isRefusal = true := by
  unfold decideText at h
  simp only at h
  split at h
  · obtain rfl := Except.error.inj h
    rfl
  · rcases bind_eq_error h with hfresh | ⟨cached, -, h⟩
    · obtain ⟨d, rfl⟩ := mapError_eq_error hfresh
      rfl
    · cases h

/-- What a request fails with before anything is done is about the request itself. -/
theorem decide_error (h : (q.decide store pool now).1 = .error e) : e.isRefusal = true := by
  unfold decide at h
  split at h
  · next e' hbind =>
    obtain rfl := Except.error.inj h
    exact bindFor_error hbind
  · split at h
    · obtain rfl := Except.error.inj h
      rfl
    · exact decideText_error h

/-- The call for a job that a request goes on with. -/
def call (q : QueryRequest) (d : Decision) : JobRequest :=
  ((JobRequest.of d.source d.text).withUser q.user).withQuery q.saved

end QueryRequest

namespace Service

variable {s₀ s t : Service} {l : Label} {a : Answer} {id : JobId} {now : Instant}
  {trace later : List (Label × Answer)}

/-! ### Answers to calls -/

/-- A call that fails leaves its job on the board. -/
theorem Change.find?_of_failed_call {b b' : JobBoard} {store kept : Store} {r : JobRequest}
    {e : DispatchError} (hc : Change b store (.enqueue r id now) (.error e) b' kept) :
    b'.find? id ≠ none := by
  cases hc with
  | refused hl =>
    cases hl
    rw [JobBoard.find?_close, if_pos rfl]
    simp

/-- A request that leaves the board as it was is not answered with an error of the board. -/
theorem request_isRefusal {q : QueryRequest} {e : DispatchError} (h : s.board.Sound)
    (hn : s.board.find? id = none) (ha : (s.request q id now).1 = .error e)
    (hb : (s.request q id now).2.board = s.board) : e.isRefusal = true := by
  unfold request at ha hb
  rcases hd : q.decide s.store s.pool now with ⟨decision, pool⟩
  rw [hd] at ha hb
  cases decision with
  | error e' =>
    obtain rfl := Except.error.inj ha
    exact QueryRequest.decide_error (by rw [hd])
  | ok d =>
    cases hc : d.cached with
    | some result =>
      simp only [hc] at ha
      cases ha
    | none =>
      simp only [hc] at ha hb
      -- the call failed, so its job would be on the board
      have hchange := enqueue_change h (Label.Brings.enqueue (q.call d) id now) hn s.store
      have ha' : answerCall id (s.board.enqueue id (q.call d) now).1 = .error e := ha
      have hb' : (s.board.enqueue id (q.call d) now).2 = s.board := hb
      rw [ha', hb'] at hchange
      exact absurd hn hchange.find?_of_failed_call

/-- So it is with a step that is such a request. -/
theorem step_isRefusal (h : s.board.Sound) (hf : Fresh s l) (hs : s.step? l = some (a, t)) :
    ∀ q id now e, l = .request q id now → t.board = s.board → a = .error e →
      e.isRefusal = true := by
  rintro q new now e rfl hb rfl
  obtain ⟨ha, rfl⟩ : (s.request q new now).1 = .error e ∧ (s.request q new now).2 = t := by
    simpa [step?, Prod.ext_iff] using hs
  exact request_isRefusal h (hf.1 new rfl) ha hb

/-! ### What a step creates -/

/-- The job that a step created, as its answer tells. -/
def createdBy? : Label × Answer → Option JobId
  | (l, .ok (.queued job)) => l.newJob?.filter fun id => id = job.id
  | (l, .ok (.waits _)) => l.newJob?
  | (l, .error .closed) => l.newJob?
  | _ => none

/-- The jobs that the steps of a trace created, last first. -/
def createdIn (trace : List (Label × Answer)) : List JobId := trace.filterMap createdBy?

/-- A step that is no call creates nothing. -/
theorem createdBy?_eq_none (hl : l.newJob? = none) (a : Answer) : createdBy? (l, a) = none := by
  unfold createdBy?
  split <;> simp_all

/-- What a step creates was not on the board. -/
theorem newJob?_of_createdBy? (h : createdBy? (l, a) = some id) : l.newJob? = some id := by
  unfold createdBy? at h
  split at h
  · next heq =>
    obtain ⟨rfl, -⟩ := Prod.mk.injEq .. ▸ heq
    exact (Option.filter_eq_some_iff.mp h).1
  · next heq =>
    obtain ⟨rfl, -⟩ := Prod.mk.injEq .. ▸ heq
    exact h
  · next heq =>
    obtain ⟨rfl, -⟩ := Prod.mk.injEq .. ▸ heq
    exact h
  · cases h

/-- An answer that shows no job of one's own and no closed queue tells of no new job. -/
theorem createdBy?_of_answered (hq : ∀ job, a ≠ .ok (.queued job)) (hw : ∀ id, a ≠ .ok (.waits id))
    (hc : a ≠ .error .closed) : createdBy? (l, a) = none := by
  unfold createdBy?
  split <;> simp_all

/-- A step that registers a job adds that job to the board. -/
theorem isSome_of_register {b b' : JobBoard} {new : JobId} (first : Job)
    (hfind : ∀ i, b'.find? i = if i = new then some first else b.find? i) (id : JobId) :
    (b'.find? id).isSome = true ↔ some new = some id ∨ (b.find? id).isSome = true := by
  rw [hfind]
  by_cases hi : id = new
  · simp [hi]
  · simp [hi, Ne.symm hi]

/-- No job is lost in a step. -/
theorem Change.isSome_find? {b b' : JobBoard} {store kept : Store}
    (hc : Change b store l a b' kept) (h : b.Sound)
    (hn : ∀ id, l.newJob? = some id → b.find? id = none) (hid : (b.find? id).isSome = true) :
    (b'.find? id).isSome = true := by
  obtain ⟨job, hj⟩ := Option.isSome_iff_exists.mp hid
  obtain ⟨later, hlater, -⟩ := hc.job_step h hn hj
  rw [hlater]
  rfl

theorem Change.created {b b' : JobBoard} {store kept : Store} (hc : Change b store l a b' kept)
    (h : b.Sound) (hn : ∀ id, l.newJob? = some id → b.find? id = none)
    (hr : ∀ q id now e, l = .request q id now → b' = b → a = .error e → e.isRefusal = true)
    (id : JobId) :
    (b'.find? id).isSome = true ↔
      createdBy? (l, a) = some id ∨ (b.find? id).isSome = true := by
  cases hl : l.newJob? with
  | none =>
    -- no job comes to the board
    rw [createdBy?_eq_none hl]
    simp only [reduceCtorEq, false_or]
    constructor
    · intro hsome
      obtain ⟨job, hj⟩ := Option.isSome_iff_exists.mp hsome
      cases hb : b.find? id with
      | some before => rfl
      | none =>
        obtain ⟨r, now, hbrings, -⟩ := hc.new_job h hb hj
        rw [hbrings.newJob?_eq] at hl
        cases hl
    · exact hc.isSome_find? h hn
  | some new =>
    -- a call: it is answered without a job, or joins one, or registers one
    cases hc with
    | answered hq hw =>
      have hopen : a ≠ .error .closed := by
        intro ha
        exact absurd (hr _ _ _ _ rfl rfl ha) (by simp [DispatchError.isRefusal])
      rw [createdBy?_of_answered hq hw hopen]
      simp
    | @joined _ new' r now job hbrings hj =>
      obtain ⟨known, hactive, -⟩ := h.live?_eq_some_iff.mp hj
      have hfind := JobBoard.find?_of_active hactive
      have hid : job.id = known := (h.intact hfind).id_eq
      -- the job that is joined was there, and the identifier of the call was not
      have hne : new' ≠ job.id := by
        rintro rfl
        rw [← hid, hn _ hbrings.newJob?_eq] at hfind
        cases hfind
      have hnone : createdBy? (l, .ok (.queued job)) = none := by
        simp [createdBy?, hbrings.newJob?_eq, hne]
      rw [hnone]
      simp
    | @refused _ new' r now hbrings =>
      have hsome : createdBy? (l, .error .closed) = some new' := by
        simp [createdBy?, hbrings.newJob?_eq]
      rw [hsome]
      exact isSome_of_register ((r.newJob new' now).moved .cancelled now)
        (fun i => b.find?_register_close new' i r now _ _) id
    | @sent _ new' r now hbrings =>
      have hsome : createdBy? (l, .ok (.queued (r.newJob new' now))) = some new' := by
        simp [createdBy?, hbrings.newJob?_eq]
      rw [hsome]
      exact isSome_of_register (r.newJob new' now) (fun i => b.find?_register new' i r now) id
    | @held _ new' r now hbrings =>
      have hsome : createdBy? (l, .ok (.waits new')) = some new' := by
        simp [createdBy?, hbrings.newJob?_eq]
      rw [hsome]
      exact isSome_of_register (r.newJob new' now) (fun i => b.find?_register new' i r now) id
    | _ => cases hl

/-- The jobs on the board after a step are those of before and the one that it created. -/
theorem step_created (h : s.board.Sound) (hf : Fresh s l) (hs : s.step? l = some (a, t))
    (id : JobId) :
    (t.board.find? id).isSome = true ↔
      createdBy? (l, a) = some id ∨ (s.board.find? id).isSome = true :=
  (step_change h hf hs).created h hf.1 (step_isRefusal h hf hs) id

/-! ### What a run creates -/

theorem createdIn_cons (e : Label × Answer) (trace : List (Label × Answer)) :
    createdIn (e :: trace) = (createdBy? e).toList ++ createdIn trace := by
  unfold createdIn
  rw [List.filterMap_cons]
  cases createdBy? e <;> rfl

/-- The jobs on the board are those that the run created. -/
theorem Run.mem_createdIn (hr : Run s₀ trace s) (h₀ : s₀.board.Sound)
    (hempty : ∀ id, s₀.board.find? id = none) (id : JobId) :
    id ∈ createdIn trace ↔ (s.board.find? id).isSome = true := by
  induction hr with
  | start => simp [createdIn, hempty]
  | step hr hf hs ih =>
    rw [createdIn_cons, List.mem_append, step_created (hr.sound h₀) hf hs, ih]
    simp

/-- Each of them is created once. -/
theorem Run.nodup_createdIn (hr : Run s₀ trace s) (h₀ : s₀.board.Sound)
    (hempty : ∀ id, s₀.board.find? id = none) : (createdIn trace).Nodup := by
  induction hr with
  | start => exact List.nodup_nil
  | @step trace s t l a hr hf hs ih =>
    rw [createdIn_cons]
    cases hnew : createdBy? (l, a) with
    | none => exact ih
    | some id =>
      -- the identifier of a new job is not on the board, so the run has not created it before
      refine List.nodup_cons.mpr ⟨?_, ih⟩
      intro hmem
      have hsome := (hr.mem_createdIn h₀ hempty id).mp hmem
      rw [hf.1 id (newJob?_of_createdBy? hnew)] at hsome
      cases hsome

/-- The job of a state that the run created. -/
theorem Run.find?_of_created (hr : Run s₀ trace s) (h₀ : s₀.board.Sound)
    (hempty : ∀ id, s₀.board.find? id = none) (hid : id ∈ createdIn trace) :
    ∃ job, s.board.find? id = some job :=
  Option.isSome_iff_exists.mp ((hr.mem_createdIn h₀ hempty id).mp hid)

/-- One run after another. -/
theorem Run.trans (hr : Run s₀ trace s) (hlater : Run s later t) : Run s₀ (later ++ trace) t := by
  induction hlater with
  | start => exact hr
  | step _ hf hs ih => exact ih.step hf hs

end Service

end QueryDispatch
