import QueryDispatch.Proofs.Service.Storing

/-! # Results and jobs

  Every succeeded job has one result in the store, and no other job has any.
  To say so the results are counted along a run: what a step at the end of a
  run adds to the store is counted for the job of that run, whatever the job
  has become by then.
-/

namespace QueryDispatch

namespace Service

variable {s₀ s t : Service} {b b' : JobBoard} {store kept : Store} {l : Label} {a : Answer}
  {id : JobId} {job : Job} {r : StoredResult} {trace : List (Label × Answer)}

/-! ### Counting results -/

/-- The state after the steps of a trace. -/
def replay? (s₀ : Service) : List (Label × Answer) → Option Service
  | [] => some s₀
  | (l, _) :: trace => (replay? s₀ trace).bind fun s => (s.step? l).map (·.2)

/-- The results of a store that an earlier one does not have. -/
def addedResults (earlier later : Store) : List StoredResult :=
  Assoc.values (later.records.results.filter fun e => (earlier.records.result? e.1).isNone)

/-- What a step stores for a job: the results that the end of its run adds. -/
def storedBy (id : JobId) (l : Label) (earlier later : Store) : List StoredResult :=
  match l with
  | .finish job _ => if job = id then addedResults earlier later else []
  | _ => []

/-- What the steps of a trace store for a job, last first. -/
def storedFor (s₀ : Service) (id : JobId) : List (Label × Answer) → List StoredResult
  | [] => []
  | (l, a) :: trace =>
    match replay? s₀ trace, replay? s₀ ((l, a) :: trace) with
    | some s, some t => storedBy id l s.store t.store ++ storedFor s₀ id trace
    | _, _ => storedFor s₀ id trace

/-- Replaying a run leads to its state. -/
theorem Run.replay?_eq (hr : Run s₀ trace s) : replay? s₀ trace = some s := by
  induction hr with
  | start => rfl
  | step hr hf hs ih =>
    unfold replay?
    rw [ih, Option.bind_some, hs]
    rfl

theorem storedFor_cons (hr : Run s₀ trace s) (hf : Fresh s l) (hs : s.step? l = some (a, t))
    (id : JobId) :
    storedFor s₀ id ((l, a) :: trace) =
      storedBy id l s.store t.store ++ storedFor s₀ id trace := by
  have ht : replay? s₀ ((l, a) :: trace) = some t := (hr.step hf hs).replay?_eq
  rw [storedFor]
  simp only [hr.replay?_eq, ht]

theorem addedResults_self (store : Store) : addedResults store store = [] := by
  -- every result of the store is one that it has
  have hnone : store.records.results.filter
      (fun e => (store.records.result? e.1).isNone) = [] := by
    rw [List.filter_eq_nil_iff]
    intro e he
    have hkey : e.1 ∈ store.records.results.keys := List.mem_map.mpr ⟨e, he, rfl⟩
    have hsome := Option.isSome_iff_ne_none.mp (Assoc.mem_keys_iff.mp hkey)
    simpa [Records.result?] using hsome
  unfold addedResults
  rw [hnone]
  rfl

theorem storedBy_self (id : JobId) (l : Label) (store : Store) :
    storedBy id l store store = [] := by
  unfold storedBy
  cases l with
  | finish job c =>
    show (if job = id then addedResults store store else []) = []
    rw [addedResults_self, ite_self]
  | _ => rfl

/-- A result with a new identifier is the one that is added. -/
theorem addedResults_put (hn : store.records.result? r.id = none)
    (hk : kept.records.results = store.records.results.put r.id r) :
    addedResults store kept = [r] := by
  have hself := addedResults_self store
  unfold addedResults at hself ⊢
  have hnew : (store.records.results.find? r.id) = none := hn
  rw [hk, Assoc.put_of_find?_eq_none hnew, List.filter_append]
  unfold Assoc.values at hself ⊢
  rw [List.map_append, hself]
  simp [hn]

namespace Stores

theorem results_eq (h : Stores b store l b' kept id job r) :
    kept.records.results = store.records.results.put r.id r := by
  obtain ⟨request, -, hk⟩ := h.kept_eq
  rw [hk, JobBoard.pointTo_results]
  rfl

theorem result?_eq (h : Stores b store l b' kept id job r) (i : ResultId) :
    kept.records.result? i = if i = r.id then some r else store.records.result? i := by
  show kept.records.results.find? i = _
  rw [h.results_eq]
  exact Assoc.find?_put store.records.results r.id i r

theorem storedBy_eq (h : Stores b store l b' kept id job r)
    (hn : store.records.result? r.id = none) (other : JobId) :
    storedBy other l store kept = if id = other then [r] else [] := by
  obtain ⟨c, rfl, -⟩ := h.label_eq
  show (if id = other then addedResults store kept else []) = if id = other then [r] else []
  rw [addedResults_put hn h.results_eq]

/-- A job that had succeeded before is another one. -/
theorem ne_of_succeeded (h : Stores b store l b' kept id job r) {owner : JobId} {before : Job}
    (hb : b.find? owner = some before) (hs : before.status = .succeeded) : owner ≠ id := by
  rintro rfl
  obtain rfl : job = before := JobBoard.find?_unique h.job_eq hb
  rw [h.running] at hs
  exact absurd hs (by simp)

end Stores

/-! ### The books of a run -/

/-- The store has `r` as the result of the job. -/
structure ResultOf (store : Store) (job : Job) (r : StoredResult) : Prop where
  result_eq : job.result = some r.id
  source_eq : r.source = job.source
  text_eq : r.text = job.text
  fingerprint_eq : r.fingerprint = job.fingerprint
  stored : store.records.result? r.id = some r

/-- The result stays when another one is added. -/
theorem ResultOf.stores {other : Job} {r' : StoredResult} (hof : ResultOf store other r')
    (h : Stores b store l b' kept id job r) (hn : store.records.result? r.id = none) :
    ResultOf kept other r' := by
  refine ⟨hof.result_eq, hof.source_eq, hof.text_eq, hof.fingerprint_eq, ?_⟩
  have hne : r'.id ≠ r.id := by
    intro hid
    have hold := hof.stored
    rw [hid, hn] at hold
    exact absurd hold (by simp)
  rw [h.result?_eq, if_neg hne]
  exact hof.stored

/-- The results along a run belong to the jobs that have succeeded. -/
structure Accounted (s₀ : Service) (trace : List (Label × Answer)) (s : Service) : Prop where
  one : ∀ {id : JobId} {job : Job}, s.board.find? id = some job → job.status = .succeeded →
    ∃ r, storedFor s₀ id trace = [r] ∧ ResultOf s.store job r
  nothing : ∀ {id : JobId}, (∀ job, s.board.find? id = some job → job.status ≠ .succeeded) →
    storedFor s₀ id trace = []
  known : ∀ {id : ResultId} {r : StoredResult}, s.store.records.result? id = some r →
    s₀.store.records.result? id = some r ∨
      ∃ job owner, s.board.find? owner = some job ∧ job.status = .succeeded ∧
        job.result = some id

/-- Nothing was stored, and no job succeeded. -/
theorem Accounted.quiet (h : Accounted s₀ trace s) (hr : Run s₀ trace s) (hf : Fresh s l)
    (hs : s.step? l = some (a, t)) (hk : t.store = s.store)
    (hsame : SameSucceeded s.board t.board) : Accounted s₀ ((l, a) :: trace) t := by
  have hcount : ∀ id, storedFor s₀ id ((l, a) :: trace) = storedFor s₀ id trace := by
    intro id
    rw [storedFor_cons hr hf hs, hk, storedBy_self]
    rfl
  refine ⟨?_, ?_, ?_⟩
  · intro id job hj hdone
    rw [hcount, hk]
    exact h.one ((hsame id job hdone).mp hj) hdone
  · intro id hno
    rw [hcount]
    refine h.nothing ?_
    intro job hj hdone
    exact hno job ((hsame id job hdone).mpr hj) hdone
  · intro id r hres
    rw [hk] at hres
    rcases h.known hres with hold | ⟨job, owner, hj, hdone, hid⟩
    · exact Or.inl hold
    · exact Or.inr ⟨job, owner, (hsame owner job hdone).mpr hj, hdone, hid⟩

/-- One result was stored, and its job succeeded. -/
theorem Accounted.stores (h : Accounted s₀ trace s) (hr : Run s₀ trace s) (hf : Fresh s l)
    (hs : s.step? l = some (a, t)) (hst : Stores s.board s.store l t.board t.store id job r) :
    Accounted s₀ ((l, a) :: trace) t := by
  have hnew : s.store.records.result? r.id = none := hst.result_new hf
  have hcount : ∀ other, storedFor s₀ other ((l, a) :: trace) =
      (if id = other then [r] else []) ++ storedFor s₀ other trace := by
    intro other
    rw [storedFor_cons hr hf hs, hst.storedBy_eq hnew]
  -- the job had not succeeded before, so nothing was counted for it
  have hbefore : storedFor s₀ id trace = [] :=
    h.nothing fun before hb hdone => hst.ne_of_succeeded hb hdone rfl
  obtain ⟨now, hlast⟩ := hst.last_eq
  refine ⟨?_, ?_, ?_⟩
  · intro other later hj hdone
    rw [hcount]
    by_cases he : id = other
    · -- the job that succeeds now: its one result is the new one
      subst he
      obtain rfl : job.succeeded r.id now = later := JobBoard.find?_unique hlast hj
      refine ⟨r, ?_, ⟨rfl, hst.source_eq, hst.text_eq, hst.fingerprint_eq, ?_⟩⟩
      · rw [if_pos rfl, hbefore]
        rfl
      · rw [hst.result?_eq, if_pos rfl]
    · rw [hst.others other (Ne.symm he)] at hj
      obtain ⟨r', hone, hof⟩ := h.one hj hdone
      refine ⟨r', ?_, hof.stores hst hnew⟩
      rw [if_neg he, hone]
      rfl
  · intro other hno
    rw [hcount]
    by_cases he : id = other
    · subst he
      exact absurd rfl (hno _ hlast)
    · rw [if_neg he]
      refine h.nothing ?_
      intro before hb
      exact hno before ((hst.others other (Ne.symm he)).trans hb)
  · intro i r' hi
    rw [hst.result?_eq] at hi
    by_cases he : i = r.id
    · exact Or.inr ⟨_, id, hlast, rfl, by rw [he]; rfl⟩
    · rw [if_neg he] at hi
      rcases h.known hi with hold | ⟨before, owner, hj, hdone, hid⟩
      · exact Or.inl hold
      · have hne : owner ≠ id := hst.ne_of_succeeded hj hdone
        exact Or.inr ⟨before, owner, (hst.others owner hne).trans hj, hdone, hid⟩

theorem Accounted.start (hj : ∀ id, s₀.board.find? id = none) : Accounted s₀ [] s₀ where
  one hfind := by
    rw [hj] at hfind
    exact absurd hfind (by simp)
  nothing _ := rfl
  known hres := Or.inl hres

/-- The books are right all along a run. -/
theorem Run.accounted (hr : Run s₀ trace s) (h₀ : s₀.board.Sound)
    (hj : ∀ id, s₀.board.find? id = none) : Accounted s₀ trace s := by
  induction hr with
  | start => exact Accounted.start hj
  | step hr hf hs ih =>
    have h := hr.sound h₀
    -- each step is quiet or stores one result, and the books allow for both
    rcases (step_change h hf hs).quiet_or_stores h hf.1 with ⟨hk, hsame⟩ | ⟨id, job, r, hst⟩
    · exact ih.quiet hr hf hs hk hsame
    · exact ih.stores hr hf hs hst

/-- The result of a job that has succeeded is in the store. -/
theorem Accounted.result? {result : ResultId} (h : Accounted s₀ trace s)
    (hj : s.board.find? id = some job) (hs : job.status = .succeeded)
    (hi : job.result = some result) :
    ∃ r, s.store.records.result? result = some r ∧ r.id = result ∧ r.source = job.source ∧
      r.text = job.text := by
  obtain ⟨r, -, hof⟩ := h.one hj hs
  obtain rfl : r.id = result := by
    rw [hof.result_eq] at hi
    exact Option.some.inj hi
  exact ⟨r, hof.stored, rfl, hof.source_eq, hof.text_eq⟩

/-- In every state that a run reaches a job has a result exactly when it succeeded and an error
    exactly when it failed. For each succeeded job one result was stored along the run, the one
    that the job names; for other jobs none was, whatever their runners delivered. Nothing else
    came to the store. -/
theorem one_result_for_each_success {config : Config} {registry : Registry}
    (hstart : Service.start config store registry = .ok s₀) (hrun : Run s₀ trace s) :
    (∀ (id : JobId) (job : Job), s.board.find? id = some job →
      (job.status = .succeeded ↔ job.result.isSome = true) ∧
      (job.status = .failed ↔ job.error.isSome = true) ∧
      (job.status = .succeeded →
        ∃ r, storedFor s₀ id trace = [r] ∧ ResultOf s.store job r) ∧
      (job.status ≠ .succeeded → storedFor s₀ id trace = [])) ∧
    ∀ (id : ResultId) (r : StoredResult), s.store.records.result? id = some r →
      store.records.result? id = some r ∨
        ∃ job owner, s.board.find? owner = some job ∧ job.status = .succeeded ∧
          job.result = some id := by
  obtain ⟨-, hstore⟩ := start_eq hstart
  have h : s.board.Sound := hrun.sound (start_sound hstart)
  have hbooks := hrun.accounted (start_sound hstart) (start_find? hstart)
  constructor
  · intro id job hj
    have hi := h.intact hj
    refine ⟨hi.succeeded_iff, hi.failed_iff, hbooks.one hj, ?_⟩
    intro hs
    refine hbooks.nothing ?_
    intro other ho
    obtain rfl : job = other := JobBoard.find?_unique hj ho
    exact hs
  · intro id r hr
    have hknown := hbooks.known hr
    rwa [hstore] at hknown

/-- One job that ran to its end, and the result that it names. -/
theorem one_result_for_some_success :
    ∃ trace s r, Run (small Store.empty Registry.empty) trace s ∧
      storedFor (small Store.empty Registry.empty) (jobId 1) trace = [r] ∧
      r.id = noRows.result ∧ s.store.records.result? r.id = some r := by
  have h₀ := small_sound Store.empty Registry.empty
  have hr₁ := small_enqueue Store.empty Registry.empty someRequest (jobId 1) .epoch
  have hj₁ := smallQueued_active Store.empty Registry.empty someRequest (jobId 1) .epoch
  obtain ⟨s, hrun, hj, -⟩ := hr₁.complete h₀ rfl rfl rfl hj₁ rfl rfl rfl rfl .epoch (c := noRows)
  obtain ⟨-, -, hone, -⟩ := (one_result_for_each_success (small_start _ _) hrun).1 _ _ hj
  obtain ⟨r, hr, hof⟩ := hone rfl
  have hid : some noRows.result = some r.id := hof.result_eq
  exact ⟨_, s, r, hrun, hr, (Option.some.inj hid).symm, hof.stored⟩

end Service

end QueryDispatch
