import QueryDispatch.Proofs.Service.Answers
import QueryDispatch.Proofs.Service.SingleFlight
import QueryDispatch.Proofs.Service.StoredResults

/-! # Latest results of saved queries

  A saved query points to its latest result. The pointer moves when a job that
  carries the query succeeds, and at no other time. A job carries the query of
  the request that created it; a request that joins a job leaves no trace
  there, so its query is not pointed to the result unless the job carries it.
-/

namespace QueryDispatch

namespace Service

variable {s₀ s t : Service} {b b' : JobBoard} {store kept : Store} {l : Label} {a : Answer}
  {id new : JobId} {job : Job} {r : StoredResult} {query : QueryId}
  {trace : List (Label × Answer)}

/-- In the store one result comes after another. -/
def StoredAfter (store : Store) (later earlier : ResultId) : Prop :=
  [earlier, later].Sublist store.records.results.keys

/-! ### What a storing step does to the store -/

theorem available_congr (h : kept.outages = store.outages) (call : StoreCall) :
    kept.available call = store.available call := by
  unfold Store.available
  rw [h]

namespace Stores

theorem outages_eq (h : Stores b store l b' kept id job r) : kept.outages = store.outages := by
  obtain ⟨request, -, hk⟩ := h.kept_eq
  rw [hk, JobBoard.pointTo_outages]

/-- The result comes after all others. -/
theorem keys_eq (h : Stores b store l b' kept id job r)
    (hn : store.records.result? r.id = none) :
    kept.records.results.keys = store.records.results.keys ++ [r.id] := by
  have hnew : store.records.results.find? r.id = none := hn
  rw [h.results_eq, Assoc.put_of_find?_eq_none hnew]
  exact List.map_append

/-- The saved query that the job carries is pointed to the result. -/
theorem query?_of_carried (h : Stores b store l b' kept id job r)
    (ha : store.available .update = .ok ()) (hm : job.metadata.query = some query)
    {saved : SavedQuery} (hq : store.records.query? query = some saved) :
    kept.records.query? query = some { saved with latestResult := some r.id } := by
  obtain ⟨request, hmeta, hk⟩ := h.kept_eq
  have hcarried : request.metadata.query = some query := by
    rw [hmeta]
    exact hm
  have ha' : ({ store with records := store.records.insert r } : Store).available .update =
      .ok () := ha
  rw [hk]
  exact JobBoard.query?_pointTo ha' hcarried hq r.id

/-- The other ones are not. -/
theorem query?_of_not_carried (h : Stores b store l b' kept id job r)
    (hm : job.metadata.query ≠ some query) :
    kept.records.query? query = store.records.query? query := by
  obtain ⟨request, hmeta, hk⟩ := h.kept_eq
  have hcarried : request.metadata.query ≠ some query := by
    rw [hmeta]
    exact hm
  rw [hk, JobBoard.query?_pointTo_of_ne hcarried]
  rfl

end Stores

/-! ### The pointer along a run -/

/-- Where the saved query points: to the start, or to a result that is as late as that of any job
    that carries the query. -/
structure Pointed (s₀ : Service) (query : QueryId) (s : Service) : Prop where
  available : s.store.available .update = .ok ()
  known : ∃ saved, s.store.records.query? query = some saved
  latest : ∀ {id : JobId} {job : Job} {r : ResultId}, s.board.find? id = some job →
    job.status = .succeeded → job.metadata.query = some query → job.result = some r →
    ∃ saved latest, s.store.records.query? query = some saved ∧
      saved.latestResult = some latest ∧ (latest = r ∨ StoredAfter s.store latest r)
  origin : s.store.records.query? query = s₀.store.records.query? query ∨
    ∃ saved id job, s.store.records.query? query = some saved ∧
      s.board.find? id = some job ∧ job.status = .succeeded ∧
      job.metadata.query = some query ∧ job.result = saved.latestResult

theorem Pointed.quiet (h : Pointed s₀ query s) (hk : t.store = s.store)
    (hsame : SameSucceeded s.board t.board) : Pointed s₀ query t := by
  refine ⟨?_, ?_, ?_, ?_⟩
  · rw [hk]
    exact h.available
  · rw [hk]
    exact h.known
  · intro id job r hj hs hm hr
    rw [hk]
    exact h.latest ((hsame id job hs).mp hj) hs hm hr
  · rw [hk]
    rcases h.origin with hold | ⟨saved, id, job, hq, hj, hs, hm, hr⟩
    · exact Or.inl hold
    · exact Or.inr ⟨saved, id, job, hq, (hsame id job hs).mpr hj, hs, hm, hr⟩

/-- A result that is in the store comes before the one that is added. -/
theorem storedAfter_new (hst : Stores b store l b' kept id job r)
    (hn : store.records.result? r.id = none) {earlier : ResultId}
    (he : (store.records.result? earlier).isSome = true) : StoredAfter kept r.id earlier := by
  have hmem : earlier ∈ store.records.results.keys := Assoc.mem_keys_iff.mpr he
  unfold StoredAfter
  rw [hst.keys_eq hn]
  exact (List.singleton_sublist.mpr hmem).append (List.Sublist.refl [r.id])

/-- The order of the results that are in the store stays. -/
theorem StoredAfter.mono (hst : Stores b store l b' kept id job r)
    (hn : store.records.result? r.id = none) {later earlier : ResultId}
    (h : StoredAfter store later earlier) : StoredAfter kept later earlier := by
  unfold StoredAfter at h ⊢
  rw [hst.keys_eq hn]
  exact h.trans (List.sublist_append_left _ [r.id])

theorem Pointed.stores (h : Pointed s₀ query s)
    (hbooks : ∀ {id : JobId} {job : Job} {r : ResultId}, s.board.find? id = some job →
      job.status = .succeeded → job.result = some r →
      (s.store.records.result? r).isSome = true)
    (hn : s.store.records.result? r.id = none)
    (hst : Stores s.board s.store l t.board t.store id job r) : Pointed s₀ query t := by
  have hup : t.store.available .update = .ok () :=
    (available_congr hst.outages_eq .update).trans h.available
  obtain ⟨saved, hsaved⟩ := h.known
  obtain ⟨now, hlast⟩ := hst.last_eq
  -- any other succeeded job was there before
  have hold : ∀ {other : JobId} {later : Job}, other ≠ id → t.board.find? other = some later →
      s.board.find? other = some later := by
    intro other later hne hj
    rwa [hst.others other hne] at hj
  -- the pointer moves if the job carries the query
  by_cases hcarry : job.metadata.query = some query
  · have hq := hst.query?_of_carried h.available hcarry hsaved
    refine ⟨hup, ⟨_, hq⟩, ?_, Or.inr ⟨_, id, _, hq, hlast, rfl, hcarry, rfl⟩⟩
    intro other later result hj hs hm hr
    refine ⟨_, r.id, hq, rfl, ?_⟩
    by_cases he : other = id
    · subst he
      obtain rfl : job.succeeded r.id now = later := JobBoard.find?_unique hlast hj
      have hsame : some r.id = some result := hr
      exact Or.inl (Option.some.inj hsame)
    · exact Or.inr (storedAfter_new hst hn (hbooks (hold he hj) hs hr))
  · have hq := hst.query?_of_not_carried hcarry
    refine ⟨hup, ⟨saved, hq.trans hsaved⟩, ?_, ?_⟩
    · intro other later result hj hs hm hr
      have hne : other ≠ id := by
        rintro rfl
        obtain rfl : job.succeeded r.id now = later := JobBoard.find?_unique hlast hj
        exact hcarry hm
      obtain ⟨saved', latest, hq', hl, hafter⟩ := h.latest (hold hne hj) hs hm hr
      exact ⟨saved', latest, hq.trans hq', hl, hafter.imp_right (StoredAfter.mono hst hn)⟩
    · rcases h.origin with hstart | ⟨saved', owner, other, hq', hj, hs, hm, hr⟩
      · exact Or.inl (hq.trans hstart)
      · have hne : owner ≠ id := hst.ne_of_succeeded hj hs
        exact Or.inr ⟨saved', owner, other, hq.trans hq', (hst.others owner hne).trans hj, hs, hm,
          hr⟩

theorem Run.pointed (hr : Run s₀ trace s) (h₀ : s₀.board.Sound)
    (hempty : ∀ id, s₀.board.find? id = none) (hup : s₀.store.available .update = .ok ())
    (hknown : ∃ saved, s₀.store.records.query? query = some saved) : Pointed s₀ query s := by
  induction hr with
  | start =>
    refine ⟨hup, hknown, ?_, Or.inl rfl⟩
    intro id job r hj
    rw [hempty] at hj
    exact absurd hj (by simp)
  | @step trace s t l a hr hf hs ih =>
    have h := hr.sound h₀
    rcases (step_change h hf hs).quiet_or_stores h hf.1 with ⟨hk, hsame⟩ | ⟨id, job, r, hst⟩
    · exact ih.quiet hk hsame
    · -- the results of jobs that succeeded before are in the store already
      have hbooks := hr.accounted h₀ hempty
      refine ih.stores ?_ ?_ hst
      · intro other later result hj hdone hres
        obtain ⟨r', hr', -⟩ := hbooks.result? hj hdone hres
        rw [hr']
        rfl
      · exact hst.result_new hf

/-! ### The query of a call -/

/-- A call that comes back at once with its own job created it. -/
theorem Run.created_of_queued (hr : Run s₀ trace s) (h₀ : s₀.board.Sound)
    (hl : l.newJob? = some new) (hq : (l, .ok (.queued job)) ∈ trace) (hid : job.id = new) :
    ∃ r now, l.Brings new r now ∧ job = r.newJob new now := by
  induction hr with
  | start => cases hq
  | step hr hf hs ih =>
    have h := hr.sound h₀
    rcases List.mem_cons.mp hq with he | hold
    · obtain ⟨rfl, rfl⟩ := Prod.mk.injEq .. ▸ he
      exact (step_change h hf hs).created_of_queued h (hf.1 new hl) hl hid
    · exact ih hold

/-- The job that a call created carries what the call brought along. -/
theorem CameBack.metadata_of_own (hback : CameBack trace l new job) (hr : Run s₀ trace s)
    (h₀ : s₀.board.Sound) (hid : job.id = new) :
    ∃ r now, l.Brings new r now ∧ job.metadata = r.metadata := by
  cases hback with
  | atOnce hl hq =>
    obtain ⟨r, now, hb, rfl⟩ := hr.created_of_queued h₀ hl hq hid
    exact ⟨r, now, hb, rfl⟩
  | afterWaiting hl hw hq =>
    -- both answers are about the one job with this identifier
    obtain ⟨r, now, later, hb, hlater, hm⟩ := hr.find?_of_waits h₀ hw
    obtain ⟨last, hlast, hfollow⟩ := hr.find?_of_queued h₀ hq
    rw [hid] at hlast
    obtain rfl : later = last := JobBoard.find?_unique hlater hlast
    exact ⟨r, now, hb, hfollow.metadata_eq.symm.trans hm⟩

/-! ### A saved query -/

/-- A runner without a backend, under the type of some data source. -/
def idleRegistry : Registry :=
  ⟨[("builtin", ⟨"builtin", "Builtin", ⟨"object", [], [], [], [], []⟩,
    fun _ => .ok ⟨"builtin", fun text _ => text, false, false, fun _ _ _ _ => .crashed none⟩⟩)]⟩

/-- The identifier of a saved query. -/
def dailyQuery : QueryId := ⟨12⟩

/-- A store with that query, which has no result yet. -/
def dailyStore : Store :=
  ⟨{ Records.empty with queries := [(dailyQuery, ⟨dailyQuery, "Daily signups", none, none⟩)] }, []⟩

/-- The request to run it. -/
def dailyRequest : QueryRequest where
  source := some someRequest.source
  query := ParameterizedQuery.of someRequest.text [] none
  parameters := []
  age := .never
  user := none
  saved := some dailyQuery
  limit := false
  range := none
  restricted := false

/-- The text has no parameters, so binding leaves it. -/
theorem render_someRequest :
    Template.render someRequest.text (Bindings.text? []) = someRequest.text := by
  decide +kernel

theorem daily_decide (store : Store) (now : Instant) :
    dailyRequest.decide store (RunnerPool.of idleRegistry) now =
      (.ok ⟨someRequest.source, someRequest.text, none⟩,
        (RunnerPool.of idleRegistry).after someRequest.source) := by
  have hd : dailyRequest.decide store (RunnerPool.of idleRegistry) now =
      (.ok ⟨someRequest.source, Template.render someRequest.text (Bindings.text? []), none⟩,
        (RunnerPool.of idleRegistry).after someRequest.source) := rfl
  rw [hd, render_someRequest]

/-- What the request comes to. -/
def dailyCall : JobRequest := someRequest.withQuery (some dailyQuery)

/-- The small service after the request. -/
def dailyQueued : Service where
  board := ((JobBoard.empty smallConfig.dispatch).register (jobId 1) dailyCall .epoch).send
    ⟨jobId 1, dailyCall⟩
  store := dailyStore
  pool := (RunnerPool.of idleRegistry).after someRequest.source
  events := [ExecutionEvent.of dailyRequest ⟨someRequest.source, someRequest.text, none⟩]

theorem daily_run :
    Run (small dailyStore idleRegistry)
      [(.request dailyRequest (jobId 1) .epoch, .ok (.queued (dailyCall.newJob (jobId 1) .epoch)))]
      dailyQueued := by
  have hf : Fresh (small dailyStore idleRegistry) (.request dailyRequest (jobId 1) .epoch) :=
    Fresh.of_job rfl rfl rfl
  refine Run.step Run.start hf ?_
  show some ((small dailyStore idleRegistry).request dailyRequest (jobId 1) .epoch) = _
  rw [request_eq_enqueue (daily_decide dailyStore .epoch) rfl]
  rfl

/-! ### Jobs that succeeded -/

/-- A request for a saved query came back with a job, and the job has succeeded. If the request
    created the job, or the job carries the query all the same, the query points to the result of
    the job or to a later one. In any case the pointer stands where it stood at the start, or at
    the result of a succeeded job that carries the query. -/
theorem latest_result_of_carried_query {config : Config} {registry : Registry} {q : QueryRequest}
    {called : Instant} {last : Job} {result : ResultId}
    (hstart : Service.start config store registry = .ok s₀)
    (hup : store.available .update = .ok ())
    (hknown : (store.records.query? query).isSome = true) (hrun : Run s₀ trace s)
    (hq : q.saved = some query) (hback : CameBack trace (.request q new called) new job)
    (hj : s.board.find? job.id = some last) (hs : last.status = .succeeded)
    (hr : last.result = some result) :
    (job.id = new ∨ job.metadata.query = some query →
      ∃ saved latest, s.store.records.query? query = some saved ∧
        saved.latestResult = some latest ∧
        (latest = result ∨ StoredAfter s.store latest result)) ∧
    (s.store.records.query? query = store.records.query? query ∨
      ∃ saved id other, s.store.records.query? query = some saved ∧
        s.board.find? id = some other ∧ other.status = .succeeded ∧
        other.metadata.query = some query ∧ other.result = saved.latestResult) := by
  obtain ⟨-, hstore⟩ := start_eq hstart
  have h₀ : s₀.board.Sound := start_sound hstart
  have hpoint : Pointed s₀ query s := by
    refine hrun.pointed h₀ (start_find? hstart) ?_ ?_
    · rw [hstore]
      exact hup
    · rw [hstore]
      exact Option.isSome_iff_exists.mp hknown
  constructor
  · intro hcarry
    -- the request that created the job left its query there
    have hm : job.metadata.query = some query := by
      rcases hcarry with hid | hm
      · obtain ⟨r, now, hb, hm⟩ := hback.metadata_of_own hrun h₀ hid
        rw [hm]
        cases hb
        exact hq
      · exact hm
    obtain ⟨l', hmem⟩ := hback.queued_mem
    obtain ⟨later, hlater, hfollow⟩ := hrun.find?_of_queued h₀ hmem
    obtain rfl : last = later := JobBoard.find?_unique hj hlater
    exact hpoint.latest hj hs (by rw [hfollow.metadata_eq]; exact hm) hr
  · have horigin := hpoint.origin
    rwa [hstore] at horigin

/-- A job that the request itself created, and the pointer after its end. -/
theorem latest_result_of_daily_query :
    ∃ trace s saved latest, Run (small dailyStore idleRegistry) trace s ∧
      s.store.records.query? dailyQuery = some saved ∧ saved.latestResult = some latest ∧
      (latest = noRows.result ∨ StoredAfter s.store latest noRows.result) := by
  have h₀ := small_sound dailyStore idleRegistry
  have hj₁ : dailyQueued.board.active.find? (jobId 1) =
      some (dailyCall.newJob (jobId 1) .epoch) := Assoc.find?_put_self [] (jobId 1) _
  obtain ⟨s, hrun, hj, -⟩ :=
    daily_run.complete h₀ rfl rfl rfl hj₁ rfl rfl rfl rfl .epoch (c := noRows)
  obtain ⟨saved, latest, hlatest⟩ := (latest_result_of_carried_query (small_start _ _) rfl rfl hrun
    rfl ((CameBack.atOnce rfl (List.mem_cons_self ..)).later.later) hj rfl rfl).1 (Or.inl rfl)
  exact ⟨_, s, saved, latest, hrun, hlatest⟩

/-- A request for a saved query may join a job that does not carry it, and then the query is not
    pointed to the result. -/
theorem latest_result_lost_to_joining :
    ¬ ∀ (config : Config) (store : Store) (registry : Registry) (s₀ s : Service)
        (trace : List (Label × Answer)) (query : QueryId) (q : QueryRequest) (new : JobId)
        (called : Instant) (job last : Job) (result : ResultId),
      Service.start config store registry = .ok s₀ → store.available .update = .ok () →
      (store.records.query? query).isSome = true → Run s₀ trace s → q.saved = some query →
      CameBack trace (.request q new called) new job → s.board.find? job.id = some last →
      last.status = .succeeded → last.result = some result →
      ∃ saved latest, s.store.records.query? query = some saved ∧
        saved.latestResult = some latest ∧
        (latest = result ∨ StoredAfter s.store latest result) := by
  intro hall
  have h₀ := small_sound dailyStore idleRegistry
  have hr₁ := small_enqueue dailyStore idleRegistry someRequest (jobId 1) .epoch
  have hj₁ := smallQueued_active dailyStore idleRegistry someRequest (jobId 1) .epoch
  have hf₂ : Fresh (smallQueued dailyStore idleRegistry someRequest (jobId 1) .epoch)
      (.request dailyRequest (jobId 2) .epoch) := by
    refine Fresh.of_job rfl rfl ?_
    exact smallQueued_find? dailyStore idleRegistry someRequest .epoch (by decide)
  have hr₂ := hr₁.step hf₂
    (request_joins (hr₁.sound h₀) (daily_decide dailyStore .epoch) rfl hj₁ rfl (jobId 2))
  obtain ⟨s, hrun, hj, hk⟩ :=
    hr₂.complete h₀ rfl rfl rfl hj₁ rfl rfl rfl rfl .epoch (c := noRows)
  obtain ⟨saved, latest, hq, hl, -⟩ := hall _ _ _ _ _ _ dailyQuery dailyRequest _ _ _ _ _
    (small_start _ _) rfl rfl hrun rfl ((CameBack.atOnce rfl (List.mem_cons_self ..)).later.later)
    hj rfl rfl
  -- the job carries no query, so the pointer still stands where it stood
  have hstay : s.store.records.query? dailyQuery =
      some ⟨dailyQuery, "Daily signups", none, none⟩ := by
    rw [hk]
    rfl
  rw [hstay] at hq
  obtain rfl := Option.some.inj hq
  exact absurd hl (by simp)

end Service

end QueryDispatch
