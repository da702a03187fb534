import QueryDispatch.Proofs.Cache.Fingerprints
import QueryDispatch.Proofs.Cache.Lookups
import QueryDispatch.Proofs.Service.CreatedJobs
import QueryDispatch.Proofs.Service.Preparing

/-! # What requests come to

  A request that is not refused comes to a text on a data source. The store is
  asked for that text, and if it has no answer the request goes on as a call.
  A request that takes a result of any age is answered by the newest one there
  is, so it brings a new job only if there is none.
-/

namespace QueryDispatch

/-! ### Decisions -/

/-- The request is not refused, and comes to a text on a data source. -/
inductive QueryRequest.ComesTo (q : QueryRequest) (store : Store) (pool : RunnerPool)
    (source : SourceId) (text : String) : Prop where
  | intro {data : DataSource} {query : ParameterizedQuery} {held : HeldRunner}
      {next : RunnerPool} (hbind : q.bindFor store = .ok (data, query))
      (hget : pool.get data = .ok (held, next)) (hsource : data.id = source)
      (htext : q.effectiveText held.runner query = text) (hmissing : query.missing = [])

namespace QueryRequest

variable {q : QueryRequest} {store : Store} {pool next : RunnerPool} {now : Instant}
  {d : Decision} {source : SourceId} {text : String} {cached : Option StoredResult}

/-- Such a request is prepared for the text. -/
theorem comesTo_iff :
    q.ComesTo store pool source text ↔
      ∃ data, (q.prepare store pool).1 = .ok (data, text) ∧ data.id = source := by
  constructor
  · intro h
    obtain @⟨data, query, held, next, hbind, hget, hsource, htext, hmissing⟩ := h
    exact ⟨data, prepare_eq_ok_iff.mpr ⟨query, held, next, hbind, hget, hmissing, htext⟩, hsource⟩
  · rintro ⟨data, hprepared, hsource⟩
    obtain ⟨query, held, next, hbind, hget, hmissing, htext⟩ := prepare_eq_ok_iff.mp hprepared
    exact ComesTo.intro hbind hget hsource htext hmissing

/-- A decision is about the text that the request comes to, and about what the store has for it. -/
theorem comesTo_of_decide (h : q.decide store pool now = (.ok d, next)) :
    q.ComesTo store pool d.source.id d.text ∧
      store.fresh d.source.id d.text q.age now = .ok d.cached := by
  have hreach : q.Reaches store pool now d := decide_ok_iff.mp (congrArg Prod.fst h)
  exact ⟨comesTo_iff.mpr ⟨d.source, hreach.prepared, rfl⟩, hreach.answered⟩

/-- Such a request is decided, with the answer of the store. -/
theorem ComesTo.decide_eq (h : q.ComesTo store pool source text)
    (hf : store.fresh source text q.age now = .ok cached) :
    ∃ d next, q.decide store pool now = (.ok d, next) ∧ d.cached = cached := by
  obtain ⟨data, hprepared, rfl⟩ := comesTo_iff.mp h
  have hreach : q.Reaches store pool now ⟨data, text, cached⟩ := ⟨hprepared, hf⟩
  have hd := decide_ok_iff.mpr hreach
  exact ⟨_, (q.decide store pool now).2, Prod.ext hd rfl, rfl⟩

end QueryRequest

/-! ### New jobs -/

namespace Service

variable {s t : Service} {l : Label} {a : Answer} {id : JobId} {job : Job} {now : Instant}
  {q : QueryRequest} {source : SourceId} {text : String} {r : StoredResult}

/-- A request that the store answers. -/
theorem request_cached {next : RunnerPool} {d : Decision}
    (hd : q.decide s.store s.pool now = (.ok d, next)) (hc : d.cached = some r) (id : JobId) :
    ∃ u, s.request q id now = (.ok (.cached r), u) := by
  unfold request
  rw [hd]
  simp only [hc]
  exact ⟨_, rfl⟩

/-- A request that takes a result of any age gets the newest one. -/
theorem request_of_latest (hq : q.ComesTo s.store s.pool source text) (hage : q.age = .forever)
    (ha : s.store.available .latest = .ok ())
    (hr : s.store.records.latest? (Fingerprint.of source.value text) = some r) (id : JobId)
    (now : Instant) : ∃ u, s.step? (.request q id now) = some (.ok (.cached r), u) := by
  have hf : s.store.fresh source text q.age now = .ok (some r) := by
    rw [hage, Store.fresh_forever, Store.latest_eq ha, hr]
  obtain ⟨d, next, hd, hc⟩ := hq.decide_eq hf
  obtain ⟨u, hu⟩ := request_cached hd hc id
  exact ⟨u, congrArg some hu⟩

/-- A request that brings a job came to the text of the job, and the store had no answer. -/
theorem decide_of_new (h : s.board.Sound) (hn : s.board.find? id = none)
    (hj : (s.request q id now).2.board.find? id = some job) :
    ∃ d next, q.decide s.store s.pool now = (.ok d, next) ∧ d.cached = none ∧
      job.source = d.source.id ∧ job.text = d.text := by
  have hsame : ∀ {b : JobBoard}, b = s.board → b.find? id ≠ some job := by
    rintro b rfl hfind
    rw [hn] at hfind
    cases hfind
  unfold request at hj
  rcases hd : q.decide s.store s.pool now with ⟨decision, next⟩
  rw [hd] at hj
  cases decision with
  | error e => exact absurd hj (hsame rfl)
  | ok d =>
    cases hc : d.cached with
    | some result =>
      simp only [hc] at hj
      exact absurd hj (hsame rfl)
    | none =>
      simp only [hc] at hj
      have hchange := enqueue_change h (Label.Brings.enqueue (q.call d) id now) hn s.store
      obtain ⟨r, at', hb, hjob⟩ := hchange.new_job h hn hj
      refine ⟨d, next, rfl, hc, ?_⟩
      cases hb
      rcases hjob with rfl | rfl
      · exact ⟨rfl, rfl⟩
      · exact ⟨rfl, rfl⟩

/-- A new job comes with a call for its text, or with a request that comes to it. -/
theorem asked_of_new (h : s.board.Sound) (hf : Fresh s l) (hs : s.step? l = some (a, t))
    (hn : s.board.find? id = none) (hj : t.board.find? id = some job) :
    (∃ r now, l = .enqueue r id now ∧ job.source = r.source.id ∧ job.text = r.text) ∨
    ∃ q now d next, l = .request q id now ∧ q.decide s.store s.pool now = (.ok d, next) ∧
      d.cached = none ∧ job.source = d.source.id ∧ job.text = d.text := by
  obtain ⟨r, now, hb, hjob⟩ := (step_change h hf hs).new_job h hn hj
  cases hb with
  | enqueue =>
    rcases hjob with rfl | rfl
    · exact Or.inl ⟨r, now, rfl, rfl, rfl⟩
    · exact Or.inl ⟨r, now, rfl, rfl, rfl⟩
  | request q data text =>
    obtain ⟨-, rfl⟩ : (s.request q id now).1 = a ∧ (s.request q id now).2 = t := by
      simpa [step?, Prod.ext_iff] using hs
    obtain ⟨d, next, hd, hc, hpair⟩ := decide_of_new h hn hj
    exact Or.inr ⟨q, now, d, next, rfl, hd, hc, hpair⟩

end Service

end QueryDispatch
