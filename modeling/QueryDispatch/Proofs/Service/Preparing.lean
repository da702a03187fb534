import QueryDispatch.Proofs.Data.Chains
import QueryDispatch.Service.Request

/-! # How a request is decided

  A request is decided in two parts. First it is prepared: the data source is
  checked, the values are bound, the runner is found and the effective text is
  made, any of which can fail. Only then the store is asked for that text.
-/

namespace QueryDispatch

namespace QueryRequest

variable {q : QueryRequest} {store : Store} {pool next : RunnerPool} {now : Instant}
  {d d' : Decision}

/-! ### The two parts -/

/-- What is done before the store is asked: the data source and the effective text, or an error. The
    pool may gain a runner. -/
def prepare (q : QueryRequest) (store : Store) (pool : RunnerPool) :
    Except DispatchError (DataSource × String) × RunnerPool :=
  match q.bindFor store with
  | .error e => (.error e, pool)
  | .ok (source, query) =>
    match pool.get source with
    | .error e => (.error (.registry e), pool)
    | .ok (held, pool) =>
      if query.missing.isEmpty then (.ok (source, q.effectiveText held.runner query), pool)
      else (.error (.missing query.missing), pool)

/-- What the store has for a text, as a decision. -/
def lookUp (q : QueryRequest) (store : Store) (now : Instant) (source : DataSource)
    (text : String) : Except DispatchError Decision :=
  ((store.fresh source.id text q.age now).map (Decision.mk source text)).mapError .store

theorem lookUp_eq_ok_iff {source : DataSource} {text : String} :
    q.lookUp store now source text = .ok d ↔
      source = d.source ∧ text = d.text ∧ store.fresh source.id text q.age now = .ok d.cached := by
  unfold lookUp
  cases store.fresh source.id text q.age now with
  | error e =>
    constructor
    · intro h
      cases h
    · rintro ⟨-, -, h⟩
      cases h
  | ok cached =>
    show Except.ok (Decision.mk source text cached) = Except.ok d ↔ _
    cases d
    simp

theorem decideText_eq (source : DataSource) (query : ParameterizedQuery) (runner : Runner) :
    q.decideText store now source query runner =
      if query.missing.isEmpty then q.lookUp store now source (q.effectiveText runner query)
      else .error (.missing query.missing) := by
  unfold decideText lookUp
  simp only
  by_cases hmissing : query.missing.isEmpty = true
  · simp only [hmissing, Bool.not_true, Bool.false_eq_true, if_false, if_true]
    cases store.fresh source.id (q.effectiveText runner query) q.age now <;> rfl
  · simp only [hmissing, Bool.not_false, Bool.false_eq_true, if_false, if_true]
    rfl

/-- A request is prepared, and then the store is asked. -/
theorem decide_eq (q : QueryRequest) (store : Store) (pool : RunnerPool) (now : Instant) :
    q.decide store pool now =
      ((q.prepare store pool).1.bind fun (source, text) => q.lookUp store now source text,
        (q.prepare store pool).2) := by
  unfold decide prepare
  cases q.bindFor store with
  | error e => rfl
  | ok bound =>
    obtain ⟨source, query⟩ := bound
    simp only
    cases pool.get source with
    | error e => rfl
    | ok got =>
      simp only [decideText_eq]
      split <;> rfl

/-- An available data source is the one of the request, and takes queries. -/
theorem source_of_available {source : Option DataSource} {data : DataSource}
    (h : available source = .ok data) : source = some data ∧ data.paused = false := by
  unfold available at h
  split at h
  · cases h
  · next known =>
    split at h
    · cases h
    · next hpaused =>
      obtain rfl := Except.ok.inj h
      exact ⟨rfl, by simpa using hpaused⟩

/-- The checks that come before the values are bound. -/
theorem bindFor_eq (q : QueryRequest) (store : Store) :
    q.bindFor store = (available q.source).bind fun source =>
      if q.restricted && !q.query.isSafe then .error .unsafeQuery
      else (q.bind store).map (Prod.mk source) := by
  unfold bindFor
  cases available q.source with
  | error e => rfl
  | ok source =>
    by_cases hnot : (q.restricted && !q.query.isSafe) = true
    · simp only [hnot, if_true]
      rfl
    · simp only [hnot, Bool.false_eq_true, if_false]
      cases q.bind store <;> rfl

theorem source_of_bindFor {source : DataSource} {query : ParameterizedQuery}
    (h : q.bindFor store = .ok (source, query)) : q.source = some source := by
  rw [bindFor_eq] at h
  obtain ⟨data, ha, h⟩ := bind_eq_ok.mp h
  split at h
  · cases h
  · obtain ⟨bound, -, hpair⟩ := map_eq_ok.mp h
    obtain ⟨rfl, -⟩ := Prod.mk.inj hpair
    exact (source_of_available ha).1

/-- What a request that is prepared comes to. -/
theorem prepare_eq_ok_iff {source : DataSource} {text : String} :
    (q.prepare store pool).1 = .ok (source, text) ↔
      ∃ query held next, q.bindFor store = .ok (source, query) ∧
        pool.get source = .ok (held, next) ∧ query.missing = [] ∧
        q.effectiveText held.runner query = text := by
  constructor
  · intro h
    unfold prepare at h
    split at h
    · cases h
    · next data query hbind =>
      split at h
      · cases h
      · next held next hget =>
        split at h
        · next hmissing =>
          obtain ⟨rfl, rfl⟩ := Prod.mk.inj (Except.ok.inj h)
          exact ⟨query, held, next, hbind, hget, List.isEmpty_iff.mp hmissing, rfl⟩
        · cases h
  · rintro ⟨query, held, next, hbind, hget, hmissing, rfl⟩
    unfold prepare
    simp only [hbind, hget, hmissing, List.isEmpty_nil, if_true]

/-- The pool is the one of before, or the data source of the request got its runner from it. -/
theorem prepare_pool (q : QueryRequest) (store : Store) (pool : RunnerPool) :
    (q.prepare store pool).2 = pool ∨
      ∃ source held, q.source = some source ∧
        pool.get source = .ok (held, (q.prepare store pool).2) := by
  unfold prepare
  cases hbind : q.bindFor store with
  | error e => exact Or.inl rfl
  | ok bound =>
    obtain ⟨source, query⟩ := bound
    simp only
    cases hget : pool.get source with
    | error e => exact Or.inl rfl
    | ok got =>
      refine Or.inr ⟨source, got.1, source_of_bindFor hbind, ?_⟩
      simp only
      split <;> exact hget

/-! ### Reaching the decision -/

/-- The request is prepared and the store has answered, which is this decision. -/
structure Reaches (q : QueryRequest) (store : Store) (pool : RunnerPool) (now : Instant)
    (d : Decision) : Prop where
  prepared : (q.prepare store pool).1 = .ok (d.source, d.text)
  answered : store.fresh d.source.id d.text q.age now = .ok d.cached

theorem Reaches.unique (h : q.Reaches store pool now d) (h' : q.Reaches store pool now d') :
    d = d' := by
  have hprepared := Except.ok.inj (h.prepared.symm.trans h'.prepared)
  obtain ⟨hsource, htext⟩ := Prod.mk.inj hprepared
  have hanswered := h.answered
  rw [hsource, htext, h'.answered] at hanswered
  have hcached := Except.ok.inj hanswered
  cases d
  cases d'
  simp_all

theorem decide_ok_iff :
    (q.decide store pool now).1 = .ok d ↔ q.Reaches store pool now d := by
  rw [decide_eq]
  constructor
  · intro h
    cases hp : (q.prepare store pool).1 with
    | error e =>
      rw [hp] at h
      cases h
    | ok prepared =>
      obtain ⟨source, text⟩ := prepared
      rw [hp] at h
      obtain ⟨rfl, rfl, hanswered⟩ := lookUp_eq_ok_iff.mp h
      exact ⟨hp, hanswered⟩
  · intro h
    rw [h.prepared]
    exact lookUp_eq_ok_iff.mpr ⟨rfl, rfl, h.answered⟩

/-- A request that cannot be prepared fails with just that error. -/
theorem decide_of_prepare_error {e : DispatchError} (h : (q.prepare store pool).1 = .error e)
    (now : Instant) : (q.decide store pool now).1 = .error e := by
  rw [decide_eq, h]
  rfl

/-- Otherwise only the store can fail. -/
theorem prepare_error_of_decide {e : DispatchError} (h : (q.decide store pool now).1 = .error e) :
    (q.prepare store pool).1 = .error e ∨ ∃ error, e = .store error := by
  rw [decide_eq] at h
  cases hp : (q.prepare store pool).1 with
  | error e' =>
    rw [hp] at h
    obtain rfl : e' = e := Except.error.inj h
    exact Or.inl rfl
  | ok prepared =>
    rw [hp] at h
    obtain ⟨error, rfl⟩ := mapError_eq_error h
    exact Or.inr ⟨error, rfl⟩

end QueryRequest

end QueryDispatch
