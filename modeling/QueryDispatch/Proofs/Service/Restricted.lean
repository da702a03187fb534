import QueryDispatch.Proofs.Parameter.Safety
import QueryDispatch.Proofs.Service.Recording

/-! # Restricted requests

  A restricted request may not see the data of other queries. It is refused
  unless its query is safe, and a safe query asks no dropdown. So up to its
  decision the saved queries and their results are of no account: it is refused
  for the same reason, or comes to the same text, whatever they are.
-/

namespace QueryDispatch

/-! ### Preparing a request -/

namespace QueryRequest

variable {q : QueryRequest}

/-- Binding the values of a safe query takes nothing from the store. -/
theorem bind_of_safe (h : q.query.isSafe = true) (store : Store) :
    q.bind store = ((q.query.apply q.parameters).mapError .parameter).map
      (·.withResolver (some (q.query.resolver.getD store.dropdown))) := by
  have hother := ParameterizedQuery.apply_withResolver h
    (some (q.query.resolver.getD store.dropdown)) q.parameters
  show ((q.query.withResolver _).apply q.parameters).mapError _ = _
  rw [hother]
  cases q.query.apply q.parameters <;> rfl

/-- A restricted request is prepared in the same way with any store. -/
theorem prepare_of_restricted (h : q.restricted = true) (store store' : Store)
    (pool : RunnerPool) : q.prepare store pool = q.prepare store' pool := by
  unfold prepare
  rw [bindFor_eq, bindFor_eq, h, Bool.true_and]
  cases available q.source with
  | error e => rfl
  | ok source =>
    cases hsafe : q.query.isSafe with
    | false => rfl
    | true =>
      have hbind := bind_of_safe hsafe
      cases ha : q.query.apply q.parameters with
      | error e =>
        rw [ha] at hbind
        rw [hbind, hbind]
        rfl
      | ok query =>
        -- the two bound queries differ in the resolver, which is not asked any more
        have hok : ∀ store, q.bind store =
            .ok (query.withResolver (some (q.query.resolver.getD store.dropdown))) := by
          intro store
          rw [hbind, ha]
          rfl
        simp only [hok, Except.bind, Except.map, Bool.not_true, Bool.false_eq_true, if_false]
        cases pool.get source <;> rfl

end QueryRequest

/-! ### Answering a request -/

namespace Service

variable {s s' : Service} {q : QueryRequest} {id id' : JobId} {now now' : Instant}
  {e : DispatchError}

/-- A restricted request fails in every service for the same reason, unless the store fails or no
    job is taken any more. -/
theorem request_error_of_restricted (h : q.restricted = true) (hpool : s.pool = s'.pool)
    (he : (s.request q id now).1 = .error e) (hopen : e ≠ .closed)
    (hstore : ∀ error, e ≠ .store error) : (s'.request q id' now').1 = .error e := by
  have hd := decide_error_of_request he hopen
  rcases QueryRequest.prepare_error_of_decide hd with hp | ⟨error, rfl⟩
  · rw [QueryRequest.prepare_of_restricted h s.store s'.store, hpool] at hp
    exact request_of_decide_error (QueryRequest.decide_of_prepare_error hp now') id'
  · exact absurd rfl (hstore error)

/-- Safe queries, and the requests that may run no other ones. The calls to a safe query come to the
    same with any two resolvers, or with none. A restricted request is prepared in the same way
    with any two stores: it is refused for the same reason, or is decided for the same text. -/
theorem safe_queries_see_nothing :
    (∀ (query : ParameterizedQuery) (resolver resolver' : Option DropdownResolver)
      (calls : List JsonFields), query.isSafe = true →
      let after := (query.withResolver resolver).afterCalls calls
      let after' := (query.withResolver resolver').afterCalls calls
      (query.withResolver resolver).reports calls = (query.withResolver resolver').reports calls ∧
        after.bindings = after'.bindings ∧ after.missing = after'.missing ∧
        after.text = after'.text) ∧
    ∀ (q : QueryRequest) (s s' : Service) (id id' : JobId) (now now' : Instant),
      q.restricted = true → s.pool = s'.pool →
      q.prepare s.store s.pool = q.prepare s'.store s'.pool ∧
      (∀ e, e ≠ .closed → (∀ error, e ≠ .store error) →
        ((s.request q id now).1 = .error e ↔ (s'.request q id' now').1 = .error e)) ∧
      ∀ d d', q.Reaches s.store s.pool now d → q.Reaches s'.store s'.pool now' d' →
        d.source = d'.source ∧ d.text = d'.text := by
  constructor
  · intro query resolver resolver' calls hsafe after after'
    obtain ⟨hreports, hafter⟩ := ParameterizedQuery.calls_withResolver hsafe resolver calls
    obtain ⟨hreports', hafter'⟩ := ParameterizedQuery.calls_withResolver hsafe resolver' calls
    have heq : after = (query.afterCalls calls).withResolver resolver := hafter
    have heq' : after' = (query.afterCalls calls).withResolver resolver' := hafter'
    rw [heq, heq']
    exact ⟨hreports.trans hreports'.symm, rfl, rfl, rfl⟩
  · intro q s s' id id' now now' h hpool
    have hprepare : q.prepare s.store s.pool = q.prepare s'.store s'.pool := by
      rw [hpool]
      exact QueryRequest.prepare_of_restricted h s.store s'.store s'.pool
    refine ⟨hprepare, ?_, ?_⟩
    · intro e hopen hstore
      constructor
      · intro he
        exact request_error_of_restricted h hpool he hopen hstore
      · intro he
        exact request_error_of_restricted h hpool.symm he hopen hstore
    · intro d d' hreach hreach'
      have hprepared := hreach.prepared
      rw [hprepare, hreach'.prepared] at hprepared
      obtain ⟨hsource, htext⟩ := Prod.mk.inj (Except.ok.inj hprepared)
      exact ⟨hsource.symm, htext.symm⟩

/-- The request of every day, by someone who may not see the data of other queries. -/
def restrictedRequest : QueryRequest := { dailyRequest with restricted := true }

/-- A resolver that refuses is no other than none for a query without dropdowns, and a restricted
    request does not tell whether its query is saved. -/
theorem safe_queries_see_nothing_of_some :
    let query :=
      ParameterizedQuery.of ParameterizedQuery.someTemplate ParameterizedQuery.someParameters none
    (query.withResolver none).reports ParameterizedQuery.someCalls =
        (query.withResolver (some fun id => .error (.detached id))).reports
          ParameterizedQuery.someCalls ∧
      restrictedRequest.prepare dailyStore (RunnerPool.of idleRegistry) =
        restrictedRequest.prepare Store.empty (RunnerPool.of idleRegistry) := by
  intro query
  obtain ⟨hcalls, hrequests⟩ := safe_queries_see_nothing
  have hsafe : query.isSafe = true := rfl
  obtain ⟨hreports, -⟩ := hcalls query none _ ParameterizedQuery.someCalls hsafe
  obtain ⟨hprepare, -⟩ := hrequests restrictedRequest (small dailyStore idleRegistry)
    (small Store.empty idleRegistry) (jobId 1) (jobId 2) .epoch .epoch rfl rfl
  exact ⟨hreports, hprepare⟩

end Service

end QueryDispatch
