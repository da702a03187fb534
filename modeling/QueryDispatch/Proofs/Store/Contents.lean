import QueryDispatch.Dispatch.Completion

/-! # Contents of the store

  What the two writing calls of the store do to its tables: an insertion adds
  one result at the end, and pointing a saved query to a result changes that
  query and nothing else. Neither mends or breaks the store.
-/

namespace QueryDispatch

namespace Store

variable {store kept : Store} {result : StoredResult}

theorem insert_eq (h : store.insert result = .ok kept) :
    kept = { store with records := store.records.insert result } := by
  unfold insert at h
  cases ha : store.available .insert with
  | error e => simp [ha, bind, Except.bind] at h
  | ok _ =>
    simp only [ha, bind, Except.bind, pure, Except.pure, Except.ok.injEq] at h
    exact h.symm

theorem updateLatest_eq (ha : store.available .update = .ok ()) {query : QueryId}
    {saved : SavedQuery} (hq : store.records.query? query = some saved) (id : ResultId) :
    store.updateLatest query id =
      .ok { store with records := { store.records with
        queries := store.records.queries.put query { saved with latestResult := some id } } } := by
  unfold updateLatest
  simp only [ha, Records.setLatest?, hq]
  rfl

theorem updateLatest_ok {query : QueryId} {id : ResultId}
    (h : store.updateLatest query id = .ok kept) :
    ∃ saved, store.records.query? query = some saved ∧
      kept = { store with records := { store.records with
        queries := store.records.queries.put query { saved with latestResult := some id } } } := by
  unfold updateLatest at h
  cases ha : store.available .update with
  | error e => simp [ha, bind, Except.bind] at h
  | ok _ =>
    cases hq : store.records.query? query with
    | none =>
      simp [ha, Records.setLatest?, hq, bind, Except.bind, throw, throwThe,
        MonadExceptOf.throw] at h
    | some saved =>
      simp only [ha, Records.setLatest?, hq, Option.map_some, bind, Except.bind, pure, Except.pure,
        Except.ok.injEq] at h
      exact ⟨saved, rfl, h.symm⟩

end Store

namespace JobBoard

variable {store : Store} {r : JobRequest} {id : ResultId} {query : QueryId}

theorem pointTo_of_none (hm : r.metadata.query = none) : pointTo store r id = store := by
  unfold pointTo
  rw [hm]

theorem pointTo_of_error (hm : r.metadata.query = some query) {e : StoreError}
    (hu : store.updateLatest query id = .error e) : pointTo store r id = store := by
  unfold pointTo
  rw [hm]
  show (store.updateLatest query id).toOption.getD store = store
  rw [hu]
  rfl

theorem pointTo_of_ok (hm : r.metadata.query = some query) {kept : Store}
    (hu : store.updateLatest query id = .ok kept) : pointTo store r id = kept := by
  unfold pointTo
  rw [hm]
  show (store.updateLatest query id).toOption.getD store = kept
  rw [hu]
  rfl

/-- The store after a saved query was pointed to a result has other queries at most. -/
theorem pointTo_eq (store : Store) (r : JobRequest) (id : ResultId) :
    ∃ queries, pointTo store r id =
      { store with records := { store.records with queries } } := by
  cases hm : r.metadata.query with
  | none => exact ⟨store.records.queries, pointTo_of_none hm⟩
  | some query =>
    cases hu : store.updateLatest query id with
    | error e => exact ⟨store.records.queries, pointTo_of_error hm hu⟩
    | ok kept =>
      obtain ⟨saved, -, hk⟩ := Store.updateLatest_ok hu
      exact ⟨_, (pointTo_of_ok hm hu).trans hk⟩

@[simp] theorem pointTo_results (store : Store) (r : JobRequest) (id : ResultId) :
    (pointTo store r id).records.results = store.records.results := by
  obtain ⟨queries, h⟩ := pointTo_eq store r id
  rw [h]

@[simp] theorem pointTo_newest (store : Store) (r : JobRequest) (id : ResultId) :
    (pointTo store r id).records.newest = store.records.newest := by
  obtain ⟨queries, h⟩ := pointTo_eq store r id
  rw [h]

@[simp] theorem pointTo_outages (store : Store) (r : JobRequest) (id : ResultId) :
    (pointTo store r id).outages = store.outages := by
  obtain ⟨queries, h⟩ := pointTo_eq store r id
  rw [h]

/-- A request for a saved query of the store points that one to the result. -/
theorem query?_pointTo (ha : store.available .update = .ok ()) (hm : r.metadata.query = some query)
    {saved : SavedQuery} (hq : store.records.query? query = some saved) (id : ResultId) :
    (pointTo store r id).records.query? query = some { saved with latestResult := some id } := by
  rw [pointTo_of_ok hm (Store.updateLatest_eq ha hq id)]
  exact Assoc.find?_put_self store.records.queries query _

/-- Other saved queries stay as they are. -/
theorem query?_pointTo_of_ne (hm : r.metadata.query ≠ some query) (store : Store) (id : ResultId) :
    (pointTo store r id).records.query? query = store.records.query? query := by
  cases hr : r.metadata.query with
  | none => rw [pointTo_of_none hr]
  | some other =>
    have hne : query ≠ other := by
      rintro rfl
      exact hm hr
    -- an update that fails changes nothing, and one that succeeds another query
    cases hu : store.updateLatest other id with
    | error e => rw [pointTo_of_error hr hu]
    | ok kept =>
      obtain ⟨saved, -, hk⟩ := Store.updateLatest_ok hu
      rw [pointTo_of_ok hr hu, hk]
      exact Assoc.find?_put_of_ne store.records.queries _ hne

end JobBoard

end QueryDispatch
