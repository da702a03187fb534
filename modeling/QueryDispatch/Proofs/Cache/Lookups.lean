import QueryDispatch.Cache.Lookup

/-! # Looking into the store

  The store is asked for the result of a fingerprint that was retrieved last.
  The answer to a request is this one result, if it is young enough, and no
  other result is looked at.
-/

namespace QueryDispatch

/-- The result is for this text on this data source. -/
def StoredResult.IsFor (r : StoredResult) (source : SourceId) (text : String) : Prop :=
  r.source = source ∧ r.text = text

/-! ### The result retrieved last -/

theorem Records.latest?_eq {records : Records} {fingerprint : Fingerprint} {retrieved : Instant}
    {id : ResultId} (h : records.newest.find? fingerprint = some (retrieved, id)) :
    records.latest? fingerprint = records.result? id := by
  unfold latest?
  rw [h]
  rfl

theorem Records.latest?_eq_none {records : Records} {fingerprint : Fingerprint}
    (h : records.newest.find? fingerprint = none) : records.latest? fingerprint = none := by
  unfold latest?
  rw [h]
  rfl

namespace Store

variable {store : Store} {fingerprint : Fingerprint} {r : StoredResult}

theorem latest_eq (ha : store.available .latest = .ok ()) (fingerprint : Fingerprint) :
    store.latest fingerprint = .ok (store.records.latest? fingerprint) := by
  unfold latest
  rw [ha]
  rfl

/-- A store that answers is in order, and answers from its records. -/
theorem latest_ok {found : Option StoredResult} (h : store.latest fingerprint = .ok found) :
    store.available .latest = .ok () ∧ store.records.latest? fingerprint = found := by
  cases ha : store.available .latest with
  | error e =>
    unfold latest at h
    rw [ha] at h
    cases h
  | ok _ =>
    rw [latest_eq ha] at h
    exact ⟨rfl, Except.ok.inj h⟩

/-! ### The answer to a request -/

/-- Whoever takes a result of any age gets the newest one. -/
theorem fresh_forever (store : Store) (source : SourceId) (text : String) (now : Instant) :
    store.fresh source text .forever now =
      store.latest (Fingerprint.of source.value text) := by
  unfold fresh
  cases store.latest (Fingerprint.of source.value text) with
  | error e => rfl
  | ok found => cases found <;> rfl

/-- Whatever age is taken, the answer of a store in order is the newest result or nothing. -/
theorem fresh_eq (ha : store.available .latest = .ok ()) (source : SourceId) (text : String)
    (age : MaxAge) (now : Instant) :
    store.fresh source text age now =
      .ok ((store.records.latest? (Fingerprint.of source.value text)).filter fun r =>
        age.accepts r.retrievedAt now) := by
  unfold fresh
  rw [latest_eq ha]
  cases age with
  | never =>
    -- the store is not asked, and the filter lets nothing through
    cases store.records.latest? (Fingerprint.of source.value text) <;> rfl
  | forever | seconds n =>
    cases store.records.latest? (Fingerprint.of source.value text) with
    | none => rfl
    | some r =>
      rw [Option.filter_some]
      rfl

end Store

end QueryDispatch
