import QueryDispatch.Data.Assoc
import QueryDispatch.Data.Result

/-! # The result store

  Results are only ever added; for each fingerprint the store knows which of
  them was retrieved last. Beside the results stand the saved queries with
  their latest results. The store may be out of order for some calls; a call
  then fails and changes nothing.
-/

namespace QueryDispatch

/-! ### Records -/

/-- The results and saved queries. -/
structure Records where
  results : Assoc ResultId StoredResult
  /-- For each fingerprint the time and identifier of the result retrieved last. -/
  newest : Assoc Fingerprint (Instant × ResultId)
  queries : Assoc QueryId SavedQuery

namespace Records

/-- No results and no saved queries. -/
def empty : Records := ⟨[], [], []⟩

/-- The result with an identifier. -/
def result? (r : Records) (id : ResultId) : Option StoredResult := r.results.find? id

/-- The result of a fingerprint that was retrieved last. -/
def latest? (r : Records) (fingerprint : Fingerprint) : Option StoredResult :=
  (r.newest.find? fingerprint).bind fun (_, id) => r.result? id

/-- The newer of two stamps; of two at the same time the one that comes later to the store. -/
def newerStamp (stamp : Instant × ResultId) :
    Option (Instant × ResultId) → Instant × ResultId
  | none => stamp
  | some current => if current.1 ≤ stamp.1 then stamp else current

/-- Adds a result. -/
def insert (r : Records) (result : StoredResult) : Records :=
  let stamp := (result.retrievedAt, result.id)
  { r with
    results := r.results.put result.id result
    newest := r.newest.put result.fingerprint
      (newerStamp stamp (r.newest.find? result.fingerprint)) }

/-- How many results there are. -/
def count (r : Records) : Nat := r.results.length

/-- Adds a saved query, or puts it in the place of the one with its identifier. -/
def addQuery (r : Records) (query : SavedQuery) : Records :=
  { r with queries := r.queries.put query.id query }

/-- The saved query with an identifier. -/
def query? (r : Records) (id : QueryId) : Option SavedQuery := r.queries.find? id

/-- Makes a result the latest one of a saved query, if there is such a query. -/
def setLatest? (r : Records) (query : QueryId) (result : ResultId) : Option Records :=
  (r.query? query).map fun q =>
    { r with queries := r.queries.put query { q with latestResult := some result } }

end Records

/-! ### Calls that may fail -/

/-- The calls of the store. -/
inductive StoreCall where
  | get
  | latest
  | insert
  | query
  | update
  deriving DecidableEq, Repr

/-- Why a call failed. -/
inductive StoreError where
  /-- The store is out of order. -/
  | outage (text : String)
  | noSuchQuery (id : QueryId)
  deriving DecidableEq, Repr

/-- The wording of an error. -/
def StoreError.message : StoreError → String
  | .outage text => text
  | .noSuchQuery id => "query " ++ String.ofList (intText id.value.toInt) ++ " does not exist"

/-- The records, and the calls that are out of order with what they say. -/
structure Store where
  records : Records
  outages : List (StoreCall × String)

namespace Store

/-- An empty store in good order. -/
def empty : Store := ⟨Records.empty, []⟩

/-- Fails if a call is out of order. -/
def available (s : Store) (call : StoreCall) : Except StoreError Unit :=
  match s.outages.lookup call with
  | some text => .error (.outage text)
  | none => .ok ()

/-- The result with an identifier. -/
def get (s : Store) (id : ResultId) : Except StoreError (Option StoredResult) := do
  s.available .get
  return s.records.result? id

/-- The result of a fingerprint that was retrieved last. -/
def latest (s : Store) (fingerprint : Fingerprint) : Except StoreError (Option StoredResult) := do
  s.available .latest
  return s.records.latest? fingerprint

/-- Adds a result. -/
def insert (s : Store) (result : StoredResult) : Except StoreError Store := do
  s.available .insert
  return { s with records := s.records.insert result }

/-- The saved query with an identifier. -/
def query (s : Store) (id : QueryId) : Except StoreError (Option SavedQuery) := do
  s.available .query
  return s.records.query? id

/-- Makes a result the latest one of a saved query. -/
def updateLatest (s : Store) (query : QueryId) (result : ResultId) : Except StoreError Store := do
  s.available .update
  match s.records.setLatest? query result with
  | some records => return { s with records }
  | none => throw (.noSuchQuery query)

end Store

end QueryDispatch
