import QueryDispatch.Cache.Lookup
import QueryDispatch.Dispatch.Error
import QueryDispatch.Parameter.Query
import QueryDispatch.Runner.Pool
import QueryDispatch.Store.Dropdown

/-! # Requests

  A request asks for a query on a data source, with values for its parameters.
  It is refused, or it comes to the effective text of the query and to what
  the store has for that text. Nothing is changed on the way but the pool of
  runners.
-/

namespace QueryDispatch

/-- A request. -/
structure QueryRequest where
  source : Option DataSource
  query : ParameterizedQuery
  parameters : JsonFields
  age : MaxAge
  user : Option User
  /-- The saved query that is run. -/
  saved : Option QueryId
  /-- Whether a row limit is wanted. -/
  limit : Bool
  range : Option TimeRange
  /-- Whether the data of other queries may not be seen. -/
  restricted : Bool

/-- The data source of a request, if it takes queries. -/
def available : Option DataSource → Except DispatchError DataSource
  | none => .error (.unavailable .absent)
  | some source =>
    if source.paused then .error (.unavailable (.paused source.name source.pauseReason))
    else .ok source

namespace QueryRequest

/-- The query with the values bound. Dropdowns are read from the store unless the query brings its
    own. -/
def bind (r : QueryRequest) (store : Store) : Except DispatchError ParameterizedQuery :=
  let query := { r.query with resolver := some (r.query.resolver.getD store.dropdown) }
  (query.apply r.parameters).mapError .parameter

/-- The data source and the bound query. -/
def bindFor (r : QueryRequest) (store : Store) :
    Except DispatchError (DataSource × ParameterizedQuery) := do
  let source ← available r.source
  if r.restricted && !r.query.isSafe then throw .unsafeQuery
  return (source, ← r.bind store)

/-- The text that goes to the runner: with a row limit, and with the bounds of time. -/
def effectiveText (r : QueryRequest) (runner : Runner) (query : ParameterizedQuery) : String :=
  let text := runner.limitRows query.text r.limit
  match r.range with
  | some range => range.apply text
  | none => text

end QueryRequest

/-- What a request comes to before anything is done. -/
structure Decision where
  source : DataSource
  /-- The effective text. -/
  text : String
  /-- The stored result that answers the request. -/
  cached : Option StoredResult

/-- Decides a request whose query is bound and whose runner is there. -/
def QueryRequest.decideText (r : QueryRequest) (store : Store) (now : Instant)
    (source : DataSource) (query : ParameterizedQuery) (runner : Runner) :
    Except DispatchError Decision := do
  let text := r.effectiveText runner query
  if !query.missing.isEmpty then throw (.missing query.missing)
  let cached ← (store.fresh source.id text r.age now).mapError .store
  return ⟨source, text, cached⟩

/-- Decides a request. The pool may gain a runner. -/
def QueryRequest.decide (r : QueryRequest) (store : Store) (pool : RunnerPool) (now : Instant) :
    Except DispatchError Decision × RunnerPool :=
  match r.bindFor store with
  | .error e => (.error e, pool)
  | .ok (source, query) =>
    match pool.get source with
    | .error e => (.error (.registry e), pool)
    | .ok (held, pool) => (r.decideText store now source query held.runner, pool)

/-! ### Events -/

/-- The record of a decision. -/
structure ExecutionEvent where
  /-- Whether the store had an answer. -/
  hit : Bool
  user : Option User
  source : SourceId
  text : String
  query : Option QueryId
  parameters : JsonFields

namespace ExecutionEvent

/-- The record of what a request came to. -/
def of (r : QueryRequest) (d : Decision) : ExecutionEvent :=
  ⟨d.cached.isSome, r.user, d.source.id, d.text, r.saved, r.parameters⟩

/-- The wire form. -/
def toJson (e : ExecutionEvent) : Json := .record [
  ("action", .string "execute_query"),
  ("cache", .string (if e.hit then "hit" else "miss")),
  ("userId", Wire.encode (e.user.map (·.id))),
  ("username", Wire.encode (e.user.map (·.name))),
  ("isApiUser", .bool (e.user.any (·.isApiUser))),
  ("dataSourceId", Wire.encode e.source),
  ("queryText", .string e.text),
  ("queryId", Wire.encode e.query),
  ("parameters", .object e.parameters)]

end ExecutionEvent

end QueryDispatch
