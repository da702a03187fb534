import QueryDispatch.Uuid

/-! # Data sources, users and saved queries

  What the surroundings know: the backends that queries run on, the people who
  run them, and the queries that are kept by name.
-/

namespace QueryDispatch

/-! ### Identifiers -/

/-- The identifier of a data source. -/
structure SourceId where
  value : Int64
  deriving DecidableEq, Repr

/-- The identifier of a saved query. -/
structure QueryId where
  value : Int64
  deriving DecidableEq, Repr

/-- The identifier of a user. -/
structure UserId where
  value : Int64
  deriving DecidableEq, Repr

/-- The identifier of a job. -/
structure JobId where
  value : Uuid
  deriving DecidableEq

/-- The identifier of a stored result. -/
structure ResultId where
  value : Uuid
  deriving DecidableEq

instance : Wire SourceId where
  encode id := Wire.encode id.value
  decode? j := (Wire.decode? j).map SourceId.mk

instance : Wire QueryId where
  encode id := Wire.encode id.value
  decode? j := (Wire.decode? j).map QueryId.mk

instance : Wire UserId where
  encode id := Wire.encode id.value
  decode? j := (Wire.decode? j).map UserId.mk

instance : Wire JobId where
  encode id := Wire.encode id.value
  decode? j := (Wire.decode? j).map JobId.mk

instance : Wire ResultId where
  encode id := Wire.encode id.value
  decode? j := (Wire.decode? j).map ResultId.mk

/-! ### Records -/

/-- A backend with its connection options. -/
structure DataSource where
  id : SourceId
  name : String
  /-- The name under which its runner is registered. -/
  type : String
  /-- Connection options, read by the runner. -/
  options : Json
  /-- Whether queries are refused for now. -/
  paused : Bool
  pauseReason : Option String

namespace DataSource

/-- Refuses queries from now on. -/
def pause (s : DataSource) (reason : Option String) : DataSource :=
  { s with paused := true, pauseReason := reason }

/-- Takes queries again. -/
def resume (s : DataSource) : DataSource := { s with paused := false, pauseReason := none }

end DataSource

instance : Wire DataSource where
  encode s := .object [
    ("id", Wire.encode s.id),
    ("name", .string s.name),
    ("options", s.options),
    ("pause_reason", Wire.encode s.pauseReason),
    ("paused", .bool s.paused),
    ("type", .string s.type)]
  decode? j := do
    let f ← Fields.of? 6 j
    return ⟨← f.required 0 "id", ← f.required 1 "name", ← f.required 2 "type",
      ← f.orDefault 3 "options" Json.null, ← f.orDefault 4 "paused" false,
      ← f.orDefault 5 "pause_reason" none⟩

/-- Someone who runs queries. -/
structure User where
  id : UserId
  name : String
  /-- Whether it is a program rather than a person. -/
  isApiUser : Bool
  deriving DecidableEq

instance : Wire User where
  encode u := .object [
    ("id", Wire.encode u.id),
    ("is_api_user", .bool u.isApiUser),
    ("name", .string u.name)]
  decode? j := do
    let f ← Fields.of? 3 j
    return ⟨← f.required 0 "id", ← f.required 1 "name", ← f.orDefault 2 "is_api_user" false⟩

/-- A query that is kept by name, with the result that it last had. -/
structure SavedQuery where
  id : QueryId
  name : String
  source : Option SourceId
  latestResult : Option ResultId
  deriving DecidableEq

instance : Wire SavedQuery where
  encode q := .object [
    ("data_source_id", Wire.encode q.source),
    ("id", Wire.encode q.id),
    ("latest_result_id", Wire.encode q.latestResult),
    ("name", .string q.name)]
  decode? j := do
    let f ← Fields.of? 4 j
    return ⟨← f.required 0 "id", ← f.required 1 "name", ← f.optional 2 "data_source_id",
      ← f.optional 3 "latest_result_id"⟩

end QueryDispatch
