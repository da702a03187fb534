import QueryDispatch.Calendar.Instant
import QueryDispatch.Data.Source
import QueryDispatch.Data.Table
import QueryDispatch.Fingerprint

/-! # Stored results

  A result is the lasting record of one run of a query on its backend.
-/

namespace QueryDispatch

instance : Wire Fingerprint where
  encode f := .string f.text
  decode? j := j.asString?.map Fingerprint.mk

instance : Wire Instant where
  encode t := .string t.text
  decode? j := j.asString?.bind Instant.read?

/-- The record of one run. -/
structure StoredResult where
  id : ResultId
  source : SourceId
  fingerprint : Fingerprint
  /-- The text that ran. -/
  text : String
  data : Table
  /-- When the run ended. -/
  retrievedAt : Instant
  /-- How long the run took, in seconds. -/
  runtime : Double

namespace StoredResult

/-- The record of a run, with the fingerprint of its source and text. -/
def of (id : ResultId) (source : SourceId) (text : String) (data : Table)
    (retrievedAt : Instant) (runtime : Double) : StoredResult :=
  ⟨id, source, Fingerprint.of source.value text, text, data, retrievedAt, runtime⟩

/-- The age in whole seconds; a result from the future has none. -/
def ageSeconds (r : StoredResult) (now : Instant) : Int :=
  max 0 (Int.tdiv (now.since r.retrievedAt) 1000000000)

end StoredResult

instance : Wire StoredResult where
  encode r := .object [
    ("data", Wire.encode r.data),
    ("dataSourceId", Wire.encode r.source),
    ("fingerprint", Wire.encode r.fingerprint),
    ("id", Wire.encode r.id),
    ("queryText", .string r.text),
    ("retrievedAt", Wire.encode r.retrievedAt),
    ("runtime", Wire.encode r.runtime)]
  decode? j := do
    let f ← Fields.of? 7 j
    return ⟨← f.required 0 "id", ← f.required 1 "dataSourceId", ← f.required 2 "fingerprint",
      ← f.required 3 "queryText", ← f.required 4 "data", ← f.required 5 "retrievedAt",
      ← f.required 6 "runtime"⟩

end QueryDispatch
