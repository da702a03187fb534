import QueryDispatch.Json.Wire

/-! # Table schemas

  What browsing a backend shows: its tables, or its metrics, and their columns.
-/

namespace QueryDispatch

/-- A table with the names of its columns. -/
structure TableSchema where
  name : String
  columns : List String
  deriving DecidableEq, Repr

namespace TableSchema

/-- A table of which no columns are known. -/
def bare (name : String) : TableSchema := ⟨name, []⟩

end TableSchema

instance : Wire TableSchema where
  encode t := .object [("columns", .strings t.columns), ("name", .string t.name)]
  decode? j := do
    let f ← Fields.of? 2 j
    return ⟨← f.required 0 "name", ← f.required 1 "columns"⟩

end QueryDispatch
