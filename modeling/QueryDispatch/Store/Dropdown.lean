import QueryDispatch.Parameter.Binding
import QueryDispatch.Store.Basic

/-! # Dropdowns from stored results

  The entries of a dropdown are the rows of the latest result of its query.
-/

namespace QueryDispatch

/-- The text of a cell: a text as it is, nothing for an absent or empty cell, anything else as
    JSON. -/
def cellText : Option Json → String
  | some (.string s) => s
  | some .null => ""
  | some j => j.text
  | none => ""

namespace Table

/-- The column with a name, or else the first one. -/
def columnOrFirst (t : Table) (first name : String) : String :=
  match t.column? name with
  | some c => c.name
  | none => first

/-- An entry for each row, its name from the column `name` and its value from the column `value`,
    or from the first column where there is no such column. -/
def dropdown (t : Table) : List DropdownOption :=
  match t.columns with
  | [] => []
  | first :: _ =>
    t.rows.map fun row =>
      ⟨cellText (row.cell? (t.columnOrFirst first.name "name")),
        cellText (row.cell? (t.columnOrFirst first.name "value"))⟩

end Table

/-- The entries for a saved query. A query that is unknown or has no data source is detached, and
    so is one that the store cannot read; without a result there are no entries. -/
def Store.dropdown (s : Store) : DropdownResolver := fun id =>
  match s.query id with
  | .error _ | .ok none => .error (.detached id)
  | .ok (some query) =>
    if query.source.isNone then .error (.detached id)
    else match query.latestResult with
      | none => .ok []
      | some result =>
        match s.get result with
        | .error _ => .error (.detached id)
        | .ok none => .ok []
        | .ok (some r) => .ok r.data.dropdown

end QueryDispatch
