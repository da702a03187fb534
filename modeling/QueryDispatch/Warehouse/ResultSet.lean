import QueryDispatch.Warehouse.NativeType

/-! # Result sets

  A warehouse sends its cells column by column. A result set has them row by
  row, and a table has them by column name in their mapped form.
-/

namespace QueryDispatch

/-- A column as the warehouse declares it. -/
structure NativeColumn where
  name : String
  type : NativeType
  deriving DecidableEq

instance : Wire NativeColumn where
  encode c := .object [("dataType", Wire.encode c.type), ("name", .string c.name)]
  decode? j := do
    let f ← Fields.of? 2 j
    return ⟨← f.required 0 "name", ← f.required 1 "dataType"⟩

/-- Columns and rows of native cells. -/
structure ResultSet where
  columns : List NativeColumn
  rows : List (List Json)

namespace ResultSet

/-- No columns and no rows. -/
def empty : ResultSet := ⟨[], []⟩

/-- Adds a column's cells to the ends of the rows. -/
def addColumn (rows : List (List Json)) (column : List Json) : List (List Json) :=
  List.zipWith (fun row cell => row ++ [cell]) rows column

/-- Builds the rows from the cells of each column. Either there are no cells at all, or every
    column has its list, all equally long. -/
def ofColumns (columns : List NativeColumn) (data : List (List Json)) :
    Except FormatFault ResultSet :=
  match data with
  | [] => .ok ⟨columns, []⟩
  | first :: _ =>
    if data.length ≠ columns.length then .error (.columnCount columns.length data.length)
    else if data.any (·.length != first.length) then .error .ragged
    else .ok ⟨columns, data.foldl addColumn (List.replicate first.length [])⟩

/-- The row of a table: every cell mapped and put under its column's name. -/
def row (columns : List NativeColumn) (cells : List Json) : Except FormatFault Row :=
  (columns.zip cells).foldlM (fun row (column, cell) => do
    return row.set column.name (← Cell.map column.type cell)) ⟨[]⟩

/-- The table of a result set. -/
def table (set : ResultSet) : Except FormatFault Table := do
  let rows ← set.rows.mapM (row set.columns)
  return Table.of (set.columns.map fun c => Column.plain c.name c.type.columnType) rows

end ResultSet

end QueryDispatch
