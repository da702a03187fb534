import QueryDispatch.Json.Wire

/-! # Result tables

  The form in which every backend hands over rows: typed columns, and rows
  keyed by column name.
-/

namespace QueryDispatch

/-! ### Columns -/

/-- The types that native types are mapped to. -/
inductive ColumnType where
  | integer
  | float
  | string
  | boolean
  | date
  | datetime
  deriving DecidableEq, Repr

namespace ColumnType

/-- All types. -/
def all : List ColumnType := [.integer, .float, .string, .boolean, .date, .datetime]

/-- The name of a type. -/
def name : ColumnType → String
  | .integer => "integer"
  | .float => "float"
  | .string => "string"
  | .boolean => "boolean"
  | .date => "date"
  | .datetime => "datetime"

/-- The type with a name. -/
def ofName? (name : String) : Option ColumnType := all.find? fun t => t.name == name

/-- Dates and times. -/
def isTemporal : ColumnType → Bool
  | .date | .datetime => true
  | _ => false

/-- Whole and other numbers. -/
def isNumeric : ColumnType → Bool
  | .integer | .float => true
  | _ => false

end ColumnType

instance : Wire ColumnType where
  encode t := .string t.name
  decode? j := (Wire.variant? j).bind ColumnType.ofName?

/-- A column of a table. -/
structure Column where
  name : String
  /-- The name that people see. -/
  friendlyName : String
  type : ColumnType
  deriving DecidableEq, Repr

/-- A column that people see under its own name. -/
def Column.plain (name : String) (type : ColumnType) : Column := ⟨name, name, type⟩

instance : Wire Column where
  encode c := .object [
    ("friendlyName", .string c.friendlyName),
    ("name", .string c.name),
    ("type", Wire.encode c.type)]
  decode? j := do
    let f ← Fields.of? 3 j
    return ⟨← f.required 0 "name", ← f.required 1 "friendlyName", ← f.required 2 "type"⟩

/-! ### Tables -/

/-- A row: cells by column name. -/
structure Row where
  cells : JsonFields

namespace Row

/-- The cell of a column, if the row has one. -/
def cell? (row : Row) (column : String) : Option Json := row.cells.lookup column

/-- The row with a cell set. -/
def set (row : Row) (column : String) (value : Json) : Row :=
  ⟨row.cells.insert column value⟩

end Row

instance : Wire Row where
  encode row := .object row.cells
  decode?
    | .object cells => some ⟨cells⟩
    | _ => none

/-- Columns and rows. -/
structure Table where
  columns : List Column
  rows : List Row
  /-- Which kind of query a time series backend ran. -/
  queryType : Option String

namespace Table

/-- A table without a kind of query. -/
def of (columns : List Column) (rows : List Row) : Table := ⟨columns, rows, none⟩

/-- No columns and no rows. -/
def empty : Table := of [] []

/-- The first column with a name. -/
def column? (t : Table) (name : String) : Option Column := t.columns.find? (·.name == name)

/-- Whether there are no rows. -/
def isEmpty (t : Table) : Bool := t.rows.isEmpty

end Table

instance : Wire Table where
  encode t := .withPresent [
    ("columns", some (Wire.encode t.columns)),
    ("queryType", t.queryType.map .string),
    ("rows", some (Wire.encode t.rows))]
  decode? j := do
    let f ← Fields.of? 3 j
    return ⟨← f.required 0 "columns", ← f.required 1 "rows",
      ← f.orDefault 2 "queryType" none⟩

end QueryDispatch
