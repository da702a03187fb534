import QueryDispatch.Data.TableSchema
import QueryDispatch.Runner.Options
import QueryDispatch.Warehouse.ResultSet

/-! # The warehouse runner

  Every statement has a session of its own, which is closed whatever comes of
  the statement. How a session is opened is up to a connector.
-/

namespace QueryDispatch

/-! ### Settings -/

/-- Where the warehouse is, and who asks. -/
structure WarehouseSettings where
  host : String
  port : UInt16
  user : String
  password : String
  /-- Whether the connection is encrypted. -/
  encrypted : Bool
  deriving DecidableEq

instance : Wire WarehouseSettings where
  encode s := .object [
    ("encrypted", .bool s.encrypted),
    ("host", .string s.host),
    ("password", .string s.password),
    ("port", Wire.encode s.port),
    ("user", .string s.user)]
  decode? j := do
    let f ← Fields.of? 5 j
    return ⟨← f.required 0 "host", ← f.orDefault 1 "port" 8563, ← f.required 2 "user",
      ← f.required 3 "password", ← f.orDefault 4 "encrypted" true⟩

namespace WarehouseSettings

/-- The description of the options. -/
def schema : OptionsSchema where
  type := "object"
  properties := [
    ("encrypted", .titled .boolean "Enable SSL Encryption"),
    ("host", .of .string),
    ("password", .of .string),
    ("port", { OptionDescription.of .number with default := some (.int 8563) }),
    ("user", .of .string)]
  required := ["host", "port", "user", "password"]
  secret := ["password"]
  order := ["host", "port", "user", "password", "encrypted"]
  extra := []

/-- The settings that options give, once they are checked. -/
def ofOptions (options : Json) : Except RunnerError WarehouseSettings := do
  (schema.check options).mapError .configuration
  match Wire.decode? options with
  | some settings => return settings
  | none => throw (.configuration .unreadable)

end WarehouseSettings

/-! ### Sessions -/

/-- Something that may fail and works on a state. -/
abbrev Talk (σ α : Type) := σ → Except RunnerError α × σ

/-- How sessions are opened, used and closed. The state is what all sessions work on. -/
structure Connector (σ : Type) where
  connect : WarehouseSettings → Talk σ Unit
  execute : String → Talk σ ResultSet
  close : Talk σ Unit

namespace Warehouse

variable {σ : Type}

/-- Executes a statement in a session of its own. A failure to close it is no failure. -/
def execute (connector : Connector σ) (settings : WarehouseSettings) (statement : String) :
    Talk σ ResultSet := fun s =>
  match connector.connect settings s with
  | (.error e, s) => (.error e, s)
  | (.ok (), s) =>
    let (result, s) := connector.execute statement s
    (result, (connector.close s).2)

/-- Runs a query and maps its rows. -/
def run (connector : Connector σ) (settings : WarehouseSettings) (query : String) :
    Talk σ Table := fun s =>
  let (result, s) := execute connector settings query s
  (do (← result).table.mapError .format, s)

/-! ### Browsing and testing -/

/-- The statement that lists all columns of all tables. -/
def catalogStatement : String :=
  "SELECT COLUMN_SCHEMA, COLUMN_TABLE, COLUMN_NAME FROM EXA_ALL_COLUMNS"

/-- A statement that asks for nothing. -/
def emptyStatement : String := "SELECT 1 FROM DUAL"

/-- Adds a column to its table, at the place that the order of names gives it. -/
def addTo (tables : List TableSchema) (name column : String) : List TableSchema :=
  match tables with
  | [] => [⟨name, [column]⟩]
  | t :: rest =>
    if name < t.name then ⟨name, [column]⟩ :: t :: rest
    else if name = t.name then { t with columns := t.columns ++ [column] } :: rest
    else t :: addTo rest name column

/-- Adds a row of the catalog: schema, table and column, a cell that is no text being empty. -/
def addRow (tables : List TableSchema) (row : List Json) :
    Except FormatFault (List TableSchema) :=
  match row.map fun cell => cell.asString?.getD "" with
  | [schema, table, column] => .ok (addTo tables (schema ++ "." ++ table) column)
  | _ => .error .catalog

/-- The tables that the rows of the catalog describe. -/
def tablesOf (rows : List (List Json)) : Except FormatFault (List TableSchema) :=
  rows.foldlM addRow []

/-- Lists the tables with their columns. -/
def tables (connector : Connector σ) (settings : WarehouseSettings) :
    Talk σ (List TableSchema) := fun s =>
  let (result, s) := execute connector settings catalogStatement s
  (do (tablesOf (← result).rows).mapError .format, s)

/-- Tests whether statements can be executed. -/
def test (connector : Connector σ) (settings : WarehouseSettings) : Talk σ Unit := fun s =>
  let (result, s) := execute connector settings emptyStatement s
  (result.map fun _ => (), s)

end Warehouse

end QueryDispatch
