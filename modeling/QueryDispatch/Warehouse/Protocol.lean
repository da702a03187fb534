import QueryDispatch.Json.Reader
import QueryDispatch.Warehouse.LoginKey
import QueryDispatch.Warehouse.ResultSet

/-! # Commands and replies

  The warehouse is spoken to in JSON: the client sends commands, and each gets
  one reply with a status. A reply that is not in order is an error of the
  query, with the server's text, or of the format.
-/

namespace QueryDispatch

/-! ### Commands -/

/-- Who the client says it is. -/
structure ClientName where
  name : String
  version : String
  deriving DecidableEq, Repr

/-- What a client asks for. -/
inductive Command where
  /-- Asks for the key that encrypts the password. -/
  | login
  | credentials (user password : String) (client : ClientName)
  | execute (statement : String)
  /-- Asks for more rows from a position on. -/
  | fetch (handle : Int64) (position : UInt64)
  | closeResultSet (handle : Int64)
  | disconnect
  deriving DecidableEq, Repr

namespace Command

/-- The version of the protocol. -/
def protocolVersion : Nat := 3

/-- How many bytes one reply to a fetch may have. -/
def fetchBytes : Nat := 5 * 1024 * 1024

/-- The form in which a command is sent. -/
def toJson : Command → Json
  | .login => .record [("command", .string "login"), ("protocolVersion", .nat protocolVersion)]
  | .credentials user password client => .record [
      ("username", .string user),
      ("password", .string password),
      ("useCompression", .bool false),
      ("clientName", .string client.name),
      ("clientVersion", .string client.version),
      ("attributes", .record [("autocommit", .bool true)])]
  | .execute statement => .record [
      ("command", .string "execute"),
      ("sqlText", .string statement),
      ("attributes", .record [])]
  | .fetch handle position => .record [
      ("command", .string "fetch"),
      ("resultSetHandle", Wire.encode handle),
      ("startPosition", Wire.encode position),
      ("numBytes", .nat fetchBytes)]
  | .closeResultSet handle => .record [
      ("command", .string "closeResultSet"),
      ("resultSetHandles", .array [Wire.encode handle])]
  | .disconnect => .record [("command", .string "disconnect")]

end Command

/-! ### Replies -/

namespace Reply

/-- The text of an exception. -/
def exceptionText? (j : Json) : Option String := do
  let f ← Fields.of? 1 j
  f.required 0 "text"

/-- An exception that may be absent. -/
def exception? : Option Json → Option (Option String)
  | none | some .null => some none
  | some j => (exceptionText? j).map some

/-- The data of a reply whose status is `ok`. The status `error` is the query's fault. -/
def data (body : Json) : Except RunnerError Json :=
  let parsed : Option (String × Option Json × Option String) := do
    let f ← Fields.of? 3 body
    let status ← f.required 0 "status"
    let data ← f.optional 1 "responseData"
    let exception ← match f with
      | .named _ => exception? (f.find? 2 "exception")
      | .positional _ => (f.find? 2 "exception").bind fun j => exception? (some j)
    return (status, data, exception)
  match parsed with
  | none => .error (.format .unreadable)
  | some ("ok", data, _) => .ok (data.getD .null)
  | some ("error", _, exception) => .error (.query (exception.getD "unknown error"))
  | some (status, _, _) => .error (.format (.status status))

/-- The key in the reply to a login. -/
def loginKey? (data : Json) : Option String := do
  let f ← Fields.of? 1 data
  f.required 0 "publicKeyPem"

/-- A result set in a reply, with the handle of the rows that it leaves out. -/
structure SentResultSet where
  handle : Option Int64
  rowCount : UInt64
  columns : List NativeColumn
  data : List (List Json)

instance : Wire SentResultSet where
  encode s := .record [
    ("resultSetHandle", Wire.encode s.handle),
    ("numRows", Wire.encode s.rowCount),
    ("columns", Wire.encode s.columns),
    ("data", Wire.encode s.data)]
  decode? j := do
    let f ← Fields.of? 4 j
    return ⟨← f.optional 0 "resultSetHandle", ← f.orDefault 1 "numRows" 0,
      ← f.required 2 "columns", ← f.orDefault 3 "data" []⟩

/-- The result set of one statement's result, if it has one. -/
def statementResult? (j : Json) : Option (Option SentResultSet) := do
  let f ← Fields.of? 1 j
  f.optional 0 "resultSet"

/-- The result set in the reply to an execution: that of the first result. -/
def resultSet? (data : Json) : Option (Option SentResultSet) := do
  let f ← Fields.of? 1 data
  let results ← f.orDefault 0 "results" ([] : List Json)
  let results ← results.mapM statementResult?
  return results.head?.bind id

/-- Rows that follow. -/
structure Chunk where
  rowCount : UInt64
  data : List (List Json)

/-- The rows in the reply to a fetch. -/
def chunk? (data : Json) : Option Chunk := do
  let f ← Fields.of? 2 data
  return ⟨← f.required 0 "numRows", ← f.orDefault 1 "data" []⟩

/-- Appends the cells of a chunk, column by column. The first cells decide how many columns there
    are. -/
def extend (data more : List (List Json)) : Except FormatFault (List (List Json)) :=
  if data.isEmpty then .ok more
  else if more.length ≠ data.length then .error (.fetchColumns more.length data.length)
  else .ok (List.zipWith (· ++ ·) data more)

end Reply

end QueryDispatch
