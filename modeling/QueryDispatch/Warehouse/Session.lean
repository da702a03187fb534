import QueryDispatch.Warehouse.Connector
import QueryDispatch.Warehouse.Protocol

/-! # Sessions over a line

  A session is a line to the warehouse: commands go out, frames come in. The
  frames that the peer sends are all there from the start, in order; what the
  client sends is recorded. Rows that the reply to an execution leaves out are
  fetched until the declared number is reached, and their handle is closed.
-/

namespace QueryDispatch

/-! ### Lines -/

/-- What a peer sends. -/
inductive Frame where
  | text (content : String)
  | binary (content : List UInt8)
  /-- A sign of life, which is passed over. -/
  | ping
  | close
  deriving DecidableEq, Repr

/-- A line: the frames still to come, and the commands sent, in order. -/
structure Line where
  frames : List Frame
  sent : List Command
  deriving DecidableEq, Repr

namespace Line

/-- Reads the JSON of a frame. -/
def readText (text : String) : Except RunnerError Json :=
  match Json.read? text with
  | some j => .ok j
  | none => .error (.format .unreadable)

/-- Reads the JSON of a frame of bytes. -/
def readBytes (bytes : List UInt8) : Except RunnerError Json :=
  if Text.isUtf8 bytes then readText (String.ofList (Text.readUtf8 bytes))
  else .error (.format .unreadable)

/-- Waits for a reply: the first frame that is none but a sign of life. The end of the frames closes
    the line, and a closed line stays closed. -/
def receive : List Frame → Except RunnerError Json × List Frame
  | [] => (.error (.transport .closed), [])
  | .text content :: rest => (readText content, rest)
  | .binary content :: rest => (readBytes content, rest)
  | .ping :: rest => receive rest
  | .close :: _ => (.error (.transport .closed), [])

/-- A reply takes at least one frame. -/
theorem length_receive {frames : List Frame} {j : Json} (h : (receive frames).1 = .ok j) :
    (receive frames).2.length < frames.length := by
  induction frames with
  | nil => simp [receive] at h
  | cons frame rest ih =>
    cases frame with
    | text content => simp [receive]
    | binary content => simp [receive]
    | ping =>
      have := ih (by simpa [receive] using h)
      simp only [receive, List.length_cons]
      omega
    | close => simp [receive] at h

/-- Sends a command and waits for the data of its reply. -/
def command (line : Line) (c : Command) : Except RunnerError Json × Line :=
  let (reply, frames) := receive line.frames
  (do Reply.data (← reply), ⟨frames, line.sent ++ [c]⟩)

theorem length_command {line : Line} {c : Command} {j : Json}
    (h : (line.command c).1 = .ok j) :
    (line.command c).2.frames.length < line.frames.length := by
  simp only [command] at h ⊢
  cases hr : (receive line.frames).1 with
  | error e => rw [hr] at h; exact absurd h (by simp [bind, Except.bind])
  | ok body => exact length_receive hr

/-! ### Logging in -/

/-- What a client needs besides the settings: its name, and noise for encrypting. -/
structure Client where
  name : ClientName
  noise : Nat → UInt8

/-- Logs in: asks for the key, and sends the user with the encrypted password. A refusal is a
    failure of the connection, not of a query. -/
def login (client : Client) (settings : WarehouseSettings) (line : Line) :
    Except RunnerError Unit × Line :=
  match line.command .login with
  | (.error e, line) => (.error e, line)
  | (.ok data, line) =>
    match Reply.loginKey? data with
    | none => (.error (.format .unreadable), line)
    | some key =>
      match encryptPassword key client.noise settings.password with
      | .error fault => (.error (.format fault), line)
      | .ok password =>
        match line.command (.credentials settings.user password client.name) with
        | (.ok _, line) => (.ok (), line)
        | (.error (.query text), line) => (.error (.transport (.loginRefused text)), line)
        | (.error e, line) => (.error e, line)

/-! ### Executing -/

/-- Fetches rows from a position on until `total` are there, and then closes their handle. -/
def fetchRest (handle : Int64) (total position : UInt64) (data : List (List Json))
    (line : Line) : Except RunnerError (List (List Json)) × Line :=
  if position < total then
    match _h : line.command (.fetch handle position) with
    | (.error e, line) => (.error e, line)
    | (.ok reply, rest) =>
      match Reply.chunk? reply with
      | none => (.error (.format .unreadable), rest)
      | some chunk =>
        if chunk.rowCount = 0 then
          (.error (.format (.endedEarly position.toNat total.toNat)), rest)
        else match Reply.extend data chunk.data with
          | .error fault => (.error (.format fault), rest)
          | .ok data => fetchRest handle total (position + chunk.rowCount) data rest
  else
    match line.command (.closeResultSet handle) with
    | (.error e, line) => (.error e, line)
    | (.ok _, line) => (.ok data, line)
termination_by line.frames.length
decreasing_by
  have hrest : (line.command (.fetch handle position)).2 = rest := by rw [_h]
  rw [← hrest]
  exact length_command (by rw [_h])

/-- How many rows the cells of the first column are. -/
def rowsSoFar (data : List (List Json)) : UInt64 :=
  UInt64.ofNat ((data.head?.map List.length).getD 0)

/-- Executes a statement. One that gives no rows has an empty result set. -/
def execute (statement : String) (line : Line) : Except RunnerError ResultSet × Line :=
  match line.command (.execute statement) with
  | (.error e, line) => (.error e, line)
  | (.ok data, line) =>
    match Reply.resultSet? data with
    | none => (.error (.format .unreadable), line)
    | some none => (.ok ResultSet.empty, line)
    | some (some set) =>
      let (data, line) := match set.handle with
        | some handle => fetchRest handle set.rowCount (rowsSoFar set.data) set.data line
        | none => (.ok set.data, line)
      (do (ResultSet.ofColumns set.columns (← data)).mapError .format, line)

/-- Says goodbye. -/
def disconnect (line : Line) : Except RunnerError Unit × Line :=
  let (reply, line) := line.command .disconnect
  (reply.map fun _ => (), line)

end Line

/-! ### The connector -/

/-- Sessions over a line that is dialed anew for each: the address is checked, and `dial` gives the
    frames of the peer. -/
def Connector.overLine (client : Line.Client)
    (dial : WarehouseSettings → Except TransportFault (List Frame)) : Connector Line where
  connect settings line :=
    match Address.check (settings.host.toList ++ ':' :: natText settings.port.toNat) with
    | .error fault => (.error (.configuration (.host fault)), line)
    | .ok () =>
      match dial settings with
      | .error fault => (.error (.transport fault), line)
      | .ok frames => Line.login client settings { line with frames }
  execute := Line.execute
  close := Line.disconnect

end QueryDispatch
