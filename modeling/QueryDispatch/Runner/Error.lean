import QueryDispatch.Encoding.Base64
import QueryDispatch.Json.Printer
import QueryDispatch.Net.Address

/-! # Runner errors

  Why a backend gave no rows. An error belongs to one of six kinds, and the
  kind says who has to act: the network, the backend's answer, the query, or
  the settings. Errors are kept with the job and shown to the user; nothing
  is tried again.
-/

namespace QueryDispatch

/-! ### Causes -/

/-- A failure on the way to the backend. -/
inductive TransportFault where
  /-- No answer came at all. -/
  | unreachable
  /-- An answer with a failure status. -/
  | httpStatus (code : Nat) (reason : String) (url : String)
  /-- The session's peer went away. -/
  | closed
  | loginRefused (text : String)
  | other (text : String)
  deriving DecidableEq, Repr

/-- The wording of a failure; statuses from 500 on are the server's fault. -/
def TransportFault.message : TransportFault → String
  | .unreachable => "the peer cannot be reached"
  | .httpStatus code reason url =>
    "HTTP status " ++ (if code < 500 then "client" else "server") ++ " error (" ++
      String.ofList (natText code) ++ " " ++ reason ++ ") for url (" ++ url ++ ")"
  | .closed => "Exasol closed the connection"
  | .loginRefused text => "Exasol login failed: " ++ text
  | .other text => text

/-- An answer, or a part of a request, that cannot be understood. -/
inductive FormatFault where
  /-- JSON of an unexpected shape. -/
  | unreadable
  | duration (text : String)
  | timeRange (text : String)
  | resultShape
  | noValues
  | noValue
  | sample (value : Json)
  | sampleTime (value : Json)
  | sampleTimeRange (seconds : Double)
  | notText (value : Json)
  | notInteger (value : Json)
  | notNumber (value : Json)
  | dateTime (text : String)
  | date (text : String)
  | fraction (text : String)
  | timestamp (text : String)
  | columnCount (declared returned : Nat)
  | ragged
  | catalog
  | status (text : String)
  | fetchColumns (returned expected : Nat)
  | endedEarly (position total : Nat)
  | loginKey
  | passwordLength
  | other (text : String)
  deriving Repr

/-- The wording of a fault. -/
def FormatFault.message : FormatFault → String
  | .unreadable => "not the expected JSON"
  | .duration text => "invalid duration \"" ++ text ++ "\""
  | .timeRange text => "time \"" ++ text ++ "\" is out of range"
  | .resultShape => "unknown Prometheus result shape"
  | .noValues => "series without values"
  | .noValue => "series without value"
  | .sample value => "malformed sample " ++ value.text
  | .sampleTime value => "bad sample time " ++ value.text
  | .sampleTimeRange seconds => "sample time " ++ Layout.plain.render seconds ++ " out of range"
  | .notText value => "expected a string, got " ++ value.text
  | .notInteger value => value.text ++ " is not an integer"
  | .notNumber value => value.text ++ " is not a number"
  | .dateTime text => "malformed date/time value \"" ++ text ++ "\""
  | .date text => "invalid date \"" ++ text ++ "\""
  | .fraction text => "malformed fraction in \"" ++ text ++ "\""
  | .timestamp text => "invalid timestamp \"" ++ text ++ "\""
  | .columnCount declared returned =>
    String.ofList (natText declared) ++ " columns declared but " ++
      String.ofList (natText returned) ++ " returned"
  | .ragged => "ragged result set"
  | .catalog => "expected three catalog columns"
  | .status text => "status \"" ++ text ++ "\""
  | .fetchColumns returned expected =>
    "fetch returned " ++ String.ofList (natText returned) ++ " columns, expected " ++
      String.ofList (natText expected)
  | .endedEarly position total =>
    "result set ended after " ++ String.ofList (natText position) ++ " of " ++
      String.ofList (natText total) ++ " rows"
  | .loginKey => "invalid login key"
  | .passwordLength => "cannot encrypt password: message too long"
  | .other text => text

/-- The three pieces of certificate material. -/
inductive Credential where
  | ca
  | certificate
  | key
  deriving DecidableEq, Repr

/-- What people call a piece. -/
def Credential.name : Credential → String
  | .ca => "CA certificate"
  | .certificate => "client certificate"
  | .key => "client key"

/-- Settings that cannot be used. -/
inductive ConfigurationFault where
  | notObject
  | missing (options : List String)
  | optionType (option type : String)
  /-- Options of an unexpected shape. -/
  | unreadable
  | base64 (credential : Credential) (fault : Base64Fault)
  | clientCertificate
  /-- Certificate material that the client cannot work with. -/
  | client
  | host (fault : AddressFault)
  | other (text : String)
  deriving DecidableEq, Repr

/-- The wording of a fault. -/
def ConfigurationFault.message : ConfigurationFault → String
  | .notObject => "options must be an object"
  | .missing options => "missing required options: " ++ ", ".intercalate options
  | .optionType option type => "option \"" ++ option ++ "\" must be a " ++ type
  | .unreadable => "not the expected options"
  | .base64 credential fault => credential.name ++ " is not valid base64: " ++ fault.message
  | .clientCertificate => "invalid client certificate"
  | .client => "unusable certificates"
  | .host fault => "invalid host: " ++ fault.message
  | .other text => text

/-! ### Errors -/

/-- Why a runner failed. -/
inductive RunnerError where
  | transport (fault : TransportFault)
  | format (fault : FormatFault)
  /-- The backend answered without any series. -/
  | emptyResult (text : String)
  /-- The backend refused the statement. -/
  | query (text : String)
  | configuration (fault : ConfigurationFault)
  | io (text : String)
  deriving Repr

namespace RunnerError

/-- The name of the kind of an error. -/
def kind : RunnerError → String
  | .transport _ => "Transport"
  | .format _ => "Format"
  | .emptyResult _ => "EmptyResult"
  | .query _ => "Query"
  | .configuration _ => "Configuration"
  | .io _ => "Io"

/-- An answer without any series. -/
def noSeries : RunnerError := .emptyResult "Query returned empty result."

/-- The wording of an error. -/
def message : RunnerError → String
  | .transport fault => fault.message
  | .format fault => "Unexpected response format: " ++ fault.message
  | .emptyResult text => text
  | .query text => text
  | .configuration fault => "Invalid configuration: " ++ fault.message
  | .io text => "I/O error: " ++ text

end RunnerError

end QueryDispatch
