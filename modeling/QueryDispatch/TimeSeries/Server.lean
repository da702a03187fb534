import QueryDispatch.Data.TableSchema
import QueryDispatch.Json.Reader
import QueryDispatch.Runner.Certificate
import QueryDispatch.Runner.Options
import QueryDispatch.TimeSeries.QueryText
import QueryDispatch.TimeSeries.Samples

/-! # The time series runner

  A time series server is asked over HTTP and answers in JSON. Queries always
  go to the endpoint for ranges; the kind of query that the table reports
  depends only on whether the query text gives a step.
-/

namespace QueryDispatch

/-! ### Settings -/

/-- Where the server is, and the certificates for it. -/
structure ServerSettings where
  url : String
  /-- Whether the server's certificate is verified, if no root certificate is given. -/
  verifies : Bool
  certificate : Option String
  key : Option String
  ca : Option String
  deriving DecidableEq

instance : Wire ServerSettings where
  encode s := .object [
    ("ca_cert_File", Wire.encode s.ca),
    ("cert_File", Wire.encode s.certificate),
    ("cert_key_File", Wire.encode s.key),
    ("url", .string s.url),
    ("verify_ssl", .bool s.verifies)]
  decode? j := do
    let f ← Fields.of? 5 j
    return ⟨← f.required 0 "url", ← f.orDefault 1 "verify_ssl" true,
      ← f.orDefault 2 "cert_File" none, ← f.orDefault 3 "cert_key_File" none,
      ← f.orDefault 4 "ca_cert_File" none⟩

namespace ServerSettings

/-- The description of the options. -/
def schema : OptionsSchema where
  type := "object"
  properties := [
    ("ca_cert_File", .titled .string "SSL Root Certificate"),
    ("cert_File", .titled .string "SSL Client Certificate"),
    ("cert_key_File", .titled .string "SSL Client Key"),
    ("url", .titled .string "Prometheus API URL"),
    ("verify_ssl", ⟨.boolean, some "Verify SSL (ignored if CA certificate is provided)",
      some (.bool true)⟩)]
  required := ["url"]
  secret := ["cert_File", "cert_key_File", "ca_cert_File"]
  order := []
  extra := ["verify_ssl", "cert_File", "cert_key_File", "ca_cert_File"]

/-- The settings that options give, once they are checked. -/
def ofOptions (options : Json) : Except RunnerError ServerSettings := do
  (schema.check options).mapError .configuration
  match Wire.decode? options with
  | some settings => return settings
  | none => throw (.configuration .unreadable)

/-- The address of an endpoint. -/
def endpoint (s : ServerSettings) (path : String) : String :=
  String.ofList (Text.dropEndWhile (· == '/') s.url.toList) ++ path

/-- Decodes the certificates and checks that a client can work with them. -/
def certificates (s : ServerSettings) : Except RunnerError CertificateSet :=
  (do
    let set ← CertificateSet.decode s.ca s.certificate s.key
    set.checkClient
    return set).mapError .configuration

end ServerSettings

/-! ### Requests -/

/-- A request for what is at an address. -/
structure HttpRequest where
  url : String
  params : Parameters
  deriving DecidableEq, Repr

/-- The address with its parameters. -/
def HttpRequest.address (r : HttpRequest) : String :=
  if r.params.isEmpty then r.url
  else r.url ++ "?" ++ String.ofList (FormData.write r.params)

/-- An answer. -/
structure HttpResponse where
  status : Nat
  reason : String
  body : String
  deriving DecidableEq, Repr

/-- How requests are answered. -/
abbrev Exchange := HttpRequest → Except TransportFault HttpResponse

namespace TimeSeries

/-- Asks for an answer that is no failure. -/
def ask (exchange : Exchange) (request : HttpRequest) : Except RunnerError HttpResponse := do
  let response ← (exchange request).mapError .transport
  if 400 ≤ response.status ∧ response.status < 600 then
    throw (.transport (.httpStatus response.status response.reason request.address))
  return response

/-- The field `data` of an answer. -/
def dataOf? {α : Type} (decode : Json → Option α) (body : String) : Option α := do
  let f ← Fields.of? 1 (← Json.read? body)
  decode (← f.find? 0 "data")

/-- The series in the data of an answer. -/
def series? (data : Json) : Option (List Json) := do
  let f ← Fields.of? 1 data
  f.orDefault 0 "result" []

/-- The data of an answer, in the form that is expected. -/
def expect {α : Type} (decode : Json → Option α) (response : HttpResponse) :
    Except RunnerError α :=
  match dataOf? decode response.body with
  | some a => .ok a
  | none => .error (.format .unreadable)

/-- The path of the endpoint for ranges. -/
def rangePath : String := "/api/v1/query_range"

/-- The path of the endpoint for metric names. -/
def namesPath : String := "/api/v1/label/__name__/values"

/-- Runs a query text at an instant. The text is resolved before anything else. -/
def run (exchange : Exchange) (settings : ServerSettings) (query : String) (now : Instant) :
    Except RunnerError Table := do
  let resolved ← (ResolvedQuery.of query now).mapError .format
  let _ ← settings.certificates
  let response ← ask exchange ⟨settings.endpoint rangePath, resolved.params⟩
  let table ← Series.table (← expect series? response)
  return { table with queryType := some resolved.queryType }

/-- The list without items that repeat the one before them. -/
def dropRepeats : List String → List String
  | [] => []
  | [x] => [x]
  | x :: y :: rest => if x = y then dropRepeats (y :: rest) else x :: dropRepeats (y :: rest)

/-- Lists the metrics. -/
def metrics (exchange : Exchange) (settings : ServerSettings) :
    Except RunnerError (List TableSchema) := do
  let _ ← settings.certificates
  let response ← ask exchange ⟨settings.endpoint namesPath, []⟩
  let names ← expect Wire.decode? response
  return (dropRepeats names).map TableSchema.bare

/-- Tests whether the server answers. -/
def test (exchange : Exchange) (settings : ServerSettings) : Except RunnerError Unit := do
  let _ ← settings.certificates
  let _ ← ask exchange ⟨settings.url, []⟩
  return ()

end TimeSeries

end QueryDispatch
