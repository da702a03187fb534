import QueryDispatch.Config
import QueryDispatch.Parameter.Binding
import QueryDispatch.Runner.Registry
import QueryDispatch.Store.Basic

/-! # Errors of requests

  Why a request is not answered with a result or a job.
-/

namespace QueryDispatch

/-- Why the data source of a request cannot be used. -/
inductive Unavailable where
  | absent
  | paused (name : String) (reason : Option String)
  deriving DecidableEq, Repr

/-- The wording of a reason. -/
def Unavailable.message : Unavailable → String
  | .absent => "Target data source is not available."
  | .paused name none => name ++ " is paused. Please try again later."
  | .paused name (some reason) =>
    name ++ " is paused (" ++ reason ++ "). Please try again later."

/-- Why a request fails. -/
inductive DispatchError where
  | unavailable (reason : Unavailable)
  | parameter (error : ParameterError)
  /-- Declared parameters without a value. -/
  | missing (names : List String)
  /-- A query that may show other queries' data, for someone who may not see it. -/
  | unsafeQuery
  | noSuchJob (id : JobId)
  | runner (error : RunnerError)
  | registry (error : RegistryError)
  | store (error : StoreError)
  /-- No job is taken any more. -/
  | closed
  | config (error : ConfigError)

/-- The name of the kind of an error. -/
def DispatchError.kind : DispatchError → String
  | .unavailable _ => "DataSourceUnavailable"
  | .parameter error => "Parameter." ++ error.kind
  | .missing _ => "MissingParameters"
  | .unsafeQuery => "UnsafeQuery"
  | .noSuchJob _ => "JobNotFound"
  | .runner error => "Runner." ++ error.kind
  | .registry error => "Registry." ++ error.kind
  | .store _ => "Store"
  | .closed => "DispatcherClosed"
  | .config _ => "Config"

/-- The wording of an error. -/
def DispatchError.message : DispatchError → String
  | .unavailable reason => reason.message
  | .parameter error => error.message
  | .missing names => "Missing parameter value for: " ++ ", ".intercalate names
  | .unsafeQuery => "This query contains potentially unsafe parameters and cannot be executed " ++
      "with restricted access."
  | .noSuchJob id => "Job " ++ id.value.text ++ " not found"
  | .runner error => error.message
  | .registry error => error.message
  | .store error => "Storage error: " ++ error.message
  | .closed => "Dispatcher is shut down"
  | .config error => "Invalid configuration: " ++ error.message

end QueryDispatch
