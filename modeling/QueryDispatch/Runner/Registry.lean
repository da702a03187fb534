import QueryDispatch.Data.Assoc
import QueryDispatch.Runner.Basic

/-! # The registry of runners

  Runner types by name. A name is registered once and stays.
-/

namespace QueryDispatch

/-- The entry of a runner type. -/
structure Descriptor where
  type : String
  /-- The name that people see. -/
  name : String
  schema : OptionsSchema
  /-- Builds a runner from the connection options of a data source. -/
  build : Json → Except RunnerError Runner

/-- Why the registry refuses. -/
inductive RegistryError where
  | duplicate (type : String)
  | unknownType (type : String)
  /-- The runner could not be built. -/
  | build (error : RunnerError)
  deriving Repr

/-- The name of the kind of an error. -/
def RegistryError.kind : RegistryError → String
  | .duplicate _ => "Duplicate"
  | .unknownType _ => "UnknownType"
  | .build error => "Build." ++ error.kind

/-- The wording of an error. -/
def RegistryError.message : RegistryError → String
  | .duplicate type => "Query runner \"" ++ type ++ "\" is already registered"
  | .unknownType type => "Unknown query runner type \"" ++ type ++ "\""
  | .build error => "Failed to build query runner: " ++ error.message

/-- Runner types by name. -/
structure Registry where
  descriptors : Assoc String Descriptor

namespace Registry

/-- No runner types. -/
def empty : Registry := ⟨[]⟩

/-- The entry of a type. -/
def get? (r : Registry) (type : String) : Option Descriptor := r.descriptors.find? type

/-- Whether a type is registered. -/
def contains (r : Registry) (type : String) : Bool := (r.get? type).isSome

/-- Registers a type whose name is free. -/
def register (r : Registry) (d : Descriptor) : Except RegistryError Registry :=
  if r.contains d.type then .error (.duplicate d.type) else .ok ⟨r.descriptors.put d.type d⟩

/-- The registered types, sorted. -/
def types (r : Registry) : List String :=
  r.descriptors.keys.mergeSort fun a b => decide (a ≤ b)

/-- The entry of a type that has to be there. -/
def find (r : Registry) (type : String) : Except RegistryError Descriptor :=
  match r.get? type with
  | some d => .ok d
  | none => .error (.unknownType type)

/-- The options of a type. -/
def schema (r : Registry) (type : String) : Except RegistryError OptionsSchema :=
  (r.find type).map (·.schema)

/-- Checks options against the description of a type. -/
def check (r : Registry) (type : String) (options : Json) : Except RegistryError Unit := do
  ((← r.schema type).check options).mapError fun fault => .build (.configuration fault)

/-- Builds a runner of a type. -/
def build (r : Registry) (type : String) (options : Json) : Except RegistryError Runner := do
  ((← r.find type).build options).mapError .build

end Registry

end QueryDispatch
