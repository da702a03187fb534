import QueryDispatch.Json.Wire
import QueryDispatch.Runner.Error

/-! # Connection options

  Each type of runner describes its connection options, for forms and for
  checking: which options there are and of what type, which are required,
  which are secret.
-/

namespace QueryDispatch

/-! ### Descriptions -/

/-- The types of options. -/
inductive OptionType where
  | string
  | number
  | boolean
  deriving DecidableEq, Repr

namespace OptionType

/-- All types. -/
def all : List OptionType := [.string, .number, .boolean]

/-- The name of a type. -/
def name : OptionType → String
  | .string => "string"
  | .number => "number"
  | .boolean => "boolean"

/-- Whether a value is of a type. -/
def accepts : OptionType → Json → Bool
  | .string, .string _ => true
  | .number, .number _ => true
  | .boolean, .bool _ => true
  | _, _ => false

end OptionType

instance : Wire OptionType where
  encode t := .string t.name
  decode? j := (Wire.variant? j).bind fun name => OptionType.all.find? (·.name == name)

/-- The description of one option. -/
structure OptionDescription where
  type : OptionType
  title : Option String
  /-- The value that a form starts with. -/
  default : Option Json

namespace OptionDescription

/-- An option of a type. -/
def of (type : OptionType) : OptionDescription := ⟨type, none, none⟩

/-- An option with a title. -/
def titled (type : OptionType) (title : String) : OptionDescription := ⟨type, some title, none⟩

end OptionDescription

instance : Wire OptionDescription where
  encode d := .withPresent [
    ("default", d.default),
    ("title", d.title.map .string),
    ("type", some (Wire.encode d.type))]
  decode? j := do
    let f ← Fields.of? 3 j
    return ⟨← f.required 0 "type", ← f.orDefault 1 "title" none, ← f.orDefault 2 "default" none⟩

/-- The description of all options of a runner. -/
structure OptionsSchema where
  /-- The JSON type of the options as a whole. -/
  type : String
  /-- Descriptions by name, in the order of names. -/
  properties : List (String × OptionDescription)
  required : List String
  secret : List String
  /-- The order in which a form shows the options. -/
  order : List String
  /-- Options that a form may hide at first. -/
  extra : List String

namespace OptionsSchema

/-- Whether an option is secret. -/
def isSecret (schema : OptionsSchema) (name : String) : Bool := schema.secret.contains name

/-! ### Checking -/

/-- The value given for an option; `null` counts as absent. -/
def given? (options : JsonFields) (name : String) : Option Json :=
  (options.lookup name).bind fun value => if value.isNull then none else some value

/-- The required options that are not given. -/
def missing (schema : OptionsSchema) (options : JsonFields) : List String :=
  schema.required.filter fun name => (given? options name).isNone

/-- Whether a value may be given for an option; anything may be for one that is not described. -/
def fits (schema : OptionsSchema) (name : String) (value : Json) : Bool :=
  match schema.properties.lookup name with
  | some d => value.isNull || d.type.accepts value
  | none => true

/-- The first option, in the order of names, whose value does not fit, with its type. -/
def misfit? (schema : OptionsSchema) (options : JsonFields) : Option (String × OptionType) :=
  options.findSome? fun (name, value) =>
    if schema.fits name value then none
    else (schema.properties.lookup name).map fun d => (name, d.type)

/-- Checks options: an object or nothing, all that is required, each described one of its type. -/
def check (schema : OptionsSchema) (options : Json) : Except ConfigurationFault Unit :=
  let checkFields (fields : JsonFields) : Except ConfigurationFault Unit :=
    let missing := schema.missing fields
    if !missing.isEmpty then .error (.missing missing)
    else match schema.misfit? fields with
      | some (name, type) => .error (.optionType name type.name)
      | none => .ok ()
  match options with
  | .object fields => checkFields fields
  | .null => checkFields []
  | _ => .error .notObject

/-! ### Display -/

/-- What is shown in place of a secret. -/
def mask : Json := .string "--------"

/-- The options with a mask in place of every secret that is given. -/
def masked (schema : OptionsSchema) : Json → Json
  | .object fields => .object (fields.map fun (name, value) =>
      (name, if schema.isSecret name && !value.isNull then mask else value))
  | options => options

end OptionsSchema

/-- A list, or nothing for an empty one. -/
def Json.nonemptyStrings (texts : List String) : Option Json :=
  if texts.isEmpty then none else some (.strings texts)

instance : Wire OptionsSchema where
  encode s := .withPresent [
    ("extraOptions", Json.nonemptyStrings s.extra),
    ("order", Json.nonemptyStrings s.order),
    ("properties", some (.object (s.properties.map fun (name, d) => (name, Wire.encode d)))),
    ("required", some (.strings s.required)),
    ("secret", some (.strings s.secret)),
    ("type", some (.string s.type))]
  decode? j := do
    let f ← Fields.of? 6 j
    return ⟨← f.required 0 "type", ← (f.find? 1 "properties").bind Wire.named?,
      ← f.orDefault 2 "required" [], ← f.orDefault 3 "secret" [], ← f.orDefault 4 "order" [],
      ← f.orDefault 5 "extraOptions" []⟩

end QueryDispatch
