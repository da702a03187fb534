import QueryDispatch.Data.Source

/-! # Parameter definitions

  A query template declares its parameters: each has a name and a kind, and
  the kind says which values it takes.
-/

namespace QueryDispatch

/-- How several selected values are written into a query. -/
structure MultiValue where
  /-- What stands before each value. -/
  before : String
  /-- What stands behind each value. -/
  behind : String
  /-- What stands between two values. -/
  separator : String
  deriving DecidableEq, Repr

/-- Values with commas between them. -/
def MultiValue.default : MultiValue := ⟨"", "", ","⟩

instance : Wire MultiValue where
  encode m := .object [
    ("prefix", .string m.before),
    ("separator", .string m.separator),
    ("suffix", .string m.behind)]
  decode? j := do
    let f ← Fields.of? 3 j
    return ⟨← f.orDefault 0 "prefix" MultiValue.default.before,
      ← f.orDefault 1 "suffix" MultiValue.default.behind,
      ← f.orDefault 2 "separator" MultiValue.default.separator⟩

/-- The kinds of parameters. -/
inductive ParameterKind where
  | text
  | number
  /-- One of some given texts, or several of them. -/
  | choice (options : List String) (multi : Option MultiValue)
  /-- One of the values in the latest result of another query, or several of them. -/
  | dropdown (query : QueryId) (multi : Option MultiValue)
  | date
  /-- A date with hour and minute. -/
  | dateMinute
  /-- A date with hour, minute and second. -/
  | dateSecond
  /-- Two dates in order. -/
  | dateRange
  deriving DecidableEq, Repr

namespace ParameterKind

/-- Whether the values come from another query, and so from another owner's data. -/
def isReferential : ParameterKind → Bool
  | .dropdown _ _ => true
  | _ => false

/-- The tags of the kinds, in order. -/
def tags : List String :=
  ["text", "number", "enum", "query", "date", "datetime-local", "datetime-with-seconds",
    "date-range"]

/-- The tag of a kind. -/
def tag : ParameterKind → String
  | .text => "text"
  | .number => "number"
  | .choice _ _ => "enum"
  | .dropdown _ _ => "query"
  | .date => "date"
  | .dateMinute => "datetime-local"
  | .dateSecond => "datetime-with-seconds"
  | .dateRange => "date-range"

/-- The fields of a kind besides its tag. -/
def details : ParameterKind → List (String × Json)
  | .choice options multi =>
    [("enumOptions", .strings options), ("multiValuesOptions", Wire.encode multi)]
  | .dropdown query multi =>
    [("queryId", Wire.encode query), ("multiValuesOptions", Wire.encode multi)]
  | _ => []

/-- The tag that a wire form names: by its text, or by its place in the order of tags. -/
def tagOf? : Json → Option String
  | .string tag => some tag
  | .number (.int i) => if 0 ≤ i then tags[i.toNat]? else none
  | _ => none

/-- The kind that the fields of a definition describe. -/
def ofFields? (fields : JsonFields) : Option ParameterKind := do
  let f := Fields.named fields
  match ← (fields.lookup "type").bind tagOf? with
  | "text" => return .text
  | "number" => return .number
  | "enum" => return .choice (← f.required 0 "enumOptions") (← f.optional 1 "multiValuesOptions")
  | "query" => return .dropdown (← f.required 0 "queryId") (← f.optional 1 "multiValuesOptions")
  | "date" => return .date
  | "datetime-local" => return .dateMinute
  | "datetime-with-seconds" => return .dateSecond
  | "date-range" => return .dateRange
  | _ => none

end ParameterKind

/-- A declared parameter. -/
structure ParameterDefinition where
  name : String
  title : Option String
  kind : ParameterKind
  deriving DecidableEq, Repr

namespace ParameterDefinition

/-- A parameter without a title. -/
def plain (name : String) (kind : ParameterKind) : ParameterDefinition := ⟨name, none, kind⟩

/-- A parameter whose values are given texts. -/
def choice (name : String) (options : List String) : ParameterDefinition :=
  plain name (.choice options none)

/-- A parameter whose values are another query's results. -/
def dropdown (name : String) (query : QueryId) : ParameterDefinition :=
  plain name (.dropdown query none)

end ParameterDefinition

/-- The fields of a kind stand beside the name and the title, so the list form is not accepted. -/
instance : Wire ParameterDefinition where
  encode d := .withPresent ([
      ("name", some (.string d.name)),
      ("title", d.title.map .string),
      ("type", some (.string d.kind.tag))] ++
    d.kind.details.map fun (key, value) => (key, some value))
  decode?
    | .object fields => do
      let f := Fields.named fields
      return ⟨← f.required 0 "name", ← f.optional 1 "title", ← ParameterKind.ofFields? fields⟩
    | _ => none

end QueryDispatch
