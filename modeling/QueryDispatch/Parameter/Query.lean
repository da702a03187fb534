import QueryDispatch.Parameter.Binding
import QueryDispatch.Template

/-! # Parameterized queries

  A template with its declared parameters, the values bound so far, and the
  text that results. Values are bound all or none: if one is rejected the
  query stays as it was. Substitution is plain; a backend that needs escaping
  does it on its own.
-/

namespace QueryDispatch

/-- The values bound to names; of several for a name the first counts. -/
abbrev Bindings := List (String × BoundValue)

/-- The text that a placeholder stands for: a name, or a name and a part behind a point. -/
def Bindings.text? (bindings : Bindings) (placeholder : String) : Option String :=
  match Text.cutAt? ['.'] placeholder.toList with
  | some (name, part) =>
    (bindings.lookup (String.ofList name)).bind (·.part (String.ofList part))
  | none => (bindings.lookup placeholder).bind (·.render)

/-- A query template in the course of being filled in. -/
structure ParameterizedQuery where
  template : String
  definitions : List ParameterDefinition
  bindings : Bindings
  /-- The query text. -/
  text : String
  resolver : Option DropdownResolver

namespace ParameterizedQuery

/-- A query without values: its text is the template. -/
def of (template : String) (definitions : List ParameterDefinition)
    (resolver : Option DropdownResolver) : ParameterizedQuery :=
  ⟨template, definitions, [], template, resolver⟩

/-- The first definition with a name. -/
def definition? (q : ParameterizedQuery) (name : String) : Option ParameterDefinition :=
  q.definitions.find? (·.name == name)

/-- Checks one value. -/
def checkValue (q : ParameterizedQuery) (name : String) (value : Json) :
    Except ParameterError BoundValue :=
  match q.definition? name with
  | none => .error (.invalid name .undeclared)
  | some d => d.kind.check name value q.resolver

/-- Checks values in the order of their names, passing over `null`. -/
def checkValues (q : ParameterizedQuery) : JsonFields → Except ParameterError Bindings
  | [] => .ok []
  | (name, value) :: rest =>
    if value.isNull then q.checkValues rest
    else do
      let bound ← q.checkValue name value
      let others ← q.checkValues rest
      return (name, bound) :: others

/-- The query with other bindings, its text rendered anew. -/
def withBindings (q : ParameterizedQuery) (bindings : Bindings) : ParameterizedQuery :=
  { q with bindings, text := Template.render q.template bindings.text? }

/-- Binds values, all or none. -/
def apply (q : ParameterizedQuery) (values : JsonFields) :
    Except ParameterError ParameterizedQuery := do
  let bound ← q.checkValues values
  return q.withBindings (bound ++ q.bindings)

/-- The names of declared parameters without a value, in the order of their declarations. -/
def missing (q : ParameterizedQuery) : List String :=
  (q.definitions.filter fun d => (q.bindings.lookup d.name).isNone).map (·.name)

/-- Whether the query may run for someone who may not see the data of other queries. -/
def isSafe (q : ParameterizedQuery) : Bool := q.definitions.all fun d => !d.kind.isReferential

/-- The placeholders without a definition. -/
def undeclared (q : ParameterizedQuery) : List String :=
  (Template.placeholders q.template).filter fun p =>
    let name := match Text.cutAt? ['.'] p.toList with
      | some (name, _) => String.ofList name
      | none => p
    (q.definition? name).isNone

end ParameterizedQuery

end QueryDispatch
