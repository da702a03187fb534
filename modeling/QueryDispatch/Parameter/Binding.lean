import QueryDispatch.Calendar.Pattern
import QueryDispatch.Json.Printer
import QueryDispatch.Parameter.Definition

/-! # Binding values to parameters

  A value that is given for a parameter is checked against the kind and turned
  into the text that goes into the query. Dropdowns are the only kind that
  asks for the data of another query.
-/

namespace QueryDispatch

/-! ### Rejections -/

/-- Why a value is not accepted. -/
inductive InvalidValue where
  | undeclared
  | notText
  | notNumber
  | nothingSelected
  | notTextList
  | notAllowed (text : String)
  | notMultiple
  | notDateText
  | badDate (text : String) (fault : ReadFault)
  | notDateTimeText
  | badDateTime (text : String) (fault : ReadFault)
  | notRange
  | startAfterEnd
  deriving DecidableEq, Repr

/-- The wording of a reason. -/
def InvalidValue.message : InvalidValue → String
  | .undeclared => "parameter is not declared"
  | .notText => "expected a string"
  | .notNumber => "expected a number"
  | .nothingSelected => "no value selected"
  | .notTextList => "expected a list of strings"
  | .notAllowed text => "\"" ++ text ++ "\" is not one of the allowed values"
  | .notMultiple => "parameter does not accept multiple values"
  | .notDateText => "expected a date string"
  | .badDate text fault => "invalid date \"" ++ text ++ "\": " ++ fault.message
  | .notDateTimeText => "expected a datetime string"
  | .badDateTime text fault => "invalid datetime \"" ++ text ++ "\": " ++ fault.message
  | .notRange => "expected an object with start and end"
  | .startAfterEnd => "start is after end"

/-- Why values cannot be bound. -/
inductive ParameterError where
  /-- A value that its parameter does not take. -/
  | invalid (name : String) (reason : InvalidValue)
  /-- A dropdown whose query has no data source or is unknown. -/
  | detached (query : QueryId)
  deriving DecidableEq, Repr

/-- The name of the kind of an error. -/
def ParameterError.kind : ParameterError → String
  | .invalid _ _ => "Invalid"
  | .detached _ => "Detached"

/-- The wording of an error. -/
def ParameterError.message : ParameterError → String
  | .invalid name reason => "Invalid value for parameter \"" ++ name ++ "\": " ++ reason.message
  | .detached query =>
    "Query " ++ String.ofList (intText query.value.toInt) ++ " is not attached to a data source"

/-! ### Dropdowns -/

/-- An entry of a dropdown. -/
structure DropdownOption where
  name : String
  value : String
  deriving DecidableEq, Repr

instance : Wire DropdownOption where
  encode o := .object [("name", .string o.name), ("value", .string o.value)]
  decode? j := do
    let f ← Fields.of? 2 j
    return ⟨← f.required 0 "name", ← f.required 1 "value"⟩

/-- Where the entries of dropdowns come from. -/
abbrev DropdownResolver := QueryId → Except ParameterError (List DropdownOption)

/-! ### Bound values -/

/-- A checked value. -/
inductive BoundValue where
  | single (text : String)
  | several (texts : List String) (multi : MultiValue)
  /-- A range shows only through its two ends. -/
  | range (start finish : String)
  deriving DecidableEq, Repr

namespace BoundValue

/-- The text for a placeholder with the parameter's name. -/
def render : BoundValue → Option String
  | .single text => some text
  | .several texts multi =>
    some (multi.separator.intercalate (texts.map fun t => multi.before ++ t ++ multi.behind))
  | .range _ _ => none

/-- The text for a placeholder that names a part. -/
def part : BoundValue → String → Option String
  | .range start finish, name =>
    if name = "start" then some start else if name = "end" then some finish else none
  | _, _ => none

end BoundValue

/-! ### Checking -/

/-- The text of a value that is a text or a number. -/
def scalarText? : Json → Option String
  | .string s => some s
  | .number n => some n.text
  | _ => none

/-- Checks one value against the allowed ones. -/
def selectOne (allowed : String → Bool) (otherwise : InvalidValue) (value : Json) :
    Except InvalidValue String :=
  match scalarText? value with
  | none => .error otherwise
  | some text => if allowed text then .ok text else .error (.notAllowed text)

/-- Checks a value, or a list of values where several may be selected. -/
def select (allowed : String → Bool) (multi : Option MultiValue) (value : Json) :
    Except InvalidValue BoundValue :=
  match value, multi with
  | .array items, some multi =>
    if items.isEmpty then .error .nothingSelected
    else (items.mapM (selectOne allowed .notTextList)).map (.several · multi)
  | .array _, none => .error .notMultiple
  | value, _ => (selectOne allowed .notText value).map .single

/-- Reads a date and writes it in its one form. -/
def checkDate (value : Json) : Except InvalidValue String :=
  match value with
  | .string text =>
    match Date.read text.toList with
    | .ok d => .ok d.text
    | .error fault => .error (.badDate text fault)
  | _ => .error .notDateText

/-- Reads a date with a time and writes it in its one form. -/
def checkDateTime (pattern : List PatternItem) (value : Json) : Except InvalidValue String :=
  match value with
  | .string text =>
    match DateTime.read pattern text.toList with
    | .ok d => .ok (String.ofList (d.write pattern))
    | .error fault => .error (.badDateTime text fault)
  | _ => .error .notDateTimeText

/-- Checks a number, or a text that is a numeral between blanks. -/
def checkNumber : Json → Except InvalidValue String
  | .number n => .ok n.text
  | .string s =>
    let trimmed := Text.trim s.toList
    if (Numeral.read? trimmed).isSome then .ok (String.ofList trimmed) else .error .notNumber
  | _ => .error .notNumber

/-- Checks the two ends of a range. The order is that of the written dates. -/
def checkRange (value : Json) : Except InvalidValue BoundValue :=
  match value.get? "start", value.get? "end" with
  | some start, some finish => do
    let start ← checkDate start
    let finish ← checkDate finish
    if finish < start then throw .startAfterEnd else return .range start finish
  | _, _ => .error .notRange

namespace ParameterKind

/-- Checks a value for the parameter `name` of a kind. -/
def check (kind : ParameterKind) (name : String) (value : Json)
    (resolver : Option DropdownResolver) : Except ParameterError BoundValue :=
  let answer (checked : Except InvalidValue BoundValue) : Except ParameterError BoundValue :=
    checked.mapError (.invalid name)
  match kind with
  | .text =>
    match value with
    | .string s => .ok (.single s)
    | _ => .error (.invalid name .notText)
  | .number => answer ((checkNumber value).map .single)
  | .choice options multi => answer (select (fun v => options.contains v) multi value)
  | .dropdown query multi =>
    match resolver with
    | none => .error (.detached query)
    | some resolve =>
      match resolve query with
      | .error e => .error e
      | .ok options => answer (select (fun v => options.any (·.value == v)) multi value)
  | .date => answer ((checkDate value).map .single)
  | .dateMinute => answer ((checkDateTime Pattern.dateMinute value).map .single)
  | .dateSecond => answer ((checkDateTime Pattern.dateSecond value).map .single)
  | .dateRange => answer (checkRange value)

end ParameterKind

end QueryDispatch
