import QueryDispatch.Json.Basic

/-! # Wire forms

  How values of the library's types are written as JSON and read back. A
  record is an object whose unknown keys are ignored; it may also be given as
  the list of its fields in order. A field is required, or it may be absent
  with a default, or it is optional and then absence and `null` mean the same.
-/

namespace QueryDispatch

/-- A type with a wire form. -/
class Wire (α : Type) where
  /-- The wire form of a value. -/
  encode : α → Json
  /-- The value that a wire form stands for, if it stands for one. -/
  decode? : Json → Option α

namespace Wire

/-! ### Scalars and lists -/

instance : Wire String where
  encode := .string
  decode? := Json.asString?

instance : Wire Bool where
  encode := .bool
  decode?
    | .bool b => some b
    | _ => none

instance : Wire Json where
  encode := id
  decode? := some

/-- Reads an integer between two bounds. A double is no integer, even a whole one. -/
def integer? (low high : Int) : Json → Option Int
  | .number (.int i) => if low ≤ i ∧ i ≤ high then some i else none
  | _ => none

instance : Wire Int64 where
  encode i := .int i.toInt
  decode? j := (integer? Int64.minValue.toInt Int64.maxValue.toInt j).map Int64.ofInt

instance : Wire UInt64 where
  encode n := .nat n.toNat
  decode? j := (integer? 0 (UInt64.size - 1) j).map fun i => UInt64.ofNat i.toNat

instance : Wire UInt32 where
  encode n := .nat n.toNat
  decode? j := (integer? 0 (UInt32.size - 1) j).map fun i => UInt32.ofNat i.toNat

instance : Wire UInt16 where
  encode n := .nat n.toNat
  decode? j := (integer? 0 (UInt16.size - 1) j).map fun i => UInt16.ofNat i.toNat

/-- The double that a number stands for; a large integer is rounded. -/
def double? : Json → Option Double
  | .number (.int i) => Double.ofInt i
  | .number (.double d) => some d
  | _ => none

instance : Wire Double where
  encode d := .number (.double d)
  decode? := double?

instance {α : Type} [Wire α] : Wire (List α) where
  encode xs := .array (xs.map encode)
  decode? j := j.asArray?.bind fun items => items.mapM decode?

/-- An optional value is `null` or its own wire form. -/
instance {α : Type} [Wire α] : Wire (Option α) where
  encode := Json.ofOption encode
  decode?
    | .null => some none
    | j => (decode? j).map some

/-- A map from names to values. -/
def named? {α : Type} [Wire α] : Json → Option (List (String × α))
  | .object fields => fields.mapM fun (key, value) => (decode? value).map fun a => (key, a)
  | _ => none

/-- The name of a variant without content: a text, or an object with that one key and `null`. -/
def variant? : Json → Option String
  | .string name => some name
  | .object [(name, .null)] => some name
  | _ => none

end Wire

/-! ### Records -/

/-- The fields that a wire form gives to a record. -/
inductive Fields where
  /-- Fields under their names. -/
  | named (fields : JsonFields)
  /-- Fields in order, from the first one. -/
  | positional (items : List Json)

namespace Fields

/-- Takes a wire form as the fields of a record with `count` of them. -/
def of? (count : Nat) : Json → Option Fields
  | .object fields => some (.named fields)
  | .array items => if items.length ≤ count then some (.positional items) else none
  | _ => none

/-- The value given for the field at an index with a name. -/
def find? (fields : Fields) (index : Nat) (name : String) : Option Json :=
  match fields with
  | .named fields => fields.lookup name
  | .positional items => items[index]?

/-- A field that has to be there. -/
def required {α : Type} [Wire α] (fields : Fields) (index : Nat) (name : String) : Option α :=
  (fields.find? index name).bind Wire.decode?

/-- A field that may be absent, with a default. A `null` is not absence. -/
def orDefault {α : Type} [Wire α] (fields : Fields) (index : Nat) (name : String)
    (default : α) : Option α :=
  match fields.find? index name with
  | some j => Wire.decode? j
  | none => some default

/-- An optional field that an object may leave out. -/
def optional {α : Type} [Wire α] (fields : Fields) (index : Nat) (name : String) :
    Option (Option α) :=
  match fields, fields.find? index name with
  | _, some j => Wire.decode? j
  | .named _, none => some none
  | .positional _, none => none

end Fields

/-- An object without the fields whose value is absent. -/
def Json.withPresent (fields : List (String × Option Json)) : Json :=
  .record (fields.filterMap fun (key, value) => value.map fun j => (key, j))

end QueryDispatch
