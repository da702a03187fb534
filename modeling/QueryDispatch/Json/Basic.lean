import QueryDispatch.Number.Double

/-! # JSON values

  The values that options, parameters, cells and replies are made of. An
  integer and a double are different numbers, also when they are equal: `1.0`
  is no integer. The fields of an object stand in the order of their keys, by
  code point, each key once.
-/

namespace QueryDispatch

/-- A number in JSON. -/
inductive JsonNumber where
  /-- A number written without point and exponent that fits 64 bits. -/
  | int (value : Int)
  /-- Any other number. -/
  | double (value : Double)
  deriving DecidableEq, Repr

/-- A JSON value. -/
inductive Json where
  | null
  | bool (value : Bool)
  | number (value : JsonNumber)
  | string (value : String)
  | array (items : List Json)
  | object (fields : List (String × Json))
  deriving Inhabited, Repr

/-- The fields of an object, in key order. -/
abbrev JsonFields := List (String × Json)

namespace JsonFields

/-- The value under a key. -/
def get? (fields : JsonFields) (key : String) : Option Json := fields.lookup key

/-- Sets the value under a key, at the place that the order of keys gives it. -/
def insert (key : String) (value : Json) : JsonFields → JsonFields
  | [] => [(key, value)]
  | (k, v) :: rest =>
    if key < k then (key, value) :: (k, v) :: rest
    else if key = k then (key, value) :: rest
    else (k, v) :: insert key value rest

/-- Builds fields from entries in any order; the last entry of a key wins. -/
def ofEntries (entries : List (String × Json)) : JsonFields :=
  entries.foldl (fun fields (key, value) => insert key value fields) []

end JsonFields

namespace Json

/-- An integer value. -/
def int (i : Int) : Json := .number (.int i)

/-- A natural number value. -/
def nat (n : Nat) : Json := .number (.int n)

/-- A list of texts. -/
def strings (texts : List String) : Json := .array (texts.map .string)

/-- An object from entries in any order. -/
def record (entries : List (String × Json)) : Json := .object (JsonFields.ofEntries entries)

/-- The value itself, or `null`. -/
def ofOption {α : Type} (encode : α → Json) : Option α → Json
  | none => .null
  | some a => encode a

/-- Whether a value is `null`. -/
def isNull : Json → Bool
  | .null => true
  | _ => false

/-- The text, if the value is one. -/
def asString? : Json → Option String
  | .string s => some s
  | _ => none

/-- The items, if the value is a list. -/
def asArray? : Json → Option (List Json)
  | .array items => some items
  | _ => none

/-- The value under a key, if the value is an object that has it. -/
def get? (key : String) : Json → Option Json
  | .object fields => fields.lookup key
  | _ => none

/-- An object with a field set; any other value is as it was. -/
def set (j : Json) (key : String) (value : Json) : Json :=
  match j with
  | .object fields => .object (JsonFields.insert key value fields)
  | j => j

/-- An object without some fields; any other value is as it was. -/
def without (j : Json) (keys : List String) : Json :=
  match j with
  | .object fields => .object (fields.filter fun (key, _) => !keys.contains key)
  | j => j

mutual

/-- Whether two values are the same, numbers by their kind and value. -/
def same : Json → Json → Bool
  | .null, .null => true
  | .bool a, .bool b => a == b
  | .number a, .number b => a == b
  | .string a, .string b => a == b
  | .array a, .array b => sameItems a b
  | .object a, .object b => sameFields a b
  | _, _ => false

/-- Whether two lists hold the same values in the same order. -/
def sameItems : List Json → List Json → Bool
  | [], [] => true
  | a :: as, b :: bs => same a b && sameItems as bs
  | _, _ => false

/-- Whether two objects have the same keys with the same values. -/
def sameFields : List (String × Json) → List (String × Json) → Bool
  | [], [] => true
  | (k, a) :: as, (l, b) :: bs => k == l && same a b && sameFields as bs
  | _, _ => false

end

/-! ### Equality -/

mutual

theorem eq_of_same : ∀ {a b : Json}, same a b = true → a = b
  | .null, .null, _ => rfl
  | .bool _, .bool _, h => by simp only [same, beq_iff_eq] at h; rw [h]
  | .number _, .number _, h => by simp only [same, beq_iff_eq] at h; rw [h]
  | .string _, .string _, h => by simp only [same, beq_iff_eq] at h; rw [h]
  | .array as, .array bs, h => by
    have e : as = bs := eq_of_sameItems (by simpa only [same] using h)
    rw [e]
  | .object as, .object bs, h => by
    have e : as = bs := eq_of_sameFields (by simpa only [same] using h)
    rw [e]

theorem eq_of_sameItems : ∀ {as bs : List Json}, sameItems as bs = true → as = bs
  | [], [], _ => rfl
  | _ :: _, _ :: _, h => by
    simp only [sameItems, Bool.and_eq_true] at h
    rw [eq_of_same h.1, eq_of_sameItems h.2]

theorem eq_of_sameFields : ∀ {as bs : List (String × Json)}, sameFields as bs = true → as = bs
  | [], [], _ => rfl
  | (_, _) :: _, (_, _) :: _, h => by
    simp only [sameFields, Bool.and_eq_true, beq_iff_eq] at h
    rw [h.1.1, eq_of_same h.1.2, eq_of_sameFields h.2]

end

mutual

theorem same_self : ∀ a : Json, same a a = true
  | .null => rfl
  | .bool _ => by simp only [same, BEq.rfl]
  | .number _ => by simp only [same, BEq.rfl]
  | .string _ => by simp only [same, BEq.rfl]
  | .array items => by simpa only [same] using sameItems_self items
  | .object fields => by simpa only [same] using sameFields_self fields

theorem sameItems_self : ∀ as : List Json, sameItems as as = true
  | [] => rfl
  | a :: as => by simp only [sameItems, same_self a, sameItems_self as, Bool.and_self]

theorem sameFields_self : ∀ as : List (String × Json), sameFields as as = true
  | [] => rfl
  | (_, a) :: as => by
    simp only [sameFields, BEq.rfl, same_self a, sameFields_self as, Bool.and_self]

end

instance : DecidableEq Json := fun a b =>
  if h : same a b = true then .isTrue (eq_of_same h)
  else .isFalse fun e => h (e ▸ same_self a)

end Json

end QueryDispatch
