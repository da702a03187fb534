import QueryDispatch.Json.Basic
import QueryDispatch.Number.Shortest
import QueryDispatch.Number.Numeral

/-! # JSON texts

  The compact text of a value: no blanks, fields in key order, integers in
  decimal and doubles in their shortest digits.
-/

namespace QueryDispatch

/-- The text of a number. -/
def JsonNumber.text : JsonNumber → String
  | .int i => String.ofList (intText i)
  | .double d => Layout.json.render d

namespace Json

/-- A hexadecimal digit, in lower case. -/
def hexDigit (n : Nat) : Char := Nat.digitChar (n % 16)

/-- A character inside quotes: quotes, backslashes and control characters are escaped. -/
def escapeChar (c : Char) : List Char :=
  if c = '"' then ['\\', '"']
  else if c = '\\' then ['\\', '\\']
  else if c.toNat = 8 then ['\\', 'b']
  else if c.toNat = 9 then ['\\', 't']
  else if c.toNat = 10 then ['\\', 'n']
  else if c.toNat = 12 then ['\\', 'f']
  else if c.toNat = 13 then ['\\', 'r']
  else if c.toNat < 32 then
    ['\\', 'u', '0', '0', hexDigit (c.toNat / 16), hexDigit c.toNat]
  else [c]

/-- A text in quotes. -/
def quote (s : String) : List Char := '"' :: (s.toList.flatMap escapeChar ++ ['"'])

mutual

/-- The characters of a value. -/
def chars : Json → List Char
  | .null => "null".toList
  | .bool true => "true".toList
  | .bool false => "false".toList
  | .number n => n.text.toList
  | .string s => quote s
  | .array items => '[' :: (itemChars items ++ [']'])
  | .object fields => '\x7b' :: (fieldChars fields ++ ['\x7d'])

/-- The characters of the items of a list, with commas between them. -/
def itemChars : List Json → List Char
  | [] => []
  | [item] => chars item
  | item :: items => chars item ++ ',' :: itemChars items

/-- The characters of the fields of an object, with commas between them. -/
def fieldChars : List (String × Json) → List Char
  | [] => []
  | [(key, value)] => quote key ++ ':' :: chars value
  | (key, value) :: fields => quote key ++ ':' :: (chars value ++ ',' :: fieldChars fields)

end

/-- The text of a value. -/
def text (j : Json) : String := String.ofList j.chars

end Json

end QueryDispatch
