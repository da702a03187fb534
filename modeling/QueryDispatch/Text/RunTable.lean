import QueryDispatch.Text.Blank

/-! # Run tables

  Neighbouring characters share most of their properties, so a property is kept
  as runs of code points. A run ends where the next one begins, and the last
  one has no end. Tables are written as text: runs are separated by blanks, and
  each is its first code point, in upper-case hexadecimal digits, followed by
  what holds for it.
-/

namespace QueryDispatch.Text

/-- Runs in rising order: where each begins, and what holds for its characters. -/
abbrev RunTable (α : Type) := List (Nat × α)

/-- The value of an upper-case hexadecimal digit. -/
def upperHex? (c : Char) : Option Nat :=
  if '0' ≤ c ∧ c ≤ '9' then some (c.toNat - 48)
  else if 'A' ≤ c ∧ c ≤ 'F' then some (c.toNat - 55)
  else none

/-- The number in front of a text, and the rest. -/
def takeHex (n : Nat) : List Char → Nat × List Char
  | [] => (n, [])
  | c :: rest =>
    match upperHex? c with
    | some d => takeHex (n * 16 + d) rest
    | none => (n, c :: rest)

/-- The number that a text begins with. -/
def hexNumber (s : List Char) : Nat := (takeHex 0 s).1

/-- The character that a text names by its code point. -/
def hexChar (s : List Char) : Char := Char.ofNat (hexNumber s)

namespace RunTable

variable {α : Type}

/-- Reads a table, with `value` for what follows a code point. -/
def read (value : List Char → α) (text : String) : RunTable α :=
  (words text.toList).map fun item =>
    let (start, rest) := takeHex 0 item
    (start, value rest)

/-- The run that a code point lies in. -/
def run? (code : Nat) : RunTable α → Option (Nat × α)
  | [] => none
  | [(start, a)] => if start ≤ code then some (start, a) else none
  | (start, a) :: (next, b) :: rest =>
    if code < start then none
    else if code < next then some (start, a)
    else run? code ((next, b) :: rest)

/-- What holds for a character. -/
def get? (table : RunTable α) (c : Char) : Option α := (table.run? c.toNat).map (·.2)

end RunTable

end QueryDispatch.Text
