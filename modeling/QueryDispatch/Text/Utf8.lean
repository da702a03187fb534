/-! # Reading UTF-8

  Bytes are read as UTF-8 without ever failing: what is no character is read
  as the replacement character, once for each longest run of bytes that could
  have started one.
-/

namespace QueryDispatch.Text

/-- The bytes of a text. -/
def utf8 (s : List Char) : List UInt8 := (String.ofList s).toUTF8.data.toList

/-- The character that stands for unreadable bytes. -/
def replacement : Char := Char.ofNat 0xFFFD

/-- How a first byte goes on: the number of bytes that follow it, the value it contributes, and the
    bounds of the second byte, which keep out overlong forms, surrogates and what is beyond the
    last code point. -/
structure Utf8Lead where
  more : Nat
  value : Nat
  low : Nat
  high : Nat

/-- The form that starts with a byte, if one does. -/
def utf8Lead? (b : UInt8) : Option Utf8Lead :=
  let n := b.toNat
  if n < 0x80 then some ⟨0, n, 0, 0⟩
  else if 0xC2 ≤ n ∧ n ≤ 0xDF then some ⟨1, n - 0xC0, 0x80, 0xBF⟩
  else if n = 0xE0 then some ⟨2, 0, 0xA0, 0xBF⟩
  else if n = 0xED then some ⟨2, n - 0xE0, 0x80, 0x9F⟩
  else if 0xE1 ≤ n ∧ n ≤ 0xEF then some ⟨2, n - 0xE0, 0x80, 0xBF⟩
  else if n = 0xF0 then some ⟨3, 0, 0x90, 0xBF⟩
  else if 0xF1 ≤ n ∧ n ≤ 0xF3 then some ⟨3, n - 0xF0, 0x80, 0xBF⟩
  else if n = 0xF4 then some ⟨3, 4, 0x80, 0x8F⟩
  else none

/-- Reads the bytes that follow a first one: the value and how many were read, or how many could
    have belonged to a character. -/
def utf8Follow (more value low high : Nat) (read : Nat) : List UInt8 → Except Nat (Nat × Nat)
  | [] => if more = 0 then .ok (value, read) else .error read
  | b :: rest =>
    match more with
    | 0 => .ok (value, read)
    | more + 1 =>
      if low ≤ b.toNat ∧ b.toNat ≤ high then
        utf8Follow more (value * 64 + (b.toNat - 0x80)) 0x80 0xBF (read + 1) rest
      else .error read

/-- Reads one character from the front, a byte being there: the character and the number of bytes
    behind the first that belong to it. -/
def utf8First (b : UInt8) (rest : List UInt8) : Char × Nat :=
  match utf8Lead? b with
  | none => (replacement, 0)
  | some lead =>
    match utf8Follow lead.more lead.value lead.low lead.high 0 rest with
    | .ok (value, read) => (Char.ofNat value, read)
    | .error read => (replacement, read)

/-- Reads bytes as text. -/
def readUtf8 : List UInt8 → List Char
  | [] => []
  | b :: rest =>
    let (c, read) := utf8First b rest
    c :: readUtf8 (rest.drop read)
termination_by s => s.length
decreasing_by simp only [List.length_drop, List.length_cons]; omega

/-- Whether bytes are UTF-8 throughout. -/
def isUtf8 : List UInt8 → Bool
  | [] => true
  | b :: rest =>
    match utf8Lead? b with
    | none => false
    | some lead =>
      match utf8Follow lead.more lead.value lead.low lead.high 0 rest with
      | .ok (_, read) => isUtf8 (rest.drop read)
      | .error _ => false
termination_by s => s.length
decreasing_by simp only [List.length_drop, List.length_cons]; omega

end QueryDispatch.Text
