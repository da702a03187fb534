/-! # Blanks

  The characters that count as blank space in query texts, parameter values
  and placeholders: exactly those with the Unicode property `White_Space`.
  Trimming removes blanks from the ends of a text and nothing else.
-/

namespace QueryDispatch.Text

/-- A character with the property `White_Space`. -/
def isBlank (c : Char) : Bool :=
  let n := c.toNat
  (9 ≤ n && n ≤ 13) || n == 0x20 || n == 0x85 || n == 0xA0 || n == 0x1680 ||
    (0x2000 ≤ n && n ≤ 0x200A) || n == 0x2028 || n == 0x2029 || n == 0x202F ||
    n == 0x205F || n == 0x3000

/-- Removes the blanks before the first other character. -/
def trimStart (s : List Char) : List Char := s.dropWhile isBlank

/-- Removes the characters at the end that satisfy `p`. -/
def dropEndWhile (p : Char → Bool) (s : List Char) : List Char :=
  (s.reverse.dropWhile p).reverse

/-- Removes the blanks after the last other character. -/
def trimEnd (s : List Char) : List Char := dropEndWhile isBlank s

/-- Removes blanks at both ends. -/
def trim (s : List Char) : List Char := trimEnd (trimStart s)

/-- The maximal runs of characters that do not satisfy `p`, left to right. -/
def runsWithout (p : Char → Bool) : List Char → List (List Char)
  | [] => []
  | c :: rest =>
    if p c then runsWithout p rest
    else match rest with
      | [] => [[c]]
      | d :: _ =>
        if p d then [c] :: runsWithout p rest
        else match runsWithout p rest with
          | [] => [[c]]
          | w :: ws => (c :: w) :: ws

/-- The words of a text: its maximal runs without blanks. -/
def words (s : List Char) : List (List Char) := runsWithout isBlank s

/-- The lower-case form of an ASCII letter; any other character is itself. -/
def lowerAscii (c : Char) : Char :=
  if 'A' ≤ c ∧ c ≤ 'Z' then Char.ofNat (c.toNat + 32) else c

/-- Equality of texts up to the case of ASCII letters. -/
def equalIgnoringCase (s t : List Char) : Bool :=
  s.map lowerAscii == t.map lowerAscii

/-- `some` of what follows `lead` in `s`, or `none` if `s` does not start with it. -/
def after? (lead : List Char) (s : List Char) : Option (List Char) :=
  match lead, s with
  | [], s => some s
  | c :: lead, d :: s => if c = d then after? lead s else none
  | _ :: _, [] => none

/-- Cuts at the first occurrence of `mark`: what stands before it and what stands after it. -/
def cutAt? (mark : List Char) : List Char → Option (List Char × List Char)
  | [] => if mark = [] then some ([], []) else none
  | c :: rest =>
    match after? mark (c :: rest) with
    | some tail => some ([], tail)
    | none => (cutAt? mark rest).map fun (head, tail) => (c :: head, tail)

/-- The pieces of a text between occurrences of a character, empty pieces included. -/
def splitAt (mark : Char) : List Char → List (List Char)
  | [] => [[]]
  | c :: rest =>
    if c = mark then [] :: splitAt mark rest
    else match splitAt mark rest with
      | [] => [[c]]
      | piece :: pieces => (c :: piece) :: pieces

/-- Joins pieces with `separator` between neighbours. -/
def joinWith (separator : List Char) : List (List Char) → List Char
  | [] => []
  | [piece] => piece
  | piece :: pieces => piece ++ separator ++ joinWith separator pieces

/-- Puts `fill` in front until the text has at least `width` characters. -/
def padStart (width : Nat) (fill : Char) (s : List Char) : List Char :=
  List.replicate (width - s.length) fill ++ s

/-! ### Small lemmas -/

@[simp] theorem trimStart_nil : trimStart [] = [] := rfl

@[simp] theorem joinWith_singleton (separator piece : List Char) :
    joinWith separator [piece] = piece := rfl

theorem after?_append (lead s : List Char) : after? lead (lead ++ s) = some s := by
  induction lead with
  | nil => cases s <;> rfl
  | cons c lead ih => simp [after?, ih]

/-- What follows a lead is the text without it. -/
theorem eq_of_after? {lead s rest : List Char} (h : after? lead s = some rest) :
    s = lead ++ rest := by
  induction lead generalizing s with
  | nil => cases s <;> simp_all [after?]
  | cons c lead ih =>
    cases s with
    | nil => simp [after?] at h
    | cons d s =>
      simp only [after?] at h
      split at h
      · next hcd =>
        rw [ih h, hcd]
        rfl
      · cases h

end QueryDispatch.Text
