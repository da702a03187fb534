import QueryDispatch.Text.Blank

/-! # Punycode

  A label of letters beyond ASCII written in ASCII: first the ASCII characters
  of the label, then, behind a hyphen, where the others are inserted. Each
  insertion is the distance to the one before it, counted through all places
  for one character before the next higher character. Distances are written in
  digits of 36, the lowest first, and how far the digits of a number reach is
  adapted to the numbers before it.
-/

namespace QueryDispatch.Punycode

/-- The value of a digit: small letters, then decimal digits. -/
def digit? (c : Char) : Option Nat :=
  if 'a' ≤ c ∧ c ≤ 'z' then some (c.toNat - 97)
  else if '0' ≤ c ∧ c ≤ '9' then some (c.toNat - 48 + 26)
  else none

/-- A digit below this one is the last of its number; `place` is 36 for the first digit and grows
    by 36 with each. -/
def threshold (bias place : Nat) : Nat :=
  if place ≤ bias then 1 else if bias + 26 ≤ place then 26 else place - bias

/-- Divides until what is left is small, counting the places. -/
def scaleDown (n places : Nat) : Nat :=
  if 455 < n then scaleDown (n / 35) (places + 36) else places + 36 * n / (n + 38)
termination_by n
decreasing_by omega

/-- The bias for the next distance. `size` is the length with the character just inserted. -/
def adapt (distance size : Nat) (isFirst : Bool) : Nat :=
  let n := if isFirst then distance / 700 else distance / 2
  scaleDown (n + n / size) 0

/-- Takes a distance off the front. A digit cannot weigh as much as `limit`. -/
def takeDistance? (bias place weight : Nat) : List Char → Option (Nat × List Char)
  | [] => none
  | c :: rest => do
    let digit ← digit? c
    let t := threshold bias place
    if digit < t then return (digit * weight, rest)
    else
      let weight' := weight * (36 - t)
      if limit ≤ weight' then none
      else
        let (n, rest) ← takeDistance? bias (place + 36) weight' rest
        return (digit * weight + n, rest)
where
  /-- The first number beyond the range of weights. -/
  limit : Nat := 4294967296

theorem length_takeDistance? {bias place weight n : Nat} {s rest : List Char}
    (h : takeDistance? bias place weight s = some (n, rest)) : rest.length < s.length := by
  induction s generalizing place weight n with
  | nil => simp [takeDistance?] at h
  | cons c s ih =>
    simp only [takeDistance?, Option.bind_eq_bind, Option.bind_eq_some_iff] at h
    obtain ⟨digit, -, h⟩ := h
    split at h
    · simp only [Option.pure_def, Option.some.injEq, Prod.mk.injEq] at h
      simp [h.2]
    · split at h
      · simp at h
      · simp only [Option.bind_eq_some_iff] at h
        obtain ⟨⟨m, left⟩, hleft, h⟩ := h
        simp only [Option.pure_def, Option.some.injEq, Prod.mk.injEq] at h
        have := ih (h.2 ▸ hleft)
        simp only [List.length_cons]
        omega

/-- Whether a number is that of a character. -/
def isCode (n : Nat) : Bool := n < 0xD800 || (0xDFFF < n && n < 0x110000)

/-- Makes the insertions that are left. The last one was of the character `code`, and in front of
    the place `start`. -/
def insertAll (bias code start : Nat) (text s : List Char) : Option (List Char) :=
  match s with
  | [] => some text
  | c :: rest =>
    match h : takeDistance? bias 36 1 (c :: rest) with
    | none => none
    | some (distance, left) =>
      let size := text.length + 1
      let code' := code + (start + distance) / size
      let place := (start + distance) % size
      if isCode code' then
        insertAll (adapt distance size (start == 0)) code' (place + 1)
          (text.insertIdx place (Char.ofNat code')) left
      else none
termination_by s.length
decreasing_by exact length_takeDistance? h

/-- The label that a text stands for. The insertions stand behind the last hyphen. -/
def decode? (s : List Char) : Option (List Char) :=
  let insertions := (s.reverse.takeWhile (· != '-')).reverse
  let basic := s.take (s.length - insertions.length - 1)
  if basic.isEmpty then insertAll 72 128 0 [] s else insertAll 72 128 0 basic insertions

end QueryDispatch.Punycode
