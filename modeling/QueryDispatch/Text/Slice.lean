/-! # Cutting by bytes

  Positions in a text counted in bytes of UTF-8. A cut through the middle of a
  character does not exist.
-/

namespace QueryDispatch.Text

/-- How many bytes a text takes. -/
def byteLength : List Char → Nat
  | [] => 0
  | c :: s => c.utf8Size + byteLength s

/-- The text without its first `n` bytes. -/
def dropBytes? (n : Nat) (s : List Char) : Option (List Char) :=
  match n, s with
  | 0, s => some s
  | _ + 1, [] => none
  | n + 1, c :: rest => if c.utf8Size ≤ n + 1 then dropBytes? (n + 1 - c.utf8Size) rest else none
termination_by structural s

/-- The first `n` bytes of a text. -/
def takeBytes? (n : Nat) (s : List Char) : Option (List Char) :=
  match n, s with
  | 0, _ => some []
  | _ + 1, [] => none
  | n + 1, c :: rest =>
    if c.utf8Size ≤ n + 1 then (takeBytes? (n + 1 - c.utf8Size) rest).map (c :: ·) else none
termination_by structural s

/-- The bytes of a text from one position up to another. -/
def slice? (start finish : Nat) (s : List Char) : Option (List Char) :=
  (dropBytes? start s).bind (takeBytes? (finish - start))

end QueryDispatch.Text
