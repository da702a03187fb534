import QueryDispatch.Encoding.Base64

/-! # Distinguished encoding

  The part of the distinguished encoding of ASN.1 values that keys and
  certificates are wrapped in: a tag, a length in its shortest form, and that
  many bytes.
-/

namespace QueryDispatch.Der

/-- The number that bytes form, the first one the most significant. -/
def number (bytes : List UInt8) : Nat := bytes.foldl (fun n b => n * 256 + b.toNat) 0

/-- Reads a length in its shortest form. -/
def readLength? : List UInt8 → Option (Nat × List UInt8)
  | [] => none
  | b :: rest =>
    if b.toNat < 128 then some (b.toNat, rest)
    else
      let count := b.toNat - 128
      let n := number (rest.take count)
      if count = 0 ∨ 4 < count ∨ rest.length < count ∨ n < 128 ∨ n < Nat.pow 256 (count - 1) then none
      else some (n, rest.drop count)

/-- Takes a value with a tag off the front: its bytes and the rest. -/
def take? (tag : UInt8) : List UInt8 → Option (List UInt8 × List UInt8)
  | [] => none
  | b :: rest =>
    if b ≠ tag then none
    else match readLength? rest with
      | some (n, body) => if n ≤ body.length then some (body.take n, body.drop n) else none
      | none => none

/-- The bytes of a value that is all there is. -/
def whole? (tag : UInt8) (bytes : List UInt8) : Option (List UInt8) :=
  match take? tag bytes with
  | some (body, []) => some body
  | _ => none

theorem length_readLength? {s rest : List UInt8} {n : Nat} (h : readLength? s = some (n, rest)) :
    rest.length < s.length := by
  cases s with
  | nil => simp [readLength?] at h
  | cons b s =>
    simp only [readLength?] at h
    split at h
    · simp_all
    · split at h
      · simp at h
      · simp only [Option.some.injEq, Prod.mk.injEq] at h
        simp only [← h.2, List.length_drop, List.length_cons]
        omega

theorem length_take? {tag : UInt8} {s body rest : List UInt8}
    (h : take? tag s = some (body, rest)) : rest.length < s.length := by
  cases s with
  | nil => simp [take?] at h
  | cons b s =>
    simp only [take?] at h
    split at h
    · simp at h
    · split at h
      · next n left hleft =>
        have := length_readLength? hleft
        split at h
        · simp only [Option.some.injEq, Prod.mk.injEq] at h
          simp only [← h.2, List.length_drop, List.length_cons]
          omega
        · simp at h
      · simp at h

/-- The bytes of values that follow each other and all have a tag. -/
def all? (tag : UInt8) (bytes : List UInt8) : Option (List (List UInt8)) :=
  if bytes.isEmpty then some []
  else
    match _h : take? tag bytes with
    | some (body, rest) => (all? tag rest).map (body :: ·)
    | none => none
termination_by bytes.length
decreasing_by exact length_take? (by assumption)

/-! ### Tags -/

/-- The tag of truth values. -/
def boolean : UInt8 := 0x01

/-- The tag of integers. -/
def integer : UInt8 := 0x02

/-- The tag of bit strings. -/
def bitString : UInt8 := 0x03

/-- The tag of byte strings. -/
def octetString : UInt8 := 0x04

/-- The tag of object identifiers. -/
def identifier : UInt8 := 0x06

/-- The tag of sequences. -/
def sequence : UInt8 := 0x30

/-- The tag of a numbered part that wraps another value. -/
def numbered (n : UInt8) : UInt8 := 0xA0 + n

/-- The tag of the first numbered part where it is a bit string itself. -/
def shortBits : UInt8 := 0x81

/-! ### Values -/

/-- The bytes of a bit string that is whole bytes. -/
def wholeBits? : List UInt8 → Option (List UInt8)
  | 0 :: bits => some bits
  | _ => none

/-- Takes a positive integer in its shortest form off the front. -/
def takeNatural? (bytes : List UInt8) : Option (Nat × List UInt8) :=
  match take? integer bytes with
  | some (body, rest) =>
    match body with
    | [] => none
    | [b] => if b.toNat < 128 then some (b.toNat, rest) else none
    | a :: b :: _ =>
      if 128 ≤ a.toNat ∨ (a = 0 ∧ b.toNat < 128) then none else some (number body, rest)
  | none => none

/-- Takes a number off the front that fits a byte. -/
def takeSmall? (bytes : List UInt8) : Option (Nat × List UInt8) :=
  (takeNatural? bytes).filter fun (n, _) => n < 256

/-! ### Writing -/

/-- The length in its shortest form. -/
def length (n : Nat) : List UInt8 :=
  if n < 128 then [UInt8.ofNat n]
  else
    let count := n.log2 / 8 + 1
    UInt8.ofNat (128 + count) :: Base64.bytesOf count n

/-- A value with a tag. -/
def value (tag : UInt8) (bytes : List UInt8) : List UInt8 := tag :: length bytes.length ++ bytes

/-- A natural number; a zero in front keeps it from being negative. -/
def natural (n : Nat) : List UInt8 :=
  let bytes := Base64.bytesOf (n.log2 / 8 + 1) n
  value integer (if 128 ≤ (bytes.headD 0).toNat then 0 :: bytes else bytes)

end QueryDispatch.Der
