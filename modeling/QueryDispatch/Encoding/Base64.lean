import QueryDispatch.Number.Numeral

/-! # Base64

  Bytes written with the standard alphabet of 64 symbols, four symbols for
  three bytes, with padding at the end. Strict reading accepts exactly the
  padded form whose unused bits are zero, and names the first fault; loose
  reading needs neither.
-/

namespace QueryDispatch

/-- Why a text is not valid base64. -/
inductive Base64Fault where
  /-- A byte that is no symbol at its place. -/
  | symbol (byte : UInt8) (offset : Nat)
  /-- The text ends with a single symbol. -/
  | length (n : Nat)
  /-- The last symbol has bits that no byte uses. -/
  | lastSymbol (byte : UInt8) (offset : Nat)
  /-- Padding is missing. -/
  | padding
  deriving DecidableEq, Repr

/-- The wording of a fault. -/
def Base64Fault.message : Base64Fault → String
  | .symbol byte offset =>
    "Invalid symbol " ++ String.ofList (natText byte.toNat) ++ ", offset " ++
      String.ofList (natText offset) ++ "."
  | .length n => "Invalid input length: " ++ String.ofList (natText n)
  | .lastSymbol byte offset =>
    "Invalid last symbol " ++ String.ofList (natText byte.toNat) ++ ", offset " ++
      String.ofList (natText offset) ++ "."
  | .padding => "Invalid padding"

namespace Base64

/-- The byte that fills up the last group. -/
def pad : UInt8 := 61

/-- The number that a symbol stands for. -/
def value? (b : UInt8) : Option Nat :=
  let n := b.toNat
  if 65 ≤ n ∧ n ≤ 90 then some (n - 65)
  else if 97 ≤ n ∧ n ≤ 122 then some (n - 97 + 26)
  else if 48 ≤ n ∧ n ≤ 57 then some (n - 48 + 52)
  else if n = 43 then some 62
  else if n = 47 then some 63
  else none

/-- The symbol of a number below 64. -/
def symbol (n : Nat) : Char :=
  if n < 26 then Char.ofNat (n + 65)
  else if n < 52 then Char.ofNat (n - 26 + 97)
  else if n < 62 then Char.ofNat (n - 52 + 48)
  else if n = 62 then '+'
  else '/'

/-- The last `count` bytes of a number. -/
def bytesOf (count n : Nat) : List UInt8 :=
  (List.range count).map fun i => UInt8.ofNat (n / Nat.pow 256 (count - 1 - i))

/-- The values of leading symbols. -/
def values : List UInt8 → List Nat
  | [] => []
  | b :: rest =>
    match value? b with
    | some v => v :: values rest
    | none => []

/-- The number that some symbol values form together. -/
def joined (vs : List Nat) : Nat := vs.foldl (fun n v => n * 64 + v) 0

/-- Decodes the last group, at most four bytes long. -/
def decodeLast (offset : Nat) (group : List UInt8) : Except Base64Fault (List UInt8) :=
  let vs := values group
  let n := vs.length
  let behind := group.drop n
  let pads := behind.takeWhile (· == pad)
  let count := n * 6 / 8
  let unused := n * 6 - count * 8
  match group, behind with
  | [], _ => .ok []
  | _, b :: _ =>
    if b ≠ pad ∨ n < 2 ∨ pads.length < behind.length then .error (.symbol b (offset + n))
    else if (n + pads.length) % 4 ≠ 0 then .error .padding
    else finish n count unused vs
  | _, [] =>
    if n < 2 then .error (.length (offset + n))
    else if n % 4 ≠ 0 then .error .padding
    else finish n count unused vs
where
  /-- The bytes of the symbols, unless the last symbol has bits beyond them. -/
  finish (n count unused : Nat) (vs : List Nat) : Except Base64Fault (List UInt8) :=
    if joined vs % Nat.pow 2 unused ≠ 0 then
      .error (.lastSymbol ((group[n - 1]?).getD 0) (offset + n - 1))
    else .ok (bytesOf count (joined vs / Nat.pow 2 unused))

/-- Decodes group after group, the last one with its padding. -/
def decodeGroups (offset : Nat) : List UInt8 → Except Base64Fault (List UInt8)
  | a :: b :: c :: d :: e :: rest =>
    let group := [a, b, c, d]
    match group.drop (values group).length with
    | bad :: _ => .error (.symbol bad (offset + (values group).length))
    | [] => do
      let more ← decodeGroups (offset + 4) (e :: rest)
      return bytesOf 3 (joined (values group)) ++ more
  | group => decodeLast offset group

/-- Decodes a text. A single byte behind the last group is reported first if it is no symbol. -/
def decode (s : List UInt8) : Except Base64Fault (List UInt8) :=
  match s.getLast? with
  | some b =>
    if s.length % 4 = 1 ∧ b ≠ pad ∧ value? b = none then .error (.symbol b (s.length - 1))
    else decodeGroups 0 s
  | none => .ok []

/-- The bytes of symbol values, without the bits beyond the last whole byte. -/
def wholeBytes : List Nat → List UInt8
  | a :: b :: c :: d :: rest => bytesOf 3 (joined [a, b, c, d]) ++ wholeBytes rest
  | [a, b, c] => bytesOf 2 (joined [a, b, c] / 4)
  | [a, b] => bytesOf 1 (joined [a, b] / 16)
  | _ => []

/-- Decodes a text whose padding may be missing and whose unused bits may be anything. -/
def decodeLoose? (s : List UInt8) : Option (List UInt8) :=
  let vs := values s
  let behind := s.drop vs.length
  if behind.any (· != pad) || vs.length % 4 == 1 then none
  else if behind.isEmpty || (vs.length + behind.length) % 4 == 0 && behind.length ≤ 2 then
    some (wholeBytes vs)
  else none

/-- Encodes bytes, three at a time. -/
def encode : List UInt8 → List Char
  | [] => []
  | [a] =>
    let n := a.toNat * 16
    [symbol (n / 64), symbol (n % 64), '=', '=']
  | [a, b] =>
    let n := (a.toNat * 256 + b.toNat) * 4
    [symbol (n / 4096), symbol (n / 64 % 64), symbol (n % 64), '=']
  | a :: b :: c :: rest =>
    let n := (a.toNat * 256 + b.toNat) * 256 + c.toNat
    symbol (n / 262144) :: symbol (n / 4096 % 64) :: symbol (n / 64 % 64) :: symbol (n % 64) ::
      encode rest

end Base64

end QueryDispatch
