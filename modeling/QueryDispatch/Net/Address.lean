import QueryDispatch.Net.DomainName
import QueryDispatch.Number.Numeral
import QueryDispatch.Text.FormData

/-! # Network addresses

  Which texts can stand as the host in an address of the form
  `scheme://host:port`: domain names, IPv4 addresses in their number forms, and
  IPv6 addresses in brackets.
-/

namespace QueryDispatch

/-- Why an address cannot be used. -/
inductive AddressFault where
  | emptyHost
  | name
  | port
  | ipv4
  | ipv6
  deriving DecidableEq, Repr

/-- The wording of a fault. -/
def AddressFault.message : AddressFault → String
  | .emptyHost => "empty host"
  | .name => "invalid international domain name"
  | .port => "invalid port number"
  | .ipv4 => "invalid IPv4 address"
  | .ipv6 => "invalid IPv6 address"

namespace Address

/-! ### IPv4 -/

/-- Reads a number of a base; a text without digits is zero. -/
def readBase? (base : Nat) (s : List Char) : Option Nat :=
  s.foldlM (fun n c => do
    let d ← Json.hexValue? c
    if d < base then some (n * base + d) else none) 0

/-- Reads a part of an IPv4 address: hexadecimal behind `0x`, octal behind `0`, else decimal. -/
def ipv4Part? : List Char → Option Nat
  | [] => none
  | '0' :: 'x' :: digits | '0' :: 'X' :: digits => readBase? 16 digits
  | '0' :: c :: digits => readBase? 8 (c :: digits)
  | digits => readBase? 10 digits

/-- The parts between points, without an empty last one. -/
def nameParts (name : List Char) : List (List Char) :=
  let parts := Text.splitAt '.' name
  if parts.getLast? = some [] ∧ 1 < parts.length then parts.dropLast else parts

/-- Whether the last part of a name is a number, so that the name has to be an IPv4 address. -/
def endsInNumber (name : List Char) : Bool :=
  match (nameParts name).getLast? with
  | some part => (!part.isEmpty && part.all Char.isDigit) || (ipv4Part? part).isSome
  | none => false

/-- Whether the parts are an IPv4 address: at most four, each but the last below 256, and the last
    one fills the bytes that are left. -/
def isIpv4 (name : List Char) : Bool :=
  match (nameParts name).mapM ipv4Part? with
  | some numbers =>
    numbers.length ≤ 4 && numbers.dropLast.all (· < 256) &&
      numbers.getLast?.any (· < Nat.pow 256 (5 - numbers.length))
  | none => false

/-! ### IPv6 -/

/-- Whether a text is a byte in decimal without leading zeros. -/
def isDecimalByte (s : List Char) : Bool :=
  match readNat? s with
  | some n => n < 256 && (s.length == 1 || s.head? != some '0')
  | none => false

/-- How many of the eight pieces the parts between colons fill; only the last part may be an IPv4
    address, and it fills two. -/
def pieces? : List (List Char) → Option Nat
  | [] => some 0
  | part :: rest =>
    if 1 ≤ part.length ∧ part.length ≤ 4 ∧ (part.all fun c => (Json.hexValue? c).isSome) then
      (pieces? rest).map (· + 1)
    else
      let bytes := Text.splitAt '.' part
      if rest.isEmpty && bytes.length == 4 && bytes.all isDecimalByte then some 2 else none

/-- The pieces of one side of a `::`, which may be empty. -/
def sidePieces? (s : List Char) : Option Nat :=
  if s.isEmpty then some 0 else pieces? (Text.splitAt ':' s)

/-- Whether a text is an IPv6 address: eight pieces, or fewer with one `::` for the rest. -/
def isIpv6 (s : List Char) : Bool :=
  match Text.cutAt? [':', ':'] s with
  | none => pieces? (Text.splitAt ':' s) == some 8
  | some (head, tail) =>
    !head.contains '.' &&
      match sidePieces? head, sidePieces? tail with
      | some m, some n => m + n ≤ 7
      | _, _ => false

/-! ### Hosts -/

/-- Replaces percent forms by the bytes they stand for and reads the bytes as text. -/
def unescape (s : List Char) : List Char :=
  let rec go : List UInt8 → List UInt8
    | 37 :: a :: b :: rest =>
      match FormData.hexByte? a, FormData.hexByte? b with
      | some x, some y => UInt8.ofNat (x * 16 + y) :: go rest
      | _, _ => 37 :: go (a :: b :: rest)
    | b :: rest => b :: go rest
    | [] => []
  Text.readUtf8 (go (Text.utf8 s))

/-- Checks a host. -/
def checkHost (host : List Char) : Except AddressFault Unit :=
  match host with
  | [] => .error .emptyHost
  | '[' :: rest =>
    if rest.getLast? = some ']' ∧ isIpv6 rest.dropLast then .ok () else .error .ipv6
  | host =>
    match DomainName.read? (unescape host) with
    | none => .error .name
    | some [] => .error .emptyHost
    | some name => if endsInNumber name && !isIpv4 name then .error .ipv4 else .ok ()

/-- Checks what stands behind the host: nothing, or a colon and a port. -/
def checkPort : List Char → Except AddressFault Unit
  | ':' :: digits =>
    if digits.all Char.isDigit && decide (digitsValue digits ≤ 65535) then .ok () else .error .port
  | _ => .ok ()

/-- Takes a host off the front: a colon ends it unless it stands in brackets. -/
def takeHost (inBrackets : Bool) : List Char → List Char × List Char
  | [] => ([], [])
  | c :: rest =>
    if c = ':' ∧ ¬ inBrackets then ([], c :: rest)
    else
      let (host, behind) := takeHost (if c = '[' then true else if c = ']' then false
        else inBrackets) rest
      (c :: host, behind)

/-- What stands behind the last `@`. -/
def withoutUser (authority : List Char) : List Char :=
  (authority.reverse.takeWhile (· != '@')).reverse

/-- Checks an address without its scheme. Line breaks and tabs do not count, nor do slashes in
    front; what follows the host and port is not looked at. -/
def check (address : List Char) : Except AddressFault Unit := do
  let isSlash (c : Char) : Bool := c == '/' || c == '\\'
  let kept := address.filter fun c => !(c == '\t' || c == '\n' || c == '\r')
  let authority := (kept.dropWhile isSlash).takeWhile fun c =>
    !(isSlash c || c == '?' || c == '#')
  let (host, behind) := takeHost false (withoutUser authority)
  checkHost host
  checkPort behind

end Address

end QueryDispatch
