import QueryDispatch.Calendar.Instant
import QueryDispatch.Json.Wire

/-! # Maximal ages

  How old a stored result may be and still answer a request. On the wire this
  is one integer: zero never takes a stored result, a negative number takes
  any, and a positive one takes results up to that many seconds old.
-/

namespace QueryDispatch

/-- How old a stored result may be. -/
inductive MaxAge where
  | never
  | forever
  | seconds (n : UInt64)
  deriving DecidableEq, Repr

namespace MaxAge

/-- Any stored result will do unless something else is asked for. -/
def default : MaxAge := .forever

/-- The meaning of an integer. -/
def ofInt64 (n : Int64) : MaxAge :=
  if n = 0 then .never else if n < 0 then .forever else .seconds n.toUInt64

/-- The integer that is written; seconds beyond its range are cut to the largest. -/
def toInt64 : MaxAge → Int64
  | .never => 0
  | .forever => -1
  | .seconds n => if n < 9223372036854775808 then n.toInt64 else 9223372036854775807

/-- The longest span in whole seconds that a difference of times is compared with. -/
def longestSpan : Nat := 9223372036854775807 / 1000

/-- Whether a result retrieved at one instant may be used at another. -/
def accepts (age : MaxAge) (retrievedAt now : Instant) : Bool :=
  match age with
  | .never => false
  | .forever => true
  | .seconds n =>
    let limit : Int := (min (min n.toNat 9223372036854775807) longestSpan : Nat)
    decide (now.since retrievedAt ≤ limit * 1000000000)

end MaxAge

instance : Wire MaxAge where
  encode a := Wire.encode a.toInt64
  decode? j := (Wire.decode? j).map MaxAge.ofInt64

end QueryDispatch
