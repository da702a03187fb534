/-! # Arithmetic modulo a number

  Powers and inverses of residues, as keys need them.
-/

namespace QueryDispatch

/-- A power modulo a number, by repeated squaring. -/
def powMod (base exponent modulus : Nat) : Nat :=
  if exponent = 0 then 1 % modulus
  else
    let half := powMod base (exponent / 2) modulus
    let square := half * half % modulus
    if exponent % 2 = 0 then square else square * base % modulus
termination_by exponent
decreasing_by omega

/-- The difference of two residues. -/
def subMod (x y modulus : Nat) : Nat := (x + (modulus - y % modulus)) % modulus

/-- The quotient of two residues modulo a prime. -/
def divMod (x y prime : Nat) : Nat := x * powMod y (prime - 2) prime % prime

/-- How many binary digits a number has. -/
def bitLength (n : Nat) : Nat := if n = 0 then 0 else n.log2 + 1

end QueryDispatch
