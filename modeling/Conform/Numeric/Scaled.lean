import Conform.Numeric.Decimal

/-! Integers times powers of ten. Every finite number has this form exactly, and two such numbers
are compared without writing out a power that is far larger than the other operand. -/

namespace Conform
set_option autoImplicit false

/-- The number `coefficient * 10 ^ exponent`. -/
structure Scaled where
  coefficient : Int
  exponent : Int
  deriving DecidableEq

namespace Scaled

/-! ## Finite numbers -/

def signed (negative : Bool) (n : Nat) : Int := if negative then -(n : Int) else n

/-- The number `± coefficient * 10 ^ exponent`. -/
def ofDecimal (negative : Bool) (coefficient : Nat) (exponent : Int) : Scaled :=
  ⟨signed negative coefficient, exponent⟩

/-- The number `± significand * 2 ^ exponent`: a half is five tenths. -/
def ofBinary (negative : Bool) (significand : Nat) (exponent : Int) : Scaled :=
  ⟨signed negative (significand * Nat.pow 2 exponent.toNat * Nat.pow 5 (-exponent).toNat),
    min exponent 0⟩

def ofInt (n : Int) : Scaled := ⟨n, 0⟩

/-! ## Order -/

/-- `n * 10 ^ d ≤ m`. A number with fewer than `3 * d` binary digits is nearer to zero than
`10 ^ d`, so that the sign of `n` decides. -/
def shiftedLe (n : Int) (d : Nat) (m : Int) : Bool :=
  if n = 0 then 0 ≤ m
  else if m.natAbs.log2 < 3 * d then n < 0
  else n * Int.pow 10 d ≤ m

def le (a b : Scaled) : Bool :=
  if b.exponent ≤ a.exponent then
    shiftedLe a.coefficient (a.exponent - b.exponent).toNat b.coefficient
  else shiftedLe (-b.coefficient) (b.exponent - a.exponent).toNat (-a.coefficient)

example : le ⟨1, 999999999⟩ ⟨7, 0⟩ = false := by decide
example : le ⟨1, -999999999⟩ ⟨7, 0⟩ = true := by decide
example : le ⟨10, 1⟩ ⟨1, 2⟩ && le ⟨1, 2⟩ ⟨10, 1⟩ := by decide

/-! ## Whole numbers -/

/-- The number without its fraction; a fraction alone is recognised by its size. -/
def truncate (a : Scaled) : Int :=
  let places := (-a.exponent).toNat
  if a.coefficient.natAbs.log2 < 3 * places then 0
  else (a.coefficient * Int.pow 10 a.exponent.toNat).tdiv (Int.pow 10 places)

end Scaled
end Conform
