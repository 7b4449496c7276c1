import Conform.Fault
import Conform.Numeric.Decimal

/-! Decimal arithmetic of limited precision. A result is worked out exactly and then finished: a
long coefficient is rounded, an exponent that is too small is raised, and a number that is too
large is a fault. Operands far apart are added without writing out the distance. -/

namespace Conform
set_option autoImplicit false

namespace Decimal

/-! ## Limits -/

/-- A result has at most this many digits. -/
def maxDigits : Nat := 28

/-- The largest exponent of a leading digit. -/
def topExponent : Int := 999999

/-- The smallest exponent of a last digit. -/
def bottomExponent : Int := -1000026

def digitCount (n : Nat) : Nat := (toString n).length

/-! ## Finishing -/

/-- `n / 10 ^ d` to the nearest natural, a half to the even one. A number of fewer digits than
`d` is below a half. -/
def dropDigits (n d : Nat) : Nat :=
  if digitCount n < d then 0 else Binary64.roundHalfEven n (Nat.pow 10 d)

/-- The decimal for an exact result. -/
def finish (negative : Bool) (c : Nat) (e : Int) : Except Fault Decimal :=
  if c = 0 then .ok (.finite negative 0 (max bottomExponent (min e topExponent)))
  else
    let exponent := max (max e bottomExponent) (e + digitCount c - maxDigits)
    let rounded := dropDigits c (exponent - e).toNat
    let (c, e) := if rounded = Nat.pow 10 maxDigits then (rounded / 10, exponent + 1)
      else (rounded, exponent)
    if c ≠ 0 ∧ topExponent < e + digitCount c - 1 then .error .decimalOverflow
    else .ok (.finite negative c e)

/-- What is not a number stays so, with the last digits of its payload. -/
def finishNan (negative : Bool) (payload : Nat) : Decimal :=
  .nan negative false (payload % Nat.pow 10 maxDigits)

/-! ## Addition -/

/-- The finite number `± coefficient * 10 ^ exponent`. -/
structure Operand where
  negative : Bool
  coefficient : Nat
  exponent : Int

namespace Operand

/-- The same number with a smaller exponent, as an integer. -/
def aligned (t : Operand) (exponent : Int) : Int :=
  let n : Int := t.coefficient * Int.pow 10 (t.exponent - exponent).toNat
  if t.negative then -n else n

/-- A small number next to a much larger one matters only by its sign. -/
def besides (small large : Operand) : Operand :=
  let reach := large.exponent + min (-1) ((digitCount large.coefficient : Int) - maxDigits - 2)
  if small.exponent + digitCount small.coefficient - 1 < reach then ⟨small.negative, 1, reach⟩
  else small

/-- Neither is zero, and the first has the larger exponent. -/
def addOrdered (a b : Operand) : Except Fault Decimal :=
  let b := b.besides a
  let exponent := min a.exponent b.exponent
  let sum := a.aligned exponent + b.aligned exponent
  finish (if sum = 0 then a.negative && b.negative else sum < 0) sum.natAbs exponent

/-- A zero can only lower the exponent of the other number. -/
def addZero (a zero : Operand) : Except Fault Decimal :=
  let exponent := max (min a.exponent zero.exponent) (a.exponent - maxDigits)
  finish a.negative (a.aligned exponent).natAbs exponent

def add (a b : Operand) : Except Fault Decimal :=
  if a.coefficient = 0 && b.coefficient = 0 then
    finish (a.negative && b.negative) 0 (min a.exponent b.exponent)
  else if a.coefficient = 0 then b.addZero a
  else if b.coefficient = 0 then a.addZero b
  else if b.exponent ≤ a.exponent then a.addOrdered b
  else b.addOrdered a

end Operand

def add (x y : Decimal) : Except Fault Decimal :=
  match x, y with
  | .nan _ true _, _ | _, .nan _ true _ => .error .invalidDecimal
  | .nan n _ p, _ => .ok (finishNan n p)
  | _, .nan n _ p => .ok (finishNan n p)
  | .infinite p, .infinite q => if p = q then .ok (.infinite p) else .error .invalidDecimal
  | .infinite p, _ => .ok (.infinite p)
  | _, .infinite q => .ok (.infinite q)
  | .finite p c d, .finite q b e => Operand.add ⟨p, c, d⟩ ⟨q, b, e⟩

/-! ## Magnitude -/

def abs : Decimal → Except Fault Decimal
  | .nan _ true _ => .error .invalidDecimal
  | .nan n false p => .ok (finishNan n p)
  | .infinite _ => .ok (.infinite false)
  | .finite _ c e => finish false c e

def ofInt (n : Int) : Decimal := .finite (n < 0) n.natAbs 0

end Decimal
end Conform
