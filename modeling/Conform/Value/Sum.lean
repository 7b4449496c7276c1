import Conform.Numeric.Precision
import Conform.Value.Basic

/-! Sums. Integers are added exactly; floats exactly and then rounded to the nearest float;
decimals to a limited precision. An integer joins either sort, floats and decimals do not mix. Two
series of one sort are put one behind the other. -/

namespace Conform
set_option autoImplicit false

/-! ## Floats -/

def Binary64.add (x y : Binary64) : Binary64 :=
  match x.unpack, y.unpack with
  | .nan, _ | _, .nan => .nan
  | .infinite p, .infinite q => if p = q then .infinity p else .nan
  | .infinite p, _ => .infinity p
  | _, .infinite q => .infinity q
  | .finite p m d, .finite q n e =>
    let sum := rational p m d + rational q n e
    .nearest (if sum = 0 then p && q else sum < 0) sum.num.natAbs sum.den

/-- An integer to be added to a float. -/
def Binary64.operand (n : Int) : Except Fault Binary64 :=
  match ofInt? n with
  | some x => .ok x
  | none => .error .floatTooLarge

/-! ## Series -/

/-- A series of one sort behind another. What cannot change is not made anew where nothing is
added to it. -/
def Value.append (v w : Value) : Except Fault Value :=
  match v, w with
  | .str s, .str t => .ok (.str (s ++ t))
  | .atom (.bytes _ []), .atom (.bytes ..) | .tuple _ [], .tuple .. => .ok w
  | .atom (.bytes ..), .atom (.bytes _ []) | .tuple .., .tuple _ [] => .ok v
  | .atom (.bytes _ bs), .atom (.bytes _ cs) => .ok (.atom (.bytes 0 (bs ++ cs)))
  | .tuple _ xs, .tuple _ ys => .ok (.tuple 0 (xs ++ ys))
  | .list _ xs, .list _ ys => .ok (.list 0 (xs ++ ys))
  | _, _ => .error .mismatch

/-! ## Values -/

def Value.plus (v w : Value) : Except Fault Value :=
  match v.number?, w.number? with
  | some (.int m), some (.int n) => .ok (.int (m + n))
  | some (.float x), some (.float y) => .ok (.atom (.float 0 (x.add y)))
  | some (.int m), some (.float y) => do .ok (.atom (.float 0 ((← Binary64.operand m).add y)))
  | some (.float x), some (.int n) => do .ok (.atom (.float 0 (x.add (← Binary64.operand n))))
  | some (.decimal x), some (.decimal y) => do .ok (.atom (.decimal 0 (← x.add y)))
  | some (.int m), some (.decimal y) => do .ok (.atom (.decimal 0 (← (Decimal.ofInt m).add y)))
  | some (.decimal x), some (.int n) => do .ok (.atom (.decimal 0 (← x.add (Decimal.ofInt n))))
  | _, _ => v.append w

end Conform
