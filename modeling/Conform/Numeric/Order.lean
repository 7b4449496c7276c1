import Conform.Fault
import Conform.Numeric.Scaled

/-! Exact comparison across integers, floats and decimals. A number has a `position?` among the
finite numbers and two infinities, or none if it is not a number; equality and order are those of
the positions. What is not a number is unequal to all and in no order with any; decimals answer
the second with a fault, and a signaling one the first too. -/

namespace Conform
set_option autoImplicit false

/-! ## Positions -/

/-- A finite number or one of the two infinities. -/
inductive Position where
  | bottom
  | at (x : Scaled)
  | top
  deriving DecidableEq

def Position.le : Position → Position → Bool
  | .bottom, _ => true
  | _, .top => true
  | .at x, .at y => x.le y
  | _, _ => false

/-- One number may have many spellings, which are all in the same place. -/
def Position.same (p q : Position) : Bool := p.le q && q.le p

/-! ## Numbers -/

inductive Number where
  | int (n : Int)
  | float (x : Binary64)
  | decimal (d : Decimal)
  deriving DecidableEq

namespace Number

def position? : Number → Option Position
  | .int n => some (.at (.ofInt n))
  | .float x =>
    match x.unpack with
    | .nan => none
    | .infinite negative => some (if negative then .bottom else .top)
    | .finite negative m e => some (.at (.ofBinary negative m e))
  | .decimal (.finite negative c e) => some (.at (.ofDecimal negative c e))
  | .decimal (.infinite negative) => some (if negative then .bottom else .top)
  | .decimal (.nan ..) => none

def isDecimal : Number → Bool
  | .decimal _ => true
  | _ => false

def isSignaling : Number → Bool
  | .decimal (.nan _ signaling _) => signaling
  | _ => false

/-- Equal positions; false if one side is not a number. -/
def samePosition (a b : Number) : Bool :=
  match a.position?, b.position? with
  | some p, some q => p.same q
  | _, _ => false

def equals (a b : Number) : Except Fault Bool :=
  if a.isSignaling || b.isSignaling then .error .invalidDecimal else .ok (a.samePosition b)

/-- A test of the two positions; without them false, or a fault if a decimal is involved. -/
def compareBy (test : Position → Position → Bool) (a b : Number) : Except Fault Bool :=
  match a.position?, b.position? with
  | some p, some q => .ok (test p q)
  | _, _ => if a.isDecimal || b.isDecimal then .error .invalidDecimal else .ok false

def le (a b : Number) : Except Fault Bool := compareBy Position.le a b
def lt (a b : Number) : Except Fault Bool := compareBy (fun p q => !q.le p) a b

end Number
end Conform
