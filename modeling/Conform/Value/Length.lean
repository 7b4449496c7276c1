import Conform.Value.Order

/-! Length and truth. Texts and containers have a length, an object may have one; every value is
true or false, an object with a length by its length. -/

namespace Conform
set_option autoImplicit false

/-- No container is longer. -/
def maxLength : Nat := Nat.pow 2 63 - 1

def Atom.length : Atom → Except Fault Nat
  | .str s => .ok s.length
  | .bytes _ data => .ok data.length
  | .range _ stop => if stop ≤ maxLength then .ok stop.toNat else .error .rangeTooLong
  | _ => .error .mismatch

def Value.length : Value → Except Fault Nat
  | .atom a => a.length
  | .symbol .. => .error .mismatch
  | .list _ xs => .ok xs.length
  | .tuple _ xs => .ok xs.length
  | .dict _ es => .ok es.length
  | .mapping _ es _ => .ok es.length
  | .object _ _ traits => traits.length.get
  | .schema .. => .error .mismatch

/-- The length that an object reports by giving a value for it. -/
def Value.asLength : Value → Answer Nat
  | .int n =>
    if n < 0 then .fails .negativeLength
    else if maxLength < n.toNat then .fails .lengthTooLarge
    else .gives n.toNat
  | .bool b => .gives (if b then 1 else 0)
  | _ => .fails .mismatch

def Atom.truthy : Atom → Bool
  | .null | .undefined => false
  | .bool b => b
  | .int n => n != 0
  | .float _ x =>
    match x.unpack with
    | .finite _ m _ => m != 0
    | _ => true
  | .str s => !s.isEmpty
  | .function _ | .choice .. => true
  | .bytes _ data => !data.isEmpty
  | .decimal _ (.finite _ c _) => c != 0
  | .decimal _ _ => true
  | .range _ stop => 0 < stop

def Value.truthy : Value → Except Fault Bool
  | .atom a => .ok a.truthy
  | .symbol .. => .ok true
  | .list _ xs => .ok !xs.isEmpty
  | .tuple _ xs => .ok !xs.isEmpty
  | .dict _ es => .ok !es.isEmpty
  | .mapping _ es _ => .ok !es.isEmpty
  | .object _ _ traits =>
    match traits.length with
    | .unsupported => .ok true
    | .fails fault => .error fault
    | .gives n => .ok (n != 0)
  | .schema .. => .ok true

/-- The answer that an object gives to a comparison by giving a value for it. -/
def Value.asAnswer (v : Value) : Answer Bool :=
  match v.truthy with
  | .ok b => .gives b
  | .error fault => .fails fault

/-! ## Bounds on a length -/

namespace Value

/-- A length is beyond a bound in the direction of the comparison; null bounds nothing. What cannot
be compared with a length is a fault. -/
def lengthBeyond (c : Comparison) (n : Nat) (bound : Value) : Except Fault Bool :=
  if bound.isNull then .ok false else (int n).compare c bound

/-- No given bound is violated. A value without a length violates them, whereas a comparison that
fails is a fault. -/
def lengthWithin (v lower upper : Value) : Except Fault Bool :=
  match v.length with
  | .error _ => .ok false
  | .ok n => do
    if ← lengthBeyond .below n lower then .ok false
    else do
      let above ← lengthBeyond .above n upper
      .ok !above

def hasLength (v size : Value) : Bool :=
  match v.length with
  | .error _ => false
  | .ok n => holds ((int n).equals size)

end Value
end Conform
