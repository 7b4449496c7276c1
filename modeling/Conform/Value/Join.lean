import Conform.Value.Equality
import Conform.Value.Text

/-! Joining and meeting of values: bit by bit for integers and truth values; the entries of two
dictionaries; classes, null and choices join to a choice between all of them. -/

namespace Conform
set_option autoImplicit false

/-! ## Bits -/

namespace Bits

/-- The bits of `m` that are not in `n`. -/
def without (m n : Nat) : Nat := m - (m &&& n)

/-- A negative integer has all but finitely many bits. -/
def join : Int → Int → Int
  | .ofNat m, .ofNat n => .ofNat (m ||| n)
  | .ofNat m, .negSucc n => .negSucc (without n m)
  | .negSucc m, .ofNat n => .negSucc (without m n)
  | .negSucc m, .negSucc n => .negSucc (m &&& n)

def meet : Int → Int → Int
  | .ofNat m, .ofNat n => .ofNat (m &&& n)
  | .ofNat m, .negSucc n => .ofNat (without m n)
  | .negSucc m, .ofNat n => .ofNat (without n m)
  | .negSucc m, .negSucc n => .negSucc (m ||| n)

example : join 12 10 = 14 ∧ meet 12 10 = 8 ∧ join (-4) 1 = -3 ∧ meet (-4) 7 = 4 := by decide

end Bits

/-! ## Values -/

namespace Value

/-- An integer or a truth value; floats and decimals have no bits. -/
def bits? (v : Value) : Option Int :=
  match v.number? with
  | some (.int n) => some n
  | _ => none

/-- The classes that a value stands for in a choice: null stands for its class, a choice for all of
its classes. -/
def classes? : Value → Option (List Callee)
  | .atom (.function (.cls path)) => some [.cls path]
  | null => some [.ofNull]
  | .atom (.choice _ classes) => some classes
  | _ => none

/-- A choice between all classes of two values, each once; a single class is no choice. At least
one of the values has to be more than null. -/
def choice (tag : Tag) (v w : Value) : Except Fault Value :=
  match v.classes?, w.classes? with
  | some xs, some ys =>
    if v.isNull && w.isNull then .error .mismatch
    else match (xs ++ ys).eraseDups with
      | [callee] => .ok (.atom (.function callee))
      | classes => .ok (.atom (.choice tag classes))
  | _, _ => .error .mismatch

/-- What is joined of parts is made afresh and takes the tag. -/
def join (tag : Tag) (v w : Value) : Except Fault Value :=
  match v, w with
  | bool a, bool b => .ok (.bool (a || b))
  | .dict _ xs, .dict _ ys => .ok (.dict tag (Entries.ofList (xs ++ ys)))
  | v, w =>
    match v.bits?, w.bits? with
    | some m, some n => .ok (.int (Bits.join m n))
    | _, _ => choice tag v w

def meet (v w : Value) : Except Fault Value :=
  match v, w with
  | bool a, bool b => .ok (.bool (a && b))
  | v, w =>
    match v.bits?, w.bits? with
    | some m, some n => .ok (.int (Bits.meet m n))
    | _, _ => .error .mismatch

end Value
end Conform
