import Conform.Value.Equality

/-! Order of values: numbers by position, strings by code point, bytes, lists and tuples
lexicographically; an object answers for itself. Other pairs are in no order, which is a
fault. -/

namespace Conform
set_option autoImplicit false

/-- The four comparisons with a bound, the last two of them strict. -/
inductive Comparison where
  | atLeast
  | atMost
  | above
  | below
  deriving DecidableEq

namespace Comparison

/-- The same comparison seen from the other side. -/
def flip : Comparison → Comparison
  | atLeast => atMost
  | atMost => atLeast
  | above => below
  | below => above

/-- A comparison in a total order, which a test for being at most decides. -/
def byLe {α : Type} (le : α → α → Bool) : Comparison → α → α → Bool
  | atLeast, x, y => le y x
  | atMost, x, y => le x y
  | above, x, y => !le x y
  | below, x, y => !le y x

def ofLength : Comparison → Nat → Nat → Bool := byLe fun m n => m ≤ n

/-- Lexicographic order of bytes. -/
def bytesLe : List UInt8 → List UInt8 → Bool
  | [], _ => true
  | _ :: _, [] => false
  | x :: xs, y :: ys => if x = y then bytesLe xs ys else x.toNat < y.toNat

def ofNumbers : Comparison → Number → Number → Except Fault Bool
  | atLeast, x, y => y.le x
  | atMost, x, y => x.le y
  | above, x, y => y.lt x
  | below, x, y => x.lt y

def ofAtoms (c : Comparison) (a b : Atom) : Except Fault Bool :=
  match a.number?, b.number? with
  | some x, some y => c.ofNumbers x y
  | _, _ =>
    match a, b with
    | .str s, .str t => .ok (c.byLe (fun s t => s ≤ t) s t)
    | .bytes _ x, .bytes _ y => .ok (c.byLe bytesLe x y)
    | _, _ => .error .mismatch

end Comparison

/-- The same atom; a float is the same whichever object it is. -/
def Atom.resembles : Atom → Atom → Bool
  | .float _ x, .float _ y => x = y
  | a, b => a = b

/-- What is said to an operand. -/
def Response.to (r : Response) : Value → Answer Bool
  | .atom a =>
    match r.toAtoms.find? fun own => own.1.resembles a with
    | some own => own.2
    | none => r.otherwise
  | _ => r.otherwise

/-- What the object itself says when it is compared with the operand. -/
def Traits.answer (t : Traits) (c : Comparison) (operand : Value) : Answer Bool :=
  match c with
  | .atLeast => t.atLeast.to operand
  | .atMost => t.atMost.to operand
  | .above => t.above.to operand
  | .below => t.below.to operand

namespace Value

/-- The right side may answer if the left side does not. -/
def answerOfRight (c : Comparison) (v : Value) : Value → Except Fault Bool
  | .object _ _ traits => (traits.answer c.flip v).get
  | _ => .error .mismatch

mutual

def compare (c : Comparison) : Value → Value → Except Fault Bool
  | .atom a, .atom b => c.ofAtoms a b
  | .list _ xs, .list _ ys => compareItems c xs ys xs.length ys.length
  | .tuple _ xs, .tuple _ ys => compareItems c xs ys xs.length ys.length
  | .object tag attributes traits, b =>
    match traits.answer c b with
    | .unsupported => answerOfRight c (.object tag attributes traits) b
    | r => r.get
  | a, b => answerOfRight c a b

/-- The first two items that differ decide, and without any the two lengths. -/
def compareItems (c : Comparison) :
    List Value → List Value → Nat → Nat → Except Fault Bool
  | x :: xs, y :: ys, m, n =>
    if x = y then compareItems c xs ys m n
    else match equals x y with
      | .error f => .error f
      | .ok true => compareItems c xs ys m n
      | .ok false => compare c x y
  | _, _, m, n => .ok (c.ofLength m n)

end

/-- A bound that is null bounds nothing; a comparison that fails does not hold. -/
def satisfies (c : Comparison) (v bound : Value) : Bool :=
  bound.isNull || holds (v.compare c bound)

end Value
end Conform
