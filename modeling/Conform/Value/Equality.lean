import Conform.Value.Identity

/-! Three notions of equality. `equals` compares content: numbers by position, containers item by
item, an item being equal to itself whatever it is; a mapping is compared like a dictionary, if it
can be read to the end. `strictEquals` compares scalars by content and kind, everything else by
identity. Keys match if they are the same object or equal. -/

namespace Conform
set_option autoImplicit false

/-! ## Equality of content -/

/-- Numbers of every sort are compared as numbers, bytes and ranges by content, choices without
regard to their order. -/
def Atom.equals (a b : Atom) : Except Fault Bool :=
  match a.number?, b.number? with
  | some x, some y => x.equals y
  | _, _ =>
    match a, b with
    | .bytes _ x, .bytes _ y => .ok (x = y)
    | .range _ m, .range _ n => .ok (max m 0 = max n 0)
    | .choice _ xs, .choice _ ys => .ok (xs.all ys.contains && ys.all xs.contains)
    | a, b => .ok (a = b)

/-- A verdict that holds, a fault counting as none. -/
def holds : Except Fault Bool → Bool
  | .ok b => b
  | .error _ => false

/-- The looking up of one of the entries fails. -/
def unreadable (entries : List (Value × Value)) (raising : List String) : Bool :=
  entries.any fun e => raising.any fun name => e.1 = .str name

/-- One of the two operands of a comparison. -/
inductive Side where
  | left
  | right
  deriving DecidableEq

/-- What is known of an entry: the key of its counterpart and the verdict on the two values. -/
abbrev Counterpart := Value × Except Fault Bool

namespace Counterpart

/-- The first verdict that is not in favour; an entry without a counterpart is a difference. -/
def firstObjection : List (Option (Except Fault Bool)) → Except Fault Bool
  | [] => .ok true
  | none :: _ => .ok false
  | some (.ok true) :: rest => firstObjection rest
  | some r :: _ => r

/-- The verdict on entries of which the counterparts are known, in the order of one side. -/
def settle (order : Side) (found : List (Option Counterpart)) (right : List (Value × Value)) :
    Except Fault Bool :=
  firstObjection (match order with
    | .left => found.map fun c => c.map (·.2)
    | .right => right.map fun e => (found.reduceOption.find? fun c => c.1 = e.1).map (·.2))

end Counterpart

namespace Value

mutual

/-- Whether two values are equal, where the operand on one side is `asked`. It does not matter for
the verdict which one that is, but entries are gone through in the order of the operand that is
asked, so that it can matter for the fault. A mapping is asked before a dictionary. -/
def equalsAsking (asked : Side) : Value → Value → Except Fault Bool
  | .atom a, .atom b => a.equals b
  | .list _ xs, .list _ ys => if xs.length = ys.length then equalsAll asked xs ys else .ok false
  | .tuple _ xs, .tuple _ ys => equalsAll asked xs ys
  | .dict _ xs, .dict _ ys =>
    if xs.length = ys.length then Counterpart.settle asked (counterparts asked xs ys) ys
    else .ok false
  | .mapping _ xs r, .mapping _ ys s =>
    if unreadable xs r || unreadable ys s then .error .lookupFailed
    else if xs.length = ys.length then Counterpart.settle asked (counterparts asked xs ys) ys
    else .ok false
  | .mapping _ xs r, .dict _ ys =>
    if unreadable xs r then .error .lookupFailed
    else if xs.length = ys.length then Counterpart.settle .left (counterparts .left xs ys) ys
    else .ok false
  | .dict _ xs, .mapping _ ys s =>
    if unreadable ys s then .error .lookupFailed
    else if xs.length = ys.length then Counterpart.settle .right (counterparts .right xs ys) ys
    else .ok false
  | .schema _ f xs, .schema _ g ys => if f = g then equalsAll asked xs ys else .ok false
  | a, b => .ok (a = b)

/-- Item by item, up to the first difference. -/
def equalsAll (asked : Side) : List Value → List Value → Except Fault Bool
  | [], [] => .ok true
  | x :: xs, y :: ys =>
    if x = y then equalsAll asked xs ys
    else match equalsAsking asked x y with
      | .ok true => equalsAll asked xs ys
      | r => r
  | _, _ => .ok false

/-- The counterparts of entries. -/
def counterparts (asked : Side) :
    List (Value × Value) → List (Value × Value) → List (Option Counterpart)
  | [], _ => []
  | (k, v) :: xs, ys =>
    ((ys.find? fun e => k = e.1 || holds (equalsAsking asked k e.1)).map fun e =>
      (e.1, if v = e.2 then .ok true else equalsAsking asked v e.2)) ::
      counterparts asked xs ys

end

/-- Whether two values have equal contents, the one on the left being asked. -/
def equals (v w : Value) : Except Fault Bool := equalsAsking .left v w

/-! ## Keys -/

/-- Both values name the same entry of a dictionary. -/
def keyMatches (k l : Value) : Bool := k = l || holds (equals k l)

end Value

/-- Entries in the order of insertion; no two keys match. -/
abbrev Entries := List (Value × Value)

namespace Entries

def get? (k : Value) (es : Entries) : Option Value :=
  (es.find? fun e => e.1.keyMatches k).map (·.2)

def contains (k : Value) (es : Entries) : Bool := es.any fun e => e.1.keyMatches k

/-- A key that is present keeps its spelling and its place; a new one goes to the end. -/
def insert (k v : Value) : Entries → Entries
  | [] => [(k, v)]
  | e :: es => if e.1.keyMatches k then (e.1, v) :: es else e :: insert k v es

def setDefault (k v : Value) (es : Entries) : Entries :=
  if es.contains k then es else es ++ [(k, v)]

def erase (k : Value) (es : Entries) : Entries := es.filter fun e => !e.1.keyMatches k

def ofList (es : List (Value × Value)) : Entries := es.foldl (fun a e => insert e.1 e.2 a) []

end Entries

/-! ## Strict equality -/

/-- Equality of two scalars of the same kind. -/
def Atom.sameScalar (a b : Atom) : Bool :=
  match a.number?, b.number? with
  | some x, some y => x.samePosition y
  | _, _ => a = b

/-- Scalars of one kind by content, other values by identity. -/
def Value.strictEquals (a b : Value) : Bool :=
  a.kind = b.kind &&
    match a, b with
    | .atom x, .atom y => if x.kind.isScalar then x.sameScalar y else x = y
    | a, b => a = b

end Conform
