/-! Decimal notation: an optional sign, digits with at most one point, an optional exponent.
`Scientific.ofChars?` reads it into an exact coefficient and a power of ten. -/

namespace Conform
set_option autoImplicit false

/-- The number `± coefficient * 10 ^ exponent`. -/
structure Scientific where
  negative : Bool
  coefficient : Nat
  exponent : Int
  deriving DecidableEq

namespace Scientific

/-! ## Reading -/

def digitsValue (ds : List Char) : Nat :=
  ds.foldl (fun n c => 10 * n + (c.toNat - '0'.toNat)) 0

/-- The sign in front of a text, and what follows it. -/
def splitSign : List Char → Bool × List Char
  | '-' :: r => (true, r)
  | '+' :: r => (false, r)
  | r => (false, r)

/-- The exponent at the end of a text: nothing, or `e`, a sign and at least one digit. -/
def exponentOf? : List Char → Option Int
  | [] => some 0
  | c :: r =>
    if c == 'e' || c == 'E' then
      let (negative, ds) := splitSign r
      if !ds.isEmpty && ds.all Char.isDigit then
        some (if negative then -(digitsValue ds : Int) else digitsValue ds)
      else none
    else none

def ofChars? (cs : List Char) : Option Scientific :=
  let (negative, r) := splitSign cs
  let whole := r.takeWhile Char.isDigit
  let r := r.dropWhile Char.isDigit
  let (fraction, r) := match r with
    | '.' :: r => (r.takeWhile Char.isDigit, r.dropWhile Char.isDigit)
    | r => ([], r)
  if whole.isEmpty && fraction.isEmpty then none
  else (exponentOf? r).map fun e =>
    ⟨negative, digitsValue (whole ++ fraction), e - fraction.length⟩

end Scientific
end Conform
