import Conform.Numeric.Notation

/-! Decimal numbers with a sign, a coefficient and a power of ten, so that `1.50` and `1.5` are
the same number in two spellings. `ofText?` reads a spelling, `text` writes it again. -/

namespace Conform
set_option autoImplicit false

inductive Decimal where
  /-- The number `± coefficient * 10 ^ exponent`. -/
  | finite (negative : Bool) (coefficient : Nat) (exponent : Int)
  | infinite (negative : Bool)
  | nan (negative signaling : Bool) (payload : Nat)
  deriving DecidableEq

namespace Decimal

/-! ## Reading -/

/-- The payload of a NaN: any digits, or none. -/
def payload? (ds : List Char) : Option Nat :=
  if ds.all Char.isDigit then some (Scientific.digitsValue ds) else none

/-- A word, without its sign, in lower case. -/
def special? (negative : Bool) : List Char → Option Decimal
  | ['i', 'n', 'f'] => some (.infinite negative)
  | ['i', 'n', 'f', 'i', 'n', 'i', 't', 'y'] => some (.infinite negative)
  | 'n' :: 'a' :: 'n' :: ds => (payload? ds).map (.nan negative false)
  | 's' :: 'n' :: 'a' :: 'n' :: ds => (payload? ds).map (.nan negative true)
  | _ => none

def ofText? (text : String) : Option Decimal :=
  let (negative, word) := Scientific.splitSign text.toList
  match special? negative (word.map Char.toLower) with
  | some d => some d
  | none => (Scientific.ofChars? text.toList).map fun s =>
      .finite s.negative s.coefficient s.exponent

/-! ## Writing -/

/-- A sign and the digits. -/
def signed (n : Int) : List Char :=
  (if n < 0 then '-' else '+') :: (toString n.natAbs).toList

/-- Digits with a point after the first `place` of them, which may lie outside. -/
def pointed (ds : List Char) (place : Int) : List Char :=
  if place ≤ 0 then '0' :: '.' :: (Layout.zeros (-place).toNat ++ ds)
  else if ds.length ≤ place.toNat then ds ++ Layout.zeros (place.toNat - ds.length)
  else ds.take place.toNat ++ '.' :: ds.drop place.toNat

/-- Positional while the exponent is at most zero and the number not below 10^-6; otherwise one
digit before the point and an exponent. -/
def finiteChars (coefficient : Nat) (exponent : Int) : List Char :=
  let ds := (toString coefficient).toList
  let left := exponent + ds.length
  if exponent ≤ 0 && -6 < left then pointed ds left
  else pointed ds 1 ++ (if left = 1 then [] else 'E' :: signed (left - 1))

def chars : Decimal → List Char
  | .finite negative c e => (if negative then ['-'] else []) ++ finiteChars c e
  | .infinite negative => (if negative then ['-'] else []) ++ "Infinity".toList
  | .nan negative signaling payload =>
    (if negative then ['-'] else []) ++ (if signaling then ['s'] else []) ++ "NaN".toList ++
      (if payload = 0 then [] else (toString payload).toList)

def text (d : Decimal) : String := String.ofList d.chars

end Decimal
end Conform
