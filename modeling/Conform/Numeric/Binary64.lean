import Conform.Numeric.Scientific

/-! Binary floating point of 64 bits, held as its bits. `unpack` gives the exact number,
`nearest` the float next to a quotient of naturals, `ofText?` reads decimal notation. -/

namespace Conform
set_option autoImplicit false

structure Binary64 where
  bits : UInt64
  deriving DecidableEq

namespace Binary64

/-! ## Fields -/

def exponentField (x : Binary64) : Nat := x.bits.toNat / Nat.pow 2 52 % Nat.pow 2 11
def fractionField (x : Binary64) : Nat := x.bits.toNat % Nat.pow 2 52
def negative (x : Binary64) : Bool := Nat.pow 2 63 ≤ x.bits.toNat

/-- What a float stands for; a finite one is `± significand * 2 ^ exponent`. -/
inductive Unpacked where
  | nan
  | infinite (negative : Bool)
  | finite (negative : Bool) (significand : Nat) (exponent : Int)

def unpack (x : Binary64) : Unpacked :=
  let e := x.exponentField
  let f := x.fractionField
  if e = 2047 then (if f = 0 then .infinite x.negative else .nan)
  else if e = 0 then .finite x.negative f (-1074)
  else .finite x.negative (Nat.pow 2 52 + f) ((e : Int) - 1075)

def isNan (x : Binary64) : Bool :=
  match x.unpack with
  | .nan => true
  | _ => false

/-- The rational `± significand * 2 ^ exponent`. -/
def rational (negative : Bool) (significand : Nat) (exponent : Int) : Rat :=
  let n : Int := if negative then -(significand : Int) else significand
  mkRat (n * Int.pow 2 exponent.toNat) (Nat.pow 2 (-exponent).toNat)

/-! ## Rounding -/

def pack (negative : Bool) (magnitude : Nat) : Binary64 :=
  ⟨UInt64.ofNat ((if negative then Nat.pow 2 63 else 0) + magnitude)⟩

def nan : Binary64 := pack false (2047 * Nat.pow 2 52 + Nat.pow 2 51)
def infinity (negative : Bool) : Binary64 := pack negative (2047 * Nat.pow 2 52)

/-- The quotient to the nearest natural, a half to the even one. -/
def roundHalfEven (num den : Nat) : Nat :=
  let q := num / den
  let r := 2 * (num % den)
  if r < den then q else if den < r then q + 1 else q + q % 2

/-- The binary exponent `e` with `2 ^ e ≤ num / den < 2 ^ (e + 1)`, for positive operands. -/
def binaryExponent (num den : Nat) : Int :=
  let k : Int := (Nat.log2 num : Int) - Nat.log2 den
  if den * Nat.pow 2 k.toNat ≤ num * Nat.pow 2 (-k).toNat then k else k - 1

/-- The float nearest to `± num / den`, ties to the even significand. -/
def nearest (negative : Bool) (num den : Nat) : Binary64 :=
  if num = 0 then pack negative 0
  else
    let q := max (binaryExponent num den - 52) (-1074)
    let m := roundHalfEven (num * Nat.pow 2 (-q).toNat) (den * Nat.pow 2 q.toNat)
    if 2047 * Nat.pow 2 52 ≤ (q + 1074).toNat * Nat.pow 2 52 + m then infinity negative
    else pack negative ((q + 1074).toNat * Nat.pow 2 52 + m)

/-- The float nearest to an integer, unless it lies beyond all finite ones. -/
def ofInt? (n : Int) : Option Binary64 :=
  let x := nearest (n < 0) n.natAbs 1
  match x.unpack with
  | .finite .. => some x
  | _ => none

/-! ## Reading -/

/-- No finite float reaches ten to this power, and none but zero stays below its reciprocal. -/
def farExponent : Int := 400

/-- The nearest float; exponents far beyond all floats are not written out. A coefficient has at
most one digit more than a third of its binary digits. -/
def ofScientific (s : Scientific) : Binary64 :=
  if s.coefficient = 0 then pack s.negative 0
  else if farExponent < s.exponent then infinity s.negative
  else if s.exponent + s.coefficient.log2 / 3 + 1 < -farExponent then pack s.negative 0
  else nearest s.negative (s.coefficient * Nat.pow 10 s.exponent.toNat)
    (Nat.pow 10 (-s.exponent).toNat)

/-- Decimal notation, or `nan`, `inf` and `infinity` in any letter case. -/
def ofText? (text : String) : Option Binary64 :=
  let (negative, word) := Scientific.splitSign text.toList
  match String.ofList (word.map Char.toLower) with
  | "nan" => some nan
  | "inf" | "infinity" => some (infinity negative)
  | _ => (Scientific.ofChars? text.toList).map ofScientific

end Binary64
end Conform
