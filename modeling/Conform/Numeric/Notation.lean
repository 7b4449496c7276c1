import Conform.Numeric.Shortest

/-! How numbers are laid out as text. A `Layout` holds the decisions, `Layout.render` applies
them to digits, and `Binary64.text` writes a float by `floatLayout`. -/

namespace Conform
set_option autoImplicit false

/-- Where positional notation begins and ends, and how many digits an exponent has at least. -/
structure Layout where
  /-- The least decimal exponent that is written positionally. -/
  positionalFrom : Int
  /-- The first decimal exponent that is no longer written positionally. -/
  positionalBelow : Int
  exponentWidth : Nat

/-- Floats are positional from 10^-4 and below 10^16; an exponent has a sign and two digits. -/
def floatLayout : Layout := ⟨-4, 16, 2⟩

namespace Layout

def zeros (n : Nat) : List Char := List.replicate n '0'

/-- A natural with zeros in front up to a width. -/
def padded (width n : Nat) : List Char :=
  let ds := (toString n).toList
  zeros (width - ds.length) ++ ds

/-- `0.d₁d₂… * 10 ^ k` with the point written out; a whole number keeps `.0`. -/
def positional (ds : List Char) (k : Int) : List Char :=
  if k ≤ 0 then '0' :: '.' :: (zeros (-k).toNat ++ ds)
  else if ds.length ≤ k.toNat then ds ++ zeros (k.toNat - ds.length) ++ ['.', '0']
  else ds.take k.toNat ++ '.' :: ds.drop k.toNat

def scientific (layout : Layout) (ds : List Char) (e : Int) : List Char :=
  let mantissa := match ds with
    | [] => ['0']
    | [d] => [d]
    | d :: r => d :: '.' :: r
  mantissa ++ 'e' :: (if e < 0 then '-' else '+') :: padded layout.exponentWidth e.natAbs

def render (layout : Layout) (ds : List Char) (k : Int) : List Char :=
  let e := k - 1
  if layout.positionalFrom ≤ e && e < layout.positionalBelow then positional ds k
  else layout.scientific ds e

end Layout

example : floatLayout.render ['1', '5'] 16 = "1500000000000000.0".toList := by decide
example : floatLayout.render ['1', '5'] 17 = "1.5e+16".toList := by decide
example : floatLayout.render ['1'] (-3) = "0.0001".toList := by decide
example : floatLayout.render ['1'] (-4) = "1e-05".toList := by decide

/-- A float by its shortest digits; `nan`, `inf` and `-inf` otherwise. -/
def Binary64.text (x : Binary64) : String :=
  match x.unpack with
  | .nan => "nan"
  | .infinite negative => if negative then "-inf" else "inf"
  | .finite negative m q =>
    let body := if m = 0 then ['0', '.', '0']
      else let (ds, k) := Shortest.digits m q; floatLayout.render ds k
    String.ofList (if negative then '-' :: body else body)

end Conform
