import Conform.Numeric.Binary64

/-! The fewest decimal digits that identify a float. Among the decimals that round to the float,
`digits` finds one with the fewest digits, and of those the one nearest to the float. All
comparisons are between exact naturals. -/

namespace Conform
set_option autoImplicit false

namespace Shortest

/-- A finite positive float `m * 2 ^ q`. `narrowBelow` says that the gap to the float below is
half the gap to the float above. -/
structure Binary where
  m : Nat
  q : Int
  narrowBelow : Bool

def Binary.ofFields (significand : Nat) (exponent : Int) : Binary :=
  ⟨significand, exponent, significand = Nat.pow 2 52 && -1074 < exponent⟩

/-- The decimal `coefficient * 10 ^ exponent`. -/
structure Candidate where
  coefficient : Nat
  exponent : Int
  deriving DecidableEq

/-! ## The decimals that read back -/

/-- The order of `a * 10 ^ i` and `n * 2 ^ j`. -/
def compareScaled (a : Nat) (i : Int) (n : Nat) (j : Int) : Ordering :=
  compare (a * Nat.pow 10 i.toNat * Nat.pow 2 (-j).toNat)
    (n * Nat.pow 2 j.toNat * Nat.pow 10 (-i).toNat)

/-- A decimal lies between the midpoints to the two neighbouring floats, the midpoints included
exactly if the significand is even. -/
def Binary.readsBack (x : Binary) (d : Candidate) : Bool :=
  let low := if x.narrowBelow then 4 * x.m - 1 else 4 * x.m - 2
  let high := 4 * x.m + 2
  let closed := x.m % 2 == 0
  let l := compareScaled d.coefficient d.exponent low (x.q - 2)
  let h := compareScaled d.coefficient d.exponent high (x.q - 2)
  (l == .gt || (closed && l == .eq)) && (h == .lt || (closed && h == .eq))

/-! ## The search -/

/-- `10 ^ k ≤ m * 2 ^ q`. -/
def Binary.reaches (x : Binary) (k : Int) : Bool :=
  compareScaled 1 k x.m x.q != .gt

/-- The least `k` with `m * 2 ^ q < 10 ^ k`: an estimate from the binary logarithm that is at most
two too small, put right by exact comparisons. -/
def Binary.scale (x : Binary) : Int :=
  let k := ((Nat.log2 x.m : Int) + x.q) * 30103 / 100000
  if !x.reaches k then k else if !x.reaches (k + 1) then k + 1 else k + 2

/-- The number of whole units of `10 ^ e` in the float. -/
def Binary.floorAt (x : Binary) (e : Int) : Nat :=
  x.m * Nat.pow 2 x.q.toNat * Nat.pow 10 (-e).toNat /
    (Nat.pow 2 (-x.q).toNat * Nat.pow 10 e.toNat)

/-- Of the two neighbours of the float on the grid of `10 ^ e`, one that reads back; of two that
do the nearer, and on a tie the even one. -/
def Binary.onGrid? (x : Binary) (e : Int) : Option Candidate :=
  let c := x.floorAt e
  let below : Candidate := ⟨c, e⟩
  let above : Candidate := ⟨c + 1, e⟩
  match x.readsBack below && 0 < c, x.readsBack above with
  | false, false => none
  | true, false => some below
  | false, true => some above
  | true, true =>
    match compareScaled (2 * c + 1) e (2 * x.m) x.q with
    | .gt => some below
    | .lt => some above
    | .eq => some (if c % 2 = 0 then below else above)

/-- The first grid that has a hit, from `n` digits on, with `fuel` more grids to try. -/
def Binary.search (x : Binary) (k : Int) : Nat → Nat → Option Candidate
  | _, 0 => none
  | n, fuel + 1 =>
    match x.onGrid? (k - n) with
    | some d => some d
    | none => x.search k (n + 1) fuel

/-- The exact value, should seventeen digits not do. -/
def Binary.exact (x : Binary) : Candidate :=
  ⟨x.m * Nat.pow 2 x.q.toNat * Nat.pow 5 (-x.q).toNat, if x.q < 0 then x.q else 0⟩

def Binary.decimal (x : Binary) : Candidate :=
  (x.search x.scale 1 17).getD x.exact

end Shortest

/-- The digits of the shortest decimal that reads back as the float `m * 2 ^ q`, without trailing
zeros, and the power of ten just above it: the float is near `0.d₁d₂… * 10 ^ k`. -/
def Shortest.digits (m : Nat) (q : Int) : List Char × Int :=
  let d := (Binary.ofFields m q).decimal
  let ds := (toString d.coefficient).toList
  ((ds.reverse.dropWhile (· == '0')).reverse, ds.length + d.exponent)

end Conform
