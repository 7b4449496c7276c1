import Mathlib.Algebra.Order.Field.Power
import Mathlib.Algebra.Order.Field.Rat
import Mathlib.Tactic.FieldSimp
import Mathlib.Tactic.Ring
import Conform.Numeric.Scaled

/-! The rational numbers that scaled integers stand for. Comparing two of them is comparing the
rational numbers: the short way, by which a power of ten is not written out, comes to the same
answer. A binary significand and its decimal form stand for the same number. -/

namespace Conform
set_option autoImplicit false

/-! ## Binary numbers -/

theorem Binary64.rational_eq (negative : Bool) (m : Nat) (e : Int) :
    Binary64.rational negative m e = (if negative then -1 else 1) * m * (2 : ℚ) ^ e := by
  have hpow : (2 : ℚ) ^ e = 2 ^ e.toNat / 2 ^ (-e).toNat := by
    have hexp : e = (e.toNat : Int) - ((-e).toNat : Int) := by omega
    have h2 : (2 : ℚ) ≠ 0 := by norm_num
    conv_lhs => rw [hexp]
    rw [zpow_sub₀ h2, zpow_natCast, zpow_natCast]
  have hint : Int.pow 2 e.toNat = 2 ^ e.toNat := rfl
  rw [Binary64.rational, Rat.mkRat_eq_div, hint, Nat.pow_eq, hpow]
  cases negative with
  | true =>
    simp only [if_true]
    push_cast
    ring
  | false =>
    simp only [Bool.false_eq_true, if_false]
    push_cast
    ring

namespace Scaled

/-! ## Comparison of shifted integers -/

theorem natAbs_lt_of_log2 {m : Int} {d : Nat} (h : m.natAbs.log2 < 3 * d) :
    (m.natAbs : Int) < 10 ^ d := by
  have hm : m.natAbs < 2 ^ (m.natAbs.log2 + 1) := Nat.lt_log2_self
  have h8 : 2 ^ (m.natAbs.log2 + 1) ≤ 2 ^ (3 * d) := Nat.pow_le_pow_right (by omega) h
  have h10 : 8 ^ d ≤ 10 ^ d := Nat.pow_le_pow_left (by omega) d
  rw [Nat.pow_mul] at h8
  have hlt : m.natAbs < 10 ^ d := lt_of_lt_of_le hm (h8.trans h10)
  exact_mod_cast hlt

/-- Written out or not, the shifted integers are compared. -/
theorem shiftedLe_eq (n : Int) (d : Nat) (m : Int) :
    shiftedLe n d m = decide (n * 10 ^ d ≤ m) := by
  have hpos : (0 : Int) < 10 ^ d := pow_pos (by omega) d
  unfold shiftedLe
  split
  next hn => rw [hn, Int.zero_mul]
  next hn =>
    split
    next hlog =>
      have habs : (m.natAbs : Int) < 10 ^ d := natAbs_lt_of_log2 hlog
      rw [decide_eq_decide]
      constructor
      · intro h
        have h1 : n * 10 ^ d ≤ -1 * 10 ^ d := Int.mul_le_mul_of_nonneg_right (by omega) hpos.le
        omega
      · intro h
        by_contra hneg
        have h1 : 1 * 10 ^ d ≤ n * 10 ^ d := Int.mul_le_mul_of_nonneg_right (by omega) hpos.le
        omega
    next => rfl

/-! ## Order -/

/-- The number itself. -/
def toRat (a : Scaled) : ℚ := a.coefficient * 10 ^ a.exponent

theorem toRat_ofInt (n : Int) : (ofInt n).toRat = n := by
  rw [toRat, ofInt, zpow_zero, mul_one]

theorem toRat_eq_shift {a : Scaled} {e : Int} (h : e ≤ a.exponent) :
    a.toRat = ((a.coefficient * 10 ^ (a.exponent - e).toNat : Int) : ℚ) * 10 ^ e := by
  have hsum : a.exponent = ((a.exponent - e).toNat : Int) + e := by omega
  have h10 : (10 : ℚ) ≠ 0 := by norm_num
  rw [toRat, hsum, zpow_add₀ h10, zpow_natCast, ← hsum]
  push_cast
  ring

theorem le_iff {a b : Scaled} : a.le b = true ↔ a.toRat ≤ b.toRat := by
  unfold le
  split
  next h =>
    have hpos : (0 : ℚ) < 10 ^ b.exponent := by positivity
    rw [shiftedLe_eq, decide_eq_true_eq, toRat_eq_shift h, toRat, mul_le_mul_iff_left₀ hpos,
      Int.cast_le]
  next h =>
    have hle : a.exponent ≤ b.exponent := by omega
    have hpos : (0 : ℚ) < 10 ^ a.exponent := by positivity
    rw [shiftedLe_eq, decide_eq_true_eq, toRat_eq_shift hle, toRat, mul_le_mul_iff_left₀ hpos,
      Int.cast_le, Int.neg_mul, Int.neg_le_neg_iff]

/-! ## Binary significands -/

theorem signed_mul (negative : Bool) (m k : Nat) :
    (signed negative (m * k) : ℚ) = (signed negative m : ℚ) * k := by
  cases negative with
  | true => simp [signed]
  | false => simp [signed]

theorem toRat_ofBinary (negative : Bool) (m : Nat) (e : Int) :
    (ofBinary negative m e).toRat = Binary64.rational negative m e := by
  have hexp : min e 0 = -((-e).toNat : Int) := by omega
  have h10 : (10 : ℚ) ^ (-e).toNat = 2 ^ (-e).toNat * 5 ^ (-e).toNat := by
    rw [← mul_pow]
    norm_num
  have hrat : Binary64.rational negative m e =
      signed negative m * 2 ^ e.toNat / 2 ^ (-e).toNat := by
    have hint : Int.pow 2 e.toNat = 2 ^ e.toNat := rfl
    rw [Binary64.rational, Rat.mkRat_eq_div, hint, Nat.pow_eq]
    push_cast [signed]
    rfl
  rw [toRat, ofBinary, hexp, zpow_neg, zpow_natCast, h10, hrat, signed_mul, signed_mul,
    Nat.pow_eq, Nat.pow_eq]
  push_cast
  field_simp

end Scaled
end Conform
