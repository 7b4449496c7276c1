import Mathlib.Tactic.NormNum
import Mathlib.Tactic.Positivity
import Conform.Proofs.Numeric.Scaled

/-! The normal form of floats. The significand of a finite float has at most 53 binary digits, and
it has all of them unless the exponent is the least one. So a magnitude is that of one significand
and one exponent only, and floats with the same value other than zero have the same fields. -/

namespace Conform
set_option autoImplicit false

namespace Binary64

/-- The significands and exponents that finite floats have. -/
structure Normal (m : Nat) (e : Int) : Prop where
  lowest : -1074 ≤ e
  bounded : m < 2 ^ 53
  full : -1074 < e → 2 ^ 52 ≤ m

theorem normal_of_unpack {x : Binary64} {negative : Bool} {m : Nat} {e : Int}
    (h : x.unpack = .finite negative m e) : Normal m e := by
  have hf : x.fractionField < 2 ^ 52 := Nat.mod_lt _ (by decide)
  simp only [unpack] at h
  split at h
  · split at h <;> cases h
  · split at h
    · cases h
      exact ⟨by omega, by omega, by omega⟩
    · cases h
      rw [Nat.pow_eq]
      exact ⟨by omega, by omega, by omega⟩

section Normal

variable {m n : Nat} {e d : Int}

/-- A larger exponent would leave the other significand with more than 53 digits. -/
theorem Normal.exponent_le (hm : Normal m e) (hn : Normal n d)
    (h : (m : ℚ) * 2 ^ e = n * 2 ^ d) : d ≤ e := by
  by_contra hlt
  obtain ⟨k, hk⟩ : ∃ k : Nat, d = (k + 1 : Nat) + e := ⟨(d - e).toNat - 1, by omega⟩
  have hpos : (2 : ℚ) ^ e ≠ 0 := by positivity
  have hmn : m = n * 2 ^ (k + 1) := by
    rw [hk, zpow_add₀ two_ne_zero, zpow_natCast, ← mul_assoc] at h
    exact_mod_cast mul_right_cancel₀ hpos h
  have hlowest := hm.lowest
  have hfull : 2 ^ 52 ≤ n := hn.full (by omega)
  have hlarge : 2 ^ 52 * 2 ≤ n * 2 ^ (k + 1) :=
    Nat.mul_le_mul hfull (Nat.le_self_pow (by omega) 2)
  have hbounded := hm.bounded
  omega

theorem Normal.unique (hm : Normal m e) (hn : Normal n d) (h : (m : ℚ) * 2 ^ e = n * 2 ^ d) :
    m = n ∧ e = d := by
  have he : e = d := le_antisymm (hn.exponent_le hm h.symm) (hm.exponent_le hn h)
  subst he
  have hpos : (2 : ℚ) ^ e ≠ 0 := by positivity
  exact ⟨by exact_mod_cast mul_right_cancel₀ hpos h, rfl⟩

end Normal

theorem abs_rational (negative : Bool) (m : Nat) (e : Int) :
    |rational negative m e| = m * 2 ^ e := by
  have hpos : (0 : ℚ) ≤ m * 2 ^ e := by positivity
  rw [rational_eq, mul_assoc, abs_mul, abs_of_nonneg hpos]
  cases negative <;> simp

theorem unpack_unique {x y : Binary64} {s t : Bool} {m n : Nat} {e d : Int}
    (hx : x.unpack = .finite s m e) (hy : y.unpack = .finite t n d)
    (h : rational s m e = rational t n d) (h0 : rational s m e ≠ 0) : x.unpack = y.unpack := by
  have habs : (m : ℚ) * 2 ^ e = n * 2 ^ d := by rw [← abs_rational s, h, abs_rational]
  obtain ⟨rfl, rfl⟩ := (normal_of_unpack hx).unique (normal_of_unpack hy) habs
  have hst : s = t := by
    simp only [rational_eq, mul_assoc] at h h0
    have hsign := mul_right_cancel₀ (right_ne_zero_of_mul h0) h
    cases s <;> cases t
    · rfl
    · norm_num at hsign
    · norm_num at hsign
    · rfl
  rw [hx, hy, hst]

end Binary64
end Conform
