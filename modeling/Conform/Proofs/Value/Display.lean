import Mathlib
import Conform.Value.Text
import Conform.Proofs.Numeric.Normal
import Conform.Proofs.Value.StrictEquality

/-! Messages and strict equality. A whole number below 10 ^ 21 is written with the digits of the
integer, be it an integer or a float, and a fraction is the value of floats with the same fields
only. So strictly equal values are written alike, and whole numbers that are written alike are
strictly equal. -/

namespace Conform
set_option autoImplicit false

/-! ## Whole floats -/

namespace Binary64

/-- The two powers are those by which `isWhole` and `whole` scale a significand up and down. -/
theorem whole_of_scaled {m : Nat} {e k : Int}
    (h : (m : Int) * 2 ^ e.toNat = k * 2 ^ (-e).toNat) :
    isWhole m e = true ∧ ((m * 2 ^ e.toNat / 2 ^ (-e).toNat : Nat) : Int) = k := by
  constructor
  · unfold isWhole
    by_cases he : 0 ≤ e
    · simp [he]
    · have hup : e.toNat = 0 := by omega
      rw [hup, pow_zero, mul_one] at h
      have hdvd : ((2 ^ (-e).toNat : Nat) : Int) ∣ m := ⟨k, by rw [h]; push_cast; ring⟩
      simp [Nat.mod_eq_zero_of_dvd (Int.natCast_dvd_natCast.mp hdvd)]
  · have hpos : (2 : Int) ^ (-e).toNat ≠ 0 := by positivity
    push_cast
    rw [h, Int.mul_ediv_cancel k hpos]

theorem whole_of_rational {negative : Bool} {m : Nat} {e n : Int}
    (h : rational negative m e = n) : isWhole m e = true ∧ whole negative m e = n := by
  have hpos : ((2 ^ (-e).toNat : Nat) : ℚ) ≠ 0 := by positivity
  rw [rational, Rat.mkRat_eq_div, Nat.pow_eq, div_eq_iff hpos] at h
  have hscaled : (if negative then -(m : Int) else m) * 2 ^ e.toNat = n * 2 ^ (-e).toNat := by
    exact_mod_cast h
  cases negative with
  | false => exact whole_of_scaled hscaled
  | true =>
    have hneg : (m : Int) * 2 ^ e.toNat = -n * 2 ^ (-e).toNat := by
      rw [neg_mul, ← hscaled]
      simp
    obtain ⟨hwhole, hq⟩ := whole_of_scaled hneg
    refine ⟨hwhole, ?_⟩
    change -((m * 2 ^ e.toNat / 2 ^ (-e).toNat : Nat) : Int) = n
    omega

theorem display_congr {x y : Binary64} (h : x.unpack = y.unpack) : x.display = y.display := by
  simp only [display, text, h]

end Binary64

namespace Value

/-! ## Finite numbers -/

abbrev DenotesRational (v : Value) (q : ℚ) : Prop := v.Denotes ((q : WithTop ℚ) : Extended)

/-- An integer or a float of a magnitude below 10 ^ 21. -/
def Moderate (v : Value) : Prop := ∃ q : ℚ, v.DenotesRational q ∧ |q| < 10 ^ 21

section Denotes

variable {v w : Value} {q : ℚ}

theorem DenotesRational.cases (h : v.DenotesRational q) :
    (∃ n : Int, v = .int n ∧ (n : ℚ) = q) ∨ ∃ tag x negative m e, v = .atom (.float tag x) ∧
      x.unpack = .finite negative m e ∧ Binary64.rational negative m e = q := by
  unfold DenotesRational at h
  generalize hr : ((q : WithTop ℚ) : Extended) = r at h
  cases h with
  | int n => exact .inl ⟨n, rfl, by simpa using hr.symm⟩
  | @finite tag x negative m e hx =>
    refine .inr ⟨tag, x, negative, m, e, rfl, hx, ?_⟩
    rw [Binary64.rational_eq]
    exact WithTop.coe_injective (WithBot.coe_injective hr.symm)
  | @infinite tag x negative hx => cases negative <;> simp at hr

theorem lt_integerLimit {n : Nat} (h : n < 10 ^ 21) : n < integerLimit := by
  -- for a limit that stands for itself, since ten to the power of 4300 is not to be written out
  have hpow : ∀ digits, 21 ≤ digits → n < Nat.pow 10 digits :=
    fun digits hd => h.trans_le (Nat.pow_le_pow_right (by omega) hd)
  unfold integerLimit
  exact hpow digitLimit (by decide)

theorem display_of_integer {n : Int} (h : v.DenotesRational n) (hn : |n| < 10 ^ 21) :
    v.display = .ok (toString n) := by
  have hsmall : n.natAbs < 10 ^ 21 := by
    rw [Int.abs_eq_natAbs] at hn
    exact_mod_cast hn
  rcases h.cases with ⟨k, rfl, hk⟩ | ⟨tag, x, negative, m, e, rfl, hx, hq⟩
  · have hk : k = n := by exact_mod_cast hk
    change integerText k = _
    rw [hk, integerText, if_pos (lt_integerLimit hsmall)]
  · obtain ⟨hwhole, hvalue⟩ := Binary64.whole_of_rational hq
    have hdisplay : x.display = toString n := by
      simp only [Binary64.display, hx, hwhole, hvalue, Bool.true_and]
      exact if_pos (decide_eq_true hsmall)
    exact congrArg Except.ok hdisplay

theorem display_eq_of_denotes (hv : v.DenotesRational q) (hw : w.DenotesRational q)
    (hq : |q| < 10 ^ 21) : v.display = w.display := by
  by_cases hn : ∃ n : Int, (n : ℚ) = q
  · obtain ⟨n, rfl⟩ := hn
    have hsmall : |n| < 10 ^ 21 := by exact_mod_cast hq
    rw [display_of_integer hv hsmall, display_of_integer hw hsmall]
  · rcases hv.cases with ⟨n, -, hnq⟩ | ⟨_, x, s, m, e, rfl, hx, hxq⟩
    · exact absurd ⟨n, hnq⟩ hn
    rcases hw.cases with ⟨n, -, hnq⟩ | ⟨_, y, t, k, d, rfl, hy, hyq⟩
    · exact absurd ⟨n, hnq⟩ hn
    -- a fraction is not zero, so that the two floats have the same fields
    have h0 : Binary64.rational s m e ≠ 0 := by
      intro h0
      exact hn ⟨0, by rw [← hxq, h0, Int.cast_zero]⟩
    have hxy := Binary64.unpack_unique hx hy (hxq.trans hyq.symm) h0
    exact congrArg Except.ok (Binary64.display_congr hxy)

end Denotes

/-! ## Agreement -/

/-- Strictly equal values, if they are numbers of a magnitude below 10 ^ 21, are written alike in
messages. Whole numbers of such a magnitude are written with the digits of the integer, and two that
are written alike are strictly equal. -/
theorem display_agrees :
    (∀ v w : Value, v.strictEquals w = true → (v.kind = .number → v.Moderate) →
      v.display = w.display) ∧
    (∀ (v w : Value) (m n : Int), v.DenotesRational m → |m| < 10 ^ 21 → w.DenotesRational n →
      |n| < 10 ^ 21 → v.display = w.display → v.strictEquals w = true) ∧
    ∀ (v : Value) (n : Int), v.DenotesRational n → |n| < 10 ^ 21 →
      v.display = .ok (toString n) := by
  refine ⟨fun v w h hv => ?_, fun v w m n hm hms hn hns h => ?_, fun v n => display_of_integer⟩
  · by_cases hk : v.kind = .number
    · obtain ⟨q, hq, hsmall⟩ := hv hk
      obtain ⟨r, hvr, hwr⟩ := (strictEquals_numbers hk).mp h
      rw [← hq.unique hvr] at hwr
      exact display_eq_of_denotes hq hwr hsmall
    · rw [(strictEquals_of_not_number hk).mp h]
  · rw [display_of_integer hm hms, display_of_integer hn hns, Except.ok.injEq,
      Int.toString_eq_repr, Int.toString_eq_repr] at h
    have hmn : m = n := Int.repr_injective h
    exact strictEquals_iff.mpr (.inl ⟨_, hm, hmn ▸ hn⟩)

/-- From 2 ^ 53 on a float is next to several integers, and is written like the one it denotes; the
negative zero is written like zero. -/
example :
    let x : Value := .atom (.float 1 ⟨0x4340000000000000⟩)
    let negativeZero : Value := .atom (.float 1 ⟨0x8000000000000000⟩)
    x.display = .ok "9007199254740992" ∧ negativeZero.display = .ok "0" := by
  decide +kernel

end Value
end Conform
