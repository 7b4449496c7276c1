import Conform.Value.Length
import Conform.Proofs.Outcomes
import Conform.Proofs.Value.Verdicts

/-! Bounds on lengths that may be any values. Whether a length is beyond a bound is asked by the
comparison that a violation would satisfy, and not by the one that is asked for. The two are
opposite where the bound is a number with a value. A NaN has none, and neither holds of it; with
decimals without a value, and with what is in no order with numbers, the comparison fails; an
object answers the two as it likes. -/

namespace Conform
set_option autoImplicit false

namespace Comparison

/-- The comparison that holds in a total order where this one does not. -/
def opposite : Comparison → Comparison
  | atLeast => below
  | atMost => above
  | above => atMost
  | below => atLeast

theorem byLe_opposite {α : Type} (le : α → α → Bool) (c : Comparison) (x y : α) :
    c.opposite.byLe le x y = !c.byLe le x y := by
  cases c <;> simp [opposite, byLe]

/-- Numbers with values answer opposite comparisons oppositely. -/
theorem ofNumbers_opposite (c : Comparison) {x y : Number} {p q : Extended}
    (hx : x.value? = some p) (hy : y.value? = some q) :
    ∃ b, c.ofNumbers x y = .ok b ∧ c.opposite.ofNumbers x y = .ok (!b) := by
  refine ⟨c.byLe (fun p q => decide (p ≤ q)) p q, ?_, ?_⟩
  · simp only [ofNumbers_eq, hx, hy]
  · simp only [ofNumbers_eq, hx, hy, byLe_opposite]

theorem ofAtoms_of_numbers (c : Comparison) {a b : Atom} {x y : Number} (hx : a.number? = some x)
    (hy : b.number? = some y) : c.ofAtoms a b = c.ofNumbers x y := by
  simp only [ofAtoms, hx, hy]

end Comparison

namespace Value

/-! ## Bounds -/

/-- The length is in the order that is asked for with the bound, if there is one. -/
def Admits (bound : Value) (c : Comparison) (n : Nat) : Prop :=
  bound = .null ∨ (int n).compare c bound = .ok true

/-- Null, or a bound that answers opposite comparisons with a length oppositely. -/
def Measures (bound : Value) : Prop :=
  bound = .null ∨ ∀ (c : Comparison) (n : Nat),
    ∃ b, (int n).compare c bound = .ok b ∧ (int n).compare c.opposite bound = .ok (!b)

variable {v w bound lower upper size : Value} {x y : Number} {n : Nat}

theorem isNull_of_number (h : bound.number? = some x) : bound.isNull = false := by
  rw [Bool.eq_false_iff, Ne, isNull_iff]
  rintro rfl
  cases h

theorem compare_numbers (hv : v.number? = some x) (hw : w.number? = some y) (c : Comparison) :
    v.compare c w = c.ofNumbers x y := by
  cases v with
  | atom a =>
    cases w with
    | atom b => exact c.ofAtoms_of_numbers hv hw
    | _ => cases hw
  | _ => cases hv

theorem compare_of_number (h : bound.number? = some x) (c : Comparison) (n : Int) :
    (int n).compare c bound = c.ofNumbers (.int n) x := compare_numbers rfl h c

/-- Numbers measure, but for those that have no value. -/
theorem measures_of_number {q : Extended} (h : bound.number? = some x) (hx : x.value? = some q) :
    bound.Measures := by
  refine .inr fun c n => ?_
  rw [compare_of_number h, compare_of_number h]
  exact c.ofNumbers_opposite (Number.value?_int n) hx

theorem lengthBeyond_null (c : Comparison) (n : Nat) : lengthBeyond c n .null = .ok false := rfl

theorem lengthBeyond_of_ne_null (h : bound ≠ .null) (c : Comparison) (n : Nat) :
    lengthBeyond c n bound = (int n).compare c bound := by
  have hnull : bound.isNull = false := by
    rw [Bool.eq_false_iff, Ne, isNull_iff]
    exact h
  rw [lengthBeyond, hnull, if_neg Bool.false_ne_true]

/-- A bound that measures is violated exactly by the lengths that it does not admit. -/
theorem lengthBeyond_of_measures (h : bound.Measures) (c : Comparison) (n : Nat) :
    ∃ b, lengthBeyond c.opposite n bound = .ok b ∧ (b = false ↔ bound.Admits c n) := by
  by_cases hnull : bound = .null
  · exact ⟨false, hnull ▸ lengthBeyond_null c.opposite n, iff_of_true rfl (.inl hnull)⟩
  · obtain ⟨b, hb, hopposite⟩ := h.resolve_left hnull c n
    refine ⟨!b, (lengthBeyond_of_ne_null hnull _ n).trans hopposite, ?_⟩
    rw [Admits, or_iff_right hnull, hb, Except.ok.injEq, Bool.not_eq_false']

/-! ## Lengths within bounds -/

theorem lengthWithin_of_length (h : v.length = .ok n) : v.lengthWithin lower upper =
    (do
      if ← lengthBeyond .below n lower then .ok false
      else do
        let above ← lengthBeyond .above n upper
        .ok !above) := by
  simp only [lengthWithin, h]

theorem lengthWithin_of_error {f : Fault} (h : v.length = .error f) :
    v.lengthWithin lower upper = .ok false := by
  simp only [lengthWithin, h]

/-- Neither bound is found to be violated. -/
theorem lengthWithin_eq_true_iff : v.lengthWithin lower upper = .ok true ↔
    ∃ n : Nat, v.length = .ok n ∧ lengthBeyond .below n lower = .ok false ∧
      lengthBeyond .above n upper = .ok false := by
  cases hv : v.length with
  | error f => simp [lengthWithin_of_error hv]
  | ok n =>
    rw [lengthWithin_of_length hv]
    cases hl : lengthBeyond .below n lower with
    | error g => simp [bind, Except.bind, hl]
    | ok below =>
      cases hu : lengthBeyond .above n upper with
      | error g => cases below <;> simp [bind, Except.bind, hl, hu]
      | ok above => cases below <;> simp [bind, Except.bind, hl, hu]

/-- The lower bound is asked first. -/
theorem lengthWithin_eq_error_iff {f : Fault} : v.lengthWithin lower upper = .error f ↔
    ∃ n : Nat, v.length = .ok n ∧ (lengthBeyond .below n lower = .error f ∨
      lengthBeyond .below n lower = .ok false ∧ lengthBeyond .above n upper = .error f) := by
  cases hv : v.length with
  | error f => simp [lengthWithin_of_error hv]
  | ok n =>
    rw [lengthWithin_of_length hv]
    cases hl : lengthBeyond .below n lower with
    | error g => simp [bind, Except.bind, hl]
    | ok below =>
      cases hu : lengthBeyond .above n upper with
      | error g => cases below <;> simp [bind, Except.bind, hl, hu]
      | ok above => cases below <;> simp [bind, Except.bind, hl, hu]

theorem lengthWithin_of_measures (hl : lower.Measures) (hu : upper.Measures) (v : Value) :
    ∃ b, v.lengthWithin lower upper = .ok b ∧
      (b = true ↔ ∃ n : Nat, v.length = .ok n ∧ lower.Admits .atLeast n ∧
        upper.Admits .atMost n) := by
  cases hv : v.length with
  | error f => exact ⟨false, lengthWithin_of_error hv, by simp⟩
  | ok n =>
    obtain ⟨below, hbelow, hlow⟩ := lengthBeyond_of_measures hl .atLeast n
    obtain ⟨above, habove, hhigh⟩ := lengthBeyond_of_measures hu .atMost n
    refine ⟨!below && !above, ?_, ?_⟩
    · rw [lengthWithin_of_length hv]
      simp only [Comparison.opposite] at hbelow habove
      rw [hbelow, habove]
      cases below <;> rfl
    · simp only [Except.ok.injEq, exists_eq_left', ← hlow, ← hhigh, Bool.and_eq_true,
        Bool.not_eq_true']

/-- A size that cannot be compared with a length is the length of nothing. -/
theorem hasLength_iff_equals : v.hasLength size = true ↔
    ∃ n : Nat, v.length = .ok n ∧ (int n).equals size = .ok true := by
  unfold hasLength
  cases v.length with
  | error f => simp
  | ok n => simp [holds_iff]

end Value
end Conform
