import Conform.Value.Number
import Conform.Proofs.Value.Measure

/-! Bounds on lengths that are integers or null. Such bounds are compared with every length, so that
the comparison decides whether the length lies within them. -/

namespace Conform
set_option autoImplicit false

namespace Value

/-- A bound on a length: an integer, or null for none. -/
def BoundsLength (v : Value) : Prop := v = .null ∨ ∃ n, v.integer = .ok n

/-- The value has a length that is at least and at most the given bounds. -/
def HasLengthWithin (v lower upper : Value) : Prop :=
  ∃ n : Nat, v.length = .ok n ∧ (∀ m, lower.integer = .ok m → m ≤ n) ∧
    ∀ m, upper.integer = .ok m → n ≤ m

def HasLengthOf (v size : Value) : Prop := ∃ n : Nat, v.length = .ok n ∧ size.integer = .ok n

theorem number_of_integer {v : Value} {n : Int} (h : v.integer = .ok n) :
    v.number? = some (.int n) := by
  unfold integer at h
  split at h
  next m hm =>
    cases h
    exact hm
  next => simp at h

theorem integer_null : (.null : Value).integer = .error .mismatch := rfl

theorem equals_of_number {v : Value} {x : Number} (h : v.number? = some x) (n : Int) :
    (int n).equals v = (Number.int n).equals x := by
  cases v with
  | atom a =>
    have ha : a.number? = some x := h
    have hn : (Atom.int n).number? = some (.int n) := rfl
    simp only [equals, equalsAsking, Atom.equals, ha, hn]
  | _ => simp [number?] at h

theorem BoundsLength.measures {bound : Value} (h : bound.BoundsLength) : bound.Measures := by
  rcases h with rfl | ⟨m, hm⟩
  · exact .inl rfl
  · exact measures_of_number (number_of_integer hm) (Number.value?_int m)

/-- What a comparison says of integers is what it says of a length and an integer bound. -/
theorem admits_iff_integer (c : Comparison) {r : Int → Int → Prop} [DecidableRel r]
    (hr : ∀ n m, c.ofNumbers (.int n) (.int m) = .ok (decide (r n m))) {bound : Value}
    (h : bound.BoundsLength) (n : Nat) :
    bound.Admits c n ↔ ∀ m, bound.integer = .ok m → r n m := by
  rcases h with rfl | ⟨m, hm⟩
  · exact iff_of_true (.inl rfl) (by simp [integer_null])
  · have hnull : bound ≠ .null := by
      rintro rfl
      simp [integer_null] at hm
    rw [Admits, or_iff_right hnull, compare_of_number (number_of_integer hm), hr]
    simp [hm]

/-- Bounds that are integers or null always lead to a verdict. -/
theorem lengthWithin_decides {lower upper : Value} (hl : lower.BoundsLength)
    (hu : upper.BoundsLength) (v : Value) :
    ∃ b, v.lengthWithin lower upper = .ok b ∧ (b = true ↔ v.HasLengthWithin lower upper) := by
  obtain ⟨b, hb, hwithin⟩ := lengthWithin_of_measures hl.measures hu.measures v
  refine ⟨b, hb, hwithin.trans ?_⟩
  have hlow (n : Nat) : lower.Admits .atLeast n ↔ ∀ m, lower.integer = .ok m → m ≤ n :=
    admits_iff_integer .atLeast (r := fun n m => m ≤ n) (fun n m => Number.int_le m n) hl n
  have hhigh (n : Nat) : upper.Admits .atMost n ↔ ∀ m, upper.integer = .ok m → n ≤ m :=
    admits_iff_integer .atMost (r := fun n m => n ≤ m) Number.int_le hu n
  simp only [HasLengthWithin, hlow, hhigh]

theorem hasLength_iff {v size : Value} (hs : size.BoundsLength) :
    v.hasLength size = true ↔ v.HasLengthOf size := by
  rw [hasLength_iff_equals, HasLengthOf]
  refine exists_congr fun n => and_congr_right fun _ => ?_
  rcases hs with rfl | ⟨m, hm⟩
  · simp [integer_null, equals, equalsAsking, Atom.equals, Atom.number?]
  · rw [equals_of_number (number_of_integer hm), Number.int_equals, hm]
    simp [@eq_comm Int m]

/-! ## Bounds one by one -/

end Value
end Conform
