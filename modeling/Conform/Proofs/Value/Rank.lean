import Mathlib.Data.String.Basic
import Mathlib.Data.Sum.Order
import Conform.Proofs.Value.Measure

/-! The order of numbers and strings. Numbers of all sorts have a rank among the rationals and two
infinities, strings have one among themselves, and what is not a number has none. One value is at
most another exactly if both have a rank and the ranks are in order, so that the comparisons that
hold are those of a partial order, whatever sorts of values they mix. -/

namespace Conform
set_option autoImplicit false

namespace Value

/-- Ranks of numbers, and ranks of strings, which are in no order with those. -/
abbrev Rank := Extended ⊕ String

def rank? : Value → Option Rank
  | .atom (.str s) => some (.inr s)
  | v => (v.number?.bind Number.value?).map .inl

/-- A number of any sort, truth values among them, or a string. -/
inductive Ordered : Value → Prop
  | number {v : Value} {x : Number} (h : v.number? = some x) : Ordered v
  | str (s : String) : Ordered (.str s)

/-- A number by its sort that has no position among the numbers. -/
def IsNan (v : Value) : Prop := ∃ x, v.number? = some x ∧ x.position? = none

section Ordered

variable {u v w : Value} {x y : Number}

theorem rank?_number (h : v.number? = some x) : v.rank? = x.value?.map .inl := by
  cases v with
  | atom a =>
    cases a with
    | str s => cases h
    | _ => simp only [rank?, h, Option.bind_some]
  | _ => cases h

theorem rank?_of_isNan (h : v.IsNan) : v.rank? = none := by
  obtain ⟨x, hx, hp⟩ := h
  rw [rank?_number hx, Number.value?, hp]
  rfl

theorem Ordered.ne_null (h : v.Ordered) : v ≠ .null := by
  rintro rfl
  cases h with
  | number h => cases h

/-! ## Comparisons -/

theorem number_le_iff (x y : Number) : x.le y = .ok true ↔
    ∃ p q, x.value? = some p ∧ y.value? = some q ∧ p ≤ q := by
  have hholds : holds (x.le y) = _ := Comparison.holds_ofNumbers .atMost x y
  rw [← holds_iff, hholds]
  cases x.value? with
  | none => simp
  | some p =>
    cases y.value? with
    | none => simp
    | some q => simp [Comparison.byLe]

theorem compare_number_str (hv : v.number? = some x) (s : String) (c : Comparison) :
    v.compare c (.str s) = .error .mismatch ∧ (str s).compare c v = .error .mismatch := by
  cases v with
  | atom a =>
    cases a with
    | bool | int | float | decimal => cases c <;> exact ⟨rfl, rfl⟩
    | _ => cases hv
  | _ => cases hv

/-- Asking whether a bound is at most the value comes to asking whether the value is at least it. -/
theorem compare_atLeast (hv : v.Ordered) (hw : w.Ordered) :
    v.compare .atLeast w = w.compare .atMost v := by
  cases hv with
  | number hx =>
    cases hw with
    | number hy => rw [compare_numbers hx hy, compare_numbers hy hx]; rfl
    | str s => rw [(compare_number_str hx s _).1, (compare_number_str hx s _).2]
  | str s =>
    cases hw with
    | number hy => rw [(compare_number_str hy s _).1, (compare_number_str hy s _).2]
    | str t => rfl

theorem compare_atMost_iff (hv : v.Ordered) (hw : w.Ordered) : v.compare .atMost w = .ok true ↔
    ∃ p q, v.rank? = some p ∧ w.rank? = some q ∧ p ≤ q := by
  cases hv with
  | number hx =>
    cases hw with
    | number hy =>
      rw [compare_numbers hx hy, Comparison.ofNumbers, number_le_iff, rank?_number hx,
        rank?_number hy]
      simp
    | str s =>
      rw [(compare_number_str hx s _).1, rank?_number hx]
      refine iff_of_false (by simp) ?_
      rintro ⟨p, q, hp, hq, hpq⟩
      obtain ⟨r, -, rfl⟩ := Option.map_eq_some_iff.mp hp
      cases hq
      exact Sum.not_inl_le_inr hpq
  | str s =>
    cases hw with
    | number hy =>
      rw [(compare_number_str hy s _).2, rank?_number hy]
      refine iff_of_false (by simp) ?_
      rintro ⟨p, q, hp, hq, hpq⟩
      obtain ⟨r, -, rfl⟩ := Option.map_eq_some_iff.mp hq
      cases hp
      exact Sum.not_inr_le_inl hpq
    | str t =>
      change Except.ok (decide (s ≤ t)) = .ok true ↔
        ∃ p q : Rank, some (.inr s) = some p ∧ some (.inr t) = some q ∧ p ≤ q
      simp

theorem compare_trans (hu : u.Ordered) (hv : v.Ordered) (hw : w.Ordered)
    (h : u.compare .atMost v = .ok true) (h' : v.compare .atMost w = .ok true) :
    u.compare .atMost w = .ok true := by
  rw [compare_atMost_iff hu hv] at h
  rw [compare_atMost_iff hv hw] at h'
  rw [compare_atMost_iff hu hw]
  obtain ⟨p, q, hp, hq, hpq⟩ := h
  obtain ⟨q', r, hq', hr, hqr⟩ := h'
  cases hq.symm.trans hq'
  exact ⟨p, r, hp, hr, hpq.trans hqr⟩

theorem not_isNan_of_compare (hv : v.Ordered) (hw : w.Ordered)
    (h : v.compare .atMost w = .ok true) : ¬v.IsNan ∧ ¬w.IsNan := by
  obtain ⟨p, q, hp, hq, -⟩ := (compare_atMost_iff hv hw).mp h
  constructor
  · intro hn
    rw [rank?_of_isNan hn] at hp
    cases hp
  · intro hn
    rw [rank?_of_isNan hn] at hq
    cases hq

end Ordered

end Value
end Conform
