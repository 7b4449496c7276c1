import Conform.Proofs.InTurn
import Conform.Proofs.Schema.Decision
import Conform.Proofs.Value.Rank
import Conform.Schema.Supplied

/-! Ranges by the order of their bounds. A number or a string passes a range exactly if the lower
bound is at most the value and the value at most the upper bound, so that everything about ranges
comes from the order of ranks: a wider range passes what a narrower one does, and one whose bounds
are in no order passes nothing. -/

namespace Conform
set_option autoImplicit false

namespace Schema

section Range

variable {env : Env} {s : Schema} {x a b c d : Value}

theorem range_passes_iff (hx : x.Ordered) (ha : a.Ordered) (hb : b.Ordered) :
    ((s.range a b).test env x).Passes ↔ (s.test env x).Passes ∧
      a.compare .atMost x = .ok true ∧ x.compare .atMost b = .ok true := by
  have hbounds : (pure (x.satisfies .atLeast a && x.satisfies .atMost b) : Run Fault Bool).Decides
      (a.compare .atMost x = .ok true ∧ x.compare .atMost b = .ok true) := by
    refine Run.decides_pure ?_
    rw [Bool.and_eq_true, Value.satisfies_iff, Value.satisfies_iff, or_iff_right ha.ne_null,
      or_iff_right hb.ne_null, Value.compare_atLeast hx ha]
  rw [range, test, Run.guard_passes_iff, hbounds.passes_iff]

theorem range_widens (hx : x.Ordered) (ha : a.Ordered) (hb : b.Ordered) (hc : c.Ordered)
    (hd : d.Ordered) (hca : c.compare .atMost a = .ok true) (hbd : b.compare .atMost d = .ok true)
    (h : ((s.range a b).test env x).Passes) : ((s.range c d).test env x).Passes := by
  rw [range_passes_iff hx ha hb] at h
  rw [range_passes_iff hx hc hd]
  obtain ⟨hs, hax, hxb⟩ := h
  exact ⟨hs, Value.compare_trans hc ha hx hca hax, Value.compare_trans hx hb hd hxb hbd⟩

theorem bounds_of_passes (hx : x.Ordered) (ha : a.Ordered) (hb : b.Ordered)
    (h : ((s.range a b).test env x).Passes) :
    a.compare .atMost b = .ok true ∧ ¬x.IsNan ∧ ¬a.IsNan ∧ ¬b.IsNan := by
  obtain ⟨-, hax, hxb⟩ := (range_passes_iff hx ha hb).mp h
  obtain ⟨hna, hnx⟩ := Value.not_isNan_of_compare ha hx hax
  exact ⟨Value.compare_trans ha hx hb hax hxb, hnx, hna, (Value.not_isNan_of_compare hx hb hxb).2⟩

theorem range_rejects (hs : (s.test env x).Answers) (h : ¬((s.range a b).test env x).Passes) :
    ((s.range a b).test env x).outcome = .ok false := by
  obtain ⟨answer, ho⟩ : ((s.range a b).test env x).Answers := (decides_bounds hs.decides).answers
  cases answer with
  | true => exact absurd ho h
  | false => exact ho

end Range

/-- Widening a range of numbers or strings loses no value. A range that passes anything has its
bounds in order, so that a bound or a value that is not a number, or bounds the wrong way round,
leave nothing to pass; that is a rejection and not a fault. -/
theorem range_monotone (env : Env) (s : Schema) {x a b : Value} (hx : x.Ordered) (ha : a.Ordered)
    (hb : b.Ordered) :
    (((s.range a b).test env x).outcome = .ok true →
      (∀ c d : Value, c.Ordered → d.Ordered → c.compare .atMost a = .ok true →
        b.compare .atMost d = .ok true → ((s.range c d).test env x).outcome = .ok true) ∧
      a.compare .atMost b = .ok true) ∧
    ((s.test env x).Answers →
      a.compare .atMost b ≠ .ok true ∨ x.IsNan ∨ a.IsNan ∨ b.IsNan →
        ((s.range a b).test env x).outcome = .ok false) := by
  refine ⟨fun h => ⟨fun c d hc hd hca hbd => ?_, (bounds_of_passes hx ha hb h).1⟩, fun hs hn => ?_⟩
  · exact range_widens hx ha hb hc hd hca hbd h
  · refine range_rejects hs fun h => ?_
    obtain ⟨hab, hnx, hna, hnb⟩ := bounds_of_passes hx ha hb h
    rcases hn with hn | hn | hn | hn
    · exact hn hab
    · exact hnx hn
    · exact hna hn
    · exact hnb hn

/-- Bounds of four sorts around an integer that is next to the float below it but not equal to it,
and a bound that is not a number. -/
theorem range_monotone_mixed :
    let x : Value := .int 9007199254740993
    let a : Value := .atom (.float 1 ⟨0x4340000000000000⟩)
    let b : Value := .atom (.decimal 2 (.finite false 90071992547409935 (-1)))
    let c : Value := .bool true
    let d : Value := .atom (.float 3 (.infinity false))
    let nan : Value := .atom (.decimal 4 (.nan false false 0))
    (((kind "number").range a b).test Env.stock x).outcome = .ok true ∧
      (((kind "number").range c d).test Env.stock x).outcome = .ok true ∧
      a.compare .atMost b = .ok true ∧
      (((kind "number").range c nan).test Env.stock x).outcome = .ok false ∧
      (((kind "string").range (.str "b") (.str "a")).test Env.stock (.str "a")).outcome =
        .ok false := by
  intro x a b c d nan
  have hx : x.Ordered := .number rfl
  have hc : c.Ordered := .number rfl
  have hin : (((kind "number").range a b).test Env.stock x).outcome = .ok true := by decide +kernel
  obtain ⟨hwide, hab⟩ :=
    (range_monotone Env.stock (kind "number") hx (.number rfl) (.number rfl)).1 hin
  have hnan : nan.IsNan := ⟨_, rfl, rfl⟩
  refine ⟨hin, ?_, hab, ?_, ?_⟩
  · exact hwide c d hc (.number rfl) (by decide +kernel) (by decide +kernel)
  · exact (range_monotone Env.stock (kind "number") hx hc (.number rfl)).2 ⟨true, rfl⟩
      (.inr (.inr (.inr hnan)))
  · exact (range_monotone Env.stock (kind "string") (.str "a") (.str "b") (.str "a")).2 ⟨true, rfl⟩
      (.inl (by decide +kernel))

end Schema
end Conform
