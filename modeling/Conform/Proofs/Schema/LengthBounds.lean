import Conform.Proofs.InTurn
import Conform.Proofs.Value.Measure
import Conform.Schema.Supplied

/-! Refinements by length, where any values may stand for the bounds. A range of lengths asks
whether a bound is violated, so that it takes the bounds at their word where opposite comparisons
have opposite answers; otherwise a fault can come of them, or a length that they do not admit can
pass. An exact length may be any value. Main statement: the condition under which lengths are
accepted, and the one under which there is a fault, for bounds of every sort. -/

namespace Conform
set_option autoImplicit false

namespace Schema

variable {env : Env} {s : Schema} {lower upper size v : Value}

/-- Both bounds are asked whether they are violated, the lower one first. -/
theorem rangeLength_passes_iff : ((s.rangeLength lower upper).test env v).Passes ↔
    (s.test env v).Passes ∧ ∃ n : Nat, v.length = .ok n ∧
      Value.lengthBeyond .below n lower = .ok false ∧
      Value.lengthBeyond .above n upper = .ok false := by
  rw [← Value.lengthWithin_eq_true_iff]
  exact Run.guard_passes_iff

/-- A test that answers has no fault of its own, so that those there are come from the bounds. -/
theorem rangeLength_fails_iff (hs : (s.test env v).Answers) {f : Fault} :
    ((s.rangeLength lower upper).test env v).outcome = .error f ↔
      (s.test env v).Passes ∧ ∃ n : Nat, v.length = .ok n ∧
        (Value.lengthBeyond .below n lower = .error f ∨
          Value.lengthBeyond .below n lower = .ok false ∧
            Value.lengthBeyond .above n upper = .error f) := by
  rw [← Value.lengthWithin_eq_error_iff]
  obtain ⟨b, hb⟩ := hs
  rw [rangeLength, test, Run.outcome_bind, Run.Passes, hb]
  cases b with
  | false => simp [bind, Except.bind]
  | true => simp [bind, Except.bind, Run.lift]

theorem decides_rangeLength (hs : (s.test env v).Answers) (hl : lower.Measures)
    (hu : upper.Measures) : ((s.rangeLength lower upper).test env v).Decides
      ((s.test env v).Passes ∧ ∃ n : Nat, v.length = .ok n ∧ lower.Admits .atLeast n ∧
        upper.Admits .atMost n) := by
  have hwithin : (Run.lift (v.lengthWithin lower upper)).Decides
      (∃ n : Nat, v.length = .ok n ∧ lower.Admits .atLeast n ∧ upper.Admits .atMost n) :=
    Value.lengthWithin_of_measures hl hu v
  exact hs.decides.and fun _ => hwithin

theorem decides_length (hs : (s.test env v).Answers) : ((s.length size).test env v).Decides
    ((s.test env v).Passes ∧ ∃ n : Nat, v.length = .ok n ∧
      (Value.int n).equals size = .ok true) := by
  have hlength : (pure (v.hasLength size) : Run Fault Bool).Decides
      (∃ n : Nat, v.length = .ok n ∧ (Value.int n).equals size = .ok true) :=
    Run.decides_pure Value.hasLength_iff_equals
  exact hs.decides.and fun _ => hlength

/-- Refinements by length fail closed if their bounds measure lengths: a range, of which one end
may be null, comes to a verdict then, and accepts what it should. Whatever its bounds are, it
accepts the lengths for which neither is found to be violated, and there is a fault if one of
them cannot be compared before the other one is violated. An exact length fails closed whatever
it is. -/
theorem length_bounds_exact (env : Env) {s : Schema} {v : Value} (hs : (s.test env v).Answers) :
    (∀ lower upper : Value,
      (lower.Measures → upper.Measures →
        ∃ b, ((s.rangeLength lower upper).test env v).outcome = .ok b ∧
          (b = true ↔ (s.test env v).Passes ∧ ∃ n : Nat, v.length = .ok n ∧
            lower.Admits .atLeast n ∧ upper.Admits .atMost n)) ∧
      (((s.rangeLength lower upper).test env v).outcome = .ok true ↔
        (s.test env v).Passes ∧ ∃ n : Nat, v.length = .ok n ∧
          Value.lengthBeyond .below n lower = .ok false ∧
          Value.lengthBeyond .above n upper = .ok false) ∧
      ∀ f, ((s.rangeLength lower upper).test env v).outcome = .error f ↔
        (s.test env v).Passes ∧ ∃ n : Nat, v.length = .ok n ∧
          (Value.lengthBeyond .below n lower = .error f ∨
            Value.lengthBeyond .below n lower = .ok false ∧
              Value.lengthBeyond .above n upper = .error f)) ∧
    (∀ size : Value, ∃ b, ((s.length size).test env v).outcome = .ok b ∧
      (b = true ↔ (s.test env v).Passes ∧ ∃ n : Nat, v.length = .ok n ∧
        (Value.int n).equals size = .ok true)) ∧
    ∀ (bound : Value) (x : Number) (q : Extended), bound.number? = some x → x.value? = some q →
      bound.Measures := by
  refine ⟨fun lower upper => ⟨?_, rangeLength_passes_iff, fun f => rangeLength_fails_iff hs⟩,
    fun size => decides_length hs, fun bound x q hx hq => Value.measures_of_number hx hq⟩
  exact fun hl hu => decides_rangeLength hs hl hu

/-- Three letters are at least two and not less than a NaN, cannot be compared with a text, and are
of no length that is a text; an object that denies to be above them lets them pass. -/
theorem length_bounds_exact_letters :
    let s := kind "string"
    let v := Value.str "abc"
    let nan : Value := .atom (.float 0 .nan)
    let denying : Value := .object 0 [] { Traits.plain with above := .always (.gives false) }
    (s.test Env.stock v).Answers ∧ (Value.int 2).Measures ∧
      ((s.minLength (.int 2)).test Env.stock v).outcome = .ok true ∧
      ((s.minLength nan).test Env.stock v).outcome = .ok true ∧
      ((s.minLength denying).test Env.stock v).outcome = .ok true ∧
      ((s.minLength (.str "a")).test Env.stock v).outcome = .error .mismatch ∧
      ((s.length (.str "abc")).test Env.stock v).outcome = .ok false := by
  intro s v nan denying
  have hs : (s.test Env.stock v).Answers := ⟨true, rfl⟩
  obtain ⟨hranges, hlengths, hnumbers⟩ := length_bounds_exact Env.stock hs
  have htwo : (Value.int 2).Measures := hnumbers _ _ _ rfl (Number.value?_int 2)
  have hthree : v.length = .ok 3 := by decide +kernel
  have hnull : Value.lengthBeyond .above 3 .null = .ok false := rfl
  obtain ⟨b, hb, haccepts⟩ := (hranges (.int 2) .null).1 htwo (.inl rfl)
  have hbt : b = true := haccepts.mpr ⟨rfl, 3, hthree, .inr (by decide +kernel), .inl rfl⟩
  have hnan := (hranges nan .null).2.1.mpr ⟨rfl, 3, hthree, by decide +kernel, hnull⟩
  have hdenying := (hranges denying .null).2.1.mpr ⟨rfl, 3, hthree, by decide +kernel, hnull⟩
  have htext := ((hranges (.str "a") .null).2.2 .mismatch).mpr
    ⟨rfl, 3, hthree, .inl (by decide +kernel)⟩
  obtain ⟨c, hc, hexact⟩ := hlengths (.str "abc")
  have hcf : c = false := by
    refine Bool.eq_false_iff.mpr fun ht => ?_
    obtain ⟨-, n, -, hn⟩ := hexact.mp ht
    simp [Value.equals, Value.equalsAsking, Atom.equals, Atom.number?] at hn
  exact ⟨hs, htwo, hbt ▸ hb, hnan, hdenying, htext, hcf ▸ hc⟩

/-- A bound that is a text leads to a fault, and a NaN is passed unnoticed. -/
theorem lengths_fail_open :
    let nan : Value := .atom (.float 0 .nan)
    ((kind "string").test Env.stock (.str "abc")).outcome = .ok true ∧
      (((kind "string").minLength (.str "a")).test Env.stock (.str "abc")).outcome =
        .error .mismatch ∧
      (((kind "string").minLength nan).test Env.stock (.str "abc")).outcome = .ok true ∧
      (Value.int 3).compare .atLeast nan = .ok false := by
  decide +kernel

end Schema
end Conform
