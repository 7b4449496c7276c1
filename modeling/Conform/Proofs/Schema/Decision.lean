import Conform.Schema.Supplied
import Conform.Proofs.Schema.Denotation

/-! The test of a schema decides the set that the schema denotes. The induction is on the schema,
for all values at once, because fields and elements are tested in place of the value; it assumes of
every predicate that is reached that its test decides what it is given to apply to. -/

namespace Conform
set_option autoImplicit false

def Env.asks (env : Env) (t : Callback) (v : Value) : Run Fault Bool := do
  let answer ← env.test t v
  Run.lift answer.truthy

namespace Schema

variable {env : Env} {given : Callback → Value → Prop} {admitted : Callback → Prop}

/-! ## Tests put together -/

section Parts

variable {s : Schema} {v : Value} {p : Prop}

theorem decides_nullable (h : (s.test env v).Decides p) :
    ((nullable s).test env v).Decides (v = .null ∨ p) := by
  rw [test]
  split
  next hn => exact Run.decides_pure (by simp [Value.isNull_iff.mp hn])
  next hn =>
    have hv : v ≠ .null := fun hv => hn (Value.isNull_iff.mpr hv)
    exact h.congr (by simp [hv])

theorem decides_undefinable (h : (s.test env v).Decides p) :
    ((undefinable s).test env v).Decides (v = .undefined ∨ p) := by
  rw [test]
  split
  next hn => exact Run.decides_pure (by simp [Value.isUndefined_iff.mp hn])
  next hn =>
    have hv : v ≠ .undefined := fun hv => hn (Value.isUndefined_iff.mpr hv)
    exact h.congr (by simp [hv])

theorem decides_shape {fs : List (Value × Schema)} {q : Value × Schema → Prop}
    (h : ∀ f ∈ fs, (f.2.test env (v.field f.1)).Decides (q f)) :
    ((shape fs).test env v).Decides (v.kind = .object ∧ ∀ f ∈ fs, q f) := by
  rw [test_shape]
  split
  next hk =>
    have hall := Run.decides_forAll fun f hf => (h f hf).inSeries
    exact hall.congr (by simp [hk])
  next hk => exact Run.decides_pure (by simp [hk])

theorem decides_array {q : Value → Prop} (h : ∀ x, (s.test env x).Decides (q x)) :
    ((array s).test env v).Decides (∃ xs, v.elements? = some xs ∧ ∀ x ∈ xs, q x) := by
  rw [test]
  split
  next xs hxs =>
    have hall := Run.decides_forAll fun x (_ : x ∈ xs) => (h x).inSeries
    exact hall.congr (by simp [hxs])
  next hxs => exact Run.decides_pure (by simp [hxs])

theorem decides_union {ss : List Schema} {q : Schema → Prop}
    (h : ∀ s ∈ ss, (s.test env v).Decides (q s)) :
    ((union ss).test env v).Decides (∃ s ∈ ss, q s) := by
  rw [test_union]
  exact Run.decides_forAny fun s hs => (h s hs).inSeries

theorem decides_intersection {ss : List Schema} {q : Schema → Prop}
    (h : ∀ s ∈ ss, (s.test env v).Decides (q s)) :
    ((intersection ss).test env v).Decides (∀ s ∈ ss, q s) := by
  rw [test_intersection]
  exact Run.decides_forAll fun s hs => (h s hs).inSeries

theorem decides_bounds {lower upper : Value} (h : (s.test env v).Decides p) :
    ((bounded s lower upper).test env v).Decides (p ∧
      (lower = .null ∨ v.compare .atLeast lower = .ok true) ∧
        (upper = .null ∨ v.compare .atMost upper = .ok true)) := by
  have hb : (pure (v.satisfies .atLeast lower && v.satisfies .atMost upper) :
      Run Fault Bool).Decides ((lower = .null ∨ v.compare .atLeast lower = .ok true) ∧
        (upper = .null ∨ v.compare .atMost upper = .ok true)) :=
    Run.decides_pure (by rw [Bool.and_eq_true, Value.satisfies_iff, Value.satisfies_iff])
  rw [test]
  exact h.and fun _ => hb

theorem decides_lengthBounds {lower upper : Value} (hl : lower.BoundsLength)
    (hu : upper.BoundsLength) (h : (s.test env v).Decides p) :
    ((lengthBounded s lower upper).test env v).Decides (p ∧ v.HasLengthWithin lower upper) := by
  have hb : (Run.lift (v.lengthWithin lower upper)).Decides (v.HasLengthWithin lower upper) :=
    Value.lengthWithin_decides hl hu v
  rw [test]
  exact h.and fun _ => hb

theorem decides_exactLength {size : Value} (hs : size.BoundsLength)
    (h : (s.test env v).Decides p) :
    ((exactLength s size).test env v).Decides (p ∧ v.HasLengthOf size) := by
  have hb : (pure (v.hasLength size) : Run Fault Bool).Decides (v.HasLengthOf size) :=
    Run.decides_pure (Value.hasLength_iff hs)
  rw [test]
  exact h.and fun _ => hb

theorem decides_predicate {t d : Callback} (h : (env.asks t v).Decides p) :
    ((predicate t d).test env v).Decides p := by
  obtain ⟨b, hb, hp⟩ := h
  refine ⟨b, ?_, hp⟩
  rw [test, Run.outcome_bind]
  exact hb

end Parts

/-! ## The test of a schema -/

/-- The test of a schema whose predicates decide what they are given decides its denotation. -/
theorem test_decides (hgiven : ∀ t, admitted t → ∀ v, (env.asks t v).Decides (given t v))
    {s : Schema} (hs : s.Every testedParts (AsksOnly admitted)) (v : Value) :
    (s.test env v).Decides (s.HoldsOf given v) := by
  induction s generalizing v with
  | kind name =>
    rw [test]
    exact Run.decides_pure (by simp)
  | unnamedKind x =>
    rw [test]
    exact Run.decides_pure (by simp)
  | bigint =>
    rw [test]
    exact Run.decides_pure (by rw [Value.isInteger_iff, holdsOf_bigint])
  | nullable s ih =>
    have h := decides_nullable (ih (hs.part (by simp [testedParts, parts])) v)
    exact h.congr holdsOf_nullable.symm
  | undefinable s ih =>
    have h := decides_undefinable (ih (hs.part (by simp [testedParts, parts])) v)
    exact h.congr holdsOf_undefinable.symm
  | literal x =>
    rw [test]
    exact Run.decides_pure (by simp)
  | oneOf xs =>
    rw [test]
    exact Run.decides_pure (by simp)
  | oneOfType s xs _ =>
    rw [test]
    exact Run.decides_pure (by simp)
  | shape fs ih =>
    -- a field that is missing is tested as undefined
    have h := decides_shape fun f hf =>
      ih f hf (hs.part (by simpa [testedParts, parts] using ⟨f.1, hf⟩)) (v.field f.1)
    exact h.congr holdsOf_shape.symm
  | array s ih =>
    have h : ∀ x, (s.test env x).Decides (s.HoldsOf given x) :=
      fun x => ih (hs.part (by simp [testedParts, parts])) x
    exact (decides_array h).congr holdsOf_array.symm
  | union ss ih =>
    have h := decides_union fun s hs' => ih s hs' (hs.part (by simpa [testedParts, parts])) v
    exact h.congr holdsOf_union.symm
  | intersection ss ih =>
    have h := decides_intersection fun s hs' =>
      ih s hs' (hs.part (by simpa [testedParts, parts])) v
    exact h.congr holdsOf_intersection.symm
  | bounded s lower upper ih =>
    have h := ih (hs.part (by simp [testedParts, parts])) v
    exact (decides_bounds h).congr holdsOf_bounded.symm
  | lengthBounded s lower upper ih =>
    obtain ⟨hl, hu⟩ := hs.node
    have h := ih (hs.part (by simp [testedParts, parts])) v
    exact (decides_lengthBounds hl hu h).congr holdsOf_lengthBounded.symm
  | exactLength s size ih =>
    have h := ih (hs.part (by simp [testedParts, parts])) v
    exact (decides_exactLength hs.node h).congr holdsOf_exactLength.symm
  | predicate t d => exact (decides_predicate (hgiven t hs.node v)).congr holdsOf_predicate.symm
  | foreign x => exact hs.node.elim

theorem TestsAlone.answers {s : Schema} (h : s.TestsAlone) (v : Value) :
    (s.test env v).Answers := by
  have hd : (s.test env v).Decides (s.HoldsOf (fun _ _ => True) v) :=
    test_decides (fun _ h => h.elim) h v
  exact hd.answers

/-- A schema that asks nothing supplied answers every value with a truth value, which is true
exactly for the values in the set that the schema denotes. -/
theorem verdict_decides (env : Env) (given : Callback → Value → Prop) {s : Schema}
    (hs : s.TestsAlone) (v : Value) :
    ∃ b, (s.test env v).outcome = .ok b ∧ (s.verdict env v).outcome = .ok (.bool b) ∧
      (b = true ↔ s.HoldsOf given v) := by
  have h : (s.test env v).Decides (s.HoldsOf given v) := test_decides (fun _ h => h.elim) hs v
  obtain ⟨b, hb, hp⟩ := h
  refine ⟨b, hb, ?_, hp⟩
  have hv : s.verdict env v = s.test env v >>= fun b => pure (.bool b) := by
    rw [verdict_eq hs.handsOn_eq_false, map_eq_pure_bind]
  rw [hv, Run.outcome_bind, hb]
  rfl

/-- An object with a string under `a`, if anything is there, and under `b` one within bounds. -/
def comparable : Schema :=
  .shape [(.str "a", .undefinable ((Schema.kind "string").minLength (.int 1))),
    (.str "b", (Schema.kind "object").range (.int 0) (.int 9))]

/-- An object that fails to give `a`, with one under `b` that fails to be compared. -/
def failing : Value :=
  .object 0 [("b", .object 1 [] { Traits.plain with atLeast := .always (.fails .mismatch) })]
    { Traits.plain with raising := ["a"] }

/-- Under `b` an object that says to be within all bounds, and none under `a`. -/
def comparing : Value :=
  .dict 0 [(.str "b", .object 1 [] { Traits.plain with
    atLeast := .always (.gives true), atMost := .always (.gives true) })]

/-- The attribute that fails counts as absent, the comparison that fails as a violation; what is
absent may be so, and what says to be within the bounds is. -/
example : (comparable.test Env.stock failing).outcome = .ok false ∧
    (comparable.test Env.stock comparing).outcome = .ok true := by
  decide +kernel

end Schema
end Conform
