import Conform.Proofs.Schema.Structure
import Conform.Proofs.Value.Likeness

/-! Values that a test cannot tell apart. Main statement: where a relation of values carries over to
what is found in them, a schema whose nodes inspect related values alike runs alike on them. -/

namespace Conform
set_option autoImplicit false

namespace Schema

variable {env : Env} {keys : Value → Prop} {R : Value → Value → Prop} {s : Schema}

/-- The schema is tested alike on related values. -/
def Agrees (env : Env) (R : Value → Value → Prop) (s : Schema) : Prop :=
  ∀ v w, R v w → s.test env v = s.test env w

/-- A node that inspects only kinds, elements and fields under the keys, or that is tested alike
on related values if its parts are. -/
def InspectsAlike (env : Env) (keys : Value → Prop) (R : Value → Value → Prop) : Schema → Prop
  | .kind _ | .unnamedKind _ | .nullable _ | .undefinable _ => True
  | .array _ | .union _ | .intersection _ => True
  | .shape fs => ∀ f ∈ fs, keys f.1
  | s => (∀ t ∈ s.testedParts, t.Agrees env R) → s.Agrees env R

/-- The induction is on the schema, for all related values at once. -/
theorem agrees_of_every (hR : Value.Resembling keys R)
    (hs : s.Every testedParts (InspectsAlike env keys R)) : s.Agrees env R := by
  induction s with
  | kind name =>
    intro v w h
    rw [test, test, hR.kind h]
  | unnamedKind x => exact fun v w _ => rfl
  | nullable s ih =>
    intro v w h
    rw [test, test, Value.isNull_congr (hR.kind h),
      ih (hs.part (by simp [testedParts, parts])) v w h]
  | undefinable s ih =>
    intro v w h
    rw [test, test, Value.isUndefined_congr (hR.kind h),
      ih (hs.part (by simp [testedParts, parts])) v w h]
  | shape fs ih =>
    intro v w h
    rw [test_shape, test_shape, ← hR.kind h]
    split
    next hv =>
      refine Run.forAll_congr fun f hf => ?_
      have hmem : f.2 ∈ (shape fs).testedParts := List.mem_map_of_mem hf
      have hpart := hs.part hmem
      rw [ih f hf hpart _ _ (hR.field h hv (hs.node f hf))]
    next => rfl
  | array s ih =>
    intro v w h
    have hitem : s.Agrees env R := ih (hs.part (List.mem_singleton_self s))
    have helements := hR.elements h
    rw [test, test]
    generalize v.elements? = xs at helements
    generalize w.elements? = ys at helements
    cases helements with
    | none => rfl
    | some hxs =>
      refine Run.forAll_congr₂ hxs fun x y hxy => ?_
      rw [hitem x y hxy]
  | union ss ih =>
    intro v w h
    rw [test_union, test_union]
    refine Run.forAny_congr fun t ht => ?_
    rw [ih t ht (hs.part ht) v w h]
  | intersection ss ih =>
    intro v w h
    rw [test_intersection, test_intersection]
    refine Run.forAll_congr fun t ht => ?_
    rw [ih t ht (hs.part ht) v w h]
  | bounded s lower upper ih | lengthBounded s lower upper ih =>
    have hinner : s.Agrees env R := ih (hs.part (by simp [testedParts, parts]))
    exact hs.node (by simpa [testedParts, parts] using hinner)
  | exactLength s size ih =>
    have hinner : s.Agrees env R := ih (hs.part (by simp [testedParts, parts]))
    exact hs.node (by simpa [testedParts, parts] using hinner)
  | bigint | literal | oneOf | oneOfType | predicate | foreign =>
    exact hs.node fun t ht => absurd ht List.not_mem_nil

end Schema
end Conform
