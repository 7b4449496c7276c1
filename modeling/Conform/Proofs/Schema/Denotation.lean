import Conform.Proofs.Schema.Structure
import Conform.Proofs.Value.Lookup

/-! The set of values that a schema denotes, and the test that decides it. `HoldsOf` gives one rule
for each way of belonging: by kind, by strict equality, by the parts, by a comparison or a length
that satisfies its bounds. A comparison that fails, a length that does not exist and a look-up that
fails belong to no rule, so that they exclude a value. Main statement: the test of a schema that
asks nothing supplied ends without a fault, in the truth of belonging. -/

namespace Conform
set_option autoImplicit false

namespace Schema

/-! ## The denotation -/

/-- A value belongs to the set that a schema denotes, where `given` says to which values the tests
of predicates apply. -/
inductive HoldsOf (given : Callback → Value → Prop) : Schema → Value → Prop
  | kind {name : String} {v : Value} (h : v.kind.name = name) : HoldsOf given (.kind name) v
  | bigint {n : Int} : HoldsOf given .bigint (.int n)
  | null {s : Schema} : HoldsOf given (.nullable s) .null
  | nullable {s : Schema} {v : Value} (h : HoldsOf given s v) : HoldsOf given (.nullable s) v
  | undefined {s : Schema} : HoldsOf given (.undefinable s) .undefined
  | undefinable {s : Schema} {v : Value} (h : HoldsOf given s v) :
      HoldsOf given (.undefinable s) v
  | literal {x v : Value} (h : v.strictEquals x = true) : HoldsOf given (.literal x) v
  | oneOf {xs : List Value} {x v : Value} (hx : x ∈ xs) (h : v.strictEquals x = true) :
      HoldsOf given (.oneOf xs) v
  | oneOfType {s : Schema} {xs : List Value} {x v : Value} (hx : x ∈ xs)
      (h : v.strictEquals x = true) : HoldsOf given (.oneOfType s xs) v
  | shape {fs : List (Value × Schema)} {v : Value} (hk : v.kind = .object)
      (h : ∀ f ∈ fs, ∀ w, v.Shows f.1 w → HoldsOf given f.2 w) : HoldsOf given (.shape fs) v
  | array {s : Schema} {v : Value} {xs : List Value} (hv : v.elements? = some xs)
      (h : ∀ x ∈ xs, HoldsOf given s x) : HoldsOf given (.array s) v
  | union {ss : List Schema} {s : Schema} {v : Value} (hs : s ∈ ss) (h : HoldsOf given s v) :
      HoldsOf given (.union ss) v
  | intersection {ss : List Schema} {v : Value} (h : ∀ s ∈ ss, HoldsOf given s v) :
      HoldsOf given (.intersection ss) v
  | bounded {s : Schema} {lower upper v : Value} (h : HoldsOf given s v)
      (hl : lower = .null ∨ v.compare .atLeast lower = .ok true)
      (hu : upper = .null ∨ v.compare .atMost upper = .ok true) :
      HoldsOf given (.bounded s lower upper) v
  | lengthBounded {s : Schema} {lower upper v : Value} (h : HoldsOf given s v)
      (hn : v.HasLengthWithin lower upper) : HoldsOf given (.lengthBounded s lower upper) v
  | exactLength {s : Schema} {size v : Value} (h : HoldsOf given s v) (hn : v.HasLengthOf size) :
      HoldsOf given (.exactLength s size) v
  | predicate {t d : Callback} {v : Value} (h : given t v) : HoldsOf given (.predicate t d) v

section HoldsOf

variable {given : Callback → Value → Prop} {s : Schema} {v : Value}

@[simp] theorem holdsOf_kind {name : String} :
    (Schema.kind name).HoldsOf given v ↔ v.kind.name = name :=
  ⟨fun | .kind h => h, .kind⟩

@[simp] theorem not_holdsOf_unnamedKind {x : Value} : ¬(unnamedKind x).HoldsOf given v := nofun

@[simp] theorem holdsOf_bigint : Schema.bigint.HoldsOf given v ↔ ∃ n, v = .int n :=
  ⟨fun | .bigint => ⟨_, rfl⟩, fun ⟨_, h⟩ => h ▸ .bigint⟩

@[simp] theorem holdsOf_nullable :
    (nullable s).HoldsOf given v ↔ v = .null ∨ s.HoldsOf given v := by
  constructor
  · intro h
    cases h with
    | null => exact .inl rfl
    | nullable h => exact .inr h
  · rintro (rfl | h)
    · exact .null
    · exact .nullable h

@[simp] theorem holdsOf_undefinable :
    (undefinable s).HoldsOf given v ↔ v = .undefined ∨ s.HoldsOf given v := by
  constructor
  · intro h
    cases h with
    | undefined => exact .inl rfl
    | undefinable h => exact .inr h
  · rintro (rfl | h)
    · exact .undefined
    · exact .undefinable h

@[simp] theorem holdsOf_literal {x : Value} :
    (literal x).HoldsOf given v ↔ v.strictEquals x = true :=
  ⟨fun | .literal h => h, .literal⟩

@[simp] theorem holdsOf_oneOf {xs : List Value} :
    (oneOf xs).HoldsOf given v ↔ ∃ x ∈ xs, v.strictEquals x = true :=
  ⟨fun | .oneOf hx h => ⟨_, hx, h⟩, fun ⟨_, hx, h⟩ => .oneOf hx h⟩

@[simp] theorem holdsOf_oneOfType {xs : List Value} :
    (oneOfType s xs).HoldsOf given v ↔ ∃ x ∈ xs, v.strictEquals x = true :=
  ⟨fun | .oneOfType hx h => ⟨_, hx, h⟩, fun ⟨_, hx, h⟩ => .oneOfType hx h⟩

/-- A value shows exactly one value under each key. -/
@[simp] theorem holdsOf_shape {fs : List (Value × Schema)} :
    (shape fs).HoldsOf given v ↔
      v.kind = .object ∧ ∀ f ∈ fs, f.2.HoldsOf given (v.field f.1) := by
  constructor
  · intro h
    cases h with
    | shape hk h => exact ⟨hk, fun f hf => h f hf _ (Value.shows_iff.mpr rfl)⟩
  · rintro ⟨hk, h⟩
    refine .shape hk fun f hf w hw => ?_
    rw [← Value.shows_iff.mp hw]
    exact h f hf

@[simp] theorem holdsOf_array :
    (array s).HoldsOf given v ↔ ∃ xs, v.elements? = some xs ∧ ∀ x ∈ xs, s.HoldsOf given x :=
  ⟨fun | .array hv h => ⟨_, hv, h⟩, fun ⟨_, hv, h⟩ => .array hv h⟩

@[simp] theorem holdsOf_union {ss : List Schema} :
    (union ss).HoldsOf given v ↔ ∃ s ∈ ss, s.HoldsOf given v :=
  ⟨fun | .union hs h => ⟨_, hs, h⟩, fun ⟨_, hs, h⟩ => .union hs h⟩

@[simp] theorem holdsOf_intersection {ss : List Schema} :
    (intersection ss).HoldsOf given v ↔ ∀ s ∈ ss, s.HoldsOf given v :=
  ⟨fun | .intersection h => h, .intersection⟩

@[simp] theorem holdsOf_bounded {lower upper : Value} :
    (bounded s lower upper).HoldsOf given v ↔ s.HoldsOf given v ∧
      (lower = .null ∨ v.compare .atLeast lower = .ok true) ∧
      (upper = .null ∨ v.compare .atMost upper = .ok true) :=
  ⟨fun | .bounded h hl hu => ⟨h, hl, hu⟩, fun ⟨h, hl, hu⟩ => .bounded h hl hu⟩

@[simp] theorem holdsOf_lengthBounded {lower upper : Value} :
    (lengthBounded s lower upper).HoldsOf given v ↔
      s.HoldsOf given v ∧ v.HasLengthWithin lower upper :=
  ⟨fun | .lengthBounded h hn => ⟨h, hn⟩, fun ⟨h, hn⟩ => .lengthBounded h hn⟩

@[simp] theorem holdsOf_exactLength {size : Value} :
    (exactLength s size).HoldsOf given v ↔ s.HoldsOf given v ∧ v.HasLengthOf size :=
  ⟨fun | .exactLength h hn => ⟨h, hn⟩, fun ⟨h, hn⟩ => .exactLength h hn⟩

@[simp] theorem holdsOf_predicate {t d : Callback} :
    (predicate t d).HoldsOf given v ↔ given t v :=
  ⟨fun | .predicate h => h, .predicate⟩

end HoldsOf

end Schema
end Conform
