import Conform.Schema.Test
import Conform.Proofs.Series
import Conform.Proofs.Value.Length

/-! The structure of schemas: an induction principle that assumes a property of every member and
field at once, the parts of a schema, and the schemas that occur in one. What is true of a tree at
each of its nodes is said of all schemas that occur in it, once for all parts and once for the parts
that a test reaches. -/

namespace Conform
set_option autoImplicit false

namespace Schema

/-! ## Induction -/

@[elab_as_elim, induction_eliminator]
theorem induction {motive : Schema → Prop}
    (kind : ∀ name, motive (.kind name))
    (unnamedKind : ∀ x, motive (.unnamedKind x))
    (bigint : motive .bigint)
    (nullable : ∀ s, motive s → motive (.nullable s))
    (undefinable : ∀ s, motive s → motive (.undefinable s))
    (literal : ∀ x, motive (.literal x))
    (oneOf : ∀ xs, motive (.oneOf xs))
    (oneOfType : ∀ s xs, motive s → motive (.oneOfType s xs))
    (shape : ∀ fs : List (Value × Schema), (∀ f ∈ fs, motive f.2) → motive (.shape fs))
    (array : ∀ s, motive s → motive (.array s))
    (union : ∀ ss : List Schema, (∀ s ∈ ss, motive s) → motive (.union ss))
    (intersection : ∀ ss : List Schema, (∀ s ∈ ss, motive s) → motive (.intersection ss))
    (bounded : ∀ s lower upper, motive s → motive (.bounded s lower upper))
    (lengthBounded : ∀ s lower upper, motive s → motive (.lengthBounded s lower upper))
    (exactLength : ∀ s size, motive s → motive (.exactLength s size))
    (predicate : ∀ t d, motive (.predicate t d))
    (foreign : ∀ v, motive (.foreign v)) (s : Schema) : motive s := by
  refine @Schema.rec motive (fun fs => ∀ f ∈ fs, motive f.2) (fun ss => ∀ s ∈ ss, motive s)
    (fun f => motive f.2) kind unnamedKind bigint nullable undefinable literal oneOf oneOfType
    shape array union intersection bounded lengthBounded exactLength predicate foreign
    ?_ ?_ ?_ ?_ ?_ s
  · simp
  · intro f fs hf hfs
    simpa using ⟨hf, fun key s h => hfs (key, s) h⟩
  · simp
  · intro s ss hs hss
    simpa using ⟨hs, hss⟩
  · intro key s hs
    exact hs

/-! ## Parts -/

/-- The schemas that a schema is made of. -/
def parts : Schema → List Schema
  | .nullable s | .undefinable s | .array s | .oneOfType s _ => [s]
  | .bounded s _ _ | .lengthBounded s _ _ | .exactLength s _ => [s]
  | .shape fs => fs.map (·.2)
  | .union ss | .intersection ss => ss
  | _ => []

/-- The parts that a test reaches; the type of options only words them. -/
def testedParts : Schema → List Schema
  | .oneOfType .. => []
  | s => s.parts

/-- A schema occurs in another one, itself included, by way of certain parts. -/
inductive Occurs (parts : Schema → List Schema) (t : Schema) : Schema → Prop
  | self : Occurs parts t t
  | inPart {u s : Schema} (hu : u ∈ parts s) (ht : Occurs parts t u) : Occurs parts t s

/-- Every schema that occurs in a schema has a property. -/
def Every (parts : Schema → List Schema) (p : Schema → Prop) (s : Schema) : Prop :=
  ∀ t, Occurs parts t s → p t

section Every

variable {parts : Schema → List Schema} {p : Schema → Prop} {s : Schema}

theorem Every.node (h : Every parts p s) : p s := h s .self

theorem Every.part (h : Every parts p s) {t : Schema} (ht : t ∈ parts s) : Every parts p t :=
  fun u hu => h u (.inPart ht hu)

theorem Every.ofParts (hs : p s) (hp : ∀ t ∈ parts s, Every parts p t) : Every parts p s := by
  intro u hu
  cases hu with
  | self => exact hs
  | inPart hv hu => exact hp _ hv u hu

theorem Every.ofLeaf (hs : p s) (h : parts s = []) : Every parts p s :=
  .ofParts hs fun _ ht => absurd (h ▸ ht) List.not_mem_nil

end Every

theorem testedParts_subset (s : Schema) : s.testedParts ⊆ s.parts := by
  cases s <;> simp [testedParts]

theorem Occurs.ofTested {t s : Schema} (h : Occurs testedParts t s) : Occurs Schema.parts t s := by
  induction h with
  | self => exact .self
  | inPart hu _ ih => exact .inPart (testedParts_subset _ hu) ih

theorem Every.tested {p : Schema → Prop} {s : Schema} (h : Every Schema.parts p s) :
    Every testedParts p s := fun t ht => h t ht.ofTested

/-! ## Schemas that depend on nothing supplied -/

/-- A node that asks at most the functions that are admitted, and bounds lengths by integers. -/
def AsksOnly (admitted : Callback → Prop) : Schema → Prop
  | .predicate t _ => admitted t
  | .foreign _ => False
  | .lengthBounded _ lower upper => lower.BoundsLength ∧ upper.BoundsLength
  | .exactLength _ size => size.BoundsLength
  | _ => True

/-- No function and no foreign value is asked in a test. -/
def TestsAlone (s : Schema) : Prop := s.Every testedParts (AsksOnly fun _ => False)

/-- No function and no foreign value stands anywhere in the schema. -/
def StandsAlone (s : Schema) : Prop := s.Every parts (AsksOnly fun _ => False)

theorem StandsAlone.testsAlone {s : Schema} (h : s.StandsAlone) : s.TestsAlone := Every.tested h

/-! ## Answers -/

/-- A schema that answers as a foreign value does: what that value says is not made a truth value
on the way through optional schemas. -/
def handsOn : Schema → Bool
  | .nullable s | .undefinable s => s.handsOn
  | .foreign _ => true
  | _ => false

theorem Every.handsOn_eq_false {p : Schema → Prop} (hp : ∀ x, ¬p (.foreign x)) {s : Schema}
    (h : s.Every testedParts p) : s.handsOn = false := by
  induction s with
  | nullable s ih => exact ih (h.part (by simp [testedParts, parts]))
  | undefinable s ih => exact ih (h.part (by simp [testedParts, parts]))
  | foreign x => exact absurd h.node (hp x)
  | _ => rfl

theorem TestsAlone.handsOn_eq_false {s : Schema} (h : s.TestsAlone) : s.handsOn = false :=
  Every.handsOn_eq_false (fun _ h => h) h

/-- Apart from that the answer of a test is its truth. -/
theorem verdict_eq {env : Env} {s : Schema} (h : s.handsOn = false) (v : Value) :
    s.verdict env v = Value.bool <$> s.test env v := by
  induction s with
  | nullable s ih =>
    rw [verdict, test, ih h]
    split <;> rfl
  | undefinable s ih =>
    rw [verdict, test, ih h]
    split <;> rfl
  | foreign x => cases h
  | _ => rfl

theorem verdict_outcome {env : Env} {s : Schema} (h : s.handsOn = false) {v : Value} {b : Bool}
    (hb : (s.test env v).outcome = .ok b) : (s.verdict env v).outcome = .ok (.bool b) := by
  rw [verdict_eq h, map_eq_pure_bind, Run.outcome_bind, hb]
  rfl

/-! ## Tests of members and fields as walks over lists -/

variable (env : Env)

theorem testAny_eq (ss : List Schema) (v : Value) :
    testAny env ss v = Run.forAny (fun s => (s.test env v).inSeries) ss := by
  induction ss with
  | nil => rfl
  | cons s ss ih => rw [testAny, ih, Run.forAny]

theorem testAll_eq (ss : List Schema) (v : Value) :
    testAll env ss v = Run.forAll (fun s => (s.test env v).inSeries) ss := by
  induction ss with
  | nil => rfl
  | cons s ss ih => rw [testAll, ih, Run.forAll]

theorem testFields_eq (fs : List (Value × Schema)) (v : Value) :
    testFields env fs v = Run.forAll (fun f => (f.2.test env (v.field f.1)).inSeries) fs := by
  induction fs with
  | nil => rfl
  | cons f fs ih => rw [testFields, ih, Run.forAll]

theorem test_union (ss : List Schema) (v : Value) :
    (union ss).test env v = Run.forAny (fun s => (s.test env v).inSeries) ss := by
  rw [test, testAny_eq]

theorem test_intersection (ss : List Schema) (v : Value) :
    (intersection ss).test env v = Run.forAll (fun s => (s.test env v).inSeries) ss := by
  rw [test, testAll_eq]

theorem test_shape (fs : List (Value × Schema)) (v : Value) :
    (shape fs).test env v = if v.kind = .object
      then Run.forAll (fun f => (f.2.test env (v.field f.1)).inSeries) fs else pure false := by
  rw [test, testFields_eq]

end Schema
end Conform
