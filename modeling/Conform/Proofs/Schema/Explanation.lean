import Conform.Schema.Describe
import Conform.Proofs.Schema.Structure
import Conform.Proofs.Value.Written

/-! Schemas that can explain why they do not hold of a value. The explanation shows the value and
the values that are stored in the schema, each where the kind of the schema asks for it, so that
there is one exactly if there are texts of all values that are shown. Kinds, shapes and arrays show
no value but its kind. -/

namespace Conform
set_option autoImplicit false

def Value.IsText (v : Value) : Prop := ∃ t, v = .str t

namespace Describe

/-! ## Pieces of an explanation -/

theorem reasons_ok {vs : List Value} (h : ∀ v ∈ vs, v.IsText) : ∃ t, reasons vs = .ok t := by
  have hs : ∃ ss, strings? vs = some ss := by
    induction vs with
    | nil => exact ⟨[], rfl⟩
    | cons v vs ih =>
      obtain ⟨⟨t, rfl⟩, hvs⟩ := List.forall_mem_cons.mp h
      obtain ⟨ss, hss⟩ := ih hvs
      exact ⟨t :: ss, by rw [strings?, hss, Option.map_some]⟩
  obtain ⟨ss, hss⟩ := hs
  exact ⟨joined ", " ss, by rw [reasons, hss]⟩

theorem displayed_ends {c : Prop} {xs : List Value} (hc : ∀ x ∈ xs, c → x.BuiltIn) :
    Ends (displayed xs) (∀ x ∈ xs, x.HasText) Anything (DigitsOnly c) := by
  induction xs with
  | nil => exact .ok (by simp) trivial
  | cons x xs ih =>
    obtain ⟨hx, hxs⟩ := List.forall_mem_cons.mp hc
    rw [displayed, List.forall_mem_cons]
    exact (x.display_ends.under hx).bind fun _ _ => (ih hxs).map fun _ _ => trivial

/-- A bound that is null is not shown, but there would be a text of it. -/
theorem bounds_ends {what lower upper : Value} (hw : what.IsText) (suffix : String) :
    Ends (bounds what lower upper suffix) (lower.HasText ∧ upper.HasText) Anything
      (DigitsOnly (lower.BuiltIn ∧ upper.BuiltIn)) := by
  obtain ⟨t, rfl⟩ := hw
  have hnull : ∀ x : Value, x.isNull = true → x.HasText := by
    intro x hx
    rw [Value.isNull_iff.mp hx]
    exact .atom trivial
  have hlow := lower.display_ends.under fun h : lower.BuiltIn ∧ upper.BuiltIn => h.1
  have hup := upper.display_ends.under fun h : lower.BuiltIn ∧ upper.BuiltIn => h.2
  change Ends (if lower.isNull then _ else if upper.isNull then _ else _) _ _ _
  split
  next h =>
    have hl : lower.HasText := hnull lower h
    exact (hup.map fun _ _ => trivial).congr ⟨fun h => ⟨hl, h⟩, And.right⟩
  next =>
    split
    next h =>
      have hu : upper.HasText := hnull upper h
      exact (hlow.map fun _ _ => trivial).congr ⟨fun h => ⟨h, hu⟩, And.left⟩
    next => exact hlow.bind fun _ _ => hup.map fun _ _ => trivial

end Describe

namespace Schema
open Describe

/-! ## What an explanation needs -/

/-- There is an explanation why the schema does not hold of the value. -/
inductive Explains : Schema → Value → Prop
  | kind {name : String} {v : Value} : Explains (.kind name) v
  | unnamedKind {x v : Value} (hx : x.HasText) : Explains (.unnamedKind x) v
  | bigint {v : Value} : Explains .bigint v
  | nullable {s : Schema} {v : Value} (h : Explains s v) : Explains (.nullable s) v
  | undefinable {s : Schema} {v : Value} (h : Explains s v) : Explains (.undefinable s) v
  | literal {x v : Value} (hx : x.HasText) (hv : v.HasText) : Explains (.literal x) v
  | oneOf {xs : List Value} {v : Value} (hx : ∀ x ∈ xs, x.HasText) (hv : v.HasText) :
      Explains (.oneOf xs) v
  /-- The type explains what it would say of the options. -/
  | oneOfType {s : Schema} {xs : List Value} {v : Value} (hx : ∀ x ∈ xs, Explains s x)
      (hv : v.HasText) : Explains (.oneOfType s xs) v
  | shape {fs : List (Value × Schema)} {v : Value} : Explains (.shape fs) v
  | array {s : Schema} {v : Value} : Explains (.array s) v
  | union {ss : List Schema} {v : Value} (h : ∀ s ∈ ss, Explains s v) (hv : v.HasText) :
      Explains (.union ss) v
  | intersection {ss : List Schema} {v : Value} (h : ∀ s ∈ ss, Explains s v) (hv : v.HasText) :
      Explains (.intersection ss) v
  | bounded {s : Schema} {lower upper v : Value} (h : Explains s v) (hl : lower.HasText)
      (hu : upper.HasText) (hv : v.HasText) : Explains (.bounded s lower upper) v
  | lengthBounded {s : Schema} {lower upper v : Value} (h : Explains s v) (hl : lower.HasText)
      (hu : upper.HasText) (hv : v.HasText) : Explains (.lengthBounded s lower upper) v
  | exactLength {s : Schema} {size v : Value} (h : Explains s v) (hs : size.HasText)
      (hv : v.HasText) : Explains (.exactLength s size) v

/-- The values that a schema itself holds. -/
def stored : Schema → List Value
  | .unnamedKind x | .literal x | .exactLength _ x => [x]
  | .oneOf xs | .oneOfType _ xs => xs
  | .bounded _ lower upper | .lengthBounded _ lower upper => [lower, upper]
  | _ => []

def StoresBuiltIn (s : Schema) : Prop := s.Every parts fun t => ∀ x ∈ t.stored, x.BuiltIn

section Explains

variable {s : Schema} {ss : List Schema} {x v : Value} {xs : List Value}

theorem explains_unnamedKind : (unnamedKind x).Explains v ↔ x.HasText :=
  ⟨fun | .unnamedKind hx => hx, .unnamedKind⟩

theorem explains_nullable : (nullable s).Explains v ↔ s.Explains v :=
  ⟨fun | .nullable h => h, .nullable⟩

theorem explains_undefinable : (undefinable s).Explains v ↔ s.Explains v :=
  ⟨fun | .undefinable h => h, .undefinable⟩

theorem explains_literal : (literal x).Explains v ↔ x.HasText ∧ v.HasText :=
  ⟨fun | .literal hx hv => ⟨hx, hv⟩, fun ⟨hx, hv⟩ => .literal hx hv⟩

theorem explains_oneOf : (oneOf xs).Explains v ↔ (∀ x ∈ xs, x.HasText) ∧ v.HasText :=
  ⟨fun | .oneOf hx hv => ⟨hx, hv⟩, fun ⟨hx, hv⟩ => .oneOf hx hv⟩

theorem explains_oneOfType :
    (oneOfType s xs).Explains v ↔ (∀ x ∈ xs, s.Explains x) ∧ v.HasText :=
  ⟨fun | .oneOfType hx hv => ⟨hx, hv⟩, fun ⟨hx, hv⟩ => .oneOfType hx hv⟩

theorem explains_union : (union ss).Explains v ↔ (∀ s ∈ ss, s.Explains v) ∧ v.HasText :=
  ⟨fun | .union h hv => ⟨h, hv⟩, fun ⟨h, hv⟩ => .union h hv⟩

theorem explains_intersection :
    (intersection ss).Explains v ↔ (∀ s ∈ ss, s.Explains v) ∧ v.HasText :=
  ⟨fun | .intersection h hv => ⟨h, hv⟩, fun ⟨h, hv⟩ => .intersection h hv⟩

theorem explains_bounded {lower upper : Value} : (bounded s lower upper).Explains v ↔
    s.Explains v ∧ (lower.HasText ∧ upper.HasText) ∧ v.HasText :=
  ⟨fun | .bounded h hl hu hv => ⟨h, ⟨hl, hu⟩, hv⟩, fun ⟨h, ⟨hl, hu⟩, hv⟩ => .bounded h hl hu hv⟩

theorem explains_lengthBounded {lower upper : Value} : (lengthBounded s lower upper).Explains v ↔
    s.Explains v ∧ (lower.HasText ∧ upper.HasText) ∧ v.HasText :=
  ⟨fun | .lengthBounded h hl hu hv => ⟨h, ⟨hl, hu⟩, hv⟩,
    fun ⟨h, ⟨hl, hu⟩, hv⟩ => .lengthBounded h hl hu hv⟩

theorem explains_exactLength {size : Value} :
    (exactLength s size).Explains v ↔ s.Explains v ∧ size.HasText ∧ v.HasText :=
  ⟨fun | .exactLength h hs hv => ⟨h, hs, hv⟩, fun ⟨h, hs, hv⟩ => .exactLength h hs hv⟩

end Explains

/-! ## Explaining -/

theorem describeAll_eq (env : Env) (ss : List Schema) (v : Value) :
    describeAll env ss v = Run.collect (fun s => (s.describe env v).inSeries) ss := by
  induction ss with
  | nil => rfl
  | cons s ss ih => rw [describeAll, ih, Run.collect]

theorem ends_inSeries {x : Run Fault Value} {p c : Prop}
    (h : Ends x.outcome p Value.IsText (DigitsOnly c)) :
    Ends x.inSeries.outcome p Value.IsText (DigitsOnly c) := by
  rw [Run.inSeries, Run.outcome_mapError]
  exact h.mapError fun _ hf => hf.inSeries

theorem ends_ofPart {x : Except Fault Value} {p : Prop} {s t : Schema} {v : Value}
    (h : Ends x p Value.IsText (DigitsOnly (v.BuiltIn ∧ t.StoresBuiltIn))) (ht : t ∈ s.parts) :
    Ends x p Value.IsText (DigitsOnly (v.BuiltIn ∧ s.StoresBuiltIn)) :=
  h.under (And.imp_right fun hs => Every.part hs ht)

theorem ends_around {x : Except Fault Value} {p : Prop} {q : Fault → Prop}
    (hx : Ends x p Value.IsText q) (f : String → Value) (hf : ∀ t, (f t).IsText) :
    Ends (do let inner ← x; let t ← inner.text; .ok (f t)) p Value.IsText q := by
  refine hx.andThen ?_
  rintro _ ⟨t, rfl⟩
  exact ⟨f t, rfl, hf t⟩

theorem ends_got {α : Type} {x : Except Fault α} {p c : Prop} {v : Value}
    (hx : Ends x p Anything (DigitsOnly c)) (hv : c → v.BuiltIn) (what : α → String) :
    Ends (do let a ← x; let got ← v.display; .ok (expected (what a) got)) (p ∧ v.HasText)
      Value.IsText (DigitsOnly c) :=
  hx.bind fun _ _ => (v.display_ends.under hv).map fun _ _ => ⟨_, rfl⟩

theorem ends_bounds {x : Except Fault Value} {p c : Prop} {lower upper v : Value}
    (hx : Ends x p Value.IsText (DigitsOnly c)) (hb : c → lower.BuiltIn ∧ upper.BuiltIn)
    (hv : c → v.BuiltIn) (suffix : String) :
    Ends (do
      let inner ← x
      let want ← bounds inner lower upper suffix
      let got ← v.display
      .ok (expected want got)) (p ∧ (lower.HasText ∧ upper.HasText) ∧ v.HasText) Value.IsText
      (DigitsOnly c) :=
  hx.bind fun _ hw => ends_got ((bounds_ends hw suffix).under hb) hv id

theorem ends_reasons {x : Except Fault (List Value)} {p c : Prop} {v : Value}
    (hx : Ends x p (fun ys => ∀ y ∈ ys, y.IsText) (DigitsOnly c)) (hv : c → v.BuiltIn)
    (what : String) :
    Ends (do
      let whys ← x
      let t ← reasons whys
      let got ← v.display
      .ok (expected (what ++ t) got)) (p ∧ v.HasText) Value.IsText (DigitsOnly c) := by
  refine hx.bind fun whys hw => ?_
  obtain ⟨t, ht⟩ := reasons_ok hw
  rw [ht]
  exact (v.display_ends.under hv).map fun _ _ => ⟨_, rfl⟩

/-- A schema that asks nothing supplied is described exactly if it can explain itself, and then by a
text. With built-in values alone nothing but the number of digits can prevent it. -/
theorem describe_ends (env : Env) {s : Schema} (hs : s.StandsAlone) (v : Value) :
    Ends (s.describe env v).outcome (s.Explains v) Value.IsText
      (DigitsOnly (v.BuiltIn ∧ s.StoresBuiltIn)) := by
  induction s generalizing v with
  | kind name => exact .ok .kind ⟨_, rfl⟩
  | unnamedKind x =>
    have hx : v.BuiltIn ∧ (unnamedKind x).StoresBuiltIn → x.BuiltIn := fun h =>
      h.2.node x (by simp [stored])
    rw [describe]
    exact ((x.text_ends.under hx).map fun _ _ => ⟨_, rfl⟩).congr explains_unnamedKind.symm
  | bigint => exact .ok .bigint ⟨_, rfl⟩
  | nullable s ih =>
    have hp : s ∈ (nullable s).parts := by simp [parts]
    have hi := ends_ofPart (ih (hs.part hp) v) hp
    simp only [describe, Run.outcome_bind, Run.outcome_lift, Run.outcome_pure]
    exact (ends_around hi _ fun _ => ⟨_, rfl⟩).congr explains_nullable.symm
  | undefinable s ih =>
    have hp : s ∈ (undefinable s).parts := by simp [parts]
    have hi := ends_ofPart (ih (hs.part hp) v) hp
    simp only [describe, Run.outcome_bind, Run.outcome_lift, Run.outcome_pure]
    exact (ends_around hi _ fun _ => ⟨_, rfl⟩).congr explains_undefinable.symm
  | literal x =>
    have hx : v.BuiltIn ∧ (literal x).StoresBuiltIn → x.BuiltIn := fun h =>
      h.2.node x (by simp [stored])
    rw [describe, Run.outcome_lift]
    exact (ends_got (x.display_ends.under hx) And.left id).congr explains_literal.symm
  | oneOf xs =>
    have hx : ∀ x ∈ xs, v.BuiltIn ∧ (oneOf xs).StoresBuiltIn → x.BuiltIn := fun x hx h =>
      h.2.node x (by simpa [stored] using hx)
    rw [describe, Run.outcome_lift]
    have hwants := (displayed_ends hx).mapError fun _ hf => hf.inSeries
    exact (ends_got hwants And.left _).congr explains_oneOf.symm
  | oneOfType s xs ih =>
    have hp : s ∈ (oneOfType s xs).parts := by simp [parts]
    -- the type describes the options in place of the value, which are stored here
    have hx : ∀ x ∈ xs, Ends (s.describe env x).inSeries.outcome (s.Explains x) Value.IsText
        (DigitsOnly (v.BuiltIn ∧ (oneOfType s xs).StoresBuiltIn)) := fun x hx =>
      ends_inSeries ((ih (hs.part hp) x).under fun h =>
        ⟨h.2.node x (by simpa [stored] using hx), Every.part h.2 hp⟩)
    simp only [describe, Run.outcome_bind, Run.outcome_lift]
    exact (ends_reasons (ends_collect hx) And.left _).congr explains_oneOfType.symm
  | shape fs _ => exact .ok .shape ⟨_, rfl⟩
  | array s _ => exact .ok .array ⟨_, rfl⟩
  | union ss ih =>
    have hss : ∀ s ∈ ss, Ends (s.describe env v).inSeries.outcome (s.Explains v) Value.IsText
        (DigitsOnly (v.BuiltIn ∧ (union ss).StoresBuiltIn)) := fun s hp =>
      ends_inSeries (ends_ofPart (ih s hp (hs.part hp) v) hp)
    simp only [describe, Run.outcome_bind, Run.outcome_lift, describeAll_eq]
    exact (ends_reasons (ends_collect hss) And.left _).congr explains_union.symm
  | intersection ss ih =>
    have hss : ∀ s ∈ ss, Ends (s.describe env v).inSeries.outcome (s.Explains v) Value.IsText
        (DigitsOnly (v.BuiltIn ∧ (intersection ss).StoresBuiltIn)) := fun s hp =>
      ends_inSeries (ends_ofPart (ih s hp (hs.part hp) v) hp)
    simp only [describe, Run.outcome_bind, Run.outcome_lift, describeAll_eq]
    exact (ends_reasons (ends_collect hss) And.left _).congr explains_intersection.symm
  | bounded s lower upper ih =>
    have hp : s ∈ (bounded s lower upper).parts := by simp [parts]
    have hi := ends_ofPart (ih (hs.part hp) v) hp
    have hb : v.BuiltIn ∧ (bounded s lower upper).StoresBuiltIn →
        lower.BuiltIn ∧ upper.BuiltIn := fun h =>
      ⟨h.2.node lower (by simp [stored]), h.2.node upper (by simp [stored])⟩
    simp only [describe, Run.outcome_bind, Run.outcome_lift]
    exact (ends_bounds hi hb And.left "").congr explains_bounded.symm
  | lengthBounded s lower upper ih =>
    have hp : s ∈ (lengthBounded s lower upper).parts := by simp [parts]
    have hi := ends_ofPart (ih (hs.part hp) v) hp
    have hb : v.BuiltIn ∧ (lengthBounded s lower upper).StoresBuiltIn →
        lower.BuiltIn ∧ upper.BuiltIn := fun h =>
      ⟨h.2.node lower (by simp [stored]), h.2.node upper (by simp [stored])⟩
    simp only [describe, Run.outcome_bind, Run.outcome_lift]
    exact (ends_bounds hi hb And.left ".length").congr explains_lengthBounded.symm
  | exactLength s size ih =>
    have hp : s ∈ (exactLength s size).parts := by simp [parts]
    have hi := ends_ofPart (ih (hs.part hp) v) hp
    have hsize : v.BuiltIn ∧ (exactLength s size).StoresBuiltIn → size.BuiltIn := fun h =>
      h.2.node size (by simp [stored])
    simp only [describe, Run.outcome_bind, Run.outcome_lift]
    refine (hi.bind ?_).congr explains_exactLength.symm
    rintro _ ⟨t, rfl⟩
    exact ends_got (size.text_ends.under hsize) And.left fun want => t ++ ".length === " ++ want
  | predicate t d => exact hs.node.elim
  | foreign x => exact hs.node.elim

end Schema
end Conform
