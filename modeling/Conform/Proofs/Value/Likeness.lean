import Mathlib.Data.List.Forall2
import Conform.Proofs.Value.Lookup
import Conform.Proofs.Value.Verdicts

/-! Relations of values that resemble each other from outside, and likeness as far as certain keys
show. Lists and tuples are alike item by item, and all objects, whatever they are, by the fields
that they show under the keys; functions are alike always. Likeness is the largest such relation,
since fields may lead round in a circle. Scalars are alike if they are the same, be it as two
objects. -/

namespace Conform
set_option autoImplicit false

namespace Value

/-- Related values are of one kind, and what is found inside them is related: elements, and for
objects fields under the keys. -/
structure Resembling (keys : Value → Prop) (R : Value → Value → Prop) : Prop where
  kind {v w : Value} (h : R v w) : v.kind = w.kind
  elements {v w : Value} (h : R v w) : Option.Rel (List.Forall₂ R) v.elements? w.elements?
  field {v w key : Value} (h : R v w) (hv : v.kind = .object) (hk : keys key) :
    R (v.field key) (w.field key)

/-! ## One level -/

/-- Two values are alike, if the values found in them are related. -/
inductive AlikeBy (keys : Value → Prop) (R : Value → Value → Prop) : Value → Value → Prop
  | same (v : Value) : AlikeBy keys R v v
  /-- Floats are the same value whichever object they are. -/
  | floats (t u : Tag) (x : Binary64) : AlikeBy keys R (.atom (.float t x)) (.atom (.float u x))
  | functions {v w : Value} (hv : v.kind = .function) (hw : w.kind = .function) :
      AlikeBy keys R v w
  | lists {t u : Tag} {xs ys : List Value} (hxs : List.Forall₂ R xs ys)
      (h : ∀ key, keys key → R (field (.list t xs) key) (field (.list u ys) key)) :
      AlikeBy keys R (.list t xs) (.list u ys)
  | tuples {t u : Tag} {xs ys : List Value} (hxs : List.Forall₂ R xs ys)
      (h : ∀ key, keys key → R (field (.tuple t xs) key) (field (.tuple u ys) key)) :
      AlikeBy keys R (.tuple t xs) (.tuple u ys)
  | objects {v w : Value} (hv : v.kind = .object) (hw : w.kind = .object)
      (hve : v.elements? = none) (hwe : w.elements? = none)
      (h : ∀ key, keys key → R (v.field key) (w.field key)) : AlikeBy keys R v w

theorem AlikeBy.mono {keys : Value → Prop} {R S : Value → Value → Prop}
    (hRS : ∀ v w, R v w → S v w) {v w : Value} (h : AlikeBy keys R v w) : AlikeBy keys S v w := by
  cases h with
  | same => exact .same v
  | floats t u x => exact .floats t u x
  | functions hv hw => exact .functions hv hw
  | lists hxs h => exact .lists (hxs.imp hRS) fun key hk => hRS _ _ (h key hk)
  | tuples hxs h => exact .tuples (hxs.imp hRS) fun key hk => hRS _ _ (h key hk)
  | objects hv hw hve hwe h => exact .objects hv hw hve hwe fun key hk => hRS _ _ (h key hk)

/-! ## The largest relation -/

/-- Some relation that holds of the two values relates what is found in related values. -/
def Alike (keys : Value → Prop) (v w : Value) : Prop :=
  ∃ R : Value → Value → Prop, (∀ x y, R x y → AlikeBy keys R x y) ∧ R v w

section Alike

variable {keys : Value → Prop} {v w : Value}

theorem Alike.refl (v : Value) : v.Alike keys v := ⟨Eq, fun x _ h => h ▸ .same x, rfl⟩

theorem Alike.unfold (h : v.Alike keys w) : AlikeBy keys (Alike keys) v w := by
  obtain ⟨R, hR, h⟩ := h
  exact (hR v w h).mono fun x y hxy => ⟨R, hR, hxy⟩

end Alike

end Value
end Conform
