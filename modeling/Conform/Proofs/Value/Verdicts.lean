import Conform.Value.Order
import Conform.Proofs.Numeric.Order

/-! What the Boolean tests of a single value say: to be null, undefined or an integer, to satisfy a
bound, to match a text as a key, to be of the kind of a scalar, and to be strictly equal to one of
the two values that exist once. Numbers are in an order by their values, and an object may be in an
order that does not depend on what it is compared with. -/

namespace Conform
set_option autoImplicit false

theorem holds_iff {x : Except Fault Bool} : holds x = true ↔ x = .ok true := by
  cases x with
  | ok b => simp [holds]
  | error f => simp [holds]

namespace Comparison

/-- Numbers are compared by their values, and what has none is in no order. -/
theorem ofNumbers_eq (c : Comparison) (x y : Number) : c.ofNumbers x y =
    match x.value?, y.value? with
    | some p, some q => .ok (c.byLe (fun p q => decide (p ≤ q)) p q)
    | _, _ => if x.isDecimal || y.isDecimal then .error .invalidDecimal else .ok false := by
  cases c with
  | atMost => rw [ofNumbers, Number.le_eq]; rfl
  | atLeast =>
    rw [ofNumbers, Number.le_eq, Bool.or_comm]
    cases x.value? <;> cases y.value? <;> rfl
  | above =>
    rw [ofNumbers, Number.lt_eq, Bool.or_comm]
    cases x.value? <;> cases y.value? <;> simp [byLe, ← not_le]
  | below =>
    rw [ofNumbers, Number.lt_eq]
    cases x.value? <;> cases y.value? <;> simp [byLe, ← not_le]

theorem holds_ofNumbers (c : Comparison) (x y : Number) : holds (c.ofNumbers x y) =
    match x.value?, y.value? with
    | some p, some q => c.byLe (fun p q => decide (p ≤ q)) p q
    | _, _ => false := by
  have hnone : ∀ b : Bool, holds (if b then .error .invalidDecimal else .ok false) = false := by
    intro b
    cases b <;> rfl
  rw [ofNumbers_eq]
  cases x.value? with
  | none => exact hnone _
  | some p =>
    cases y.value? with
    | none => exact hnone _
    | some q => rfl

end Comparison

/-! ## Objects that are compared -/

/-- The object says the same to every operand. -/
def Traits.Impartial (t : Traits) : Prop :=
  ∀ (c : Comparison) (v w : Value), t.answer c v = t.answer c w

/-- If the value is an object, it says the same to every operand. -/
def Value.Impartial (v : Value) : Prop :=
  ∀ tag attributes traits, v = .object tag attributes traits → traits.Impartial

theorem Value.Impartial.answerOfRight_eq {bound : Value} (h : bound.Impartial) (c : Comparison)
    (v w : Value) : answerOfRight c v bound = answerOfRight c w bound := by
  cases bound with
  | object tag attributes traits => rw [answerOfRight, answerOfRight, h _ _ _ rfl c.flip v w]
  | _ => rfl

theorem Kind.name_inj {k l : Kind} (h : k.name = l.name) : k = l := by
  cases k <;> cases l <;> simp_all [Kind.name]

namespace Value

theorem isNull_iff {v : Value} : v.isNull = true ↔ v = .null := by
  unfold isNull
  split
  next => simp
  next h => simpa using h

theorem isUndefined_iff {v : Value} : v.isUndefined = true ↔ v = .undefined := by
  unfold isUndefined
  split
  next => simp
  next h => simpa using h

theorem isInteger_iff {v : Value} : v.isInteger = true ↔ ∃ n, v = .int n := by
  unfold isInteger
  split
  next n => simp
  next h => simpa using h

theorem satisfies_iff {c : Comparison} {v bound : Value} :
    v.satisfies c bound = true ↔ bound = .null ∨ v.compare c bound = .ok true := by
  rw [satisfies, Bool.or_eq_true, isNull_iff, holds_iff]

/-! ## Texts as keys -/

theorem keyMatches_str (k : Value) (name : String) :
    k.keyMatches (.str name) = decide (k = .str name) := by
  cases k with
  | atom a =>
    cases a <;> simp [keyMatches, equals, equalsAsking, Atom.equals, Atom.number?, holds]
  | _ => simp [keyMatches, equals, equalsAsking, holds]

theorem str_keyMatches (k : Value) (name : String) :
    (str name).keyMatches k = decide (k = .str name) := by
  cases k with
  | atom a =>
    cases a <;>
      simp [keyMatches, equals, equalsAsking, Atom.equals, Atom.number?, holds, eq_comm]
  | _ => simp [keyMatches, equals, equalsAsking, holds]

/-! ## Kinds of scalars -/

theorem atom_of_isScalar {v : Value} (h : v.kind.isScalar = true) : ∃ a, v = .atom a := by
  cases v with
  | atom a => exact ⟨a, rfl⟩
  | object tag attributes traits =>
    simp only [kind] at h
    split at h <;> cases h
  | _ => cases h

theorem kind_eq_null_iff {v : Value} : v.kind = .null ↔ v = .null := by
  constructor
  · intro h
    obtain ⟨a, rfl⟩ := atom_of_isScalar (by rw [h]; rfl)
    cases a with
    | null => rfl
    | _ => cases h
  · rintro rfl
    rfl

theorem kind_eq_undefined_iff {v : Value} : v.kind = .undefined ↔ v = .undefined := by
  constructor
  · intro h
    obtain ⟨a, rfl⟩ := atom_of_isScalar (by rw [h]; rfl)
    cases a with
    | undefined => rfl
    | _ => cases h
  · rintro rfl
    rfl

theorem kind_eq_string_iff {v : Value} : v.kind = .string ↔ ∃ text, v = .str text := by
  constructor
  · intro h
    obtain ⟨a, rfl⟩ := atom_of_isScalar (by rw [h]; rfl)
    cases a with
    | str text => exact ⟨text, rfl⟩
    | _ => cases h
  · rintro ⟨text, rfl⟩
    rfl

theorem isNull_congr {v w : Value} (h : v.kind = w.kind) : v.isNull = w.isNull := by
  rw [Bool.eq_iff_iff, isNull_iff, isNull_iff, ← kind_eq_null_iff, ← kind_eq_null_iff, h]

theorem isUndefined_congr {v w : Value} (h : v.kind = w.kind) :
    v.isUndefined = w.isUndefined := by
  rw [Bool.eq_iff_iff, isUndefined_iff, isUndefined_iff, ← kind_eq_undefined_iff,
    ← kind_eq_undefined_iff, h]

/-! ## Strict equality with values that exist once, and of integers -/

theorem kind_eq_of_strictEquals {v w : Value} (h : v.strictEquals w = true) : v.kind = w.kind :=
  of_decide_eq_true (Bool.and_eq_true_iff.mp h).1

theorem strictEquals_int (n m : Int) : (int n).strictEquals (.int m) = decide (n = m) := by
  simp [strictEquals, kind, Atom.kind, Kind.isScalar, Atom.sameScalar, Atom.number?,
    Number.int_samePosition]

end Value
end Conform
