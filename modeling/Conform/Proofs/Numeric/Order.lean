import Mathlib.Order.WithBot
import Conform.Numeric.Order
import Conform.Proofs.Numeric.Scaled

/-! Order and equality of numbers: they are those of the values that numbers have among the
rationals and two infinities, whatever the sorts of the numbers. For integers they are the order
and equality of the integers. -/

namespace Conform
set_option autoImplicit false

namespace Scaled

theorem ofInt_le (n m : Int) : (ofInt n).le (ofInt m) = decide (n ≤ m) := by
  rw [Bool.eq_iff_iff, le_iff, toRat_ofInt, toRat_ofInt, Int.cast_le, decide_eq_true_iff]

end Scaled

/-! ## Values of positions -/

/-- The rationals with an infinity at either end. -/
abbrev Extended := WithBot (WithTop ℚ)

namespace Position

def value : Position → Extended
  | .bottom => ⊥
  | .at x => ((x.toRat : WithTop ℚ) : Extended)
  | .top => ((⊤ : WithTop ℚ) : Extended)

theorem le_iff {p q : Position} : p.le q = true ↔ p.value ≤ q.value := by
  cases p with
  | bottom => simp [le, value]
  | «at» x =>
    cases q with
    | bottom => simp [le, value]
    | «at» y => rw [le, Scaled.le_iff, value, value, WithBot.coe_le_coe, WithTop.coe_le_coe]
    | top => simp [le, value]
  | top =>
    cases q with
    | bottom => simp [le, value]
    | «at» y => simp [le, value]
    | top => simp [le, value]

theorem same_iff {p q : Position} : p.same q = true ↔ p.value = q.value := by
  rw [same, Bool.and_eq_true, le_iff, le_iff, le_antisymm_iff]

end Position

/-! ## Values of numbers -/

namespace Number

/-- What a number stands for, if it is one. -/
def value? (a : Number) : Option Extended := a.position?.map Position.value

theorem value?_int (n : Int) : (int n).value? = some (((n : ℚ) : WithTop ℚ) : Extended) := by
  rw [← Scaled.toRat_ofInt]
  rfl

theorem value?_float {x : Binary64} {negative : Bool} {m : Nat} {e : Int}
    (h : x.unpack = .finite negative m e) :
    (float x).value? = some ((Binary64.rational negative m e : WithTop ℚ) : Extended) := by
  rw [← Scaled.toRat_ofBinary]
  simp only [value?, position?, h]
  rfl

theorem samePosition_iff {a b : Number} :
    a.samePosition b = true ↔ ∃ x, a.value? = some x ∧ b.value? = some x := by
  unfold samePosition value?
  cases a.position? with
  | none => simp
  | some p =>
    cases b.position? with
    | none => simp
    | some q =>
      simp only [Position.same_iff, Option.map_some, Option.some.injEq, exists_eq_left',
        @eq_comm _ q.value]

theorem compareBy_eq {test : Position → Position → Bool} {r : Extended → Extended → Prop}
    [DecidableRel r] (h : ∀ p q, test p q = true ↔ r p.value q.value) (a b : Number) :
    a.compareBy test b =
      match a.value?, b.value? with
      | some x, some y => .ok (decide (r x y))
      | _, _ => if a.isDecimal || b.isDecimal then .error .invalidDecimal else .ok false := by
  unfold compareBy value?
  cases a.position? with
  | none => rfl
  | some p =>
    cases b.position? with
    | none => rfl
    | some q =>
      have h : test p q = decide (r p.value q.value) := by
        rw [Bool.eq_iff_iff, h, decide_eq_true_iff]
      simp only [Option.map_some, h]

theorem le_eq (a b : Number) : a.le b =
    match a.value?, b.value? with
    | some x, some y => .ok (decide (x ≤ y))
    | _, _ => if a.isDecimal || b.isDecimal then .error .invalidDecimal else .ok false :=
  compareBy_eq (fun _ _ => Position.le_iff) a b

theorem lt_eq (a b : Number) : a.lt b =
    match a.value?, b.value? with
    | some x, some y => .ok (decide (x < y))
    | _, _ => if a.isDecimal || b.isDecimal then .error .invalidDecimal else .ok false := by
  refine compareBy_eq (fun p q => ?_) a b
  rw [Bool.not_eq_true', Bool.eq_false_iff, Ne, Position.le_iff, not_le]

/-! ## Integers -/

theorem int_le (n m : Int) : (int n).le (.int m) = .ok (decide (n ≤ m)) := by
  simp only [le, compareBy, position?, Position.le, Scaled.ofInt_le]

theorem int_samePosition (n m : Int) : (int n).samePosition (.int m) = decide (n = m) := by
  rw [Bool.eq_iff_iff, samePosition_iff, value?_int, value?_int, decide_eq_true_iff]
  simp only [Option.some.injEq, exists_eq_left', WithBot.coe_inj, WithTop.coe_inj, Int.cast_inj,
    @eq_comm _ m]

theorem int_equals (n m : Int) : (int n).equals (.int m) = .ok (decide (n = m)) := by
  simp only [equals, isSignaling, Bool.or_self, Bool.false_eq_true, if_false, int_samePosition]

end Number
end Conform
