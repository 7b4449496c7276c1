import Conform.Value.Length
import Conform.Proofs.Value.Verdicts

/-! Integers and floats with the same value. Values that are strictly equal are one and the same or
two such numbers. Two such numbers are strictly equal to the same values and compare alike with
every bound that does not tell them apart itself, also where the comparison fails; neither has
elements or a length. -/

namespace Conform
set_option autoImplicit false

namespace Number

/-- What is in the same place as something has a value, and the other has the same. -/
theorem value?_eq_of_samePosition {a b : Number} (h : a.samePosition b = true) :
    a.value? = b.value? := by
  obtain ⟨x, ha, hb⟩ := samePosition_iff.mp h
  rw [ha, hb]

theorem samePosition_congr {a b : Number} (h : a.value? = b.value?) (c : Number) :
    a.samePosition c = b.samePosition c := by
  rw [Bool.eq_iff_iff, samePosition_iff, samePosition_iff, h]

end Number

theorem Comparison.ofNumbers_congr {a b : Number} (h : a.value? = b.value?)
    (hd : a.isDecimal = b.isDecimal) (c : Comparison) (x : Number) :
    c.ofNumbers a x = c.ofNumbers b x := by
  rw [ofNumbers_eq, ofNumbers_eq, h, hd]

namespace Value

/-! ## Integers and floats -/

/-- The value is that number, an integer or a float. -/
inductive IsNumber : Value → Number → Prop
  | int (n : Int) : IsNumber (.int n) (.int n)
  | float (tag : Tag) (x : Binary64) : IsNumber (.atom (.float tag x)) (.float x)

section IsNumber

variable {v w : Value} {a b : Number}

theorem isNumber_of_kind (h : v.kind = .number) : ∃ a, v.IsNumber a := by
  obtain ⟨x, rfl⟩ := atom_of_isScalar (by rw [h]; rfl)
  cases x with
  | int n => exact ⟨_, .int n⟩
  | float tag x => exact ⟨_, .float tag x⟩
  | _ => cases h

theorem IsNumber.kind_eq (h : v.IsNumber a) : v.kind = .number := by cases h <;> rfl

theorem IsNumber.not_decimal (h : v.IsNumber a) : a.isDecimal = false := by cases h <;> rfl

theorem IsNumber.elements?_eq (h : v.IsNumber a) : v.elements? = none := by cases h <;> rfl

theorem IsNumber.length_eq (h : v.IsNumber a) : v.length = .error .mismatch := by cases h <;> rfl

theorem IsNumber.strictEquals_eq (hv : v.IsNumber a) (hw : w.IsNumber b) :
    v.strictEquals w = a.samePosition b := by
  cases hv <;> cases hw <;> rfl

theorem IsNumber.strictEquals_eq_false (h : v.IsNumber a) (hw : w.kind ≠ .number) :
    v.strictEquals w = false := by
  rw [Bool.eq_false_iff]
  intro he
  exact hw ((kind_eq_of_strictEquals he).symm.trans h.kind_eq)

/-- A bound that is no number may still answer for itself. -/
theorem IsNumber.compare_eq (h : v.IsNumber a) (c : Comparison) (bound : Value) :
    v.compare c bound =
      match bound.number? with
      | some x => c.ofNumbers a x
      | none => answerOfRight c v bound := by
  cases bound with
  | atom x => cases h <;> cases x <;> cases c <;> rfl
  | _ => cases h <;> rfl

end IsNumber

/-! ## The same number -/

/-- Integers or floats with the same value. -/
inductive SameNumber (v w : Value) : Prop
  | of {a b : Number} (hv : v.IsNumber a) (hw : w.IsNumber b) (h : a.value? = b.value?)

section SameNumber

variable {v w : Value}

theorem SameNumber.strictEquals_congr (h : v.SameNumber w) (x : Value) :
    v.strictEquals x = w.strictEquals x := by
  obtain ⟨hv, hw, hvalue⟩ := h
  by_cases hx : x.kind = .number
  · obtain ⟨c, hc⟩ := isNumber_of_kind hx
    rw [hv.strictEquals_eq hc, hw.strictEquals_eq hc, Number.samePosition_congr hvalue]
  · rw [hv.strictEquals_eq_false hx, hw.strictEquals_eq_false hx]

theorem SameNumber.compare_congr (h : v.SameNumber w) (c : Comparison) {bound : Value}
    (hb : bound.Impartial) : v.compare c bound = w.compare c bound := by
  obtain ⟨hv, hw, hvalue⟩ := h
  have hdecimal := hv.not_decimal.trans hw.not_decimal.symm
  have hnumbers := Comparison.ofNumbers_congr hvalue hdecimal c
  have hright := hb.answerOfRight_eq c v w
  rw [hv.compare_eq, hw.compare_eq]
  simp only [hnumbers, hright]

theorem SameNumber.satisfies_congr (h : v.SameNumber w) (c : Comparison) {bound : Value}
    (hb : bound.Impartial) : v.satisfies c bound = w.satisfies c bound := by
  rw [satisfies, satisfies, h.compare_congr c hb]

theorem SameNumber.length_congr (h : v.SameNumber w) : v.length = w.length := by
  obtain ⟨hv, hw, -⟩ := h
  rw [hv.length_eq, hw.length_eq]

/-- Which object a float is makes no difference to any bound. -/
theorem compare_float (t u : Tag) (x : Binary64) (c : Comparison) (bound : Value) :
    (Value.atom (.float t x)).compare c bound = (Value.atom (.float u x)).compare c bound := by
  have hright : answerOfRight c (.atom (.float t x)) bound =
      answerOfRight c (.atom (.float u x)) bound := by
    have hto : ∀ r : Response, r.to (.atom (.float t x)) = r.to (.atom (.float u x)) := by
      intro r
      have hfind : (fun own : Atom × Answer Bool => own.1.resembles (.float t x)) =
          fun own => own.1.resembles (.float u x) := by
        funext own
        cases own.1 <;> rfl
      simp only [Response.to, hfind]
    cases bound with
    | object tag attributes traits =>
      cases c <;> simp only [answerOfRight, Comparison.flip, Traits.answer, hto]
    | _ => rfl
  have ht : (Value.atom (.float t x)).IsNumber (.float x) := .float t x
  have hu : (Value.atom (.float u x)).IsNumber (.float x) := .float u x
  rw [ht.compare_eq, hu.compare_eq, hright]

theorem satisfies_float (t u : Tag) (x : Binary64) (c : Comparison) (bound : Value) :
    (Value.atom (.float t x)).satisfies c bound = (Value.atom (.float u x)).satisfies c bound := by
  rw [satisfies, satisfies, compare_float t u]

theorem sameNumber_of_rational {n : Int} {tag : Tag} {x : Binary64} {negative : Bool} {m : Nat}
    {e : Int} (hx : x.unpack = .finite negative m e) (h : Binary64.rational negative m e = n) :
    (int n).SameNumber (.atom (.float tag x)) := by
  refine .of (.int n) (.float tag x) ?_
  rw [Number.value?_int, Number.value?_float hx, h]

/-! ## Strict equality -/

theorem eq_of_strictEquals (hv : v.kind ≠ .number) (h : v.strictEquals w = true) : v = w := by
  unfold strictEquals at h
  rw [Bool.and_eq_true, decide_eq_true_iff] at h
  obtain ⟨hk, h⟩ := h
  split at h
  next a b =>
    split at h
    next hs =>
      cases a with
      | bool x =>
        cases b with
        | bool y =>
          -- truth values are compared as zero and one
          have h : Number.samePosition (.int (if x then 1 else 0)) (.int (if y then 1 else 0)) =
              true := h
          rw [Number.int_samePosition, decide_eq_true_iff] at h
          cases x <;> cases y
          · rfl
          · cases h
          · cases h
          · rfl
        | _ => cases hk
      | int n => exact absurd rfl hv
      | float tag x => exact absurd rfl hv
      | null => simpa [Atom.sameScalar, Atom.number?] using h
      | undefined => simpa [Atom.sameScalar, Atom.number?] using h
      | str s => simpa [Atom.sameScalar, Atom.number?] using h
      | _ => cases hs
    next => rw [of_decide_eq_true h]
  next => exact of_decide_eq_true h

theorem strictEquals_cases (h : v.strictEquals w = true) : v = w ∨ v.SameNumber w := by
  by_cases hv : v.kind = .number
  · obtain ⟨a, ha⟩ := isNumber_of_kind hv
    obtain ⟨b, hb⟩ := isNumber_of_kind ((kind_eq_of_strictEquals h).symm.trans hv)
    rw [ha.strictEquals_eq hb] at h
    exact .inr (.of ha hb (Number.value?_eq_of_samePosition h))
  · exact .inl (eq_of_strictEquals hv h)

end SameNumber

end Value
end Conform
