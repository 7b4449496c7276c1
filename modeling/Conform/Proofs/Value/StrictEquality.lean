import Conform.Proofs.Value.SameNumber

/-! Strict equality as a relation. It is symmetric and transitive over values of every kind: numbers
are strictly equal if they denote the same number, be it as an integer or as a float, and everything
else if it is the same. Only a float that is not a number is not strictly equal to itself. -/

namespace Conform
set_option autoImplicit false

namespace Value

/-! ## Numbers denoted -/

/-- The number that an integer or a float denotes, among the rationals and two infinities. -/
inductive Denotes : Value → Extended → Prop
  | int (n : Int) : Denotes (.int n) (((n : ℚ) : WithTop ℚ) : Extended)
  | finite {tag : Tag} {x : Binary64} {negative : Bool} {m : Nat} {e : Int}
      (h : x.unpack = .finite negative m e) : Denotes (.atom (.float tag x))
        ((((if negative then -1 else 1) * m * (2 : ℚ) ^ e : ℚ) : WithTop ℚ) : Extended)
  | infinite {tag : Tag} {x : Binary64} {negative : Bool} (h : x.unpack = .infinite negative) :
      Denotes (.atom (.float tag x)) (if negative then ⊥ else ((⊤ : WithTop ℚ) : Extended))

section Denotes

variable {u v w : Value} {a : Number} {q r : Extended}

theorem IsNumber.denotes_iff (h : v.IsNumber a) : v.Denotes q ↔ a.value? = some q := by
  cases h with
  | int n =>
    rw [Number.value?_int, Option.some.injEq]
    constructor
    · intro h
      cases h
      rfl
    · rintro rfl
      exact .int n
  | float tag x =>
    cases hx : x.unpack with
    | nan =>
      have hnone : (Number.float x).value? = none := by simp [Number.value?, Number.position?, hx]
      rw [hnone]
      refine iff_of_false (fun h => ?_) (by simp)
      cases h with
      | finite h | infinite h =>
        rw [hx] at h
        cases h
    | infinite negative =>
      have hvalue : (Number.float x).value? =
          some (if negative then ⊥ else ((⊤ : WithTop ℚ) : Extended)) := by
        cases negative <;> simp [Number.value?, Number.position?, hx, Position.value]
      rw [hvalue, Option.some.injEq]
      constructor
      · intro h
        cases h with
        | finite h | infinite h =>
          rw [hx] at h
          cases h <;> rfl
      · rintro rfl
        exact .infinite hx
    | finite negative m e =>
      rw [Number.value?_float hx, Binary64.rational_eq, Option.some.injEq]
      constructor
      · intro h
        cases h with
        | finite h | infinite h =>
          rw [hx] at h
          cases h <;> rfl
      · rintro rfl
        exact .finite hx

theorem Denotes.isNumber (h : v.Denotes q) : ∃ a, v.IsNumber a := by
  cases h with
  | int n => exact ⟨_, .int n⟩
  | finite | infinite => exact ⟨_, .float _ _⟩

theorem Denotes.kind_eq (h : v.Denotes q) : v.kind = .number := by
  obtain ⟨a, ha⟩ := h.isNumber
  exact ha.kind_eq

theorem Denotes.unique (hq : v.Denotes q) (hr : v.Denotes r) : q = r := by
  obtain ⟨a, ha⟩ := hq.isNumber
  have hq := ha.denotes_iff.mp hq
  have hr := ha.denotes_iff.mp hr
  exact Option.some.inj (hq.symm.trans hr)

end Denotes

/-! ## Strict equality -/

section StrictEquals

variable {u v w : Value}

theorem strictEquals_self (h : v.kind ≠ .number) : v.strictEquals v = true := by
  cases v with
  | atom a =>
    cases a with
    | int n => exact absurd rfl h
    | float tag x => exact absurd rfl h
    | bool b => cases b <;> rfl
    | _ => simp [strictEquals, kind, Atom.kind, Kind.isScalar, Atom.sameScalar, Atom.number?]
  | _ => simp [strictEquals]

theorem strictEquals_iff : v.strictEquals w = true ↔
    (∃ q, v.Denotes q ∧ w.Denotes q) ∨ v = w ∧ v.kind ≠ .number := by
  constructor
  · intro h
    by_cases hv : v.kind = .number
    · obtain ⟨a, ha⟩ := isNumber_of_kind hv
      obtain ⟨b, hb⟩ := isNumber_of_kind ((kind_eq_of_strictEquals h).symm.trans hv)
      rw [ha.strictEquals_eq hb, Number.samePosition_iff] at h
      obtain ⟨q, haq, hbq⟩ := h
      exact .inl ⟨q, ha.denotes_iff.mpr haq, hb.denotes_iff.mpr hbq⟩
    · exact .inr ⟨eq_of_strictEquals hv h, hv⟩
  · rintro (⟨q, hv, hw⟩ | ⟨rfl, hv⟩)
    · obtain ⟨a, ha⟩ := hv.isNumber
      obtain ⟨b, hb⟩ := hw.isNumber
      rw [ha.strictEquals_eq hb, Number.samePosition_iff]
      exact ⟨q, ha.denotes_iff.mp hv, hb.denotes_iff.mp hw⟩
    · exact strictEquals_self hv

theorem strictEquals_comm (v w : Value) : v.strictEquals w = w.strictEquals v := by
  have hsymm : ∀ {v w : Value}, v.strictEquals w = true → w.strictEquals v = true := by
    intro v w h
    rw [strictEquals_iff] at h ⊢
    rcases h with ⟨q, hv, hw⟩ | ⟨rfl, hv⟩
    · exact .inl ⟨q, hw, hv⟩
    · exact .inr ⟨rfl, hv⟩
  rw [Bool.eq_iff_iff]
  exact ⟨hsymm, hsymm⟩

theorem strictEquals_trans (h : u.strictEquals v = true) (h' : v.strictEquals w = true) :
    u.strictEquals w = true := by
  rw [strictEquals_iff] at h
  rcases h with ⟨q, hu, hv⟩ | ⟨rfl, -⟩
  · rw [strictEquals_iff] at h' ⊢
    rcases h' with ⟨r, hv', hw⟩ | ⟨rfl, -⟩
    · exact .inl ⟨q, hu, hv.unique hv' ▸ hw⟩
    · exact .inl ⟨q, hu, hv⟩
  · exact h'

theorem strictEquals_numbers (hv : v.kind = .number) :
    v.strictEquals w = true ↔ ∃ q, v.Denotes q ∧ w.Denotes q := by
  rw [strictEquals_iff, or_iff_left_iff_imp]
  rintro ⟨-, hn⟩
  exact absurd hv hn

theorem strictEquals_of_not_number (hv : v.kind ≠ .number) : v.strictEquals w = true ↔ v = w := by
  rw [strictEquals_iff]
  constructor
  · rintro (⟨q, hq, -⟩ | ⟨rfl, -⟩)
    · exact absurd hq.kind_eq hv
    · rfl
  · exact fun h => .inr ⟨h, hv⟩

theorem strictEquals_self_eq_false_iff :
    v.strictEquals v = false ↔ ∃ tag x, v = .atom (.float tag x) ∧ x.unpack = .nan := by
  rw [← Bool.not_eq_true]
  constructor
  · intro h
    have hv : v.kind = .number := by
      by_contra hv
      exact h (strictEquals_self hv)
    have hnone : ∀ q, ¬v.Denotes q := fun q hq => h ((strictEquals_numbers hv).mpr ⟨q, hq, hq⟩)
    obtain ⟨a, ha⟩ := isNumber_of_kind hv
    cases ha with
    | int n => exact absurd (.int n) (hnone _)
    | float tag x =>
      refine ⟨tag, x, rfl, ?_⟩
      cases hx : x.unpack with
      | nan => rfl
      | infinite negative => exact absurd (.infinite hx) (hnone _)
      | finite negative m e => exact absurd (.finite hx) (hnone _)
  · rintro ⟨tag, x, rfl, hx⟩ h
    obtain ⟨q, hq, -⟩ := (strictEquals_numbers rfl).mp h
    cases hq with
    | finite h | infinite h =>
      rw [hx] at h
      cases h

theorem Atom.equals_of_scalar {a b : Atom} (hk : a.kind = b.kind) (hs : a.kind.isScalar = true) :
    a.equals b = .ok (a.sameScalar b) := by
  cases a with
  | null | undefined | str | bool =>
    cases b with
    | null | undefined | str | bool => rfl
    | _ => cases hk
  | int | float =>
    cases b with
    | int | float => rfl
    | _ => cases hk
  | _ => cases hs

/-- Where strict equality compares contents, the comparison does not fail. -/
theorem equals_of_scalar (hk : v.kind = w.kind) (hs : v.kind.isScalar = true) :
    v.equals w = .ok (v.strictEquals w) := by
  obtain ⟨a, rfl⟩ := atom_of_isScalar hs
  obtain ⟨b, rfl⟩ := atom_of_isScalar (hk ▸ hs)
  have hs' : a.kind.isScalar = true := hs
  have hstrict : (atom a).strictEquals (.atom b) = a.sameScalar b := by
    rw [strictEquals, decide_eq_true hk, Bool.true_and]
    exact if_pos hs'
  rw [hstrict]
  exact Atom.equals_of_scalar hk hs

/-- Strict equality never fails, is a partial equivalence within each kind, and compares numbers by
what they denote. -/
theorem strictEquals_partialEquivalence :
    (∀ v w : Value, v.kind = w.kind → v.kind.isScalar = true →
      v.equals w = .ok (v.strictEquals w)) ∧
    (∀ v w : Value, v.kind.isScalar = false → (v.strictEquals w = true ↔ v = w)) ∧
    (∀ v w : Value, v.strictEquals w = w.strictEquals v) ∧
    (∀ u v w : Value, u.strictEquals v = true → v.strictEquals w = true →
      u.strictEquals w = true) ∧
    (∀ v w : Value, v.strictEquals w = true → v.kind = w.kind) ∧
    (∀ v w : Value, v.kind = .number → w.kind = .number →
      (v.strictEquals w = true ↔ ∃ q, v.Denotes q ∧ w.Denotes q)) ∧
    ∀ v : Value, v.strictEquals v = false ↔
      ∃ tag x, v = .atom (.float tag x) ∧ x.unpack = .nan := by
  refine ⟨fun v w => equals_of_scalar, fun v w hv => ?_, strictEquals_comm,
    fun u v w => strictEquals_trans, fun v w => kind_eq_of_strictEquals,
    fun v w hv _ => strictEquals_numbers hv, fun v => strictEquals_self_eq_false_iff⟩
  refine strictEquals_of_not_number fun hn => ?_
  rw [hn] at hv
  cases hv

/-- From 2 ^ 53 on a float is next to several integers, and denotes one of them; a decimal that is
not a number is itself. -/
example :
    let x : Value := .atom (.float 1 ⟨0x4340000000000000⟩)
    let d : Value := .atom (.decimal 3 (.nan false false 0))
    (Value.int 9007199254740992).strictEquals x = true ∧
      (Value.int 9007199254740993).strictEquals x = false ∧ d.strictEquals d = true := by
  decide +kernel

end StrictEquals

end Value
end Conform
