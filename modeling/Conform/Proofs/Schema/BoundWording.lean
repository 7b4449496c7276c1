import Conform.Schema.Describe
import Conform.Schema.Record
import Conform.Schema.Supplied
import Conform.Proofs.Runs
import Conform.Proofs.Value.Spelling
import Conform.Proofs.Value.Verdicts

/-! Bounds in messages. A refinement says what its inner schema says, and behind that the bounds; it
writes them in the form of messages, save for an exact length, which it writes in the form that the
value has on its own. -/

namespace Conform
set_option autoImplicit false

/-! ## The bounds -/

namespace Describe

variable {i suffix l u : String} {lower upper : Value}

theorem bounds_lower (hl : lower ≠ .null) (hd : lower.display = .ok l) :
    bounds (.str i) lower .null suffix = .ok (i ++ suffix ++ " >= " ++ l) := by
  have hn : lower.isNull = false := by
    rw [Bool.eq_false_iff, Ne, Value.isNull_iff]
    exact hl
  simp only [bounds, Value.text, hn, hd]
  rfl

theorem bounds_upper (hd : upper.display = .ok u) :
    bounds (.str i) .null upper suffix = .ok (i ++ suffix ++ " <= " ++ u) := by
  simp only [bounds, Value.text, hd]
  rfl

theorem bounds_both (hl : lower ≠ .null) (hu : upper ≠ .null) (hdl : lower.display = .ok l)
    (hdu : upper.display = .ok u) :
    bounds (.str i) lower upper suffix =
      .ok (i ++ suffix ++ " >= " ++ l ++ " && <= " ++ u) := by
  have hn : ∀ {v : Value}, v ≠ .null → v.isNull = false := by
    intro v hv
    rw [Bool.eq_false_iff, Ne, Value.isNull_iff]
    exact hv
  simp only [bounds, Value.text, hn hl, hn hu, hdl, hdu]
  rfl

end Describe

namespace Schema

variable {env : Env} {s : Schema} {v lower upper : Value} {i w d : String}

theorem describe_bounded (hs : (s.describe env v).outcome = .ok (.str i))
    (hw : Describe.bounds (.str i) lower upper "" = .ok w) (hd : v.display = .ok d) :
    ((bounded s lower upper).describe env v).outcome =
      .ok (.str ("Expected " ++ w ++ ", got " ++ d)) := by
  rw [describe, Run.outcome_bind, hs]
  change (do .ok (Describe.expected (← Describe.bounds (.str i) lower upper "") (← v.display))) = _
  rw [hw, hd]
  rfl

theorem describe_lengthBounded (hs : (s.describe env v).outcome = .ok (.str i))
    (hw : Describe.bounds (.str i) lower upper ".length" = .ok w) (hd : v.display = .ok d) :
    ((lengthBounded s lower upper).describe env v).outcome =
      .ok (.str ("Expected " ++ w ++ ", got " ++ d)) := by
  rw [describe, Run.outcome_bind, hs]
  change (do .ok (Describe.expected (← Describe.bounds (.str i) lower upper ".length")
    (← v.display))) = _
  rw [hw, hd]
  rfl

theorem describe_exactLength {size : Value} {t : String}
    (hs : (s.describe env v).outcome = .ok (.str i)) (ht : size.text = .ok t)
    (hd : v.display = .ok d) : ((exactLength s size).describe env v).outcome =
      .ok (.str ("Expected " ++ (i ++ ".length === " ++ t) ++ ", got " ++ d)) := by
  rw [describe, Run.outcome_bind, hs]
  change (do .ok (Describe.expected (i ++ ".length === " ++ (← size.text)) (← v.display))) = _
  rw [ht, hd]
  rfl

/-! ## Messages of refinements -/

/-- Six refinements write their bounds in the form of messages. An exact length is written in the
form that the value has on its own, which is another one for the values that messages respell. -/
theorem describe_refinements (env : Env) {s : Schema} {v m n : Value} {i dm dn dv : String}
    (hs : (s.describe env v).outcome = .ok (.str i)) (hm : m ≠ .null) (hn : n ≠ .null)
    (hdm : m.display = .ok dm) (hdn : n.display = .ok dn) (hdv : v.display = .ok dv) :
    ((s.min m).describe env v).outcome =
        .ok (.str ("Expected " ++ (i ++ " >= " ++ dm) ++ ", got " ++ dv)) ∧
      ((s.max n).describe env v).outcome =
        .ok (.str ("Expected " ++ (i ++ " <= " ++ dn) ++ ", got " ++ dv)) ∧
      ((s.range m n).describe env v).outcome =
        .ok (.str ("Expected " ++ (i ++ " >= " ++ dm ++ " && <= " ++ dn) ++ ", got " ++ dv)) ∧
      ((s.minLength m).describe env v).outcome =
        .ok (.str ("Expected " ++ (i ++ ".length >= " ++ dm) ++ ", got " ++ dv)) ∧
      ((s.maxLength n).describe env v).outcome =
        .ok (.str ("Expected " ++ (i ++ ".length <= " ++ dn) ++ ", got " ++ dv)) ∧
      ((s.rangeLength m n).describe env v).outcome =
        .ok (.str ("Expected " ++ (i ++ ".length >= " ++ dm ++ " && <= " ++ dn) ++ ", got " ++
          dv)) ∧
      ∃ t, n.text = .ok t ∧ (t = dn ↔ ¬n.Respelled) ∧
        ((s.length n).describe env v).outcome =
          .ok (.str ("Expected " ++ (i ++ ".length === " ++ t) ++ ", got " ++ dv)) := by
  obtain ⟨t, ht, hsame⟩ := Value.text_of_display hdn
  have hplain : i ++ "" = i := String.append_empty
  have hlower : i ++ ".length" ++ " >= " = i ++ ".length >= " := String.append_assoc ..
  have hupper : i ++ ".length" ++ " <= " = i ++ ".length <= " := String.append_assoc ..
  refine ⟨describe_bounded hs ?_ hdv, describe_bounded hs ?_ hdv, describe_bounded hs ?_ hdv,
    describe_lengthBounded hs ?_ hdv, describe_lengthBounded hs ?_ hdv,
    describe_lengthBounded hs ?_ hdv, t, ht, hsame, describe_exactLength hs ht hdv⟩
  · rw [Describe.bounds_lower hm hdm, hplain]
  · rw [Describe.bounds_upper hdn, hplain]
  · rw [Describe.bounds_both hm hn hdm hdn, hplain]
  · rw [Describe.bounds_lower hm hdm, hlower]
  · rw [Describe.bounds_upper hdn, hupper]
  · rw [Describe.bounds_both hm hn hdm hdn, hlower]

/-- A bound that is a truth value: an exact length alone writes it as it is on its own. -/
theorem describe_refinements_true :
    let m : Value := .bool true
    let v : Value := .str "ab"
    ((string.minLength m).describe Env.stock v).outcome =
        .ok (.str "Expected Expected string, got string.length >= true, got ab") ∧
      m.Respelled ∧
      ∃ t, m.text = .ok t ∧ t ≠ "true" ∧ ((string.length m).describe Env.stock v).outcome =
        .ok (.str ("Expected " ++ ("Expected string, got string" ++ ".length === " ++ t) ++
          ", got " ++ "ab")) := by
  intro m v
  have hs : (string.describe Env.stock v).outcome = .ok (.str "Expected string, got string") := rfl
  have hm : m ≠ .null := by simp [m]
  have hdm : m.display = .ok "true" := rfl
  have hdv : v.display = .ok "ab" := rfl
  obtain ⟨-, -, -, hmin, -, -, t, ht, hsame, hlength⟩ :=
    describe_refinements Env.stock hs hm hm hdm hdm hdv
  have hrespelled : m.Respelled := .bool true
  exact ⟨hmin, hrespelled, t, ht, fun he => hsame.mp he hrespelled, hlength⟩

/-- What is said of a length that has to be true is not what is said of other bounds. -/
theorem exactLength_not_displayed :
    ((string.length (.bool true)).describe Env.stock (.str "ab")).outcome =
        .ok (.str "Expected Expected string, got string.length === True, got ab") ∧
      (Value.bool true).display = .ok "true" := by
  decide +kernel

end Schema
end Conform
