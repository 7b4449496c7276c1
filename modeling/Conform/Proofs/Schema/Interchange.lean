import Conform.Schema.Supplied
import Conform.Proofs.Schema.Agreement
import Conform.Proofs.Schema.Decision
import Conform.Proofs.Value.SameNumber

/-! Strictly equal values in place of each other. Of two such values that are not the same one is an
integer and the other a float, and no node but that for integers can tell them apart: options and
lengths cannot, nor can bounds, unless they are objects that say one thing to an integer and another
to a float. Main statement: a schema without that node and without such bounds gives strictly equal
values the same verdict. -/

namespace Conform
set_option autoImplicit false

/-- One and the same, or integers or floats with the same value. -/
def Value.Interchangeable (v w : Value) : Prop := v = w ∨ v.SameNumber w

theorem Value.interchangeable_resembling :
    Value.Resembling (fun _ => True) Value.Interchangeable where
  kind h := by
    rcases h with rfl | ⟨hv, hw, -⟩
    · rfl
    · rw [hv.kind_eq, hw.kind_eq]
  elements {v w} h := by
    rcases h with rfl | ⟨hv, hw, -⟩
    · cases v.elements? with
      | none => exact .none
      | some xs => exact .some (List.forall₂_same.mpr fun x _ => .inl rfl)
    · rw [hv.elements?_eq, hw.elements?_eq]
      exact .none
  field h hk _ := by
    rcases h with rfl | ⟨hv, -, -⟩
    · exact .inl rfl
    · rw [hv.kind_eq] at hk
      cases hk

namespace Schema

variable {env : Env} {s : Schema}

/-- The bounds say the same to everything that is compared with them. -/
def HasImpartialBounds : Schema → Prop
  | .bounded _ lower upper => lower.Impartial ∧ upper.Impartial
  | _ => True

/-- A test that comes to the same for the same number agrees on interchangeable values. -/
theorem agrees_interchangeable (h : ∀ v w : Value, v.SameNumber w → s.test env v = s.test env w) :
    s.Agrees env Value.Interchangeable := by
  rintro v w (rfl | hvw)
  · rfl
  · exact h v w hvw

theorem inspectsAlike_interchangeable
    (hs : AsksOnly (fun _ => False) s) (hi : s.HasImpartialBounds) (hb : s ≠ .bigint) :
    InspectsAlike env (fun _ => True) Value.Interchangeable s := by
  cases s with
  | bigint => exact absurd rfl hb
  | literal x =>
    refine fun _ => agrees_interchangeable fun v w h => ?_
    rw [test, test, h.strictEquals_congr]
  | oneOf xs =>
    refine fun _ => agrees_interchangeable fun v w h => ?_
    simp only [test, h.strictEquals_congr]
  | oneOfType t xs =>
    refine fun _ => agrees_interchangeable fun v w h => ?_
    simp only [test, h.strictEquals_congr]
  | bounded t lower upper =>
    intro ht
    have hinner := ht t (by simp [testedParts, parts])
    refine agrees_interchangeable fun v w h => ?_
    rw [test, test, hinner v w (.inr h), h.satisfies_congr _ hi.1, h.satisfies_congr _ hi.2]
  | lengthBounded t lower upper =>
    intro ht
    have hinner := ht t (by simp [testedParts, parts])
    refine agrees_interchangeable fun v w h => ?_
    rw [test, test, hinner v w (.inr h), Value.lengthWithin, Value.lengthWithin, h.length_congr]
  | exactLength t size =>
    intro ht
    have hinner := ht t (by simp [testedParts, parts])
    refine agrees_interchangeable fun v w h => ?_
    rw [test, test, hinner v w (.inr h), Value.hasLength, Value.hasLength, h.length_congr]
  | predicate t d => exact hs.elim
  | foreign x => exact hs.elim
  | shape fs => exact fun f _ => trivial
  | _ => trivial

section Interchange

variable (hs : s.TestsAlone) (hi : s.Every testedParts HasImpartialBounds)
  (hb : ¬Occurs testedParts .bigint s)

include hs hi hb

theorem agrees_of_testsAlone : s.Agrees env Value.Interchangeable :=
  agrees_of_every Value.interchangeable_resembling fun t ht =>
    inspectsAlike_interchangeable (hs t ht) (hi t ht) fun h => hb (h ▸ ht)

theorem verdict_of_interchangeable {v w : Value} (h : v.Interchangeable w) :
    ∃ b, (s.verdict env v).outcome = .ok (.bool b) ∧
      (s.verdict env w).outcome = .ok (.bool b) := by
  obtain ⟨b, hv⟩ : ∃ b, (s.test env v).outcome = .ok b := hs.answers v
  have hw : (s.test env w).outcome = .ok b := by
    rw [← agrees_of_testsAlone hs hi hb v w h, hv]
  exact ⟨b, verdict_outcome hs.handsOn_eq_false hv, verdict_outcome hs.handsOn_eq_false hw⟩

/-- A schema that asks nothing supplied and does not ask for integers gives strictly equal values
the same verdict, and so it does an integer and a float that stand for the same number. -/
theorem strictEquals_same_verdict (env : Env) :
    (∀ v w : Value, v.strictEquals w = true →
      ∃ b, (s.verdict env v).outcome = .ok (.bool b) ∧
        (s.verdict env w).outcome = .ok (.bool b)) ∧
    (∀ (n : Int) (tag : Tag) (x : Binary64) (negative : Bool) (m : Nat) (e : Int),
      x.unpack = .finite negative m e → Binary64.rational negative m e = n →
      ∃ b, (s.verdict env (.int n)).outcome = .ok (.bool b) ∧
        (s.verdict env (.atom (.float tag x))).outcome = .ok (.bool b)) := by
  refine ⟨fun v w h => ?_, fun n tag x negative m e hx h => ?_⟩
  · exact verdict_of_interchangeable hs hi hb (Value.strictEquals_cases h)
  · exact verdict_of_interchangeable hs hi hb (.inr (Value.sameNumber_of_rational hx h))

end Interchange

/-- A number up to an object that says to be at least what is an integer, and nothing to a float. -/
def telling : Schema :=
  (Schema.kind "number").max (.object 1 [] { Traits.plain with
    atLeast := ⟨[(.int 3, .gives true)], .unsupported⟩ })

/-- A bound may tell three as an integer from three as a float. -/
example :
    let three : Value := .atom (.float 0 (.nearest false 3 1))
    (Value.int 3).strictEquals three = true ∧
      (telling.verdict Env.stock (.int 3)).outcome = .ok (.bool true) ∧
      (telling.verdict Env.stock three).outcome = .ok (.bool false) := by
  decide +kernel

end Schema
end Conform
