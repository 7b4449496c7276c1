import Conform.Proofs.InTurn
import Conform.Proofs.Schema.Structure
import Conform.Schema.Supplied

/-! Tests that end early. A union ends at the first member that does not reject, an intersection, a
shape and an array at the first member, field or element that does not accept, be it by the other
answer or by a fault. Main statement: each of the four asks its parts in turn, once each, up to that
part and never beyond; of the value, a shape asks nothing under the keys behind it. -/

namespace Conform
set_option autoImplicit false

namespace Schema

variable (env : Env) (v : Value)

/-! ## The four tests -/

theorem shortCircuits_union :
    Run.ShortCircuits false (fun s : Schema => (s.test env v).inSeries)
      fun ss => (union ss).test env v := by
  have h : (fun ss => (union ss).test env v) =
      Run.inTurn false fun s => (s.test env v).inSeries := by
    funext ss
    rw [test_union, Run.forAny_eq_inTurn]
  rw [h]
  exact Run.shortCircuits_inTurn false _

theorem shortCircuits_intersection :
    Run.ShortCircuits true (fun s : Schema => (s.test env v).inSeries)
      fun ss => (intersection ss).test env v := by
  have h : (fun ss => (intersection ss).test env v) =
      Run.inTurn true fun s => (s.test env v).inSeries := by
    funext ss
    rw [test_intersection, Run.forAll_eq_inTurn]
  rw [h]
  exact Run.shortCircuits_inTurn true _

variable {v}

theorem shortCircuits_shape (hv : v.kind = .object) :
    Run.ShortCircuits true (fun f : Value × Schema => (f.2.test env (v.field f.1)).inSeries)
      fun fs => (shape fs).test env v := by
  have h : (fun fs => (shape fs).test env v) =
      Run.inTurn true fun f => (f.2.test env (v.field f.1)).inSeries := by
    funext fs
    rw [test_shape, if_pos hv, Run.forAll_eq_inTurn]
  rw [h]
  exact Run.shortCircuits_inTurn true _

theorem shortCircuits_array (s : Schema) {series : List Value → Value}
    (h : ∀ xs, (series xs).elements? = some xs) :
    Run.ShortCircuits true (fun x => (s.test env x).inSeries)
      fun xs => (array s).test env (series xs) := by
  have ht : (fun xs => (array s).test env (series xs)) =
      Run.inTurn true fun x => (s.test env x).inSeries := by
    funext xs
    simp only [test, h, Run.forAll_eq_inTurn]
  rw [ht]
  exact Run.shortCircuits_inTurn true _

/-! ## Fields that are not reached -/

/-- Objects that show the same up to a field that does not accept are tested alike, whatever they
show, or fail to show, under the keys behind it. -/
theorem test_shape_congr_reached {w : Value} (hv : v.kind = .object) (hw : w.kind = .object)
    {before : List (Value × Schema)} {f : Value × Schema}
    (hf : (f.2.test env (v.field f.1)).outcome ≠ .ok true)
    (hfields : ∀ g ∈ before ++ [f], w.field g.1 = v.field g.1) (after : List (Value × Schema)) :
    (shape (before ++ f :: after)).test env w = (shape (before ++ f :: after)).test env v := by
  have hlast : w.field f.1 = v.field f.1 :=
    hfields f (List.mem_append_right before (List.mem_singleton_self f))
  have hfv : (f.2.test env (v.field f.1)).inSeries.outcome ≠ .ok true :=
    mt (Run.UpToSeries.inSeries _).ok_iff.mp hf
  have hfw : (f.2.test env (w.field f.1)).inSeries.outcome ≠ .ok true := by
    rw [hlast]
    exact hfv
  have hreached : ∀ g ∈ before ++ [f],
      (g.2.test env (w.field g.1)).inSeries = (g.2.test env (v.field g.1)).inSeries := by
    intro g hg
    rw [hfields g hg]
  rw [(shortCircuits_shape env hw).cut before f after hfw,
    (shortCircuits_shape env hv).cut before f after hfv]
  rw [test_shape, test_shape, if_pos hw, if_pos hv, Run.forAll_congr hreached]

/-- Unions, intersections, shapes and arrays ask their parts in turn, as the items of a series, up
to the first part that decides; what stands behind it matters neither to the outcome nor to the
calls. -/
theorem tests_short_circuit (env : Env) (v : Value) :
    Run.ShortCircuits false (fun s : Schema => (s.test env v).inSeries)
      (fun ss => (union ss).test env v) ∧
    Run.ShortCircuits true (fun s : Schema => (s.test env v).inSeries)
      (fun ss => (intersection ss).test env v) ∧
    (v.kind = .object →
      Run.ShortCircuits true (fun f : Value × Schema => (f.2.test env (v.field f.1)).inSeries)
        (fun fs => (shape fs).test env v) ∧
      ∀ (before : List (Value × Schema)) (f : Value × Schema) (after : List (Value × Schema)),
        (f.2.test env (v.field f.1)).outcome ≠ .ok true →
        ∀ w : Value, w.kind = .object → (∀ g ∈ before ++ [f], w.field g.1 = v.field g.1) →
          (shape (before ++ f :: after)).test env w =
            (shape (before ++ f :: after)).test env v) ∧
    ∀ (s : Schema) (tag : Tag),
      Run.ShortCircuits true (fun x => (s.test env x).inSeries)
        (fun xs => (array s).test env (.list tag xs)) ∧
      Run.ShortCircuits true (fun x => (s.test env x).inSeries)
        (fun xs => (array s).test env (.tuple tag xs)) := by
  refine ⟨shortCircuits_union env v, shortCircuits_intersection env v, fun hv => ?_, ?_⟩
  · refine ⟨shortCircuits_shape env hv, ?_⟩
    intro before f after hf w hw hfields
    exact test_shape_congr_reached env hv hw hf hfields after
  · intro s tag
    exact ⟨shortCircuits_array env s fun _ => rfl, shortCircuits_array env s fun _ => rfl⟩

/-- A value in the place of a schema and a key that cannot be looked up, both behind a test that
fails: neither is asked for anything. -/
theorem tests_short_circuit_raising :
    let even : Schema := .predicate (.named "even") (.named "kind")
    let raising : Schema := .predicate (.named "raise") (.named "kind")
    let v : Value := .mapping 0 [(.str "a", .int 2)] ["b"]
    v.kind = .object ∧ (even.test Env.stock (v.field (.str "a"))).outcome = .ok true ∧
      (shape [(.str "a", even), (.str "c", raising), (.str "b", .foreign (.int 5))]).test
          Env.stock v =
        ⟨.error (.complaint .value "boom"), [⟨.test, .named "even"⟩, ⟨.test, .named "raise"⟩]⟩ := by
  intro even raising v
  have hv : v.kind = .object := rfl
  have heven : (even.test Env.stock (v.field (.str "a"))).outcome = .ok true := by decide +kernel
  have hraising : (raising.test Env.stock (v.field (.str "c"))).inSeries.outcome ≠ .ok true := by
    decide +kernel
  have hbefore : ∀ f ∈ [(Value.str "a", even)],
      (f.2.test Env.stock (v.field f.1)).inSeries.outcome = .ok true :=
    List.forall_mem_singleton.mpr ((Run.UpToSeries.inSeries _).ok_iff.mpr heven)
  refine ⟨hv, heven, ?_⟩
  have h := ((tests_short_circuit Env.stock v).2.2.1 hv).1
  exact (h.cut [(.str "a", even)] (.str "c", raising) [(.str "b", .foreign (.int 5))]
    hraising).trans (h.stopped [(.str "a", even)] (.str "c", raising) hbefore hraising)

end Schema
end Conform
