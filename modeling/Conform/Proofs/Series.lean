import Conform.Proofs.InTurn
import Conform.Schema.Basic

/-! Runs that make the items of a series. They are runs up to one fault: the complaint that there
are no more items is turned into another one. `UpToSeries` says that of a run which is made at
other places in series than a first one. The relation is reflexive and transitive, and what is put
together from runs that are related is related, so that it goes through all walks. -/

namespace Conform
set_option autoImplicit false

/-- There is nothing left in a fault for another series to turn. -/
theorem Fault.inSeries_inSeries (f : Fault) : f.inSeries.inSeries = f.inSeries := by
  cases f with
  | complaint kind text => cases kind <;> rfl
  | _ => rfl

namespace Run

variable {α β : Type} {x y z : Run Fault α}

theorem inSeries_of_ok {a : α} (h : x.outcome = .ok a) : x.inSeries = x := by
  refine Run.ext ?_ rfl
  rw [inSeries, outcome_mapError, h]
  rfl

theorem inSeries_of_error {f : Fault} (h : x.outcome = .error f) :
    x.inSeries = ⟨.error f.inSeries, x.calls⟩ := by
  refine Run.ext ?_ rfl
  rw [inSeries, outcome_mapError, h]
  rfl

theorem inSeries_inSeries (x : Run Fault α) : x.inSeries.inSeries = x.inSeries := by
  cases h : x.outcome with
  | ok a => rw [inSeries_of_ok h, inSeries_of_ok h]
  | error f =>
    have h' : x.inSeries.outcome = .error f.inSeries := by rw [inSeries_of_error h]
    rw [inSeries_of_error h', inSeries_of_error h, Fault.inSeries_inSeries]

/-- The second run is the first one, be it in a series. -/
def UpToSeries (x y : Run Fault α) : Prop := y = x ∨ y = x.inSeries

namespace UpToSeries

theorem refl (x : Run Fault α) : x.UpToSeries x := .inl rfl

theorem inSeries (x : Run Fault α) : x.UpToSeries x.inSeries := .inr rfl

theorem trans (hxy : x.UpToSeries y) (hyz : y.UpToSeries z) : x.UpToSeries z := by
  rcases hxy with rfl | rfl
  · exact hyz
  · rcases hyz with rfl | rfl
    · exact .inr rfl
    · exact .inr x.inSeries_inSeries

/-- The one fault by which the two can differ. -/
theorem outcome_cases (h : x.UpToSeries y) : y.outcome = x.outcome ∨
    ∃ text, x.outcome = .error (.complaint .ended text) ∧
      y.outcome = .error (.complaint .runtime "generator raised StopIteration") := by
  rcases h with rfl | rfl
  · exact .inl rfl
  · cases h : x.outcome with
    | ok a =>
      left
      rw [inSeries_of_ok h, h]
    | error f =>
      rw [inSeries_of_error h]
      cases f with
      | complaint kind text =>
        cases kind with
        | ended => exact .inr ⟨text, rfl, rfl⟩
        | _ => exact .inl rfl
      | _ => exact .inl rfl

theorem ok_iff (h : x.UpToSeries y) {a : α} : y.outcome = .ok a ↔ x.outcome = .ok a := by
  rcases h.outcome_cases with ho | ⟨text, hx, hy⟩
  · rw [ho]
  · rw [hx, hy]
    simp

theorem decides {x y : Run Fault Bool} {p : Prop} (h : x.UpToSeries y) (hx : x.Decides p) :
    y.Decides p := by
  obtain ⟨b, hb, hp⟩ := hx
  exact ⟨b, h.ok_iff.mpr hb, hp⟩

theorem bind {f g : α → Run Fault β} (h : x.UpToSeries y) (hfg : ∀ a, (f a).UpToSeries (g a)) :
    (x >>= f).UpToSeries (y >>= g) := by
  cases ho : x.outcome with
  | error e =>
    have hx : ∀ k : α → Run Fault β, (x >>= k) = ⟨.error e, x.calls⟩ := fun k =>
      Run.ext (by rw [outcome_bind, ho]; rfl) (calls_bind_error ho k)
    have hs : ∀ k : α → Run Fault β, (x.inSeries >>= k) = (x >>= k).inSeries := by
      intro k
      rw [hx, inSeries_of_error ho]
      rfl
    rcases h with rfl | rfl
    · exact .inl ((hx g).trans (hx f).symm)
    · exact .inr (by rw [hs, hx, hx])
  | ok a =>
    have hyx : y = x := by
      rcases h with h | h
      · exact h
      · rw [h, inSeries_of_ok ho]
    have hx : ∀ k : α → Run Fault β, (x >>= k) = ⟨(k a).outcome, x.calls ++ (k a).calls⟩ := fun k =>
      Run.ext (by rw [outcome_bind, ho]; rfl) (calls_bind_ok ho k)
    rw [hyx, hx, hx]
    rcases hfg a with h | h
    · exact .inl (by rw [h])
    · exact .inr (by rw [h]; rfl)

theorem branch {x y : Run Fault Bool} {s s' t t' : Run Fault α} (h : x.UpToSeries y)
    (hs : s.UpToSeries s') (ht : t.UpToSeries t') :
    (do if ← x then s else t).UpToSeries (do if ← y then s' else t') := by
  refine h.bind fun b => ?_
  cases b with
  | true => exact hs
  | false => exact ht

theorem inTurn {go : Bool} {p q : β → Run Fault Bool} {xs : List β}
    (h : ∀ x ∈ xs, (p x).UpToSeries (q x)) : (inTurn go p xs).UpToSeries (inTurn go q xs) := by
  induction xs with
  | nil => exact .refl _
  | cons x xs ih =>
    obtain ⟨hx, hxs⟩ := List.forall_mem_cons.mp h
    refine hx.bind fun b => ?_
    split
    next => exact ih hxs
    next => exact .refl _

theorem forAll {p q : β → Run Fault Bool} {xs : List β} (h : ∀ x ∈ xs, (p x).UpToSeries (q x)) :
    (forAll p xs).UpToSeries (forAll q xs) := by
  rw [forAll_eq_inTurn, forAll_eq_inTurn]
  exact .inTurn h

theorem forAny {p q : β → Run Fault Bool} {xs : List β} (h : ∀ x ∈ xs, (p x).UpToSeries (q x)) :
    (forAny p xs).UpToSeries (forAny q xs) := by
  rw [forAny_eq_inTurn, forAny_eq_inTurn]
  exact .inTurn h

end UpToSeries

theorem Decides.inSeries {x : Run Fault Bool} {p : Prop} (h : x.Decides p) : x.inSeries.Decides p :=
  (UpToSeries.inSeries x).decides h

theorem CallsOnly.inSeries {p : Call → Prop} (h : x.CallsOnly p) : x.inSeries.CallsOnly p := h

end Run
end Conform
