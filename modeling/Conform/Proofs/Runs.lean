import Mathlib.Data.List.Forall2
import Conform.Schema.Run

/-! Laws of runs. `Decides x p` says that a run ends without a fault in the truth of `p`, whatever
it called on the way; one rule for each way in which tests are put together carries it from the
tests of the parts to the test of the whole. `CallsOnly p x` bounds the calls of a run, faults or
not, and is carried in the same way. -/

namespace Conform
set_option autoImplicit false

namespace Run

variable {ε α β : Type}

/-! ## Outcomes of steps -/

theorem outcome_pure (a : α) : (pure a : Run ε α).outcome = .ok a := rfl

theorem outcome_lift (x : Except ε α) : (lift x).outcome = x := rfl

theorem outcome_mapError {ε' : Type} (g : ε → ε') (x : Run ε α) :
    (x.mapError g).outcome = x.outcome.mapError g := by
  unfold mapError
  cases x.outcome <;> rfl

/-! ## Truth handed on -/

/-- The items are tested in turn as long as the answers are `go`; another answer ends the walk. -/
def inTurn (go : Bool) (p : α → Run ε Bool) : List α → Run ε Bool
  | [] => pure go
  | x :: xs => do
    let b ← p x
    if b = go then inTurn go p xs else pure b

/-- The test holds of some item; items after the first that passes are not tested. -/
def forAny (p : α → Run ε Bool) : List α → Run ε Bool
  | [] => pure false
  | x :: xs => do if ← p x then pure true else forAny p xs

theorem forAll_eq_inTurn (p : α → Run ε Bool) (xs : List α) : forAll p xs = inTurn true p xs := by
  induction xs with
  | nil => rfl
  | cons x xs ih =>
    rw [forAll, inTurn, ih]
    congr 1
    funext b
    cases b <;> rfl

theorem forAny_eq_inTurn (p : α → Run ε Bool) (xs : List α) :
    forAny p xs = inTurn false p xs := by
  induction xs with
  | nil => rfl
  | cons x xs ih =>
    rw [forAny, inTurn, ih]
    congr 1
    funext b
    cases b <;> rfl

theorem inTurn_congr {go : Bool} {p q : α → Run ε Bool} {xs : List α} (h : ∀ x ∈ xs, p x = q x) :
    inTurn go p xs = inTurn go q xs := by
  induction xs with
  | nil => rfl
  | cons x xs ih =>
    have hx : p x = q x := h x (List.mem_cons_self ..)
    have hxs : inTurn go p xs = inTurn go q xs := ih fun y hy => h y (List.mem_cons_of_mem x hy)
    simp only [inTurn, hx, hxs]

theorem inTurn_map (go : Bool) (p : β → Run ε Bool) (f : α → β) (xs : List α) :
    inTurn go p (xs.map f) = inTurn go (fun x => p (f x)) xs := by
  induction xs with
  | nil => rfl
  | cons x xs ih => simp only [List.map_cons, inTurn, ih]

theorem forAll_congr {p q : α → Run ε Bool} {xs : List α} (h : ∀ x ∈ xs, p x = q x) :
    forAll p xs = forAll q xs := by
  rw [forAll_eq_inTurn, forAll_eq_inTurn, inTurn_congr h]

theorem forAny_congr {p q : α → Run ε Bool} {xs : List α} (h : ∀ x ∈ xs, p x = q x) :
    forAny p xs = forAny q xs := by
  rw [forAny_eq_inTurn, forAny_eq_inTurn, inTurn_congr h]

theorem collect_congr {f g : α → Run ε β} {xs : List α} (h : ∀ x ∈ xs, f x = g x) :
    collect f xs = collect g xs := by
  induction xs with
  | nil => rfl
  | cons x xs ih =>
    have hx : f x = g x := h x (List.mem_cons_self ..)
    have hxs : collect f xs = collect g xs := ih fun y hy => h y (List.mem_cons_of_mem x hy)
    simp only [collect, hx, hxs]

/-- Related items are tested alike. -/
theorem forAll_congr₂ {R : α → β → Prop} {p : α → Run ε Bool} {q : β → Run ε Bool} {xs : List α}
    {ys : List β} (hxs : List.Forall₂ R xs ys) (h : ∀ x y, R x y → p x = q y) :
    forAll p xs = forAll q ys := by
  induction hxs with
  | nil => rfl
  | cons hxy _ ih => rw [forAll, forAll, h _ _ hxy, ih]

theorem forAll_map (p : β → Run ε Bool) (f : α → β) (xs : List α) :
    forAll p (xs.map f) = forAll (fun x => p (f x)) xs := by
  rw [forAll_eq_inTurn, forAll_eq_inTurn, inTurn_map]

theorem forAny_map (p : β → Run ε Bool) (f : α → β) (xs : List α) :
    forAny p (xs.map f) = forAny (fun x => p (f x)) xs := by
  rw [forAny_eq_inTurn, forAny_eq_inTurn, inTurn_map]

theorem collect_map {γ : Type} (f : β → Run ε γ) (g : α → β) (xs : List α) :
    collect f (xs.map g) = collect (fun x => f (g x)) xs := by
  induction xs with
  | nil => rfl
  | cons x xs ih => simp only [List.map_cons, collect, ih]

/-- What comes of a walk over a list depends on the runs for its items alone. -/
theorem forAll_congr_map {p : α → Run ε Bool} {q : β → Run ε Bool} {xs : List α} {ys : List β}
    (h : xs.map p = ys.map q) : forAll p xs = forAll q ys := by
  calc forAll p xs = forAll id (xs.map p) := (forAll_map id p xs).symm
    _ = forAll id (ys.map q) := by rw [h]
    _ = forAll q ys := forAll_map id q ys

theorem forAny_congr_map {p : α → Run ε Bool} {q : β → Run ε Bool} {xs : List α} {ys : List β}
    (h : xs.map p = ys.map q) : forAny p xs = forAny q ys := by
  calc forAny p xs = forAny id (xs.map p) := (forAny_map id p xs).symm
    _ = forAny id (ys.map q) := by rw [h]
    _ = forAny q ys := forAny_map id q ys

theorem collect_congr_map {γ : Type} {f : α → Run ε γ} {g : β → Run ε γ} {xs : List α}
    {ys : List β} (h : xs.map f = ys.map g) : collect f xs = collect g ys := by
  calc collect f xs = collect id (xs.map f) := (collect_map id f xs).symm
    _ = collect id (ys.map g) := by rw [h]
    _ = collect g ys := collect_map id g ys

/-- The run ends without a fault in the truth of the proposition. -/
def Decides (x : Run ε Bool) (p : Prop) : Prop := ∃ b, x.outcome = .ok b ∧ (b = true ↔ p)

theorem decides_pure {b : Bool} {p : Prop} (h : b = true ↔ p) :
    Decides (pure b : Run ε Bool) p := ⟨b, rfl, h⟩

theorem Decides.congr {x : Run ε Bool} {p q : Prop} (h : Decides x p) (hpq : p ↔ q) :
    Decides x q := by
  obtain ⟨b, hb, hp⟩ := h
  exact ⟨b, hb, hp.trans hpq⟩

/-- The run ends without a fault, in true. -/
def Passes (x : Run ε Bool) : Prop := x.outcome = .ok true

/-- The run ends without a fault. -/
def Answers (x : Run ε Bool) : Prop := ∃ b, x.outcome = .ok b

theorem Answers.decides {x : Run ε Bool} (h : x.Answers) : x.Decides x.Passes := by
  obtain ⟨b, hb⟩ := h
  refine ⟨b, hb, ?_⟩
  rw [Passes, hb, Except.ok.injEq]

theorem Decides.answers {x : Run ε Bool} {p : Prop} (h : x.Decides p) : x.Answers := by
  obtain ⟨b, hb, -⟩ := h
  exact ⟨b, hb⟩

theorem Decides.passes_iff {x : Run ε Bool} {p : Prop} (h : x.Decides p) : x.Passes ↔ p := by
  obtain ⟨b, hb, hp⟩ := h
  rw [Passes, hb, Except.ok.injEq, hp]

/-- The second test is made only if the first one passes. -/
theorem Decides.and {x y : Run ε Bool} {p q : Prop} (hx : Decides x p) (hy : p → Decides y q) :
    Decides (do if ← x then y else pure false) (p ∧ q) := by
  obtain ⟨b, hb, hp⟩ := hx
  cases b with
  | true =>
    obtain ⟨c, hc, hq⟩ := hy (hp.mp rfl)
    refine ⟨c, ?_, ?_⟩
    · rw [outcome_bind, hb]
      exact hc
    · rw [hq]
      exact ⟨fun h => ⟨hp.mp rfl, h⟩, And.right⟩
  | false =>
    have hnp : ¬p := fun h => Bool.false_ne_true (hp.mpr h)
    refine ⟨false, ?_, by simp [hnp]⟩
    rw [outcome_bind, hb]
    rfl

/-- The second test is made only if the first one does not pass. -/
theorem Decides.or {x y : Run ε Bool} {p q : Prop} (hx : Decides x p) (hy : Decides y q) :
    Decides (do if ← x then pure true else y) (p ∨ q) := by
  obtain ⟨b, hb, hp⟩ := hx
  cases b with
  | true =>
    refine ⟨true, ?_, by simp [hp.mp rfl]⟩
    rw [outcome_bind, hb]
    rfl
  | false =>
    have hnp : ¬p := fun h => Bool.false_ne_true (hp.mpr h)
    obtain ⟨c, hc, hq⟩ := hy
    refine ⟨c, ?_, ?_⟩
    · rw [outcome_bind, hb]
      exact hc
    · rw [hq]
      exact ⟨Or.inr, fun h => h.resolve_left hnp⟩

theorem decides_forAll {t : α → Run ε Bool} {p : α → Prop} {xs : List α}
    (h : ∀ x ∈ xs, Decides (t x) (p x)) : Decides (forAll t xs) (∀ x ∈ xs, p x) := by
  induction xs with
  | nil => exact decides_pure (by simp)
  | cons x xs ih =>
    have hx : Decides (t x) (p x) := h x (List.mem_cons_self ..)
    have hxs : Decides (forAll t xs) (∀ y ∈ xs, p y) :=
      ih fun y hy => h y (List.mem_cons_of_mem x hy)
    exact (hx.and fun _ => hxs).congr (by simp)

theorem decides_forAny {t : α → Run ε Bool} {p : α → Prop} {xs : List α}
    (h : ∀ x ∈ xs, Decides (t x) (p x)) : Decides (forAny t xs) (∃ x ∈ xs, p x) := by
  induction xs with
  | nil => exact decides_pure (by simp)
  | cons x xs ih =>
    have hx : Decides (t x) (p x) := h x (List.mem_cons_self ..)
    have hxs : Decides (forAny t xs) (∃ y ∈ xs, p y) :=
      ih fun y hy => h y (List.mem_cons_of_mem x hy)
    exact (hx.or hxs).congr (by simp)

/-! ## Calls -/

theorem calls_bind_ok {x : Run ε α} {a : α} (h : x.outcome = .ok a) (f : α → Run ε β) :
    (x >>= f).calls = x.calls ++ (f a).calls := by
  simp only [Bind.bind, bind, h]

theorem calls_bind_error {x : Run ε α} {e : ε} (h : x.outcome = .error e) (f : α → Run ε β) :
    (x >>= f).calls = x.calls := by
  simp only [Bind.bind, bind, h]

theorem calls_mapError {ε' : Type} (g : ε → ε') (x : Run ε α) : (x.mapError g).calls = x.calls :=
  rfl

/-- Every call of the run, also before a fault, has the property. -/
def CallsOnly (p : Call → Prop) (x : Run ε α) : Prop := ∀ c ∈ x.calls, p c

section CallsOnly

variable {p : Call → Prop}

theorem callsOnly_lift (x : Except ε α) : (lift x).CallsOnly p := by
  intro c hc
  cases hc

theorem callsOnly_pure (a : α) : (pure a : Run ε α).CallsOnly p := callsOnly_lift (.ok a)

theorem callsOnly_call {c : Call} (hc : p c) : (call c : Run ε Unit).CallsOnly p := by
  intro d hd
  have hdc : d = c := List.mem_singleton.mp hd
  rw [hdc]
  exact hc

theorem CallsOnly.bind {x : Run ε α} {f : α → Run ε β} (hx : x.CallsOnly p)
    (hf : ∀ a, (f a).CallsOnly p) : (x >>= f).CallsOnly p := by
  intro c hc
  cases ho : x.outcome with
  | error e =>
    rw [calls_bind_error ho] at hc
    exact hx c hc
  | ok a =>
    rw [calls_bind_ok ho] at hc
    rcases List.mem_append.mp hc with hc | hc
    · exact hx c hc
    · exact hf a c hc

/-- A test followed by one of two runs. -/
theorem CallsOnly.branch {x : Run ε Bool} {y z : Run ε α} (hx : x.CallsOnly p)
    (hy : y.CallsOnly p) (hz : z.CallsOnly p) : (do if ← x then y else z).CallsOnly p := by
  refine hx.bind fun b => ?_
  cases b with
  | true => exact hy
  | false => exact hz

theorem callsOnly_inTurn {go : Bool} {t : α → Run ε Bool} {xs : List α}
    (h : ∀ x ∈ xs, (t x).CallsOnly p) : (inTurn go t xs).CallsOnly p := by
  induction xs with
  | nil => exact callsOnly_pure go
  | cons x xs ih =>
    obtain ⟨hx, hxs⟩ := List.forall_mem_cons.mp h
    refine hx.bind fun b => ?_
    split
    next => exact ih hxs
    next => exact callsOnly_pure b

theorem callsOnly_forAll {t : α → Run ε Bool} {xs : List α} (h : ∀ x ∈ xs, (t x).CallsOnly p) :
    (forAll t xs).CallsOnly p := by
  rw [forAll_eq_inTurn]
  exact callsOnly_inTurn h

theorem callsOnly_forAny {t : α → Run ε Bool} {xs : List α} (h : ∀ x ∈ xs, (t x).CallsOnly p) :
    (forAny t xs).CallsOnly p := by
  rw [forAny_eq_inTurn]
  exact callsOnly_inTurn h

theorem callsOnly_collect {f : α → Run ε β} {xs : List α} (h : ∀ x ∈ xs, (f x).CallsOnly p) :
    (collect f xs).CallsOnly p := by
  induction xs with
  | nil => exact callsOnly_pure []
  | cons x xs ih =>
    obtain ⟨hx, hxs⟩ := List.forall_mem_cons.mp h
    exact hx.bind fun y => (ih hxs).bind fun ys => callsOnly_pure (y :: ys)

end CallsOnly

end Run
end Conform
