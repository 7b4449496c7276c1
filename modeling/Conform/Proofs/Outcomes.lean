import Conform.Schema.Run

/-! Outcomes of operations that can fail. `Ends x p r q` tells both ways in which `x` can end: with
a value that `r` holds of if the condition `p` is met, with a fault that `q` holds of if it is not.
One rule puts steps together, so that the condition of a sequence is that of all its steps. -/

namespace Conform
set_option autoImplicit false

variable {ε α β : Type}

/-- The operation succeeds exactly under the condition `p`. -/
def Ends (x : Except ε α) (p : Prop) (r : α → Prop) (q : ε → Prop) : Prop :=
  (p ∧ ∃ a, x = .ok a ∧ r a) ∨ (¬p ∧ ∃ e, x = .error e ∧ q e)

/-- Nothing is said of a value but that there is one. -/
def Anything : α → Prop := fun _ => True

namespace Ends

variable {x : Except ε α} {p p' : Prop} {r : α → Prop} {q : ε → Prop}

theorem ok {a : α} (hp : p) (ha : r a) : Ends (.ok a) p r q := .inl ⟨hp, a, rfl, ha⟩

theorem error {e : ε} (hp : ¬p) (he : q e) : Ends (.error e) p r q := .inr ⟨hp, e, rfl, he⟩

theorem congr (h : Ends x p r q) (hp : p ↔ p') : Ends x p' r q := by
  rcases h with ⟨h, hx⟩ | ⟨h, hx⟩
  · exact .inl ⟨hp.mp h, hx⟩
  · exact .inr ⟨fun h' => h (hp.mpr h'), hx⟩

theorem weaken {q' : ε → Prop} (h : Ends x p r q) (hq : ∀ e, q e → q' e) : Ends x p r q' := by
  rcases h with ⟨hp, hx⟩ | ⟨hp, e, he, hqe⟩
  · exact .inl ⟨hp, hx⟩
  · exact .inr ⟨hp, e, he, hq e hqe⟩

theorem bind {f : α → Except ε β} {s : β → Prop} (hx : Ends x p r q)
    (hf : ∀ a, r a → Ends (f a) p' s q) : Ends (x >>= f) (p ∧ p') s q := by
  rcases hx with ⟨hp, a, rfl, ha⟩ | ⟨hp, e, rfl, he⟩
  · exact (hf a ha).congr ⟨fun h => ⟨hp, h⟩, And.right⟩
  · exact .error (fun h => hp h.1) he

theorem andThen {f : α → Except ε β} {s : β → Prop} (hx : Ends x p r q)
    (hf : ∀ a, r a → ∃ b, f a = .ok b ∧ s b) : Ends (x >>= f) p s q := by
  have h : Ends (x >>= f) (p ∧ True) s q := hx.bind fun a ha => .inl ⟨trivial, hf a ha⟩
  exact h.congr (Iff.of_eq (and_true p))

theorem mapError {ε' : Type} {f : ε → ε'} {q' : ε' → Prop} (h : Ends x p r q)
    (hf : ∀ e, q e → q' (f e)) : Ends (x.mapError f) p r q' := by
  rcases h with ⟨hp, a, rfl, ha⟩ | ⟨hp, e, rfl, he⟩
  · exact .ok hp ha
  · exact .error hp (hf e he)

theorem map {f : α → β} {s : β → Prop} (hx : Ends x p r q) (hf : ∀ a, r a → s (f a)) :
    Ends (x >>= fun a => .ok (f a)) p s q :=
  hx.andThen fun a ha => ⟨f a, rfl, hf a ha⟩

end Ends

theorem ends_collect {f : α → Run ε β} {p : α → Prop} {r : β → Prop} {q : ε → Prop}
    {xs : List α} (h : ∀ x ∈ xs, Ends (f x).outcome (p x) r q) :
    Ends (Run.collect f xs).outcome (∀ x ∈ xs, p x) (fun ys => ∀ y ∈ ys, r y) q := by
  induction xs with
  | nil => exact .ok (by simp) (by simp)
  | cons x xs ih =>
    have hx : Ends (f x).outcome (p x) r q := h x (List.mem_cons_self ..)
    have hxs : Ends (Run.collect f xs).outcome (∀ x ∈ xs, p x) (fun ys => ∀ y ∈ ys, r y) q :=
      ih fun y hy => h y (List.mem_cons_of_mem x hy)
    rw [Run.collect, Run.outcome_bind, List.forall_mem_cons]
    refine hx.bind fun y hy => ?_
    rw [Run.outcome_bind]
    exact hxs.map fun ys hys => List.forall_mem_cons.mpr ⟨hy, hys⟩

/-! ## Optional values -/

section Optional

variable {γ : Type} {r : α → β → Prop} {x : Option α} {y : Option β}

theorem rel_none (h : Option.Rel r none y) : y = none := by
  cases h
  rfl

theorem rel_some {a : α} (h : Option.Rel r (some a) y) : ∃ b, y = some b ∧ r a b := by
  cases h with
  | some h => exact ⟨_, rfl, h⟩

theorem rel_trans {s : β → γ → Prop} {z : Option γ} (h : Option.Rel r x y)
    (h' : Option.Rel s y z) : Option.Rel (fun a c => ∃ b, r a b ∧ s b c) x z := by
  cases h with
  | none =>
    rw [rel_none h']
    exact .none
  | some hab =>
    obtain ⟨c, rfl, hbc⟩ := rel_some h'
    exact .some ⟨_, hab, hbc⟩

/-- A default that is related to itself may come behind on both sides. -/
theorem rel_or {r : α → α → Prop} {x y : Option α} (h : Option.Rel r x y) (hr : ∀ a, r a a)
    (d : Option α) : Option.Rel r (x.or d) (y.or d) := by
  cases h with
  | none =>
    cases d with
    | none => exact .none
    | some a => exact .some (hr a)
  | some hab => exact .some hab

theorem rel_mono {s : α → β → Prop} (h : Option.Rel r x y) (hrs : ∀ a b, r a b → s a b) :
    Option.Rel s x y := by
  cases h with
  | none => exact .none
  | some hab => exact .some (hrs _ _ hab)

theorem map_eq_of_rel {f : α → γ} {g : β → γ} (h : Option.Rel r x y)
    (hfg : ∀ a b, r a b → g b = f a) : y.map g = x.map f := by
  cases h with
  | none => rfl
  | some hab => exact congrArg some (hfg _ _ hab)

end Optional

/-! ## Traversals -/

theorem bind_ok {x : Except ε α} {f : α → Except ε β} {b : β} (h : (x >>= f) = .ok b) :
    ∃ a, x = .ok a ∧ f a = .ok b := by
  cases x with
  | error e => cases h
  | ok a => exact ⟨a, rfl, h⟩

theorem map_ok {x : Except ε α} {f : α → β} {b : β} (h : x.map f = .ok b) :
    ∃ a, x = .ok a ∧ b = f a := by
  cases x with
  | error e => cases h
  | ok a => exact ⟨a, rfl, (Except.ok.inj h).symm⟩

section Traversals

variable {f : α → Except ε β} {xs : List α}

theorem mapM_cons_ok {x : α} {zs : List β} (h : (x :: xs).mapM f = .ok zs) :
    ∃ y ys, zs = y :: ys ∧ f x = .ok y ∧ xs.mapM f = .ok ys := by
  rw [List.mapM_cons] at h
  obtain ⟨y, hx, h⟩ := bind_ok h
  obtain ⟨ys, hxs, h⟩ := bind_ok h
  exact ⟨y, ys, (Except.ok.inj h).symm, hx, hxs⟩

theorem mem_mapM_ok {ys : List β} (h : xs.mapM f = .ok ys) {y : β} (hy : y ∈ ys) :
    ∃ x ∈ xs, f x = .ok y := by
  induction xs generalizing ys with
  | nil =>
    cases h
    exact absurd hy List.not_mem_nil
  | cons x xs ih =>
    obtain ⟨z, zs, rfl, hx, hxs⟩ := mapM_cons_ok h
    rcases List.mem_cons.mp hy with rfl | hy
    · exact ⟨x, List.mem_cons_self, hx⟩
    · obtain ⟨w, hw, hwy⟩ := ih hxs hy
      exact ⟨w, List.mem_cons_of_mem x hw, hwy⟩

theorem mapM_ok_of_forall (h : ∀ x ∈ xs, ∃ y, f x = .ok y) : ∃ ys, xs.mapM f = .ok ys := by
  induction xs with
  | nil => exact ⟨[], rfl⟩
  | cons x xs ih =>
    obtain ⟨⟨y, hy⟩, hrest⟩ := List.forall_mem_cons.mp h
    obtain ⟨ys, hys⟩ := ih hrest
    exact ⟨y :: ys, by rw [List.mapM_cons, hy, hys]; rfl⟩

theorem getElem?_mapM_ok {ys : List β} (h : xs.mapM f = .ok ys) (i : Nat) :
    Option.Rel (fun x y => f x = .ok y) xs[i]? ys[i]? := by
  induction xs generalizing ys i with
  | nil =>
    cases h
    exact .none
  | cons x xs ih =>
    obtain ⟨y, ys, rfl, hx, hxs⟩ := mapM_cons_ok h
    cases i with
    | zero => exact .some hx
    | succ i => exact ih hxs i

theorem length_mapM_ok {ys : List β} (h : xs.mapM f = .ok ys) : ys.length = xs.length := by
  induction xs generalizing ys with
  | nil =>
    cases h
    rfl
  | cons x xs ih =>
    obtain ⟨y, ys, rfl, -, hxs⟩ := mapM_cons_ok h
    rw [List.length_cons, List.length_cons, ih hxs]

theorem mapM_eq_self {f : α → Except ε α} (h : ∀ x ∈ xs, f x = .ok x) : xs.mapM f = .ok xs := by
  induction xs with
  | nil => rfl
  | cons x xs ih =>
    obtain ⟨hx, hxs⟩ := List.forall_mem_cons.mp h
    rw [List.mapM_cons, hx, ih hxs]
    rfl

end Traversals
end Conform
