import Conform.Proofs.Runs

/-! Tests in turn. A walk that ends at the first true answer and one that ends at the first false
answer are the same walk, which goes on as long as the answers are `go`. What stands behind the item
that ends it has no part in it, and a walk over joined lists goes on to the second where the first
does not end it. -/

namespace Conform
set_option autoImplicit false

namespace Run

variable {ε α β : Type} {go : Bool} {p : α → Run ε Bool}

theorem bind_ite_go (go : Bool) (x : Run ε Bool) :
    (do let b ← x; if b = go then pure go else pure b) = x := by
  have h : (fun b : Bool => if b = go then pure go else pure b) = (pure : Bool → Run ε Bool) := by
    funext b
    by_cases hb : b = go
    · rw [if_pos hb, hb]
    · rw [if_neg hb]
  rw [h, bind_pure]

theorem inTurn_singleton (go : Bool) (p : α → Run ε Bool) (x : α) : inTurn go p [x] = p x :=
  bind_ite_go go (p x)

theorem guard_eq_inTurn (x y : Run ε Bool) :
    (do if ← x then y else pure false) = inTurn true id [x, y] := by
  rw [inTurn, inTurn_singleton]
  congr 1
  funext b
  cases b <;> rfl

/-! ## The item that ends a walk -/

theorem inTurn_cons_of_go {x : α} (h : (p x).outcome = .ok go) (xs : List α) :
    inTurn go p (x :: xs) =
      ⟨(inTurn go p xs).outcome, (p x).calls ++ (inTurn go p xs).calls⟩ := by
  rw [inTurn]
  refine Run.ext ?_ ?_
  · rw [outcome_bind, h]
    simp only [Except.bind, Bind.bind, if_true]
  · rw [calls_bind_ok h]
    simp only [if_true]

theorem inTurn_cons_of_stop {x : α} (h : (p x).outcome ≠ .ok go) (xs : List α) :
    inTurn go p (x :: xs) = p x := by
  rw [inTurn]
  cases ho : (p x).outcome with
  | error e =>
    refine Run.ext ?_ (calls_bind_error ho _)
    rw [outcome_bind, ho]
    rfl
  | ok b =>
    have hb : b ≠ go := fun hb => h (hb ▸ ho)
    refine Run.ext ?_ ?_
    · rw [outcome_bind, ho]
      simp only [Except.bind, Bind.bind, hb, if_false]
      rfl
    · rw [calls_bind_ok ho]
      simp only [hb, if_false]
      exact List.append_nil _

/-- Whether or not the walk comes as far as an item that ends it, it never goes beyond. -/
theorem inTurn_cut {x : α} (h : (p x).outcome ≠ .ok go) (before after : List α) :
    inTurn go p (before ++ x :: after) = inTurn go p (before ++ [x]) := by
  induction before with
  | nil => exact (inTurn_cons_of_stop h after).trans (inTurn_cons_of_stop h []).symm
  | cons y before ih => rw [List.cons_append, List.cons_append, inTurn, inTurn, ih]

theorem guard_passes_iff {x y : Run ε Bool} :
    (do if ← x then y else pure false).Passes ↔ x.Passes ∧ y.Passes := by
  rw [guard_eq_inTurn]
  by_cases h : x.outcome = .ok true
  · rw [inTurn_cons_of_go (p := id) h, inTurn_singleton]
    exact (and_iff_right h).symm
  · rw [inTurn_cons_of_stop (p := id) h]
    exact iff_of_false h fun hxy => h hxy.1

theorem inTurn_append_of_go {before : List α} (h : ∀ y ∈ before, (p y).outcome = .ok go)
    (rest : List α) : inTurn go p (before ++ rest) =
      ⟨(inTurn go p rest).outcome,
        (before.flatMap fun y => (p y).calls) ++ (inTurn go p rest).calls⟩ := by
  induction before with
  | nil => rfl
  | cons y before ih =>
    obtain ⟨hy, hbefore⟩ := List.forall_mem_cons.mp h
    rw [List.cons_append, inTurn_cons_of_go hy, ih hbefore, List.flatMap_cons, List.append_assoc]

/-- A test of a list asks the items in turn, each once, up to the first whose answer is not `go`;
the items behind such a one could be any others. -/
structure ShortCircuits (go : Bool) (p : α → Run ε Bool) (whole : List α → Run ε Bool) : Prop where
  cut : ∀ before x after, (p x).outcome ≠ .ok go →
    whole (before ++ x :: after) = whole (before ++ [x])
  stopped : ∀ before x, (∀ y ∈ before, (p y).outcome = .ok go) → (p x).outcome ≠ .ok go →
    whole (before ++ [x]) = ⟨(p x).outcome, (before ++ [x]).flatMap fun y => (p y).calls⟩
  exhausted : ∀ xs, (∀ x ∈ xs, (p x).outcome = .ok go) →
    whole xs = ⟨.ok go, xs.flatMap fun x => (p x).calls⟩

theorem shortCircuits_inTurn (go : Bool) (p : α → Run ε Bool) :
    ShortCircuits go p (inTurn go p) where
  cut before _ after hx := inTurn_cut hx before after
  stopped before x hbefore hx := by
    rw [inTurn_append_of_go hbefore, inTurn_singleton, List.flatMap_append, List.flatMap_singleton]
  exhausted xs h := by
    have hnil : inTurn go p [] = ⟨.ok go, []⟩ := rfl
    rw [← List.append_nil xs, inTurn_append_of_go h, hnil, List.append_nil, List.append_nil]

/-! ## Joined lists -/

end Run
end Conform
