import Conform.Proofs.Session.EntryPoints

/-! Guarded functions. A guard hands an accepted value and the other arguments on as they are; after
any other ruling the function has no part in what happens. Guards may stand before guards: each of
them comes to its ruling only if those before it accept. The first argument of a guard has a name,
so that a call with an argument of the same name never gets as far as a ruling. -/

namespace Conform
set_option autoImplicit false

/-! ## Arguments -/

namespace Arguments

def cons (v : Value) (a : Arguments) : Arguments := ⟨v :: a.positional, a.named⟩

/-- No argument bears the name that guards give to the first one. -/
def Free (a : Arguments) : Prop := ∀ entry ∈ a.named, entry.1 ≠ guarded

instance (a : Arguments) : Decidable a.Free := inferInstanceAs (Decidable (∀ entry ∈ a.named, _))

variable {a : Arguments}

theorem free_iff : a.Free ↔ a.named.find? (fun entry => entry.1 = guarded) = none := by
  simp [Free]

theorem split_cons (h : a.Free) (v : Value) : (a.cons v).split = .ok (v, a) := by
  simp only [split, cons, free_iff.mp h]

theorem split_clash (h : ¬a.Free) (v : Value) : (a.cons v).split = .error .mismatch := by
  rw [free_iff, ← ne_eq, Option.ne_none_iff_exists'] at h
  obtain ⟨entry, he⟩ := h
  simp only [split, cons, he]

end Arguments

/-! ## Actions that never succeed -/

theorem Session.bind_of_never_ok {ε α β : Type} {x : Action ε α}
    (h : ∀ p a, Session.outcome p x ≠ .ok a) (f g : α → Action ε β) : (x >>= f) = (x >>= g) := by
  funext p
  change (x >>= f).run p = (x >>= g).run p
  rw [run_bind, run_bind]
  have hp := h p
  unfold outcome at hp
  rcases hx : x.run p with ⟨e | a, q⟩
  · rfl
  · exact absurd (congrArg Prod.fst hx) (hp a)

namespace Boundary
open Session

section
variable [Facilities] {β : Type} {env : Env} {b : Boundary} {v : Value} {a : Arguments}

/-! ## Admission -/

theorem parseOrRaise_accepted (h : b.schema.ruling env v = .accepted) :
    b.parseOrRaise env v = pure v := by
  unfold parseOrRaise
  rw [parse_eq, h]
  rfl

theorem parseOrRaise_failed {e : Fault} (h : b.schema.ruling env v = .failed e) :
    b.parseOrRaise env v = lift (.error (.fault e)) := by
  unfold parseOrRaise
  rw [parse_eq, h]
  rfl

theorem report_error {p : Session} {m : Value} {r : Result AppError Value}
    (h : p.outcome (b.report m) = .ok r) :
    r = Result.validationError m b.origin [("boundary", b.name)] := by
  cases hs : p.outcome settings with
  | ok s => exact ((b.report_ok_iff p hs m r).mp h).2.symm
  | error f =>
    -- without settings a report does not come to its end
    unfold report at h
    rw [outcome_bind, hs] at h
    cases h

theorem parseOrRaise_rejected {m : Value} (h : b.schema.ruling env v = .rejected m) (p : Session) :
    p.outcome (b.parseOrRaise env v) =
      (p.outcome (b.report m)).mapError Refusal.fault >>= fun _ => .error (.rejected m) := by
  have hparse : p.outcome (b.parse env v) = p.outcome (b.report m) := by rw [parse_outcome, h]
  rw [parseOrRaise_outcome, hparse]
  cases ho : p.outcome (b.report m) with
  | error f => rfl
  | ok r =>
    rw [report_error ho]
    rfl

theorem parseOrRaise_never_ok (h : b.schema.ruling env v ≠ .accepted) (p : Session) (w : Value) :
    p.outcome (b.parseOrRaise env v) ≠ .ok w := by
  cases hr : b.schema.ruling env v with
  | accepted => exact absurd hr h
  | rejected m =>
    rw [parseOrRaise_rejected hr]
    cases p.outcome (b.report m) <;> nofun
  | failed e =>
    rw [parseOrRaise_failed hr]
    nofun

/-! ## One guard -/

variable {f : Value → Arguments → Action Refusal β}

theorem guard_cons (ha : a.Free) :
    b.guard env f (a.cons v) = b.parseOrRaise env v >>= fun w => f w a :=
  guard_of_split env b v (a.split_cons ha v)

theorem guard_clash (ha : ¬a.Free) :
    b.guard env f (a.cons v) = lift (.error (.fault .mismatch)) :=
  guard_of_unsplit env b (a.split_clash ha v)

theorem guard_accepted (ha : a.Free) (h : b.schema.ruling env v = .accepted) :
    b.guard env f (a.cons v) = f v a := by
  rw [guard_cons ha, parseOrRaise_accepted h]
  rfl

theorem guard_failed (ha : a.Free) {e : Fault} (h : b.schema.ruling env v = .failed e) :
    b.guard env f (a.cons v) = lift (.error (.fault e)) := by
  rw [guard_cons ha, parseOrRaise_failed h]
  rfl

theorem guard_unused (ha : a.Free) (h : b.schema.ruling env v ≠ .accepted)
    (g : Value → Arguments → Action Refusal β) :
    b.guard env f (a.cons v) = b.guard env g (a.cons v) := by
  rw [guard_cons ha, guard_cons ha]
  exact bind_of_never_ok (parseOrRaise_never_ok h) _ _

theorem guard_never_ok (ha : a.Free) (h : b.schema.ruling env v ≠ .accepted) (p : Session) (w : β) :
    p.outcome (b.guard env f (a.cons v)) ≠ .ok w := by
  rw [guard_cons ha, outcome_bind]
  cases ho : p.outcome (b.parseOrRaise env v) with
  | ok u => exact absurd ho (parseOrRaise_never_ok h p u)
  | error e => nofun

theorem guard_rejected_after (ha : a.Free) {m : Value} (h : b.schema.ruling env v = .rejected m)
    (p : Session) : p.after (b.guard env f (a.cons v)) = p.after (b.report m) := by
  have hafter : p.after (b.parseOrRaise env v) = p.after (b.report m) := by
    rw [parseOrRaise_after, parse_after, h]
  rw [guard_cons ha]
  cases ho : p.outcome (b.parseOrRaise env v) with
  | ok w => exact absurd ho (parseOrRaise_never_ok (by simp [h]) p w)
  | error e => rw [after_bind_error ho, hafter]

/-- With settings that load, a rejection is told unless its event is due and cannot be made. -/
theorem guard_rejected_iff (ha : a.Free) {m : Value} (h : b.schema.ruling env v = .rejected m)
    {p : Session} {s : Settings} (hs : p.outcome settings = .ok s) :
    p.outcome (b.guard env f (a.cons v)) = .error (.rejected m) ↔
      (s.logRejections = true → p.Records (b.announcement m)) := by
  rw [guard_cons ha, outcome_bind, parseOrRaise_rejected h]
  cases ho : p.outcome (b.report m) with
  | ok r => exact iff_of_true rfl ((b.report_ok_iff p hs m r).mp ho).1
  | error e =>
    refine iff_of_false nofun fun hr => ?_
    rw [(b.report_ok_iff p hs m _).mpr ⟨hr, rfl⟩] at ho
    cases ho

/-! ## Guards before guards -/

/-- A function behind guards, of which the first one in the list is called first. -/
def stack (env : Env) (f : Value → Arguments → Action Refusal β) :
    List Boundary → Value → Arguments → Action Refusal β
  | [], v, a => f v a
  | b :: bs, v, a => b.guard env (stack env f bs) (a.cons v)

theorem stack_accepted (ha : a.Free) {bs : List Boundary}
    (h : ∀ b ∈ bs, b.schema.ruling env v = .accepted) (rest : List Boundary) :
    stack env f (bs ++ rest) v a = stack env f rest v a := by
  induction bs with
  | nil => rfl
  | cons b bs ih =>
    obtain ⟨hb, hbs⟩ := List.forall_mem_cons.mp h
    rw [List.cons_append, stack, guard_accepted ha hb, ih hbs]

/-- The guards up to the first that does not accept make out the whole. -/
theorem stack_stops (ha : a.Free) {pre : List Boundary}
    (hpre : ∀ c ∈ pre, c.schema.ruling env v = .accepted) (h : b.schema.ruling env v ≠ .accepted)
    (post : List Boundary) (g : Value → Arguments → Action Refusal β) :
    stack env f (pre ++ b :: post) v a = b.guard env g (a.cons v) := by
  rw [stack_accepted ha hpre, stack, guard_unused ha h g]

theorem stack_refused (ha : a.Free) {bs : List Boundary}
    (h : ¬∀ b ∈ bs, b.schema.ruling env v = .accepted) :
    (∀ g, stack env g bs v a = stack env f bs v a) ∧
      ∀ p w, outcome p (stack env f bs v a) ≠ .ok w := by
  induction bs with
  | nil => exact absurd (fun _ hb => nomatch hb) h
  | cons b bs ih =>
    by_cases hb : b.schema.ruling env v = .accepted
    -- a guard that accepts falls away on both sides, so that some later one must not
    · have hbs : ¬∀ c ∈ bs, c.schema.ruling env v = .accepted :=
        fun hbs => h (List.forall_mem_cons.mpr ⟨hb, hbs⟩)
      simp only [stack, guard_accepted ha hb]
      exact ih hbs
    · exact ⟨fun g => guard_unused ha hb _, guard_never_ok ha hb⟩

/-- Guards before a function, whatever their schemas, names and origins. Unless an argument bears
the name that guards give to the first one, the function is called as if there were no guards when
all accept the value, and otherwise it is not called at all: what comes of the call is up to the
first one that does not accept. With an argument of that name no call gets as far as a test. -/
theorem stack_guards (env : Env) (f : Value → Arguments → Action Refusal β) (bs : List Boundary)
    (v : Value) (a : Arguments) :
    (a.Free →
      ((∀ b ∈ bs, (b.schema.test env v).outcome = .ok true) → stack env f bs v a = f v a) ∧
      ((¬∀ b ∈ bs, (b.schema.test env v).outcome = .ok true) →
        (∀ g, stack env g bs v a = stack env f bs v a) ∧
          ∀ p w, outcome p (stack env f bs v a) ≠ .ok w) ∧
      ∀ pre b post, bs = pre ++ b :: post →
        (∀ c ∈ pre, (c.schema.test env v).outcome = .ok true) →
        (∀ m, (b.schema.test env v).outcome = .ok false →
          (b.schema.describe env v).outcome = .ok m →
          ∀ (p : Session) s, p.outcome settings = .ok s →
            (p.outcome (stack env f bs v a) = .error (.rejected m) ↔
              (s.logRejections = true → p.Records (b.announcement m))) ∧
            p.after (stack env f bs v a) = p.after (b.report m)) ∧
        ∀ e, ((b.schema.test env v).outcome = .error e ∨
            (b.schema.test env v).outcome = .ok false ∧
              (b.schema.describe env v).outcome = .error e) →
          stack env f bs v a = lift (.error (.fault e))) ∧
    (¬a.Free → bs ≠ [] → stack env f bs v a = lift (.error (.fault .mismatch))) := by
  simp only [← Schema.ruling_accepted_iff, ← Schema.ruling_failed_iff]
  refine ⟨fun ha => ⟨fun h => ?_, stack_refused ha, fun pre b post hbs hpre =>
    ⟨?_, fun e he => ?_⟩⟩, fun ha hne => ?_⟩
  · rw [← bs.append_nil, stack_accepted ha h]
    rfl
  · intro m ht hd p s hs
    have hm : b.schema.ruling env v = .rejected m :=
      (b.schema.ruling_rejected_iff env v m).mpr ⟨ht, hd⟩
    have hb : b.schema.ruling env v ≠ .accepted := by simp [hm]
    rw [hbs, stack_stops ha hpre hb post f]
    exact ⟨guard_rejected_iff ha hm hs, guard_rejected_after ha hm p⟩
  · rw [hbs, stack_stops ha hpre (by simp [he]) post f, guard_failed ha he]
  · obtain ⟨b, bs, rfl⟩ := List.exists_cons_of_ne_nil hne
    rw [stack, guard_clash ha]

end

/-- The function that gives back what it was called with. -/
def echo (v : Value) (a : Arguments) : Action Refusal (Value × Arguments) := pure (v, a)

def texts : Boundary := ⟨.kind "string", .str "echo", .str "call"⟩

/-- Whatever has a length other than zero. -/
def filled (describe : String) : Boundary :=
  ⟨.predicate (.named "len") (.named describe), .str "filled", .str "call"⟩

/-- A call that passes two guards, two that the second one rejects or fails on, and one with an
argument of the guards' own name. -/
theorem stack_guards_texts :
    let bs : List Boundary := [texts, filled "const"]
    let a : Arguments := ⟨[.int 1], [("key", .int 0)]⟩
    stack Env.stock echo bs (.str "x") a = pure (.str "x", a) ∧
      Session.initial.outcome (stack Env.stock echo bs (.str "") a) =
        .error (.rejected (.str "custom")) ∧
      stack Env.stock echo [texts, filled "raise", filled "const"] (.str "") a =
        lift (.error (.fault (.complaint .runtime "no description"))) ∧
      (∀ g, stack Env.stock g bs (.str "") a = stack Env.stock echo bs (.str "") a) ∧
      stack Env.stock echo bs (.str "x") ⟨[], [("value", .int 0)]⟩ =
        lift (.error (.fault .mismatch)) := by
  intro bs a
  have ha : a.Free := by decide
  have htexts (t : String) : (texts.schema.test Env.stock (.str t)).outcome = .ok true := rfl
  have hempty (describe : String) :
      ((filled describe).schema.test Env.stock (.str "")).outcome = .ok false := rfl
  have hs : Session.initial.outcome settings = .ok ⟨"INFO", false, true⟩ := rfl
  have hpre : ∀ c ∈ [texts], (c.schema.test Env.stock (.str "")).outcome = .ok true := by
    simpa using htexts ""
  refine ⟨?_, ?_, ?_, ?_, ?_⟩
  · refine ((stack_guards Env.stock echo bs (.str "x") a).1 ha).1 fun b hb => ?_
    obtain rfl | rfl : b = texts ∨ b = filled "const" := by simpa [bs] using hb
    · exact htexts "x"
    · rfl
  · exact ((((stack_guards Env.stock echo bs (.str "") a).1 ha).2.2 [texts] (filled "const") []
      rfl hpre).1 _ (hempty "const") rfl .initial _ hs).1.mpr fun _ => nofun
  · exact (((stack_guards Env.stock echo _ (.str "") a).1 ha).2.2 [texts] (filled "raise")
      [filled "const"] rfl hpre).2 _ (.inr ⟨hempty "raise", rfl⟩)
  · refine (((stack_guards Env.stock echo bs (.str "") a).1 ha).2.1 fun h => ?_).1
    cases h (filled "const") (by simp [bs])
  · exact (stack_guards Env.stock echo bs (.str "x") _).2 (by decide) nofun

/-- The guard accepts the text, and yet the function is not called. -/
theorem guard_texts_clash :
    let a : Arguments := ⟨[], [("value", .int 1)]⟩
    (texts.schema.test Env.stock (.str "x")).outcome = .ok true ∧
      Session.initial.outcome settings = .ok ⟨"INFO", false, true⟩ ∧
      Session.initial.outcome (echo (.str "x") a) = .ok (.str "x", a) ∧
      Session.initial.outcome (texts.guard Env.stock echo (a.cons (.str "x"))) =
        .error (.fault .mismatch) :=
  ⟨rfl, rfl, rfl, rfl⟩

end Boundary
end Conform
