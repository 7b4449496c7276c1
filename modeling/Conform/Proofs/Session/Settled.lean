import Conform.Proofs.Schema.Decision
import Conform.Proofs.Schema.Explanation
import Conform.Proofs.Session.EntryPoints

/-! Values that a schema settles: those that belong to it, and those of which it can explain why
they do not. Main statement: for a schema that asks nothing supplied, the entry points come to an
end on exactly these values. On any other value a fault passes through all of them, and with
built-in values this is an integer that is too long to be written. -/

namespace Conform
set_option autoImplicit false

namespace Schema

/-- The value belongs to the schema, or the schema can explain why it does not. -/
def Settles (given : Callback → Value → Prop) (s : Schema) (v : Value) : Prop :=
  s.HoldsOf given v ∨ s.Explains v

variable {given : Callback → Value → Prop} {s : Schema}

theorem ruling_cases (env : Env) (given : Callback → Value → Prop) (hs : s.StandsAlone)
    (v : Value) :
    (s.HoldsOf given v ∧ s.ruling env v = .accepted) ∨
    (¬s.HoldsOf given v ∧ s.Explains v ∧ ∃ m, s.ruling env v = .rejected m) ∨
    (¬s.Settles given v ∧ ∃ f, s.ruling env v = .failed f ∧
      DigitsOnly (v.BuiltIn ∧ s.StoresBuiltIn) f) := by
  have ht : (s.test env v).Decides (s.HoldsOf given v) :=
    test_decides (fun _ h => h.elim) hs.testsAlone v
  obtain ⟨b, hb, hp⟩ := ht
  cases b with
  | true => exact .inl ⟨hp.mp rfl, (s.ruling_accepted_iff env v).mpr hb⟩
  | false =>
    have hn : ¬s.HoldsOf given v := fun h => Bool.false_ne_true (hp.mpr h)
    rcases describe_ends env hs v with ⟨he, m, hm, -⟩ | ⟨he, f, hf, hd⟩
    · exact .inr (.inl ⟨hn, he, m, (s.ruling_rejected_iff env v m).mpr ⟨hb, hm⟩⟩)
    · exact .inr (.inr ⟨fun h => h.elim hn he, f,
        (s.ruling_failed_iff env v f).mpr (.inr ⟨hb, hf⟩), hd⟩)

theorem settles_iff (env : Env) (given : Callback → Value → Prop) (hs : s.StandsAlone) (v : Value) :
    s.Settles given v ↔ ∀ f, s.ruling env v ≠ .failed f := by
  rcases ruling_cases env given hs v with ⟨h, hr⟩ | ⟨-, h, m, hr⟩ | ⟨h, f, hr, -⟩
  · simp [Settles, h, hr]
  · simp [Settles, h, hr]
  · simp [h, hr]

/-- With built-in values alone, what is not settled fails by its digits. -/
theorem ruling_of_not_settles (env : Env) (hs : s.StandsAlone) {v : Value}
    (hb : v.BuiltIn ∧ s.StoresBuiltIn) (h : ¬s.Settles given v) :
    s.ruling env v = .failed .tooManyDigits := by
  rcases ruling_cases env given hs v with ⟨hv, -⟩ | ⟨-, he, -⟩ | ⟨-, f, hr, hf⟩
  · exact absurd (.inl hv) h
  · exact absurd (.inr he) h
  · rw [hr, hf hb]

/-! ## Entry points -/

theorem tryParse_returns_iff (env : Env) (hs : s.StandsAlone) (v : Value) :
    (∃ r, (s.tryParse env v).outcome = .ok r) ↔ s.Settles given v := by
  rw [settles_iff env given hs, tryParse_outcome]
  cases s.ruling env v <;> simp

theorem parse_returns_iff (env : Env) (hs : s.StandsAlone) (v : Value) :
    ((s.parse env v).outcome = .ok v ∨ ∃ m, (s.parse env v).outcome = .error (.rejected m)) ↔
      s.Settles given v := by
  rw [settles_iff env given hs, parse_outcome]
  cases s.ruling env v <;> simp

/-- In a boundary the event of a rejection has to be taken, too. -/
theorem boundary_returns_iff [Facilities] (env : Env) {b : Boundary} (hs : b.schema.StandsAlone)
    (v : Value) {p : Session} {settings : Settings}
    (hp : p.outcome Session.settings = .ok settings) :
    (∃ r, p.outcome (b.parse env v) = .ok r) ↔ b.schema.HoldsOf given v ∨
      b.schema.Explains v ∧ (settings.logRejections = true →
        ∀ m, (b.schema.describe env v).outcome = .ok m → p.Records (b.announcement m)) := by
  rw [Boundary.parse_outcome]
  rcases ruling_cases env given hs v with ⟨h, hr⟩ | ⟨h, he, m, hr⟩ | ⟨h, f, hr, -⟩
  · simp [h, hr]
  · have hm := ((b.schema.ruling_rejected_iff env v m).mp hr).2
    simp [h, he, hr, hm, b.report_ok_iff p hp]
  · have hn : ¬b.schema.HoldsOf given v ∧ ¬b.schema.Explains v := not_or.mp h
    simp [hn.1, hn.2, hr]

/-- A schema that asks nothing supplied leads every entry point to an end exactly on the values that
it settles; on other values, if all is built in, each of them fails by an integer with too many
digits. -/
theorem returns_iff_settles [Facilities] (env : Env) (given : Callback → Value → Prop)
    (hs : s.StandsAlone) (v : Value) :
    ((∃ r, (s.tryParse env v).outcome = .ok r) ↔ s.Settles given v) ∧
    (((s.parse env v).outcome = .ok v ∨ ∃ m, (s.parse env v).outcome = .error (.rejected m)) ↔
      s.Settles given v) ∧
    (∀ (name origin : Value) (p : Session) (settings : Settings),
      p.outcome Session.settings = .ok settings →
      ((∃ r, p.outcome (Boundary.parse env ⟨s, name, origin⟩ v) = .ok r) ↔ s.HoldsOf given v ∨
        s.Explains v ∧ (settings.logRejections = true → ∀ m, (s.describe env v).outcome = .ok m →
          p.Records (Boundary.announcement ⟨s, name, origin⟩ m)))) ∧
    (v.BuiltIn ∧ s.StoresBuiltIn → ¬s.Settles given v →
      (s.tryParse env v).outcome = .error .tooManyDigits ∧
      (s.parse env v).outcome = .error (.fault .tooManyDigits) ∧
      ∀ (name origin : Value) (p : Session),
        p.outcome (Boundary.parse env ⟨s, name, origin⟩ v) = .error .tooManyDigits) := by
  refine ⟨tryParse_returns_iff env hs v, parse_returns_iff env hs v,
    fun name origin p settings hp => ?_, fun hb h => ?_⟩
  · exact boundary_returns_iff env hs v hp
  · have hr : s.ruling env v = .failed .tooManyDigits := ruling_of_not_settles env hs hb h
    simp only [tryParse_outcome, parse_outcome, Boundary.parse_outcome, hr, implies_true, and_self]

/-! ## An integer that is too long -/

/-- The smallest integer that cannot be written. -/
def long : Value := .int integerLimit

theorem not_hasText_long : ¬long.HasText := by
  rintro ⟨h⟩
  have hlt : (integerLimit : Int).natAbs < integerLimit := h
  rw [Int.natAbs_natCast] at hlt
  exact Nat.lt_irrefl integerLimit hlt

theorem long_ne_one : ¬((integerLimit : Int) = 1) := by
  intro h
  have hone : integerLimit = 1 := Int.ofNat_inj.mp h
  have hpow (k : Nat) (hk : k ≠ 0) : 1 < Nat.pow 10 k := Nat.one_lt_pow hk (by decide)
  have hlt : 1 < integerLimit := by
    unfold integerLimit
    exact hpow digitLimit (by decide)
  rw [hone] at hlt
  exact Nat.lt_irrefl 1 hlt

theorem one_standsAlone : (literal (.int 1)).StandsAlone := .ofParts trivial (by simp [parts])

theorem not_settles_long (given : Callback → Value → Prop) :
    ¬(literal (.int 1)).Settles given long := by
  rintro (h | h)
  · rw [holdsOf_literal, long, Value.strictEquals_int, decide_eq_true_eq] at h
    exact long_ne_one h
  · exact not_hasText_long (explains_literal.mp h).2

theorem one_storesBuiltIn : (literal (.int 1)).StoresBuiltIn :=
  .ofParts (by simpa [stored] using Value.BuiltIn.atom) (by simp [parts])

/-- An array is described by its kind alone, so that a long integer in it does no harm; by itself it
fails everywhere. -/
theorem returns_iff_settles_long :
    (array (literal (.int 1))).StandsAlone ∧
      (∃ r, ((array (literal (.int 1))).tryParse Env.stock (.list 0 [long])).outcome = .ok r) ∧
      Session.initial.outcome Session.settings = .ok ⟨"INFO", false, true⟩ ∧
      (∃ r, Session.initial.outcome (Boundary.parse Env.stock
        ⟨array (literal (.int 1)), .str "numbers", .str "ingress"⟩ (.list 0 [long])) = .ok r) ∧
      (literal (.int 1)).StandsAlone ∧ (long.BuiltIn ∧ (literal (.int 1)).StoresBuiltIn) ∧
      ((literal (.int 1)).parse Env.stock long).outcome = .error (.fault .tooManyDigits) := by
  have hs : (array (literal (.int 1))).StandsAlone :=
    .ofParts trivial (by simpa only [parts, List.mem_singleton, forall_eq] using! one_standsAlone)
  have hb : long.BuiltIn ∧ (literal (.int 1)).StoresBuiltIn := ⟨.atom, one_storesBuiltIn⟩
  obtain ⟨htry, -, hboundary, -⟩ :=
    returns_iff_settles Env.stock (fun _ _ => False) hs (.list 0 [long])
  obtain ⟨-, -, -, hlong⟩ := returns_iff_settles Env.stock (fun _ _ => False) one_standsAlone long
  refine ⟨hs, htry.mpr (.inr .array), rfl, ?_, one_standsAlone, hb, ?_⟩
  · exact (hboundary _ _ _ _ rfl).mpr (.inr ⟨.array, fun _ _ _ h => absurd h Bool.false_ne_true⟩)
  · exact (hlong hb (not_settles_long _)).2.1

/-- To parse without raising is more than can be done with a long integer. -/
theorem tryParse_long : (literal (.int 1)).StandsAlone ∧ long.BuiltIn ∧
    (literal (.int 1)).StoresBuiltIn ∧
    ((literal (.int 1)).tryParse Env.stock long).outcome = .error .tooManyDigits := by
  have hr : (literal (.int 1)).ruling Env.stock long = .failed .tooManyDigits :=
    ruling_of_not_settles Env.stock one_standsAlone ⟨.atom, one_storesBuiltIn⟩
      (not_settles_long fun _ _ => False)
  refine ⟨one_standsAlone, .atom, one_storesBuiltIn, ?_⟩
  rw [tryParse_outcome, hr]

end Schema
end Conform
