import Conform.Schema.Supplied
import Conform.Session.Boundary
import Conform.Session.Standard
import Conform.Proofs.Runs
import Conform.Proofs.Session.Actions

/-! The ways of admitting a value. They share one ruling, which is made by the test and, where the
test does not hold, by the description: the value is accepted, rejected with a message, or the
making of the ruling fails. Every entry point says the ruling in its own words. -/

namespace Conform
set_option autoImplicit false

inductive Ruling where
  | accepted
  | rejected (message : Value)
  | failed (fault : Fault)

namespace Schema

def ruling (env : Env) (s : Schema) (v : Value) : Ruling :=
  match (s.test env v).outcome with
  | .error f => .failed f
  | .ok true => .accepted
  | .ok false =>
    match (s.describe env v).outcome with
    | .error f => .failed f
    | .ok m => .rejected m

variable (env : Env) (s : Schema) (v : Value)

theorem ruling_accepted_iff : s.ruling env v = .accepted ↔ (s.test env v).outcome = .ok true := by
  unfold ruling
  split
  next h => simp [h]
  next h => simp [h]
  next h => split <;> simp [h]

theorem ruling_rejected_iff (m : Value) : s.ruling env v = .rejected m ↔
    (s.test env v).outcome = .ok false ∧ (s.describe env v).outcome = .ok m := by
  unfold ruling
  split
  next h => simp [h]
  next h => simp [h]
  next h => split <;> simp_all

theorem ruling_failed_iff (f : Fault) : s.ruling env v = .failed f ↔
    (s.test env v).outcome = .error f ∨
      (s.test env v).outcome = .ok false ∧ (s.describe env v).outcome = .error f := by
  unfold ruling
  split
  next h => simp [h]
  next h => simp [h]
  next h => split <;> simp_all

/-! ## Without a session -/

theorem parse_outcome : (s.parse env v).outcome =
    match s.ruling env v with
    | .accepted => .ok v
    | .rejected m => .error (.rejected m)
    | .failed f => .error (.fault f) := by
  unfold parse ruling
  rw [Run.outcome_bind, Run.outcome_mapError]
  cases (s.test env v).outcome with
  | error f => rfl
  | ok b =>
    cases b with
    | true => rfl
    | false =>
      change Run.outcome (_ >>= _) = _
      rw [Run.outcome_bind, Run.outcome_mapError]
      cases (s.describe env v).outcome <;> rfl

theorem tryParse_outcome : (s.tryParse env v).outcome =
    match s.ruling env v with
    | .accepted => .ok (.ok v)
    | .rejected m => .ok (.err (.ofRejection m (.str "")))
    | .failed f => .error f := by
  have h : (s.parseUnknown env v).outcome = _ := parse_outcome env s v
  simp only [tryParse, h]
  cases s.ruling env v <;> rfl

end Schema

/-! ## In a session -/

namespace Boundary
open Session

def announcement (b : Boundary) (m : Value) : Event := b.rejection (domainLogger "validation") m

/-- The error of a boundary; a name that is null leaves no trace in it. -/
def error (b : Boundary) (m : Value) : AppError where
  code := .validationGeneric
  message := m
  correlation := .fresh
  origin := b.origin
  metadata := AppError.namedEntries (if b.name.isNull then [] else [("boundary", b.name)])
  cause := none

theorem validation_eq_error (b : Boundary) (m : Value) :
    AppError.validation m b.origin [("boundary", b.name)] = b.error m := by
  unfold AppError.validation error
  cases hn : b.name.isNull <;> simp [hn]

section
variable [Facilities]

/-- What follows a rejection: settings, an event if they ask for one, and the error. -/
def report (b : Boundary) (m : Value) : Action Fault (Result AppError Value) := do
  let settings ← Session.settings
  if settings.logRejections then do
    let logger ← validationLogger
    emit (b.rejection logger m)
  pure (Result.validationError m b.origin [("boundary", b.name)])

variable (env : Env) (b : Boundary) (v : Value) (p : Session)

/-- A boundary makes its ruling first, for which it needs no session. -/
theorem parse_eq : b.parse env v =
    match b.schema.ruling env v with
    | .accepted => pure (.ok v)
    | .rejected m => b.report m
    | .failed f => Session.lift (.error f) := by
  unfold parse Schema.ruling
  cases (b.schema.test env v).outcome with
  | error f => rfl
  | ok accepted =>
    cases accepted with
    | true => rfl
    | false => cases (b.schema.describe env v).outcome <;> rfl

theorem parse_outcome : p.outcome (b.parse env v) =
    match b.schema.ruling env v with
    | .accepted => .ok (.ok v)
    | .rejected m => p.outcome (b.report m)
    | .failed f => .error f := by
  rw [parse_eq]
  cases b.schema.ruling env v <;> rfl

theorem parse_after : p.after (b.parse env v) =
    match b.schema.ruling env v with
    | .rejected m => p.after (b.report m)
    | _ => p := by
  rw [parse_eq]
  cases b.schema.ruling env v <;> rfl

theorem parseOrRaise_outcome : p.outcome (b.parseOrRaise env v) =
    match p.outcome (b.parse env v) with
    | .ok (.ok a) => .ok a
    | .ok (.err e) => .error (.rejected e.message)
    | .error f => .error (.fault f) := by
  unfold parseOrRaise
  rw [outcome_bind, outcome_adapt]
  cases p.outcome (b.parse env v) with
  | error f => rfl
  | ok r => cases r <;> rfl

theorem parseOrRaise_after : p.after (b.parseOrRaise env v) = p.after (b.parse env v) := by
  unfold parseOrRaise
  have hadapt : p.after ((b.parse env v).adapt Refusal.fault) = p.after (b.parse env v) := rfl
  cases ho : p.outcome ((b.parse env v).adapt Refusal.fault) with
  | error f => rw [after_bind_error ho, hadapt]
  | ok r =>
    rw [after_bind_ok ho, hadapt]
    cases r <;> rfl

theorem guard_of_split {β : Type} {function : Value → Arguments → Action Refusal β}
    {a rest : Arguments} (ha : a.split = .ok (v, rest)) :
    b.guard env function a = b.parseOrRaise env v >>= fun admitted => function admitted rest := by
  unfold guard
  rw [ha]
  rfl

theorem guard_of_unsplit {β : Type} {function : Value → Arguments → Action Refusal β}
    {a : Arguments} {f : Fault} (ha : a.split = .error f) :
    b.guard env function a = Session.lift (.error (.fault f)) := by
  unfold guard
  rw [ha]
  rfl

/-- With settings that load, a report is held up by its event alone. -/
theorem report_ok_iff {s : Settings} (hs : p.outcome settings = .ok s) (m : Value)
    (r : Result AppError Value) : p.outcome (b.report m) = .ok r ↔
      (s.logRejections = true → p.Records (b.announcement m)) ∧
        Result.validationError m b.origin [("boundary", b.name)] = r := by
  unfold report
  rw [outcome_bind, hs]
  change Session.outcome _ (if s.logRejections then _ else _) = _ ↔ _
  split
  next h =>
    have hq : RecordsLike ((p.after settings).after validationLogger) p :=
      (validationLogger_recordsLike _).trans (settings_recordsLike p)
    have he := emit_ok_iff ((p.after settings).after validationLogger) (b.announcement m)
    rw [hq.records] at he
    rw [outcome_bind, validationLogger_outcome]
    change Session.outcome _ (emit (b.announcement m) >>= _) = _ ↔ _
    rw [outcome_bind]
    cases hx : ((p.after settings).after validationLogger).outcome (emit (b.announcement m)) with
    | ok u =>
      have hr : p.Records (b.announcement m) := he.mp hx
      exact ⟨fun ho => ⟨fun _ => hr, Except.ok.inj ho⟩, fun ho => congrArg Except.ok ho.2⟩
    | error f =>
      have hr : ¬p.Records (b.announcement m) := fun hr => by simp [he.mpr hr] at hx
      exact ⟨nofun, fun ho => absurd (ho.1 h) hr⟩
  next h => simp [h, outcome_pure]

/-! ## Agreement -/

structure Answers where
  parse : Except Refusal Value
  parseUnknown : Except Refusal Value
  parseOrRaise : Except Refusal Value
  tryParse : Except Fault (Result AppError Value)
  boundary : Except Fault (Result AppError Value)

def answers : Answers where
  parse := (b.schema.parse env v).outcome
  parseUnknown := (b.schema.parseUnknown env v).outcome
  parseOrRaise := p.outcome (b.parseOrRaise env v)
  tryParse := (b.schema.tryParse env v).outcome
  boundary := p.outcome (b.parse env v)

theorem answers_accepted (h : b.schema.ruling env v = .accepted) :
    b.answers env v p = ⟨.ok v, .ok v, .ok v, .ok (.ok v), .ok (.ok v)⟩ := by
  simp only [answers, Schema.parseUnknown, Schema.parse_outcome, Schema.tryParse_outcome,
    parseOrRaise_outcome, parse_outcome, h]

theorem answers_failed {f : Fault} (h : b.schema.ruling env v = .failed f) :
    b.answers env v p =
      ⟨.error (.fault f), .error (.fault f), .error (.fault f), .error f, .error f⟩ := by
  simp only [answers, Schema.parseUnknown, Schema.parse_outcome, Schema.tryParse_outcome,
    parseOrRaise_outcome, parse_outcome, h]

theorem answers_rejected {m : Value} (h : b.schema.ruling env v = .rejected m)
    (hr : p.outcome (b.report m) = .ok (.err (b.error m))) :
    b.answers env v p = ⟨.error (.rejected m), .error (.rejected m), .error (.rejected m),
      .ok (.err (.ofRejection m (.str ""))), .ok (.err (b.error m))⟩ := by
  simp only [answers, Schema.parseUnknown, Schema.parse_outcome, Schema.tryParse_outcome,
    parseOrRaise_outcome, parse_outcome, h, hr]
  rfl

/-- All entry points agree: an accepted value comes back as it is, a rejection carries the same
message everywhere, and what fails in testing or describing fails in every one of them. -/
theorem entryPoints_agree :
    ((b.schema.test env v).outcome = .ok true →
      b.answers env v p = ⟨.ok v, .ok v, .ok v, .ok (.ok v), .ok (.ok v)⟩) ∧
    (∀ m s, (b.schema.test env v).outcome = .ok false →
      (b.schema.describe env v).outcome = .ok m → p.outcome settings = .ok s →
      (s.logRejections = true → p.Records (b.rejection (domainLogger "validation") m)) →
      b.answers env v p = ⟨.error (.rejected m), .error (.rejected m), .error (.rejected m),
        .ok (.err ⟨.validationGeneric, m, .fresh, .str "", AppError.namedEntries [], some m⟩),
        .ok (.err ⟨.validationGeneric, m, .fresh, b.origin,
          AppError.namedEntries (if b.name.isNull then [] else [("boundary", b.name)]), none⟩)⟩) ∧
    (∀ f, ((b.schema.test env v).outcome = .error f ∨
        (b.schema.test env v).outcome = .ok false ∧ (b.schema.describe env v).outcome = .error f) →
      b.answers env v p =
        ⟨.error (.fault f), .error (.fault f), .error (.fault f), .error f, .error f⟩) := by
  refine ⟨fun ht => ?_, fun m s ht hd hs hr => ?_, fun f hf => ?_⟩
  · exact b.answers_accepted env v p ((b.schema.ruling_accepted_iff env v).mpr ht)
  · have h : b.schema.ruling env v = .rejected m :=
      (b.schema.ruling_rejected_iff env v m).mpr ⟨ht, hd⟩
    have ho := (b.report_ok_iff p hs m _).mpr ⟨hr, rfl⟩
    rw [Result.validationError, validation_eq_error] at ho
    exact b.answers_rejected env v p h ho
  · exact b.answers_failed env v p ((b.schema.ruling_failed_iff env v f).mpr hf)

end

def evens (describe : String) : Boundary where
  schema := .union [.predicate (.named "even") (.named describe)]
  name := .str "numbers"
  origin := .str "ingress"

/-- One value that is accepted, one that is rejected, and one for which no description is made. -/
theorem entryPoints_agree_evens :
    (evens "const").answers Env.stock (.int 2) .initial =
      ⟨.ok (.int 2), .ok (.int 2), .ok (.int 2), .ok (.ok (.int 2)), .ok (.ok (.int 2))⟩ ∧
    (evens "const").answers Env.stock (.str "odd") .initial =
      (let m : Value := .str "Expected one of custom, got odd"
      ⟨.error (.rejected m), .error (.rejected m), .error (.rejected m),
        .ok (.err ⟨.validationGeneric, m, .fresh, .str "", AppError.namedEntries [], some m⟩),
        .ok (.err ⟨.validationGeneric, m, .fresh, .str "ingress",
          AppError.namedEntries [("boundary", .str "numbers")], none⟩)⟩) ∧
    (evens "raise").answers Env.stock (.str "odd") .initial =
      (let f : Fault := .complaint .runtime "no description"
      ⟨.error (.fault f), .error (.fault f), .error (.fault f), .error f, .error f⟩) := by
  have hs : Session.initial.outcome settings = .ok ⟨"INFO", false, true⟩ := rfl
  have hodd (describe : String) :
      ((evens describe).schema.test Env.stock (.str "odd")).outcome = .ok false := rfl
  refine ⟨?_, ?_, ?_⟩
  · exact (entryPoints_agree Env.stock (evens "const") (.int 2) .initial).1 rfl
  · exact (entryPoints_agree Env.stock (evens "const") (.str "odd") .initial).2.1 _ _
      (hodd "const") rfl hs fun _ => nofun
  · exact (entryPoints_agree Env.stock (evens "raise") (.str "odd") .initial).2.2 _
      (.inr ⟨hodd "raise", rfl⟩)

end Boundary
end Conform
