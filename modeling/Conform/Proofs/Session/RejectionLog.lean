import Conform.Proofs.Session.EntryPoints
import Conform.Proofs.Session.Ledger

/-! The log of rejections over runs of a session. An operation that takes a value through a boundary
notes one event if the value is rejected by settings that ask for it; every other operation of the
library notes none. Main statement: what each operation does to the ledger, and that after any run
the events of the validation logger are the rejections that were made while logging was on, in
order. -/

namespace Conform
set_option autoImplicit false

/-- The event of a rejection that is made while logging is on. -/
def Boundary.rejection? [Facilities] (env : Env) (b : Boundary) (v : Value) (p : Session) :
    Option Event :=
  match b.schema.ruling env v, p.outcome Session.settings with
  | .rejected m, .ok s => if s.logRejections then some (b.announcement m) else none
  | _, _ => none

/-! ## Operations -/

/-- What can be done to a session. The function behind a guard may do anything that leaves the
ledger alone, and so may a logger other than that for validation. -/
inductive Operation where
  | parse (s : Schema) (v : Value)
  | parseUnknown (s : Schema) (v : Value)
  | tryParse (s : Schema) (v : Value)
  | boundary (b : Boundary) (v : Value)
  | boundaryOrRaise (b : Boundary) (v : Value)
  | guarded (b : Boundary) (function : Value → Arguments → Action Refusal Value)
      (keeps : ∀ v rest, Session.Keeps (function v rest)) (a : Arguments)
  | surround (s : Surroundings)
  | clearSettings
  | settings
  | configure (level jsonLogs : Value)
  | configureFromSettings
  | bindContext (fields : Entries)
  | clearContext
  | register (name : String)
  | log (logger : String) (other : logger ≠ Session.domainLogger "validation")
      (severity : Severity) (template : Value) (arguments : List Value) (fields : Entries)
  | logPlain (logger : String) (severity : Severity) (template : Value) (arguments : List Value)
      (fields : Entries)

namespace Operation

variable [Facilities]

/-- The session after the operation, whether that succeeded or not. -/
def step (env : Env) : Operation → Session → Session
  | parse s v, p => p.after (Session.lift (s.parse env v).outcome)
  | parseUnknown s v, p => p.after (Session.lift (s.parseUnknown env v).outcome)
  | tryParse s v, p => p.after (Session.lift (s.tryParse env v).outcome)
  | boundary b v, p => p.after (b.parse env v)
  | boundaryOrRaise b v, p => p.after (b.parseOrRaise env v)
  | guarded b function _ a, p => p.after (b.guard env function a)
  | surround s, p => { p with surroundings := s }
  | clearSettings, p => p.clearSettings
  | settings, p => p.after Session.settings
  | configure level jsonLogs, p => p.after (Session.configureWith level jsonLogs)
  | configureFromSettings, p => p.after Session.configureFromSettings
  | bindContext fields, p => p.bindContext fields
  | clearContext, p => p.clearContext
  | register name, p => p.register name
  | log logger _ severity template arguments fields, p =>
    p.after (Session.log logger severity template arguments fields)
  | logPlain logger severity template arguments fields, p =>
    p.logPlain logger severity template arguments fields

def run (env : Env) (ops : List Operation) (p : Session) : Session :=
  ops.foldl (fun p op => op.step env p) p

/-- The boundary that the operation goes through, and the value. -/
def admits? : Operation → Option (Boundary × Value)
  | boundary b v | boundaryOrRaise b v => some (b, v)
  | guarded b _ _ a =>
    match a.split with
    | .ok (v, _) => some (b, v)
    | .error _ => none
  | _ => none

def rejection? (env : Env) (op : Operation) (p : Session) : Option Event :=
  op.admits?.bind fun admitted => admitted.1.rejection? env admitted.2 p

def rejections (env : Env) : List Operation → Session → List Event
  | [], _ => []
  | op :: ops, p => (op.rejection? env p).toList ++ rejections env ops (op.step env p)

end Operation

/-! ## Boundaries -/

namespace Boundary
open Session

theorem announcement_isValidation (b : Boundary) (m : Value) :
    isValidation (b.announcement m) = true := rfl

variable [Facilities] (env : Env) (b : Boundary) (v : Value) (p : Session)

theorem report_ledger (m : Value) : (p.after (b.report m)).ledger =
    match p.outcome settings with
    | .error _ => p.ledger
    | .ok s => if s.logRejections then (p.ledger.reading s).noting (b.announcement m)
        else p.ledger.reading s := by
  have hread := settings_ledger p
  unfold report
  cases hs : p.outcome settings with
  | error f =>
    simp only [hs] at hread
    rw [after_bind_error hs, hread]
  | ok s =>
    simp only [hs] at hread
    rw [after_bind_ok hs]
    cases hl : s.logRejections with
    | false =>
      simp only [hl, Bool.false_eq_true, if_false]
      exact hread
    | true =>
      -- the event is noted once the settings are in the ledger
      have hnote := note_ledger (p.after settings) (b.announcement_isValidation m)
      rw [hread, after_bind_ok (validationLogger_outcome _)] at hnote
      simp only [hl, if_true]
      rw [after_bind_ok (validationLogger_outcome _), ← hnote]
      exact ledger_bind (fun _ => keeps_pure _) _ _

theorem parse_ledger : (p.after (b.parse env v)).ledger =
    match b.schema.ruling env v, p.outcome settings with
    | .rejected m, .ok s => if s.logRejections then (p.ledger.reading s).noting (b.announcement m)
        else p.ledger.reading s
    | _, _ => p.ledger := by
  rw [parse_after]
  cases b.schema.ruling env v with
  | accepted => rfl
  | failed f => rfl
  | rejected m =>
    have h := b.report_ledger p m
    rw [h]
    cases p.outcome settings <;> rfl

theorem parse_events : (p.after (b.parse env v)).ledger.events =
    p.ledger.events ++ (b.rejection? env v p).toList := by
  rw [parse_ledger, rejection?]
  cases b.schema.ruling env v with
  | accepted => simp
  | failed f => simp
  | rejected m =>
    cases p.outcome settings with
    | error f => simp
    | ok s =>
      cases hl : s.logRejections with
      | false => simp [hl, Ledger.reading]
      | true => simp [hl, Ledger.reading, Ledger.noting]

theorem rejection_of_some {e : Event} (h : b.rejection? env v p = some e) :
    ∃ m, b.schema.ruling env v = .rejected m ∧ e = b.announcement m := by
  unfold rejection? at h
  split at h
  next m s hr hs =>
    split at h
    next => exact ⟨m, hr, (Option.some.inj h).symm⟩
    next => cases h
  next => cases h

theorem guard_ledger {function : Value → Arguments → Action Refusal Value}
    (hf : ∀ v rest, Keeps (function v rest)) {a : Arguments} {rest : Arguments}
    (ha : a.split = .ok (v, rest)) :
    (p.after (b.guard env function a)).ledger = (p.after (b.parse env v)).ledger := by
  rw [guard_of_split env b v ha, ledger_bind fun admitted => hf admitted rest, parseOrRaise_after]

theorem guard_unfit {function : Value → Arguments → Action Refusal Value} {a : Arguments}
    {f : Fault} (ha : a.split = .error f) : p.after (b.guard env function a) = p := by
  rw [guard_of_unsplit env b ha, after_lift]

end Boundary

/-! ## Steps and runs -/

namespace Operation
open Session

section
variable [Facilities] (env : Env) (op : Operation) (p : Session)

theorem step_ledger_of_admits {b : Boundary} {v : Value} (h : op.admits? = some (b, v)) :
    (op.step env p).ledger = (p.after (b.parse env v)).ledger := by
  cases op with
  | boundary c w =>
    cases h
    rfl
  | boundaryOrRaise c w =>
    cases h
    exact congrArg Session.ledger (b.parseOrRaise_after env v p)
  | guarded c function keeps a =>
    simp only [admits?] at h
    split at h
    next w rest ha =>
      cases h
      exact b.guard_ledger env v p keeps ha
    next => cases h
  | _ => cases h

theorem step_events_of_not_admits (h : op.admits? = none) :
    (op.step env p).ledger.events = p.ledger.events := by
  have hread : (p.after Session.settings).ledger.events = p.ledger.events := by
    rw [settings_ledger]
    cases p.outcome Session.settings <;> rfl
  cases op with
  | boundary b v => cases h
  | boundaryOrRaise b v => cases h
  | guarded b function keeps a =>
    simp only [admits?] at h
    split at h
    next => cases h
    next f ha => exact congrArg (fun q => (Session.ledger q).events) (b.guard_unfit env p ha)
  | settings => exact hread
  | configure level jsonLogs => exact congrArg Ledger.events (configureWith_keeps level jsonLogs p)
  | configureFromSettings =>
    exact (congrArg Ledger.events (configureFromSettings_ledger p)).trans hread
  | log logger other severity template arguments fields =>
    exact congrArg Ledger.events (log_keeps other severity template arguments fields p)
  | logPlain logger severity template arguments fields =>
    exact congrArg Ledger.events (logPlain_ledger logger severity template arguments fields p)
  | _ => rfl

theorem step_events :
    (op.step env p).ledger.events = p.ledger.events ++ (op.rejection? env p).toList := by
  cases ha : op.admits? with
  | none =>
    have hnone : op.rejection? env p = none := by rw [rejection?, ha, Option.bind_none]
    rw [step_events_of_not_admits env op p ha, hnone, Option.toList_none, List.append_nil]
  | some admitted =>
    obtain ⟨b, v⟩ := admitted
    have hsome : op.rejection? env p = b.rejection? env v p := by
      rw [rejection?, ha, Option.bind_some]
    rw [step_ledger_of_admits env op p ha, b.parse_events, hsome]

theorem run_events (ops : List Operation) (p : Session) :
    (run env ops p).ledger.events = p.ledger.events ++ rejections env ops p := by
  induction ops generalizing p with
  | nil => simp [run, rejections]
  | cons op ops ih =>
    have hrun : run env (op :: ops) p = run env ops (op.step env p) := rfl
    rw [hrun, ih, step_events, rejections, List.append_assoc]

/-! ## What is logged -/

/-- Entry points without a boundary leave the session as it is. A boundary leaves the ledger as it
is unless it rejects the value by settings that load; then it appends one event if these ask for it,
which has the name of the boundary and the message and origin of the error that the call answers
with, provided that the event can be recorded. Over a run this adds up to the rejections that were
made while logging was on, in order. -/
theorem rejections_logged :
    (∀ (s : Schema) (v : Value), (parse s v).step env p = p ∧
      (parseUnknown s v).step env p = p ∧ (tryParse s v).step env p = p) ∧
    (∀ (op : Operation) (b : Boundary) (v : Value), op.admits? = some (b, v) →
      ((b.schema.test env v).outcome = .ok true → (op.step env p).ledger = p.ledger) ∧
      (∀ f, ((b.schema.test env v).outcome = .error f ∨
          (b.schema.test env v).outcome = .ok false ∧
            (b.schema.describe env v).outcome = .error f) →
        (op.step env p).ledger = p.ledger) ∧
      (∀ m, (b.schema.test env v).outcome = .ok false → (b.schema.describe env v).outcome = .ok m →
        (∀ f, p.outcome Session.settings = .error f → (op.step env p).ledger = p.ledger) ∧
        (∀ s, p.outcome Session.settings = .ok s →
          (op.step env p).ledger.events = p.ledger.events ++
            (if s.logRejections then [⟨domainLogger "validation", .info, .str "validation.rejected",
              [(.str "boundary", b.name), (.str "origin", b.origin), (.str "reason", m)]⟩]
            else []) ∧
          ∃ e, e.message = m ∧ e.origin = b.origin ∧ ∀ r, p.outcome (b.parse env v) = .ok r ↔
            (s.logRejections = true → p.Records (b.announcement m)) ∧ r = .err e))) ∧
    (∀ ops, (run env ops p).ledger.events = p.ledger.events ++ rejections env ops p) := by
  refine ⟨fun _ _ => ⟨rfl, rfl, rfl⟩, fun op b v ha => ?_, fun ops => run_events env ops p⟩
  have hstep := (step_ledger_of_admits env op p ha).trans (b.parse_ledger env v p)
  refine ⟨fun ht => ?_, fun f hf => ?_, fun m ht hd => ?_⟩
  · rw [hstep, (b.schema.ruling_accepted_iff env v).mpr ht]
  · rw [hstep, (b.schema.ruling_failed_iff env v f).mpr hf]
  · have hruling : b.schema.ruling env v = .rejected m :=
      (b.schema.ruling_rejected_iff env v m).mpr ⟨ht, hd⟩
    simp only [hruling] at hstep
    refine ⟨fun f hs => ?_, fun s hs => ⟨?_, b.error m, rfl, rfl, fun r => ?_⟩⟩
    · simp only [hstep, hs]
    · simp only [hstep, hs]
      cases s.logRejections with
      | false => exact (List.append_nil _).symm
      | true => rfl
    · have hr := b.report_ok_iff p hs m r
      rw [Result.validationError, b.validation_eq_error, eq_comm (a := Result.err _)] at hr
      simpa only [b.parse_outcome, hruling] using hr

end

/-- Odd texts are rejected while rejections are logged by default, after they were turned off, which
shows only once the settings are read again, and while the settings cannot be read. -/
def evensOps : List Operation := [
  .boundaryOrRaise (.evens "const") (.str "odd"),
  .boundary (.evens "const") (.int 2),
  .boundary (.evens "raise") (.str "odd"),
  .surround ⟨[("MINISCHEMA_LOG_REJECTIONS", "no")], none⟩,
  .boundary (.evens "const") (.str "odd"),
  .clearSettings,
  .boundary (.evens "const") (.str "odd"),
  .surround ⟨[("MINISCHEMA_LOG_REJECTIONS", "perhaps")], none⟩,
  .clearSettings,
  .guarded (.evens "const") (fun v _ => pure v) (fun _ _ => keeps_pure _) ⟨[.str "odd"], []⟩]

theorem rejections_logged_evens :
    (let m : Value := .str "Expected one of custom, got odd"
    let e : Event := (Boundary.evens "const").announcement m
    ((boundary (.evens "const") (.int 2)).step Env.stock .initial).ledger =
        Session.initial.ledger ∧
      ((boundary (.evens "raise") (.str "odd")).step Env.stock .initial).ledger =
        Session.initial.ledger ∧
      ((boundaryOrRaise (.evens "const") (.str "odd")).step Env.stock .initial).ledger.events =
        [e] ∧
      (run Env.stock evensOps .initial).ledger.events = [e, e]) := by
  have h := rejections_logged Env.stock .initial
  have hs : Session.initial.outcome Session.settings = .ok ⟨"INFO", false, true⟩ := rfl
  refine ⟨?_, ?_, ?_, ?_⟩
  · exact (h.2.1 (boundary (.evens "const") (.int 2)) _ _ rfl).1 rfl
  · exact (h.2.1 (boundary (.evens "raise") (.str "odd")) _ _ rfl).2.1 _ (.inr ⟨rfl, rfl⟩)
  · exact (((h.2.1 (boundaryOrRaise (.evens "const") (.str "odd")) _ _ rfl).2.2 _ rfl rfl).2 _ hs).1
  · exact (h.2.2 evensOps).trans rfl

end Operation
end Conform
