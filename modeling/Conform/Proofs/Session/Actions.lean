import Conform.Proofs.Value.Entries
import Conform.Session.Setup

/-! Actions of a session by what they answer and what they leave behind. Reading the settings may
complain of a file and remembers what it read, and logging writes lines; neither changes the context
or whether logging is set up, and these two alone decide whether an event can be made into a record.
Once logging is set up, a call of a logger succeeds exactly if that can be done. -/

namespace Conform
set_option autoImplicit false

namespace Session

variable {ε α β : Type}

/-! ## Steps -/

def outcome (p : Session) (x : Action ε α) : Except ε α := (x.run p).1

def after (p : Session) (x : Action ε α) : Session := (x.run p).2

theorem outcome_pure (p : Session) (a : α) : p.outcome (pure a : Action ε α) = .ok a := rfl

theorem outcome_lift (p : Session) (x : Except ε α) : p.outcome (lift x) = x := rfl

theorem after_lift (p : Session) (x : Except ε α) : p.after (lift x) = p := rfl

theorem outcome_modify (p : Session) (f : Session → Session) :
    p.outcome (modify f : Action ε Unit) = .ok () := rfl

theorem after_modify (p : Session) (f : Session → Session) :
    p.after (modify f : Action ε Unit) = f p := rfl

theorem outcome_adapt {ε' : Type} (p : Session) (g : ε → ε') (x : Action ε α) :
    p.outcome (x.adapt g) = (p.outcome x).mapError g := rfl

theorem run_bind (p : Session) (x : Action ε α) (f : α → Action ε β) :
    (x >>= f).run p = match x.run p with
      | (.ok a, q) => (f a).run q
      | (.error e, q) => (.error e, q) := by
  simp only [bind, ExceptT.bind, ExceptT.run, ExceptT.mk, StateT.bind, ExceptT.bindCont]
  rcases x p with ⟨_ | a, q⟩ <;> rfl

theorem outcome_bind (p : Session) (x : Action ε α) (f : α → Action ε β) :
    p.outcome (x >>= f) = p.outcome x >>= fun a => (p.after x).outcome (f a) := by
  unfold outcome after
  rw [run_bind]
  rcases x.run p with ⟨_ | a, q⟩ <;> rfl

theorem after_bind_ok {p : Session} {x : Action ε α} {a : α} (h : p.outcome x = .ok a)
    (f : α → Action ε β) : p.after (x >>= f) = (p.after x).after (f a) := by
  unfold outcome at h
  unfold after
  rw [run_bind]
  rcases hx : x.run p with ⟨_ | b, q⟩
  · simp [hx] at h
  · simp only [hx, Except.ok.injEq] at h
    rw [h]

theorem after_bind_error {p : Session} {x : Action ε α} {e : ε} (h : p.outcome x = .error e)
    (f : α → Action ε β) : p.after (x >>= f) = p.after x := by
  unfold outcome at h
  unfold after
  rw [run_bind]
  rcases hx : x.run p with ⟨_ | b, q⟩
  · rfl
  · simp [hx] at h

theorem outcome_get_bind (p : Session) (f : Session → Action ε α) :
    p.outcome (get >>= f) = p.outcome (f p) := by
  rw [outcome_bind]
  rfl

theorem after_get_bind (p : Session) (f : Session → Action ε α) :
    p.after (get >>= f) = p.after (f p) := by
  have h : p.outcome (get : Action ε Session) = .ok p := rfl
  rw [after_bind_ok h]
  rfl

/-! ## Records -/

/-- The event can be made into a record, if it has to be. -/
def Records [Facilities] (p : Session) (e : Event) : Prop :=
  p.configured = true → ∃ es, e.record p.context = .ok es

/-- Two sessions that make the same records. -/
structure RecordsLike (p q : Session) : Prop where
  configured : p.configured = q.configured
  context : p.context = q.context

namespace RecordsLike

theorem refl (p : Session) : RecordsLike p p := ⟨rfl, rfl⟩

theorem trans {p q r : Session} (h : RecordsLike p q) (h' : RecordsLike q r) : RecordsLike p r :=
  ⟨h.configured.trans h'.configured, h.context.trans h'.context⟩

theorem bind {p : Session} {x : Action ε α} {f : α → Action ε β}
    (hx : RecordsLike (p.after x) p) (hf : ∀ a q, RecordsLike (q.after (f a)) q) :
    RecordsLike (p.after (x >>= f)) p := by
  cases ho : p.outcome x with
  | error e =>
    rw [after_bind_error ho]
    exact hx
  | ok a =>
    rw [after_bind_ok ho]
    exact (hf a _).trans hx

theorem records [Facilities] {p q : Session} (h : RecordsLike p q) (e : Event) :
    p.Records e ↔ q.Records e := by
  unfold Records
  rw [h.configured, h.context]

end RecordsLike

theorem validationLogger_outcome (p : Session) :
    p.outcome validationLogger = .ok (domainLogger "validation") := rfl

theorem validationLogger_recordsLike (p : Session) : RecordsLike (p.after validationLogger) p :=
  ⟨rfl, rfl⟩

variable [Facilities]

theorem write_recordsLike (severity : Severity) (es : Entries) (p : Session) :
    RecordsLike (write severity es p) p := by
  unfold write
  split
  next => exact .refl p
  next =>
    split
    next => exact .refl p
    next =>
      split
      next => exact ⟨rfl, rfl⟩
      next => exact .refl p

theorem logPlain_recordsLike (p : Session) (logger : String) (severity : Severity)
    (template : Value) (arguments : List Value) (fields : Entries) :
    RecordsLike (logPlain logger severity template arguments fields p) p := by
  unfold logPlain
  split
  next =>
    split
    next => exact write_recordsLike ..
    next => exact .refl p
  next => exact .refl p

theorem complaints_recordsLike (es : List Event) (p : Session) :
    RecordsLike (es.foldl complain p) p := by
  induction es generalizing p with
  | nil => exact .refl p
  | cons e es ih => exact (ih (p.complain e)).trans (logPlain_recordsLike p ..)

theorem settings_recordsLike (p : Session) : RecordsLike (p.after settings) p := by
  refine .bind (.refl p) fun q p => ?_
  split
  next => exact .refl p
  next =>
    -- the file is complained of even if the settings do not load
    refine .bind (complaints_recordsLike (Facilities.complaints p.surroundings) p) fun _ p => ?_
    exact .bind (.refl p) fun s p => .bind ⟨rfl, rfl⟩ fun _ p => .refl p

theorem emit_ok_iff (p : Session) (e : Event) : p.outcome (emit e) = .ok () ↔ p.Records e := by
  unfold emit Records
  rw [outcome_bind, outcome_modify, after_modify]
  change Session.outcome _ (get >>= _) = .ok () ↔ _
  rw [outcome_get_bind]
  cases p.configured with
  | false => simp [outcome_pure]
  | true =>
    rw [if_pos rfl, outcome_bind, outcome_lift]
    cases e.record p.context with
    | ok es => exact ⟨fun _ _ => ⟨es, rfl⟩, fun _ => rfl⟩
    | error f => exact ⟨nofun, fun h => nomatch h rfl⟩

/-! ## Logging -/

section Logging

variable (p : Session)

theorem emit_recordsLike (e : Event) : RecordsLike (p.after (emit e)) p := by
  refine .bind ⟨rfl, rfl⟩ fun _ p => .bind (.refl p) fun q p => ?_
  split
  next => exact .bind (.refl p) fun es q => write_recordsLike e.severity es q
  next => exact .refl p

theorem log_recordsLike (logger : String) (severity : Severity) (template : Value)
    (arguments : List Value) (fields : Entries) :
    RecordsLike (p.after (log logger severity template arguments fields)) p :=
  .bind (.refl p) fun _ p => .bind (.refl p) fun _ p => emit_recordsLike p _

theorem write_events (severity : Severity) (es : Entries) :
    (write severity es p).events = p.events := by
  unfold write
  split
  next => rfl
  next =>
    split
    next => rfl
    next => split <;> rfl

/-- An event is kept whether a record can be made of it or not. -/
theorem emit_events (e : Event) : (p.after (emit e)).events = p.events ++ [e] := by
  unfold emit
  rw [after_bind_ok (outcome_modify p _), after_modify, after_get_bind]
  split
  next =>
    cases hr : e.record p.context with
    | error f => exact congrArg Session.events (after_bind_error (outcome_lift _ _) _)
    | ok es => rw [after_bind_ok (outcome_lift _ _), after_lift, after_modify, write_events]
  next => rfl

/-- A call that succeeds makes one event, which can be made into a record if it has to be. -/
theorem log_ok {p : Session} {logger : String} {severity : Severity} {template : Value}
    {arguments : List Value} {fields : Entries}
    (h : p.outcome (log logger severity template arguments fields) = .ok ()) :
    ∃ text fields', Facilities.call p.configured template arguments fields = .ok (text, fields') ∧
      p.Records ⟨logger, severity, text, fields'⟩ ∧
      (p.after (log logger severity template arguments fields)).events =
        p.events ++ [⟨logger, severity, text, fields'⟩] := by
  unfold log at h ⊢
  rw [outcome_get_bind] at h
  rw [after_get_bind]
  cases hc : Facilities.call p.configured template arguments fields with
  | error f =>
    rw [hc] at h
    cases h
  | ok called =>
    obtain ⟨text, fields'⟩ := called
    rw [hc] at h
    have hemit : p.outcome (emit ⟨logger, severity, text, fields'⟩) = .ok () := h
    refine ⟨text, fields', rfl, (emit_ok_iff p _).mp hemit, ?_⟩
    rw [after_bind_ok (outcome_lift _ _), after_lift, emit_events]

end Logging

end Session
end Conform
