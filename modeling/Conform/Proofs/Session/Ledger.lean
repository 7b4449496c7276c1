import Conform.Proofs.Session.Actions

/-! What a session keeps of its rejections: the settings once they are read, the loggers in use, and
the events of the logger for validation. Reading the settings enters them, the two steps by which an
event is logged enter the logger and the event, and nothing else that the library does on its way
touches any of the three. -/

namespace Conform
set_option autoImplicit false

structure Ledger where
  cache : Option Settings
  registry : List String
  events : List Event

namespace Ledger

def reading (l : Ledger) (s : Settings) : Ledger := { l with cache := some s }

/-- An event more, by the logger for validation. -/
def noting (l : Ledger) (e : Event) : Ledger where
  cache := l.cache
  registry := if l.registry.contains "validation" then l.registry else l.registry ++ ["validation"]
  events := l.events ++ [e]

end Ledger

namespace Session

variable {ε α β : Type}

def isValidation (e : Event) : Bool := e.logger = domainLogger "validation"

def ledger (p : Session) : Ledger where
  cache := p.cache
  registry := p.registry
  events := p.events.filter isValidation

/-! ## Actions that keep the ledger -/

def Keeps (x : Action ε α) : Prop := ∀ p : Session, (p.after x).ledger = p.ledger

theorem keeps_lift (x : Except ε α) : Keeps (lift x) := fun _ => rfl

theorem keeps_pure (a : α) : Keeps (pure a : Action ε α) := fun _ => rfl

theorem keeps_get : Keeps (get : Action ε Session) := fun _ => rfl

theorem keeps_modify {f : Session → Session} (h : ∀ p, (f p).ledger = p.ledger) :
    Keeps (modify f : Action ε Unit) := h

theorem ledger_bind {f : α → Action ε β} (hf : ∀ a, Keeps (f a)) (p : Session)
    (x : Action ε α) : (p.after (x >>= f)).ledger = (p.after x).ledger := by
  cases ho : p.outcome x with
  | error e => rw [after_bind_error ho]
  | ok a =>
    rw [after_bind_ok ho]
    exact hf a (p.after x)

theorem Keeps.bind {x : Action ε α} {f : α → Action ε β} (hx : Keeps x)
    (hf : ∀ a, Keeps (f a)) : Keeps (x >>= f) := by
  intro p
  rw [ledger_bind hf]
  exact hx p

theorem Keeps.branch {x y : Action ε α} {c : Bool} (hx : Keeps x) (hy : Keeps y) :
    Keeps (if c then x else y) := by
  cases c with
  | true => exact hx
  | false => exact hy

/-! ## Setting up -/

theorem configure_keeps (level : String) (jsonLogs : Bool) : Keeps (configure level jsonLogs) := by
  have hinstall (renderer : Renderer) (p : Session) : (install renderer p).ledger = p.ledger := rfl
  have hlevel (n : Nat) (p : Session) :
      Session.ledger { p with root := { p.root with level := n } } = p.ledger := rfl
  unfold configure
  refine (keeps_modify (hinstall _)).bind fun _ => ?_
  exact (keeps_lift _).bind fun n => keeps_modify (hlevel n)

theorem configureWith_keeps (level jsonLogs : Value) : Keeps (configureWith level jsonLogs) := by
  unfold configureWith
  exact (keeps_lift _).bind fun _ => (keeps_lift _).bind fun _ => configure_keeps _ _

/-! ## Writing -/

variable [Facilities]

theorem write_ledger (severity : Severity) (es : Entries) (p : Session) :
    (write severity es p).ledger = p.ledger := by
  unfold write
  split
  next => rfl
  next =>
    split
    next => rfl
    next => split <;> rfl

theorem logPlain_ledger (logger : String) (severity : Severity) (template : Value)
    (arguments : List Value) (fields : Entries) (p : Session) :
    (logPlain logger severity template arguments fields p).ledger = p.ledger := by
  unfold logPlain
  split
  next =>
    split
    next es _ => exact write_ledger severity es p
    next => rfl
  next => rfl

theorem complaints_ledger (es : List Event) (p : Session) :
    (es.foldl complain p).ledger = p.ledger := by
  induction es generalizing p with
  | nil => rfl
  | cons e es ih =>
    have he : (p.complain e).ledger = p.ledger := logPlain_ledger ..
    rw [List.foldl_cons, ih, he]

/-! ## Reading the settings -/

theorem settings_outcome (p : Session) : p.outcome settings =
    match p.cache with
    | some s => .ok s
    | none => Settings.load p.surroundings := by
  unfold settings
  rw [outcome_get_bind]
  cases p.cache with
  | some s => rfl
  | none =>
    change p.outcome (modify _ >>= fun _ => lift _ >>= _) = _
    rw [outcome_bind, outcome_modify]
    change Session.outcome _ (lift (Settings.load p.surroundings) >>= _) = _
    rw [outcome_bind, outcome_lift]
    cases Settings.load p.surroundings <;> rfl

/-- Settings that load are entered, and a reading that fails leaves no trace. -/
theorem settings_ledger (p : Session) : (p.after settings).ledger =
    match p.outcome settings with
    | .ok s => p.ledger.reading s
    | .error _ => p.ledger := by
  rw [settings_outcome]
  unfold settings
  rw [after_get_bind]
  cases hc : p.cache with
  | some s =>
    have hp : p.ledger.cache = some s := hc
    change p.ledger = p.ledger.reading s
    rw [Ledger.reading, ← hp]
  | none =>
    -- complaints of the file are logged elsewhere, before the settings load or fail to
    have hq : ((Facilities.complaints p.surroundings).foldl complain p).ledger = p.ledger :=
      complaints_ledger _ p
    change (p.after (modify _ >>= fun _ => lift _ >>= _)).ledger = _
    rw [after_bind_ok (outcome_modify p _), after_modify]
    cases hl : Settings.load p.surroundings with
    | error f =>
      rw [after_bind_error (outcome_lift _ _)]
      exact hq
    | ok s =>
      rw [after_bind_ok (outcome_lift _ _), after_lift]
      exact congrArg (Ledger.reading · s) hq

theorem configureFromSettings_ledger (p : Session) :
    (p.after configureFromSettings).ledger = (p.after settings).ledger := by
  unfold configureFromSettings
  exact ledger_bind (fun _ => configure_keeps _ _) p settings

/-! ## Logging -/

/-- An event is kept whether a record can be made of it or not. -/
theorem emit_ledger (p : Session) (e : Event) : (p.after (emit e)).ledger =
    { p.ledger with events := p.ledger.events ++ [e].filter isValidation } := by
  have hrest : Keeps (do
      let q ← (get : Action Fault Session)
      if q.configured then do
        let es ← lift (e.record q.context)
        modify (write e.severity es)) := by
    refine keeps_get.bind fun q => Keeps.branch ?_ (keeps_pure ())
    exact (keeps_lift _).bind fun es => keeps_modify (write_ledger e.severity es)
  unfold emit
  rw [ledger_bind fun _ => hrest, after_modify]
  simp only [ledger, List.filter_append]

theorem emit_keeps {e : Event} (h : isValidation e = false) : Keeps (emit e) := by
  intro p
  have hnone : [e].filter isValidation = [] := by simp [h]
  rw [emit_ledger, hnone, List.append_nil]

theorem log_keeps {logger : String} (h : logger ≠ domainLogger "validation") (severity : Severity)
    (template : Value) (arguments : List Value) (fields : Entries) :
    Keeps (log logger severity template arguments fields) := by
  refine keeps_get.bind fun p => (keeps_lift _).bind fun called => ?_
  exact emit_keeps (by simp [isValidation, h])

/-- The logger for validation notes the event that it is given. -/
theorem note_ledger (p : Session) {e : Event} (h : isValidation e = true) :
    (p.after (do let _ ← validationLogger; emit e)).ledger = p.ledger.noting e := by
  have hone : [e].filter isValidation = [e] := by simp [h]
  rw [after_bind_ok (validationLogger_outcome p), emit_ledger, hone]
  rfl

end Session
end Conform
