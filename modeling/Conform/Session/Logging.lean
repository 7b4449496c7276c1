import Conform.Journal.Template
import Conform.Session.Basic

/-! Logging: events that loggers are given, and the lines that are written of them. Until logging is
set up, events are only kept. After that an event of the library is made into a record whatever
its level, and a fault in doing so is the caller's; an event from outside is dropped instead. -/

namespace Conform
set_option autoImplicit false

namespace Session

variable [Facilities]

/-! ## Lines -/

/-- The lines of a text, those without a character left out. -/
def linesOf (text : String) : List String := (text.splitOn "\n").filter fun line => !line.isEmpty

/-- Writes a record. One that cannot be rendered is dropped. -/
def write (severity : Severity) (es : Entries) (p : Session) : Session :=
  match p.root.renderer with
  | none => p
  | some renderer =>
    if severity.number < p.root.level then p
    else match Facilities.render renderer es with
      | .ok text => { p with lines := p.lines ++ linesOf text }
      | .error _ => p

/-! ## Events of the library -/

/-- Gives an event to a logger. -/
def emit (e : Event) : Action Fault Unit := do
  modify fun p => { p with events := p.events ++ [e] }
  let p ← get
  if p.configured then do
    let es ← lift (e.record p.context)
    modify (write e.severity es)

/-- Logs a text with arguments and fields. -/
def log (logger : String) (severity : Severity) (template : Value) (arguments : List Value)
    (fields : Entries) : Action Fault Unit := do
  let p ← get
  let (text, fields) ← lift (Facilities.call p.configured template arguments fields)
  emit ⟨logger, severity, text, fields⟩

/-- The logger for the boundaries of validation. -/
def validationLogger : Action Fault String := do
  modify (register "validation")
  pure (domainLogger "validation")

/-! ## Events from outside -/

/-- The record of a text with arguments, which is made only for a sufficient level. -/
def plainRecord (context : Entries) (logger : String) (severity : Severity) (template : Value)
    (arguments : List Value) (fields : Entries) : Except Fault Entries := do
  let text ← Template.fill (.str (← template.text)) arguments
  Event.foreignRecord context ⟨logger, severity, text, fields⟩

/-- Logs a text from outside the library; this never fails. -/
def logPlain (logger : String) (severity : Severity) (template : Value) (arguments : List Value)
    (fields : Entries) (p : Session) : Session :=
  if p.configured && p.root.level ≤ severity.number then
    match plainRecord p.context logger severity template arguments fields with
    | .ok es => write severity es p
    | .error _ => p
  else p

/-! ## What is kept -/

/-- The events that were kept since an earlier state; none are once logging is set up. -/
def keptSince (before after : Session) : List Event :=
  if before.configured then [] else after.events.drop before.events.length

def linesSince (before after : Session) : List String := after.lines.drop before.lines.length

end Session
end Conform
