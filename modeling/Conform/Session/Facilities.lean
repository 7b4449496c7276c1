import Conform.Journal.Event
import Conform.Journal.Redaction

/-! What a session is given from outside: a source of settings, a context in which values are
bound, the steps by which events are processed, and the forms in which they are written. Of the
processing of events the order of the steps and the last two of them are the library's own. -/

namespace Conform
set_option autoImplicit false

/-- Where settings come from. -/
structure Surroundings where
  environment : List (String × String)
  envFile : Option String

inductive Renderer where
  | json
  | console
  deriving DecidableEq

/-- What is used in a session and not made by the library. -/
class Facilities where
  /-- The text of a setting, whose name is given in lower case. -/
  setting (s : Surroundings) (name : String) : Option String
  /-- The truth value that a text stands for. -/
  truth? (text : String) : Option Bool
  /-- The events that complain of a file of settings. -/
  complaints (s : Surroundings) : List Event
  /-- The context with more fields bound in it. -/
  bind (fields context : Entries) : Entries
  /-- The context with nothing bound in it. -/
  clear (context : Entries) : Entries
  /-- The text and the fields of the event that is made when a logger is called, once logging is
  set up or before. -/
  call (configured : Bool) (template : Value) (arguments : List Value) (fields : Entries) :
    Except Fault (Value × Entries)
  /-- The entries of an event together with the context. -/
  merge (context es : Entries) : Entries
  addLevel (severity : Severity) (es : Entries) : Entries
  /-- Adds the name of a logger, of the library or from outside. -/
  addLogger (outside : Bool) (logger : String) (es : Entries) : Except Fault Entries
  /-- Fills the arguments into the text. -/
  fillText (es : Entries) : Except Fault Entries
  addTime (es : Entries) : Entries
  /-- Tells the calls that led to the event, if they are asked for. -/
  tellCalls (es : Entries) : Except Fault Entries
  /-- Reads bytes as texts. -/
  decodeBytes (es : Entries) : Entries
  /-- Tells an exception, if it is asked for. -/
  tellException (es : Entries) : Except Fault Entries
  /-- Takes away what was only there for the processing. -/
  dropMarks (es : Entries) : Entries
  render (renderer : Renderer) (es : Entries) : Except Fault String

/-! ## Records -/

namespace Event

variable [Facilities]

/-- The steps that every event goes through. Redaction comes last, so that it meets whatever the
steps before it have added. -/
def process (outside : Bool) (context : Entries) (e : Event) : Except Fault Entries := do
  let es := Facilities.addLevel e.severity (Facilities.merge context e.entries)
  let es ← Facilities.addLogger outside e.loggerName es
  let es ← Facilities.fillText es
  let es ← Facilities.tellCalls (Facilities.addTime es)
  Redaction.redactEntries 0 (addLibraryEntries (Facilities.decodeBytes es))

/-- The record of an event, ready to be written. -/
def record (context : Entries) (e : Event) : Except Fault Entries := do
  let es ← Facilities.tellException (← e.process false context)
  .ok (Facilities.dropMarks es)

/-- The record of an event from outside the library. -/
def foreignRecord (context : Entries) (e : Event) : Except Fault Entries := do
  .ok (Facilities.dropMarks (← e.process true context))

end Event

/-! ## What is relied on -/

def Value.IsBytes (v : Value) : Prop := ∃ tag data, v = .atom (.bytes tag data)

/-- The calls that led to an event are asked for by an entry that is true. -/
def Event.AsksForCalls (es : Entries) : Prop :=
  ∃ v, es.get? (.str "stack_info") = some v ∧ v.truthy = .ok true

/-- A later binding replaces an earlier one of the same name, and clearing takes all of them away.
The context fills in what the entries of an event do not have. Any other step writes under names of
its own and leaves alone what stands under other names, except that bytes are read as texts
everywhere. -/
class Facilities.Lawful [Facilities] : Prop where
  get?_bind (name : String) (fields context : Entries) :
    (bind fields context).get? (.str name) =
      (Entries.get? (.str name) fields.reverse).or (context.get? (.str name))
  get?_clear (name : String) (context : Entries) : (clear context).get? (.str name) = none
  get?_call {template text : Value} {arguments : List Value} {fields fields' : Entries}
    {name : String} (h : call true template arguments fields = .ok (text, fields'))
    (hname : name ≠ "positional_args") : fields'.get? (.str name) = fields.get? (.str name)
  get?_merge (name : String) (context es : Entries) :
    (merge context es).get? (.str name) = (es.get? (.str name)).or (context.get? (.str name))
  get?_addLevel (severity : Severity) (es : Entries) {name : String} (hname : name ≠ "level") :
    (addLevel severity es).get? (.str name) = es.get? (.str name)
  get?_addLogger {outside : Bool} {logger : String} {es es' : Entries} {name : String}
    (h : addLogger outside logger es = .ok es') (hname : name ≠ "logger") :
    es'.get? (.str name) = es.get? (.str name)
  get?_fillText {es es' : Entries} {name : String} (h : fillText es = .ok es')
    (htext : name ≠ "event") (harguments : name ≠ "positional_args") :
    es'.get? (.str name) = es.get? (.str name)
  get?_addTime (es : Entries) {name : String} (hname : name ≠ "timestamp") :
    (addTime es).get? (.str name) = es.get? (.str name)
  get?_tellCalls {es es' : Entries} {name : String} (h : tellCalls es = .ok es')
    (hasked : name ≠ "stack_info") (htold : name = "stack" → ¬Event.AsksForCalls es) :
    es'.get? (.str name) = es.get? (.str name)
  get?_decodeBytes (es : Entries) (name : String) :
    Option.Rel (fun v w => v.IsBytes ∨ v = w) (es.get? (.str name))
      ((decodeBytes es).get? (.str name))

end Conform
