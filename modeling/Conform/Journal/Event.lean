import Conform.Journal.Level
import Conform.Value.Equality

/-! Events, as loggers are given them: a text, a severity and fields. -/

namespace Conform
set_option autoImplicit false

/-- An event as a logger is given it; the fields have names for keys. The text is any value, and
null if there is none. -/
structure Event where
  logger : String
  severity : Severity
  text : Value
  fields : Entries

namespace Event

/-- The fields together with the text. -/
def entries (e : Event) : Entries :=
  if e.text.isNull then e.fields else Entries.insert (.str "event") e.text e.fields

/-- The event by itself, without anything that processing adds. -/
def plain (e : Event) : Entries :=
  Entries.insert (.str "log_level") (.str e.severity.name) e.entries

/-- The logger without a name is the root. -/
def loggerName (e : Event) : String := if e.logger.isEmpty then "root" else e.logger

end Event
end Conform
