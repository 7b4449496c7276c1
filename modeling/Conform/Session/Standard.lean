import Conform.Journal.ConsoleLine
import Conform.Journal.Template
import Conform.Session.EnvFile
import Conform.Session.Facilities
import Conform.Text.Utf8

/-! The standard facilities. Settings are looked up among the variables and then in the file, in
any letter case. Events carry the arguments for their text under a name of its own until these are
filled in. Neither the moment of an event nor the calls that led to it have a text of their own. -/

namespace Conform
set_option autoImplicit false

namespace Standard

/-! ## Settings -/

/-- The last entry under a name that is given in lower case. -/
def lastUnder {α : Type} (name : String) (es : List (String × α)) : Option α :=
  (es.reverse.find? fun e => Case.asciiLower e.1 == name).map (·.2)

/-- What the file says; one that does not exist says nothing. -/
def file (s : Surroundings) : EnvFile :=
  match s.envFile with
  | some text => .ofText s.environment text
  | none => ⟨[], []⟩

/-- Of several matches the last counts, and a variable wins over the file. A name without a value
in the file is as good as none. -/
def setting (s : Surroundings) (name : String) : Option String :=
  match lastUnder name s.environment with
  | some v => some v
  | none => (lastUnder name (file s).entries).join

def isYes (s : String) : Bool := ["1", "on", "t", "true", "y", "yes"].contains s
def isNo (s : String) : Bool := ["0", "off", "f", "false", "n", "no"].contains s

/-- A truth value in any letter case, without blanks around it. -/
def truth? (s : String) : Option Bool :=
  let w := Case.asciiLower s
  if isYes w then some true else if isNo w then some false else none

/-- A statement that cannot be read is complained of by the line on which it begins. -/
def complaint (line : Nat) : Event where
  logger := "dotenv.main"
  severity := .warning
  text := .str ("python-dotenv could not parse statement starting at line " ++ toString line)
  fields := []

/-! ## Calls of loggers -/

/-- No field can have one of these names. -/
def guardNames (names : List String) (fields : Entries) : Except Fault Unit :=
  if names.any fun name => fields.contains (.str name) then .error .mismatch else .ok ()

/-- The entry that arguments for the text are given under. -/
def argumentsKey : Value := .str "positional_args"

/-- Arguments are filled into the text at once, or by the processing of the event once logging is
set up. -/
def call (configured : Bool) (template : Value) (arguments : List Value) (fields : Entries) :
    Except Fault (Value × Entries) := do
  guardNames ["self", "event"] fields
  if configured then do
    guardNames ["method_name"] fields
    .ok (template, if arguments.isEmpty then fields
      else Entries.insert argumentsKey (.tuple 0 arguments) fields)
  else do
    let text ← Template.fill template arguments
    guardNames ["method_name"] fields
    .ok (text, fields)

/-! ## Processing -/

/-- A name that is bound again takes the new value. -/
def bind (fields context : Entries) : Entries :=
  fields.foldl (fun es e => es.insert e.1 e.2) context

/-- Entries of the context under keys that the event does not have. -/
def merge (context es : Entries) : Entries :=
  context.foldl (fun es e => es.setDefault e.1 e.2) es

def addLevel (severity : Severity) (es : Entries) : Entries :=
  es.insert (.str "level") (.str severity.name)

/-- The name of the logger, unless a record among the entries of the library's own events tells
one. -/
def loggerEntry (outside : Bool) (logger : String) (es : Entries) : Except Fault Value :=
  match es.get? (.str "_record") with
  | none | some .null => .ok (.str logger)
  | some told => if outside then .ok (.str logger) else told.attributeNamed "name"

def addLogger (outside : Bool) (logger : String) (es : Entries) : Except Fault Entries := do
  .ok (es.insert (.str "logger") (← loggerEntry outside logger es))

/-- The first of several items. -/
def firstItem (v : Value) : Except Fault Value :=
  match v with
  | .dict .. | .mapping .. => Template.item v (.int 0)
  | v =>
    match v.series with
    | some (w :: _, _) => .ok w
    | _ => .error .mismatch

/-- Arguments as they are filled in: a dictionary that is the only one is taken by key. -/
def operand (arguments : Value) : Except Fault Value := do
  if (← arguments.length) = 1 then
    let first ← firstItem arguments
    .ok (if Template.isDictionary first && Template.isKeyed first then first else arguments)
  else .ok arguments

/-- Fills arguments into the text, unless there are none, and removes them. -/
def fillText (es : Entries) : Except Fault Entries :=
  match es.get? argumentsKey with
  | none => .ok es
  | some arguments => do
    if ← arguments.truthy then
      let filling ← operand arguments
      match es.get? (.str "event") with
      | none => .error (.missingKey (quoted "event"))
      | some text => do
        let filled ← Template.fillValue text filling
        .ok (Entries.erase argumentsKey (Entries.insert (.str "event") filled es))
    else .ok (if arguments.isNull then es else Entries.erase argumentsKey es)

def addTime (es : Entries) : Entries := es.insert (.str "timestamp") (.str "<ts>")

/-- Tells the calls that led to the event, if an entry that asks for them is true, and removes that
entry. -/
def tellCalls (es : Entries) : Except Fault Entries :=
  match es.get? (.str "stack_info") with
  | none => .ok es
  | some asked => do
    let others := Entries.erase (.str "stack_info") es
    .ok (if ← asked.truthy then Entries.insert (.str "stack") (.str "<calls>") others else others)

/-- Removes the entry that asks for an exception to be told; there is none to tell. -/
def tellException (es : Entries) : Except Fault Entries :=
  match es.get? (.str "exc_info") with
  | none => .ok es
  | some asked => do
    let _ ← asked.truthy
    .ok (Entries.erase (.str "exc_info") es)

def decoded (v : Value) : Value :=
  match v with
  | .atom (.bytes _ data) => .str (Utf8.decode data)
  | v => v

def decodeBytes (es : Entries) : Entries := es.map fun e => (e.1, decoded e.2)

/-- Entries that only processing itself knows; they are never written. -/
def dropMarks (es : Entries) : Entries :=
  Entries.erase (.str "_record") (Entries.erase (.str "_from_structlog") es)

def render (renderer : Renderer) (es : Entries) : Except Fault String :=
  match renderer with
  | .json => JsonLine.render (.dict 0 es)
  | .console => ConsoleLine.render es

instance : Facilities where
  setting := setting
  truth? := truth?
  complaints s := (file s).malformed.map complaint
  bind := bind
  clear _ := []
  call := call
  merge := merge
  addLevel := addLevel
  addLogger := addLogger
  fillText := fillText
  addTime := addTime
  tellCalls := tellCalls
  decodeBytes := decodeBytes
  tellException := tellException
  dropMarks := dropMarks
  render := render

end Standard
end Conform
