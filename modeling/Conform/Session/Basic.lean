import Conform.Session.Settings

/-! The state of a session: where settings come from and the settings once read, the names of
loggers in use, the bound context, how events are written, and what was logged so far. An action
may fail; what it changed before that stays changed. -/

namespace Conform
set_option autoImplicit false

/-- How events are written: from which level on, and in which form, if in any. -/
structure Root where
  level : Nat
  renderer : Option Renderer
  deriving DecidableEq

structure Session where
  surroundings : Surroundings
  cache : Option Settings
  registry : List String
  context : Entries
  /-- Whether logging was set up. -/
  configured : Bool
  root : Root
  /-- The events that loggers were given. -/
  events : List Event
  lines : List String

/-- Nothing was read, bound, set up or logged. -/
def Session.initial : Session where
  surroundings := ⟨[], none⟩
  cache := none
  registry := []
  context := []
  configured := false
  root := ⟨30, none⟩
  events := []
  lines := []

abbrev Action (ε α : Type) := ExceptT ε (StateM Session) α

namespace Session

/-- An outcome that needs no state. -/
def lift {ε α : Type} (x : Except ε α) : Action ε α := ExceptT.mk (pure x)

/-! ## Settings -/

def onEnvironment (f : List (String × String) → List (String × String)) (p : Session) : Session :=
  { p with surroundings := { p.surroundings with environment := f p.surroundings.environment } }

/-- A variable that cannot exist is refused. -/
def setVariable (name value : String) : Action Fault Unit := do
  lift (Surroundings.admitVariable name value)
  modify (onEnvironment (Surroundings.setVariable name value))

def unsetVariable (name : String) : Session → Session :=
  onEnvironment (Surroundings.unsetVariable name)

def writeEnvFile (text : String) (p : Session) : Session :=
  { p with surroundings := { p.surroundings with envFile := some text } }

def clearSettings (p : Session) : Session := { p with cache := none }

/-! ## Context and loggers -/

def bindContext [Facilities] (fields : Entries) (p : Session) : Session :=
  { p with context := Facilities.bind fields p.context }

def clearContext [Facilities] (p : Session) : Session :=
  { p with context := Facilities.clear p.context }

def register (name : String) (p : Session) : Session :=
  { p with registry := if p.registry.contains name then p.registry else p.registry ++ [name] }

/-- The logger of a part of the library. -/
def domainLogger (name : String) : String := Release.name ++ "." ++ name

end Session
end Conform
