import Conform.Session.Setup
import Conform.Result.Admission

/-! Boundaries: named places where values are admitted by a schema. A rejection is logged if the
settings say so, and the settings are read only then. A guard puts a boundary in front of the
first argument of a function. -/

namespace Conform
set_option autoImplicit false

structure Boundary where
  schema : Schema
  name : Value
  origin : Value

/-- The arguments of a call, in order and by name. -/
structure Arguments where
  positional : List Value
  named : List (String × Value)

namespace Boundary

variable [Facilities]

/-- The event that tells of a rejection. -/
def rejection (b : Boundary) (logger : String) (message : Value) : Event where
  logger := logger
  severity := .info
  text := .str "validation.rejected"
  fields := [(.str "boundary", b.name), (.str "origin", b.origin), (.str "reason", message)]

def parse (env : Env) (b : Boundary) (v : Value) : Action Fault (Result AppError Value) := do
  if ← Session.lift (b.schema.test env v).outcome then pure (.ok v)
  else do
    let message ← Session.lift (b.schema.describe env v).outcome
    let settings ← Session.settings
    if settings.logRejections then do
      let logger ← Session.validationLogger
      Session.emit (b.rejection logger message)
    pure (Result.validationError message b.origin [("boundary", b.name)])

/-- Refuses what the boundary rejects. -/
def parseOrRaise (env : Env) (b : Boundary) (v : Value) : Action Refusal Value := do
  match ← (b.parse env v).adapt .fault with
  | .ok a => pure a
  | .err e => Session.lift (.error (.rejected e.message))

/-! ## Guards -/

/-- The boundary in front of a function, named after the function unless it has a name. -/
def before (function : String) (s : Schema) (name origin : Value) : Except Fault Boundary := do
  .ok ⟨s, if ← name.truthy then name else .str function, origin⟩

end Boundary

/-- The parameter that a guard checks. -/
def Arguments.guarded : String := "value"

/-- The first argument, which may be given by its name, and the other ones. -/
def Arguments.split (a : Arguments) : Except Fault (Value × Arguments) :=
  let byName := a.named.find? fun entry => entry.1 = guarded
  match a.positional, byName with
  | v :: vs, none => .ok (v, ⟨vs, a.named⟩)
  | _ :: _, some _ => .error .mismatch
  | [], some entry => .ok (entry.2, ⟨[], a.named.filter fun entry => entry.1 != guarded⟩)
  | [], none => .error .mismatch

/-- Calls a function with a first argument that the boundary has admitted. -/
def Boundary.guard [Facilities] {β : Type} (env : Env) (b : Boundary)
    (function : Value → Arguments → Action Refusal β) (a : Arguments) : Action Refusal β := do
  let (v, rest) ← Session.lift (a.split.mapError .fault)
  let admitted ← b.parseOrRaise env v
  function admitted rest

end Conform
