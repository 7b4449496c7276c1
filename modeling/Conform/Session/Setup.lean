import Conform.Session.Logging

/-! Reading the settings of a session and setting up its logging. Settings are read once, until they
are cleared; a file that cannot be read everywhere is complained of in the log. -/

namespace Conform
set_option autoImplicit false

namespace Session

variable [Facilities]

/-! ## Settings -/

/-- Logs an event by which the file of settings is complained of. -/
def complain (p : Session) (e : Event) : Session :=
  logPlain e.logger e.severity e.text [] e.fields p

/-- A reading that fails is not remembered. -/
def settings : Action Fault Settings := do
  let p ← get
  match p.cache with
  | some s => pure s
  | none => do
    modify fun p => (Facilities.complaints p.surroundings).foldl complain p
    let s ← lift (Settings.load p.surroundings)
    modify fun p => { p with cache := some s }
    pure s

/-! ## Setting up logging -/

def install (renderer : Renderer) (p : Session) : Session :=
  { p with configured := true, root := { p.root with renderer := some renderer } }

/-- Sets up logging; the level is set last, so that a name which is no level leaves the old one. -/
def configure (level : String) (jsonLogs : Bool) : Action Fault Unit := do
  let entry := LevelEntry.ofName level
  modify (install (if jsonLogs then .json else .console))
  let n ← lift entry.level
  modify fun p => { p with root := { p.root with level := n } }

/-- The name of a level given by any value; one that is no string has to offer it in capitals. -/
def levelName (level : Value) : Except Fault String :=
  match level with
  | .str name => .ok name
  | v => do
    match ← v.callMember "upper" with
    | .str name => .ok name
    | _ => .error .mismatch

/-- The same with a level and a choice that may be any value. -/
def configureWith (level jsonLogs : Value) : Action Fault Unit := do
  let level ← lift (levelName level)
  let json ← lift jsonLogs.truthy
  configure level json

def configureFromSettings : Action Fault Unit := do
  let s ← settings
  configure s.logLevel s.logJson

end Session
end Conform
