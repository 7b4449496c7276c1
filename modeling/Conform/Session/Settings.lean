import Conform.Session.Facilities

/-! Settings, each with a name and a default, and the surroundings that they are read from. -/

namespace Conform
set_option autoImplicit false

structure Settings where
  logLevel : String
  logJson : Bool
  logRejections : Bool
  deriving DecidableEq

namespace Surroundings

/-- Neither name nor value has a null character; a name is not empty and has no equals sign. -/
def admitVariable (name value : String) : Except Fault Unit :=
  if (name ++ value).any (·.toNat == 0) then .error .embeddedNull
  else if name.any (· == '=') then .error .illegalVariable
  else if name.isEmpty then .error .invalidVariable
  else .ok ()

/-- A variable that exists keeps its place. -/
def setVariable (name value : String) : List (String × String) → List (String × String)
  | [] => [(name, value)]
  | e :: es => if e.1 = name then (name, value) :: es else e :: setVariable name value es

def unsetVariable (name : String) (es : List (String × String)) : List (String × String) :=
  es.filter fun e => e.1 != name

end Surroundings

namespace Settings

variable [Facilities]

/-- A truth value that may be absent. -/
def boolOr (default : Bool) : Option String → Option Bool
  | none => some default
  | some text => Facilities.truth? text

/-- All fields are read before any fault is reported. -/
def load (s : Surroundings) : Except Fault Settings :=
  let level := (Facilities.setting s "minischema_log_level").getD "INFO"
  let json := boolOr false (Facilities.setting s "minischema_log_json")
  let rejections := boolOr true (Facilities.setting s "minischema_log_rejections")
  match json, rejections with
  | some j, some r => .ok ⟨level, j, r⟩
  | none, some _ => .error (.settings ["LOG_JSON"])
  | some _, none => .error (.settings ["LOG_REJECTIONS"])
  | none, none => .error (.settings ["LOG_JSON", "LOG_REJECTIONS"])

end Settings
end Conform
