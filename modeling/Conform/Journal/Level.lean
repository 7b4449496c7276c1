import Conform.Fault
import Conform.Text.Character
import Conform.Text.Quoted

/-! Levels of events. A method of a logger stands for a level; a name, read in upper case, is
looked up among the standard levels. -/

namespace Conform
set_option autoImplicit false

/-- The methods by which an event is logged. -/
inductive Severity where
  | debug
  | info
  | warning
  | error
  | critical
  deriving DecidableEq

namespace Severity

def name : Severity → String
  | debug => "debug"
  | info => "info"
  | warning => "warning"
  | error => "error"
  | critical => "critical"

def number : Severity → Nat
  | debug => 10
  | info => 20
  | warning => 30
  | error => 40
  | critical => 50

end Severity

/-! ## Names of levels -/

/-- What is found under a name in upper case. Besides the levels there are a format and a table
of styles, which are not levels. -/
inductive LevelEntry where
  | number (n : Nat)
  | format (text : String)
  | table

namespace LevelEntry

def lookup : String → Option LevelEntry
  | "CRITICAL" | "FATAL" => some (.number 50)
  | "ERROR" => some (.number 40)
  | "WARNING" | "WARN" => some (.number 30)
  | "INFO" => some (.number 20)
  | "DEBUG" => some (.number 10)
  | "NOTSET" => some (.number 0)
  | "BASIC_FORMAT" => some (.format "%(levelname)s:%(name)s:%(message)s")
  | "_STYLES" => some .table
  | _ => none

/-- The entry for a name in any letter case; information where there is none. -/
def ofName (name : String) : LevelEntry := (lookup (Case.upper name)).getD (.number 20)

/-- The level of an entry that is one. -/
def level : LevelEntry → Except Fault Nat
  | number n => .ok n
  | format text => .error (.unknownLevel (quoted text))
  | table => .error .mismatch

end LevelEntry
end Conform
