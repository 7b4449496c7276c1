import Conform.Result.Basic
import Conform.Value.Attribute
import Conform.Value.Equality
import Conform.Value.Text

/-! Application errors: a code, a message, the context in which the error arose, metadata and
possibly a cause. Validation knows a single code, and its metadata are a dictionary by name. -/

namespace Conform
set_option autoImplicit false

/-! ## Codes -/

inductive ErrorCode where
  | validationGeneric
  deriving DecidableEq

namespace ErrorCode

def name : ErrorCode → String
  | validationGeneric => "E2000_VALIDATION_GENERIC"

def number : ErrorCode → Nat
  | validationGeneric => 2000

/-- The thousands of the number tell the category. -/
def category (c : ErrorCode) : String :=
  if 2000 ≤ c.number && c.number < 3000 then "validation" else "internal"

/-- The code whose number a value equals. -/
def ofValue (v : Value) : Except Fault ErrorCode := do
  if ← (Value.int validationGeneric.number).equals v then .ok validationGeneric
  else .error (.notACode (← v.repr))

end ErrorCode

/-! ## Correlation -/

/-- What joins the traces of one error: drawn afresh, or given. -/
inductive Correlation where
  | fresh
  | given (id : String)
  deriving DecidableEq

namespace Correlation

def isHexDigit (c : Char) : Bool := c.isDigit || ('a' ≤ c && c ≤ 'f')

/-- Eight hexadecimal digits, as drawn identifiers have them. -/
def looksDrawn (id : String) : Bool := id.length == 8 && id.all isHexDigit

/-- A drawn identifier has no text of its own. -/
def text : Correlation → String
  | fresh => "<auto>"
  | given id => id

end Correlation

/-! ## Errors -/

structure AppError where
  code : ErrorCode
  message : Value
  correlation : Correlation
  origin : Value
  metadata : Value
  /-- The message of the rejection that led to the error. -/
  cause : Option Value

namespace AppError

/-- A dictionary by name. -/
def namedEntries (es : List (String × Value)) : Value :=
  .dict 0 (es.map fun entry => (.str entry.1, entry.2))

def text (e : AppError) : Except Fault String := do
  .ok ("[" ++ e.code.name ++ "] " ++ (← e.message.text) ++
    " (correlation_id=" ++ e.correlation.text ++ ")")

/-- An error of validation; metadata that is null is dropped. -/
def validation (message origin : Value) (metadata : List (String × Value)) : AppError where
  code := .validationGeneric
  message := message
  correlation := .fresh
  origin := origin
  metadata := namedEntries (metadata.filter fun entry => !entry.2.isNull)
  cause := none

/-- The error that stands for a rejection, with the rejection as its cause. -/
def ofRejection (message origin : Value) : AppError where
  code := .validationGeneric
  message := message
  correlation := .fresh
  origin := origin
  metadata := namedEntries []
  cause := some message

end AppError

/-- A failed result. -/
def Result.validationError {α : Type} (message origin : Value) (metadata : List (String × Value)) :
    Result AppError α :=
  .err (.validation message origin metadata)

/-- The same with arguments by name: a name given twice is a fault, and an origin among the
metadata is the origin if none is given. -/
def Result.namedValidationError {α : Type} (message : Value) (origin : Option Value)
    (named : List (String × Value)) : Except Fault (Result AppError α) :=
  if named.any (·.1 = "message") then .error .mismatch
  else
    let rest := named.filter fun entry => entry.1 != "origin"
    match origin, named.find? fun entry => entry.1 = "origin" with
    | some _, some _ => .error .mismatch
    | some o, none => .ok (.validationError message o named)
    | none, some entry => .ok (.validationError message entry.2 rest)
    | none, none => .ok (.validationError message (.str "") named)

end Conform
