import Conform.Value.Call
import Conform.Value.Join
import Conform.Schema.Run

/-! Schemas: trees that denote sets of values. Bounds and options are values; a bound that is null
bounds nothing. A predicate names two supplied functions, whose behaviour an `Env` gives. Any value
may stand in the place of a schema; it is one if it has functions for testing and describing. -/

namespace Conform
set_option autoImplicit false

inductive Schema where
  /-- The values of a kind, by the name of the kind. -/
  | kind (name : String)
  /-- The values of a kind that is not given by a name; there are none. -/
  | unnamedKind (kind : Value)
  /-- The integers. -/
  | bigint
  | nullable (inner : Schema)
  | undefinable (inner : Schema)
  | literal (expected : Value)
  | oneOf (options : List Value)
  /-- Like `oneOf`; the type only words the options in messages. -/
  | oneOfType (type : Schema) (options : List Value)
  | shape (fields : List (Value × Schema))
  | array (item : Schema)
  | union (members : List Schema)
  | intersection (members : List Schema)
  | bounded (inner : Schema) (minimum maximum : Value)
  | lengthBounded (inner : Schema) (minimum maximum : Value)
  | exactLength (inner : Schema) (size : Value)
  | predicate (test describe : Callback)
  /-- A value in the place of a schema. -/
  | foreign (value : Value)

/-- The behaviour of the supplied functions, and of values that are called. A test answers with any
value, taken for true or false; a description may be any value, too. -/
structure Env where
  test : Callback → Value → Run Fault Value
  describe : Callback → Value → Run Fault Value
  call : Value → List Value → Run Fault Value

/-- What a value answers when it is asked by the name of one of its functions. -/
def Env.ask (env : Env) (asked : Value) (name : String) (v : Value) : Run Fault Value := do
  let f ← Run.lift (asked.attributeNamed name)
  env.call f [v]

/-- A run that makes an item of a series. -/
def Run.inSeries {α : Type} (x : Run Fault α) : Run Fault α := x.mapError Fault.inSeries

namespace Schema

/-! ## Construction -/

def min (s : Schema) (bound : Value) : Schema := .bounded s bound .null
def max (s : Schema) (bound : Value) : Schema := .bounded s .null bound
def range (s : Schema) (lower upper : Value) : Schema := .bounded s lower upper
def length (s : Schema) (size : Value) : Schema := .exactLength s size
def minLength (s : Schema) (bound : Value) : Schema := .lengthBounded s bound .null
def maxLength (s : Schema) (bound : Value) : Schema := .lengthBounded s .null bound
def rangeLength (s : Schema) (lower upper : Value) : Schema := .lengthBounded s lower upper

/-- A list of fields in which a later field with a matching key replaces the schema, not the
place, of the earlier one. -/
def insertField (key : Value) (s : Schema) : List (Value × Schema) → List (Value × Schema)
  | [] => [(key, s)]
  | f :: fs => if f.1.keyMatches key then (f.1, s) :: fs else f :: insertField key s fs

def object (fields : List (Value × Schema)) : Schema :=
  .shape (fields.foldl (fun fs f => insertField f.1 f.2 fs) [])

/-- The fields of a shape that is given as a value: a dictionary or a mapping from keys to what
stands for schemas, or anything else that offers no entries. -/
def ofShape (asSchema : Value → Schema) (v : Value) : Except Fault Schema := do
  let entries ← match v with
    | .dict _ es => .ok es
    | .mapping _ es raising => Value.readEntries es raising
    | v => do if (← v.callMember "items").isEmptySeries then .ok [] else .error .mismatch
  .ok (.shape (entries.map fun e => (e.1, asSchema e.2)))

/-- Either of two. Two values in the place of schemas are joined as values, for which a tag is
given, and one in the place of the first schema alone cannot be combined. -/
def either (tag : Tag) : Schema → Schema → Except Fault Schema
  | .foreign v, .foreign w => (v.join tag w).map .foreign
  | .foreign _, _ => .error .mismatch
  | a, b => .ok (.union [a, b])

/-- Both of two. -/
def both : Schema → Schema → Except Fault Schema
  | .foreign v, .foreign w => (v.meet w).map .foreign
  | .foreign _, _ => .error .mismatch
  | a, b => .ok (.intersection [a, b])

end Schema
end Conform
