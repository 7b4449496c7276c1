import Conform.Schema.Test
import Conform.Schema.Describe

/-! Supplied functions: a stock of named tests and descriptions, the watching of a schema, which
turns it into a pair of functions that delegate to it, and the calling of schemas among values. -/

namespace Conform
set_option autoImplicit false

namespace Env

/-! ## The stock -/

def isEven : Value → Bool
  | .int n => n % 2 == 0
  | .bool b => !b
  | _ => false

def testNames : List String := ["even", "self", "len", "raise", "true", "false", "none"]

def stockTest (name : String) (v : Value) : Except Fault Value :=
  match name with
  | "even" => .ok (.bool (isEven v))
  | "self" => .ok v
  | "len" => v.length.map fun n => .int n
  | "raise" => .error (.complaint .value "boom")
  | "true" => .ok (.bool true)
  | "false" => .ok (.bool false)
  | "none" => .ok .null
  | _ => .error .noMember

def descriptionNames : List String := ["kind", "const", "empty", "number", "raise"]

def stockDescription (name : String) (v : Value) : Except Fault Value :=
  match name with
  | "kind" => .ok (.str ("Expected custom, got " ++ v.kind.name))
  | "const" => .ok (.str "custom")
  | "empty" => .ok (.str "")
  | "number" => .ok (.int 42)
  | "raise" => .error (.complaint .runtime "no description")
  | _ => .error .noMember

/-- The named functions of the stock; no schema is watched. -/
def stock : Env where
  test
    | .named name, v => Run.lift (stockTest name v)
    | .watched .., _ => Run.fail .noMember
  describe
    | .named name, v => Run.lift (stockDescription name v)
    | .watched .., _ => Run.fail .noMember
  call f arguments := Run.lift (f.call arguments)

/-! ## Watching -/

/-- One more callback, whose functions test and describe by a schema. -/
def watch (env : Env) (callback : Callback) (s : Schema) : Env where
  test c v := if c = callback then s.verdict env v else env.test c v
  describe c v := if c = callback then s.describe env v else env.describe c v
  call := env.call

/-! ## Schemas among values -/

/-- One more value that stands for a schema; to call it is to test by the schema. -/
def knowing (env : Env) (v : Value) (s : Schema) : Env where
  test := env.test
  describe := env.describe
  call f arguments :=
    if f = v then
      match arguments with
      | [w] => s.call env w
      | _ => Run.fail .mismatch
    else env.call f arguments

end Env

/-- The schema that runs a watched one. -/
def Schema.watched (callback : Callback) : Schema := .predicate callback callback

end Conform
