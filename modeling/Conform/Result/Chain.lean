import Conform.Result.Admission
import Conform.Result.AsValue
import Conform.Value.Sum

/-! Chains of steps on a result. What flows through a chain is a `Term`: a value, an error, or a
result again, which is an object under its tag. A step either moves on to another result or only
reports something; a step that fails leaves the chain where it was. -/

namespace Conform
set_option autoImplicit false

/-! ## Terms -/

inductive Term where
  | value (v : Value)
  | failure (e : AppError)
  | ok (tag : Tag) (t : Term)
  | err (tag : Tag) (t : Term)

namespace Term

def ofObject (r : Result.Object Term Term) : Term :=
  match r.content with
  | .ok t => .ok r.tag t
  | .err t => .err r.tag t

def toObject? : Term → Option (Result.Object Term Term)
  | .ok tag t => some ⟨tag, .ok t⟩
  | .err tag t => some ⟨tag, .err t⟩
  | _ => none

def repr : Term → Except Fault String
  | .value v => v.repr
  | .failure e => e.text
  | .ok _ t => do .ok ("Ok(" ++ fieldText "value" (← t.repr) ++ ")")
  | .err _ t => do .ok ("Err(" ++ fieldText "error" (← t.repr) ++ ")")

def text : Term → Except Fault String
  | .value v => v.text
  | t => t.repr

def display : Term → Except Fault String
  | .value v => v.display
  | t => t.repr

/-- A term as schemas see it. -/
def toValue : Term → Value
  | .value v => v
  | .failure e => Record.appError e
  | .ok tag t => Record.success t.toValue (ok tag t).repr
  | .err tag t => Record.failure t.toValue (err tag t).repr

/-- The message of an error, or of an object that has one. -/
def message (t : Term) : Except Fault Value := t.toValue.attributeNamed "message"

/-- Whether a term is the value. -/
def equalsValue : Term → Value → Except Fault Bool
  | .value v, w => if v = w then .ok true else v.equals w
  | _, _ => .ok false

end Term

/-! ## Functions -/

inductive Function where
  | identity
  | constant (v : Value)
  | add (n : Value)
  | display
  | kind
  | raise (text : String)
  | message
  | prepend (text : String)
  | ok (f : Function)
  | err (content : Value)
  | tryParse (s : Schema)

/-- The error that a chain makes by itself. -/
def AppError.plain (message : Value) : AppError where
  code := .validationGeneric
  message := message
  correlation := .given "fixed"
  origin := .str ""
  metadata := namedEntries []
  cause := none

/-- The effects in a chain: a fault, or a new tag for a result that is made. -/
abbrev Making := StateT Tag (Except Fault)

def Making.tag : Making Tag := modifyGet fun tag => (tag, tag + 1)

namespace Function

variable (env : Env)

def apply : Function → Term → Making Term
  | identity, t => pure t
  | constant v, _ => pure (.value v)
  | add n, t =>
    match t with
    | .value v => do pure (.value (← v.plus n))
    | _ => throw .mismatch
  | display, t => do pure (.value (.str (← t.display)))
  | kind, t => pure (.value (.str t.toValue.kind.name))
  | raise text, _ => throw (.complaint .value text)
  | message, t => do pure (.value (← t.message))
  | prepend text, t => do
    match ← (t.message : Except Fault Value) with
    | .str s => pure (.failure (.plain (.str (text ++ s))))
    | _ => throw .mismatch
  | ok f, t => do
    let u ← f.apply t
    pure (.ok (← Making.tag) u)
  | err content, _ => do pure (.err (← Making.tag) (.failure (.plain content)))
  | tryParse s, t => do
    match ← (s.tryParse env t.toValue).outcome with
    | .ok _ => pure (.ok (← Making.tag) t)
    | .err e => pure (.err (← Making.tag) (.failure e))

end Function

/-! ## Steps -/

inductive Step where
  | map (f : Function)
  | mapErr (f : Function)
  | flatMap (f : Function)
  | andThen (f : Function)
  | orElse (f : Function)
  | isOk
  | isErr
  | unwrap
  | unwrapErr
  | unwrapOr (default : Value)
  | unwrapOrElse (f : Function)
  | fold (onOk onErr : Function)
  | iterate
  | pattern
  | errorText
  | repr
  | equalsOk (v : Value)

/-- What a step tells. -/
inductive Report where
  /-- What a step led to, and whether that is the very result it started from. -/
  | moved (t : Term) (same : Bool)
  | value (t : Term)
  | items (ts : List Term)
  | variant (name : String) (t : Term)

namespace Step

/-- Effects of a step: those of a chain, or a term that is no result in the place of one. -/
abbrev Effect := ExceptT Term Making

/-- A function in the place where a result is due. -/
def toChain (env : Env) (f : Function) (t : Term) : Effect (Result.Object Term Term) := do
  let u ← (f.apply env t : Making Term)
  match u.toObject? with
  | some r => pure r
  | none => throw u

/-- The report of a step that moves, and the result it moves to. -/
def settle (r : Result.Object Term Term) (x : Effect (Result.Object Term Term)) :
    Making (Report × Result.Object Term Term) := do
  match ← x.run with
  | .ok r' => pure (.moved (.ofObject r') (r'.tag == r.tag), r')
  | .error stray => pure (.moved stray false, r)

def complain (e : Term) : Fault :=
  match e.text with
  | .ok text => .unwrappedError text
  | .error fault => fault

def truth (b : Bool) : Report := .value (.value (.bool b))

def run (env : Env) (r : Result.Object Term Term) :
    Step → Making (Report × Result.Object Term Term)
  | map f => settle r (ExceptT.lift (r.map Making.tag (f.apply env)))
  | mapErr f => settle r (ExceptT.lift (r.mapErr Making.tag (f.apply env)))
  | flatMap f => settle r (r.flatMap (toChain env f))
  | andThen f => settle r (r.andThen (toChain env f))
  | orElse f => settle r (r.orElse (toChain env f))
  | isOk => pure (truth r.content.isOk, r)
  | isErr => pure (truth r.content.isErr, r)
  | unwrap => do pure (.value (← r.content.unwrap complain), r)
  | unwrapErr =>
    match r.content.error? with
    | some e => pure (.value e, r)
    | none => throw .noMember
  | unwrapOr default => pure (.value (r.content.unwrapOr (.value default)), r)
  | unwrapOrElse f => do pure (.value (← r.content.unwrapOrElse (f.apply env)), r)
  | fold f g => do pure (.value (← r.content.fold (f.apply env) (g.apply env)), r)
  | iterate => pure (.items r.content.toList, r)
  | pattern =>
    match r.content with
    | .ok t => pure (.variant "Ok" t, r)
    | .err t => pure (.variant "Err" t, r)
  | errorText => do
    match r.content.error? with
    | some e => pure (.value (.value (.str (← e.text))), r)
    | none => throw .noMember
  | repr => do pure (.value (.value (.str (← (Term.ofObject r).repr))), r)
  | equalsOk v =>
    match r.content with
    | .ok t => do pure (truth (← t.equalsValue v), r)
    | .err _ => pure (truth false, r)

end Step
end Conform
