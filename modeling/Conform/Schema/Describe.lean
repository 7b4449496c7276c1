import Conform.Schema.Basic
import Conform.Value.Text

/-! Describing why a schema does not hold of a value. The descriptions of members and of options
are the items of a series. The description of a predicate, or by a value in the place of a schema,
may be any value; all others are texts. Inside a text a description is written by `Value.text`, in
a list of reasons every description has to be a string. -/

namespace Conform
set_option autoImplicit false

namespace Describe

def expected (what got : String) : Value := .str ("Expected " ++ what ++ ", got " ++ got)

def strings? : List Value → Option (List String)
  | [] => some []
  | .str s :: vs => (strings? vs).map (s :: ·)
  | _ => none

/-- The reasons, separated by commas. -/
def reasons (vs : List Value) : Except Fault String :=
  match strings? vs with
  | some ss => .ok (joined ", " ss)
  | none => .error .mismatch

def displayed : List Value → Except Fault (List String)
  | [] => .ok []
  | v :: vs => do
    let t ← v.display
    let ts ← displayed vs
    .ok (t :: ts)

/-- A description with the bounds behind it. -/
def bounds (what lower upper : Value) (suffix : String) : Except Fault String := do
  let inner ← what.text
  if lower.isNull then
    .ok (inner ++ suffix ++ " <= " ++ (← upper.display))
  else if upper.isNull then
    .ok (inner ++ suffix ++ " >= " ++ (← lower.display))
  else do
    let low ← lower.display
    let high ← upper.display
    .ok (inner ++ suffix ++ " >= " ++ low ++ " && <= " ++ high)

end Describe

namespace Schema
open Describe

variable (env : Env)

mutual

def describe : Schema → Value → Run Fault Value
  | .kind name, v => pure (expected name v.kind.name)
  | .unnamedKind x, v => Run.lift do .ok (expected (← x.text) v.kind.name)
  | .bigint, v => pure (expected "bigint" v.kind.name)
  | .nullable s, v => do
    let inner ← describe s v
    let text ← Run.lift inner.text
    pure (expected ("null or " ++ text) v.kind.name)
  | .undefinable s, v => do
    let inner ← describe s v
    let text ← Run.lift inner.text
    pure (expected ("undefined or " ++ text) v.kind.name)
  | .literal x, v => Run.lift do
    let want ← x.display
    let got ← v.display
    .ok (expected want got)
  | .oneOf xs, v => Run.lift do
    let wants ← (displayed xs).mapError Fault.inSeries
    let got ← v.display
    .ok (expected ("one of " ++ joined ", " wants) got)
  | .oneOfType s xs, v => do
    let wants ← Run.collect (fun x => (describe s x).inSeries) xs
    Run.lift do
      let text ← reasons wants
      let got ← v.display
      .ok (expected ("one of " ++ text) got)
  | .shape _, v => pure (expected "object" v.kind.name)
  | .array _, v => pure (expected "array" v.kind.name)
  | .union ss, v => do
    let whys ← describeAll ss v
    Run.lift do
      let text ← reasons whys
      let got ← v.display
      .ok (expected ("one of " ++ text) got)
  | .intersection ss, v => do
    let whys ← describeAll ss v
    Run.lift do
      let text ← reasons whys
      let got ← v.display
      .ok (expected ("intersection of " ++ text) got)
  | .bounded s lower upper, v => do
    let inner ← describe s v
    Run.lift do
      let want ← bounds inner lower upper ""
      let got ← v.display
      .ok (expected want got)
  | .lengthBounded s lower upper, v => do
    let inner ← describe s v
    Run.lift do
      let want ← bounds inner lower upper ".length"
      let got ← v.display
      .ok (expected want got)
  | .exactLength s size, v => do
    let inner ← describe s v
    Run.lift do
      let text ← inner.text
      let want ← size.text
      let got ← v.display
      .ok (expected (text ++ ".length === " ++ want) got)
  | .predicate _ d, v => do
    Run.call ⟨.describe, d⟩
    env.describe d v
  | .foreign x, v => env.ask x "describe_failure" v

/-- Every description, in order. -/
def describeAll : List Schema → Value → Run Fault (List Value)
  | [], _ => pure []
  | s :: ss, v => do
    let d ← (describe s v).inSeries
    let ds ← describeAll ss v
    pure (d :: ds)

end
end Schema
end Conform
