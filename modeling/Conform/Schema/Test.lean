import Conform.Schema.Basic
import Conform.Value.Attribute
import Conform.Value.Length

/-! Testing a value against a schema. Members of unions and intersections, fields of shapes and
elements of arrays are tested in order, up to the first that decides; their answers, found to be
true or not, are the items of a series. A refinement tests its inner schema first. `verdict` is the
answer of a test as it was given, `test` its truth. -/

namespace Conform
set_option autoImplicit false

namespace Schema

variable (env : Env)

mutual

def test : Schema → Value → Run Fault Bool
  | .kind name, v => pure (v.kind.name == name)
  | .unnamedKind _, _ => pure false
  | .bigint, v => pure v.isInteger
  | .nullable s, v => if v.isNull then pure true else test s v
  | .undefinable s, v => if v.isUndefined then pure true else test s v
  | .literal x, v => pure (v.strictEquals x)
  | .oneOf xs, v => pure (xs.any fun x => v.strictEquals x)
  | .oneOfType _ xs, v => pure (xs.any fun x => v.strictEquals x)
  | .shape fs, v => if v.kind = .object then testFields fs v else pure false
  | .array s, v =>
    match v.elements? with
    | some xs => Run.forAll (fun x => (test s x).inSeries) xs
    | none => pure false
  | .union ss, v => testAny ss v
  | .intersection ss, v => testAll ss v
  | .bounded s lower upper, v => do
    if ← test s v then pure (v.satisfies .atLeast lower && v.satisfies .atMost upper)
    else pure false
  | .lengthBounded s lower upper, v => do
    if ← test s v then Run.lift (v.lengthWithin lower upper) else pure false
  | .exactLength s size, v => do
    if ← test s v then pure (v.hasLength size) else pure false
  | .predicate t _, v => do
    Run.call ⟨.test, t⟩
    let answer ← env.test t v
    Run.lift answer.truthy
  | .foreign x, v => do
    let answer ← env.ask x "test" v
    Run.lift answer.truthy

def testAny : List Schema → Value → Run Fault Bool
  | [], _ => pure false
  | s :: ss, v => do if ← (test s v).inSeries then pure true else testAny ss v

def testAll : List Schema → Value → Run Fault Bool
  | [], _ => pure true
  | s :: ss, v => do if ← (test s v).inSeries then testAll ss v else pure false

def testFields : List (Value × Schema) → Value → Run Fault Bool
  | [], _ => pure true
  | (key, s) :: fs, v => do
    if ← (test s (v.field key)).inSeries then testFields fs v else pure false

end

/-- The answer of a test. A value in the place of a schema answers with any value, which an
optional schema hands on. -/
def verdict : Schema → Value → Run Fault Value
  | .nullable s, v => if v.isNull then pure (.bool true) else verdict s v
  | .undefinable s, v => if v.isUndefined then pure (.bool true) else verdict s v
  | .foreign x, v => env.ask x "test" v
  | s, v => Value.bool <$> s.test env v

/-- A schema as a function: the call is the test. A value in its place is called itself. -/
def call : Schema → Value → Run Fault Value
  | .foreign x, v => env.call x [v]
  | s, v => s.verdict env v

end Schema
end Conform
