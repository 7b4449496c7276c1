import Conform.Schema.Record
import Conform.Proofs.InTurn
import Conform.Proofs.Schema.Context
import Conform.Proofs.Value.Substitution

/-! Shapes in an intersection. Two shapes that share no key are tested like one shape with the
fields of both: the second question for the kind has the answer of the first, and no field is asked
twice. With keys in common there is one shape, too, that accepts the same; it asks for both schemas
at once under a key that both have. -/

namespace Conform
set_option autoImplicit false

namespace Schema

variable {env : Env}

/-! ## Fields of a shape -/

section InsertFields

variable {fs gs : List (Value × Schema)} {key : Value} {s : Schema}

end InsertFields

/-! ## Shapes without common keys -/

/-- The schema under a key. -/
def schemaAt (key : Value) (fs : List (Value × Schema)) : Option Schema :=
  (fs.find? fun f => f.1.keyMatches key).map (·.2)

/-- The fields of both lists. Under a key that both have, both schemas are asked at once. -/
def merge (fs gs : List (Value × Schema)) : List (Value × Schema) :=
  fs.map (fun f => (f.1, match schemaAt f.1 gs with
    | some t => .intersection [f.2, t]
    | none => f.2)) ++
  gs.filter fun g => (schemaAt g.1 fs).isNone

section Merge

variable {fs gs : List (Value × Schema)} {key : Value} {s t : Schema} {v : Value}

end Merge

end Schema
end Conform
