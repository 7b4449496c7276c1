import Conform.Schema.Basic

/-! A schema among values: a record of its parts. So it can be shown, stored and compared like
any other value; two schemas are equal if their records are. -/

namespace Conform
set_option autoImplicit false

/-- A supplied function, as far as it can be told from another one. -/
def Callback.toValue : Callback → Value
  | .named name => .str name
  | .watched tag _ => .int tag

namespace Schema

mutual

/-- The record of a schema. Parts carry no tag of their own: inside a record they are compared by
their contents. -/
def toValue (tag : Tag) : Schema → Value
  | .kind name => .schema tag .kind [.str name]
  | .unnamedKind x => .schema tag .kind [x]
  | .bigint => .schema tag .bigint []
  | .nullable s => .schema tag .nullable [toValue 0 s]
  | .undefinable s => .schema tag .undefinable [toValue 0 s]
  | .literal x => .schema tag .literal [x]
  | .oneOf xs => .schema tag .oneOf [.tuple 0 xs]
  | .oneOfType s xs => .schema tag .oneOfType [toValue 0 s, .tuple 0 xs]
  | .shape fs => .schema tag .shape [.tuple 0 (fieldValues fs)]
  | .array s => .schema tag .array [toValue 0 s]
  | .union ss => .schema tag .union [.tuple 0 (memberValues ss)]
  | .intersection ss => .schema tag .intersection [.tuple 0 (memberValues ss)]
  | .bounded s lower upper => .schema tag .bounded [toValue 0 s, lower, upper]
  | .lengthBounded s lower upper => .schema tag .lengthBounded [toValue 0 s, lower, upper]
  | .exactLength s size => .schema tag .exactLength [toValue 0 s, size]
  | .predicate t d => .schema tag .predicate [t.toValue, d.toValue]
  | .foreign v => v

def memberValues : List Schema → List Value
  | [] => []
  | s :: ss => toValue 0 s :: memberValues ss

def fieldValues : List (Value × Schema) → List Value
  | [] => []
  | (key, s) :: fs => .tuple 0 [key, toValue 0 s] :: fieldValues fs

end

/-- Equality of content. -/
def equals (s t : Schema) : Except Fault Bool := (s.toValue 0).equals (t.toValue 0)

end Schema
end Conform
