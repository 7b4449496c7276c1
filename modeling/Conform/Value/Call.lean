import Conform.Numeric.Precision
import Conform.Text.Numeral
import Conform.Value.Attribute
import Conform.Value.Hash
import Conform.Value.Number
import Conform.Value.Text

/-! The library's own names, and the calling of values. The functions for length and magnitude take
one argument; a class makes one of its values, out of nothing or out of an argument. Everything
else cannot be called, or not with these arguments. -/

namespace Conform
set_option autoImplicit false

/-! ## The library -/

namespace Release

def name : String := "minischema"
def version : String := "0.1.0"

/-- The public names, sorted. -/
def exports : List String :=
  ["AppError", "BoundaryValidator", "Err", "ErrorCode", "Ok", "Predicate", "Result", "Symbol",
    "UNDEFINED", "ValidationError", "Validator", "__version__", "array", "bigint", "boolean",
    "configure_logging", "create_validator", "display", "get_logger", "intersection", "kind_of",
    "length", "literal", "max_", "max_length", "min_", "min_length", "nullable", "number",
    "object_", "one_of", "one_of_type", "parse", "parse_unknown", "range_", "range_length",
    "strict_equals", "string", "symbol", "try_parse", "undefinable", "union", "validates"]

end Release

/-- The class of symbols. -/
def Callee.symbols : Callee := .cls (Release.name ++ ".validation.base.Symbol")

namespace Value

/-! ## Without arguments -/

/-- An object that can be called gives nothing. -/
def callEmpty : Value → Except Fault Value
  | .atom (.function (.cls "int")) => .ok (.int 0)
  | .atom (.function (.cls "str")) => .ok (.str "")
  | .atom (.function (.cls "dict")) => .ok (.dict 0 [])
  | .atom (.function callee) =>
    if callee = .symbols then .ok (.symbol 0 .null) else .error .mismatch
  | .object _ _ traits => if traits.callable then .ok .null else .error .mismatch
  | _ => .error .mismatch

/-- Calls what is found under a name, without arguments. -/
def callMember (v : Value) (name : String) : Except Fault Value := do
  (← v.attributeNamed name).callEmpty

/-- Nothing can be taken one by one from an answer but from an empty dictionary or text. -/
def isEmptySeries : Value → Bool
  | .dict _ [] | .atom (.str "") => true
  | _ => false

/-! ## Integers -/

def toInteger : Value → Except Fault Int
  | .atom (.str s) => integerOfText s
  | .atom (.bytes _ data) => integerOfBytes data
  | v => v.wholePart

def magnitude (v : Value) : Except Fault Value :=
  match v.number? with
  | some (.int n) => .ok (.int n.natAbs)
  | some (.float x) => .ok (.atom (.float 0 ⟨UInt64.ofNat (x.bits.toNat % Nat.pow 2 63)⟩))
  | some (.decimal d) => do .ok (.atom (.decimal 0 (← d.abs)))
  | none => .error .mismatch

/-! ## Dictionaries -/

def letters (s : String) : List Value := s.toList.map fun c => .str (String.singleton c)
def numbers (bs : List UInt8) : List Value := bs.map fun b => .int b.toNat

/-- The elements of a series, of which a range has only the first few. -/
def series : Value → Option (List Value × Nat)
  | .list _ xs | .tuple _ xs => some (xs, xs.length)
  | .dict _ es | .mapping _ es _ => some (es.map (·.1), es.length)
  | .atom (.str s) => some (letters s, s.length)
  | .atom (.bytes _ bs) => some (numbers bs, bs.length)
  | .atom (.range _ stop) =>
    some ((List.range (min stop.toNat 2)).map fun n => .int (n : Nat), stop.toNat)
  | _ => none

/-- An entry given as a series of a key and a value, the `index`th of such. -/
def toEntry (index : Nat) (v : Value) : Except Fault (Value × Value) :=
  match v.series with
  | none => .error .mismatch
  | some ([key, value], 2) => do .ok (← key.asKey, value)
  | some (_, count) => .error (.noEntry index count)

def toEntries (index : Nat) : List Value → Except Fault (List (Value × Value))
  | [] => .ok []
  | v :: vs => do
    let e ← v.toEntry index
    let es ← toEntries (index + 1) vs
    .ok (e :: es)

/-- The entries of a mapping that can be read to the end. -/
def readEntries (es : List (Value × Value)) (raising : List String) : Except Fault Entries :=
  if unreadable es raising then .error .lookupFailed else .ok es

/-- The entries of a value that offers its keys: a dictionary, a mapping, or an object without
any keys. -/
def keyedEntries : Value → Except Fault Entries
  | .dict _ es => .ok es
  | .mapping _ es raising => readEntries es raising
  | v => do
    if (← v.callMember "keys").isEmptySeries then .ok [] else .error .mismatch

/-- The entries of a dictionary made of a value: one that offers its keys, or a series of
entries. -/
def dictionaryEntries (v : Value) : Except Fault Entries :=
  match v.keyedEntries with
  | .error .noMember =>
    match v.series with
    | some (vs, _) => do .ok (.ofList (← toEntries 0 vs))
    | none => .error .mismatch
  | r => r

/-! ## With arguments -/

def callWith (f v : Value) : Except Fault Value :=
  match f with
  | .atom (.function (.builtin "len")) => do .ok (.int (← v.length))
  | .atom (.function (.builtin "abs")) => v.magnitude
  | .atom (.function (.cls "int")) => do .ok (.int (← v.toInteger))
  | .atom (.function (.cls "str")) => do .ok (.str (← v.text))
  | .atom (.function (.cls "dict")) => do .ok (.dict 0 (← v.dictionaryEntries))
  | .atom (.function callee) =>
    if callee = .symbols then .ok (.symbol 0 v) else .error .mismatch
  | _ => .error .mismatch

def call (f : Value) : List Value → Except Fault Value
  | [] => f.callEmpty
  | [v] => f.callWith v
  | _ => .error .mismatch

/-! ## Arguments by name -/

/-- Entries looked up one after the other. A name that is taken cannot be given again, which shows
before its entry is looked up. -/
def readUntaken (taken raising : List String) :
    List (Value × Value) → Except Fault (List (Value × Value))
  | [] => .ok []
  | e :: es =>
    if taken.any fun name => e.1 = .str name then .error .mismatch
    else if raising.any fun name => e.1 = .str name then .error .lookupFailed
    else do .ok (e :: (← readUntaken taken raising es))

/-- A value spread into arguments by name, besides names that are taken; it has to offer its keys,
and these have to be names. -/
def namedArguments (taken : List String) (v : Value) : Except Fault (List (String × Value)) := do
  let es ← match v with
    | .mapping _ es raising => readUntaken taken raising es
    | v =>
      match v.keyedEntries with
      | .error .noMember => .error .mismatch
      | r => r.bind (readUntaken taken [])
  es.mapM fun e => match e.1 with
    | .str name => .ok (name, e.2)
    | _ => .error .mismatch

end Value
end Conform
