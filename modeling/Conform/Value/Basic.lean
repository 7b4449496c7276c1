import Conform.Numeric.Order

/-! Dynamic values. An atom has no parts; the other values are built from values. A tag tells
apart objects that were made separately: two values are the same object exactly if they are
equal, tags included. All of them are values whose sort can be told; the attributes of an object,
its length and its comparisons may fail to be read. -/

namespace Conform
set_option autoImplicit false

/-- Tells apart objects with equal contents. -/
abbrev Tag := Nat

/-! ## Kinds -/

/-- What a value is at first sight. -/
inductive Kind where
  | undefined
  | null
  | boolean
  | number
  | string
  | symbol
  | function
  | object
  deriving DecidableEq

def Kind.name : Kind → String
  | .undefined => "undefined"
  | .null => "null"
  | .boolean => "boolean"
  | .number => "number"
  | .string => "string"
  | .symbol => "symbol"
  | .function => "function"
  | .object => "object"

/-- Values of these kinds are compared by content, all others by identity. -/
def Kind.isScalar : Kind → Bool
  | .undefined | .null | .boolean | .number | .string => true
  | .symbol | .function | .object => false

/-! ## Values -/

/-- A function that is known by its name alone. -/
inductive Callee where
  | builtin (name : String)
  | cls (path : String)
  | method (name : String)
  deriving DecidableEq

/-- The class of null. -/
def Callee.ofNull : Callee := .cls "NoneType"

inductive Atom where
  | null
  | undefined
  | bool (b : Bool)
  | int (n : Int)
  | float (tag : Tag) (x : Binary64)
  | str (s : String)
  | bytes (tag : Tag) (data : List UInt8)
  | decimal (tag : Tag) (d : Decimal)
  /-- The integers from zero up to `stop`. -/
  | range (tag : Tag) (stop : Int)
  | function (callee : Callee)
  /-- A choice between classes. -/
  | choice (tag : Tag) (classes : List Callee)
  deriving DecidableEq

/-- What comes of putting a question to an object. -/
inductive Answer (α : Type) where
  | unsupported
  | fails (fault : Fault)
  | gives (a : α)
  deriving DecidableEq

/-- An unsupported question is a mismatch. -/
def Answer.get {α : Type} : Answer α → Except Fault α
  | .unsupported => .error .mismatch
  | .fails fault => .error fault
  | .gives a => .ok a

/-- What an object says when it is compared: something of its own to certain atoms, and one thing to
every other operand. -/
structure Response where
  toAtoms : List (Atom × Answer Bool)
  otherwise : Answer Bool
  deriving DecidableEq

/-- The same to every operand. -/
def Response.always (answer : Answer Bool) : Response := ⟨[], answer⟩

/-- How an object behaves, its attributes apart. -/
structure Traits where
  /-- The attributes whose reading fails. -/
  raising : List String
  callable : Bool
  text : Answer String
  length : Answer Nat
  /-- Whether the object is at least the other operand, and so on. -/
  atLeast : Response
  atMost : Response
  above : Response
  below : Response
  deriving DecidableEq

/-- An object that is nothing but its attributes. -/
def Traits.plain : Traits where
  raising := []
  callable := false
  text := .unsupported
  length := .unsupported
  atLeast := .always .unsupported
  atMost := .always .unsupported
  above := .always .unsupported
  below := .always .unsupported

/-- The forms of schema, as a schema shows itself among values. -/
inductive Form where
  | kind
  | bigint
  | nullable
  | undefinable
  | literal
  | oneOf
  | oneOfType
  | shape
  | array
  | union
  | intersection
  | bounded
  | lengthBounded
  | exactLength
  | predicate
  deriving DecidableEq

inductive Value where
  | atom (a : Atom)
  /-- A token that equals nothing but itself; the description is null if there is none. -/
  | symbol (tag : Tag) (description : Value)
  | list (tag : Tag) (items : List Value)
  | tuple (tag : Tag) (items : List Value)
  /-- Entries in the order of insertion. -/
  | dict (tag : Tag) (entries : List (Value × Value))
  /-- A read-only mapping; looking up one of the `raising` keys fails. -/
  | mapping (tag : Tag) (entries : List (Value × Value)) (raising : List String)
  | object (tag : Tag) (attributes : List (String × Value)) (traits : Traits)
  | schema (tag : Tag) (form : Form) (parts : List Value)

namespace Value

@[match_pattern] abbrev null : Value := .atom .null
@[match_pattern] abbrev undefined : Value := .atom .undefined
@[match_pattern] abbrev bool (b : Bool) : Value := .atom (.bool b)
@[match_pattern] abbrev int (n : Int) : Value := .atom (.int n)
@[match_pattern] abbrev str (s : String) : Value := .atom (.str s)

instance : Inhabited Value := ⟨null⟩

def isNull : Value → Bool
  | null => true
  | _ => false

def isUndefined : Value → Bool
  | undefined => true
  | _ => false

/-- An integer, which a truth value is not. -/
def isInteger : Value → Bool
  | int _ => true
  | _ => false

/-- The elements of a list or a tuple. -/
def elements? : Value → Option (List Value)
  | list _ xs => some xs
  | tuple _ xs => some xs
  | _ => none

end Value

/-! ## Classification -/

def Atom.kind : Atom → Kind
  | .null => .null
  | .undefined => .undefined
  | .bool _ => .boolean
  | .int _ | .float .. => .number
  | .str _ => .string
  | .bytes .. | .decimal .. | .range .. | .choice .. => .object
  | .function _ => .function

def Value.kind : Value → Kind
  | .atom a => a.kind
  | .symbol .. => .symbol
  | .object _ _ traits => if traits.callable then .function else .object
  | .schema .. => .function
  | .list .. | .tuple .. | .dict .. | .mapping .. => .object

/-- An atom as a number; a truth value counts as one or zero. -/
def Atom.number? : Atom → Option Number
  | .bool b => some (.int (if b then 1 else 0))
  | .int n => some (.int n)
  | .float _ x => some (.float x)
  | .decimal _ d => some (.decimal d)
  | _ => none

def Value.number? : Value → Option Number
  | .atom a => a.number?
  | _ => none

end Conform
