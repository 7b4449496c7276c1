import Conform.Value.Length
import Conform.Text.Numeral

/-! Values as text. `repr` is the form inside containers, where strings are quoted; `text` is the
form on its own; `display` is the form in messages, which writes null, undefined and truth values
in lower case and whole floats below 10^21 without a point. -/

namespace Conform
set_option autoImplicit false

/-! ## Forms of schema -/

def Form.name : Form → String
  | .kind => "KindValidator"
  | .bigint => "BigIntValidator"
  | .nullable => "Nullable"
  | .undefinable => "Undefinable"
  | .literal => "Literal"
  | .oneOf => "OneOf"
  | .oneOfType => "OneOfType"
  | .shape => "ObjectShape"
  | .array => "ArrayOf"
  | .union => "Union"
  | .intersection => "Intersection"
  | .bounded => "Bounded"
  | .lengthBounded => "LengthBounded"
  | .exactLength => "ExactLength"
  | .predicate => "Predicate"

/-- The names of the parts that are shown; a predicate shows none. -/
def Form.fieldNames : Form → List String
  | .kind => ["kind"]
  | .bigint | .predicate => []
  | .nullable | .undefinable => ["inner"]
  | .literal => ["expected"]
  | .oneOf => ["options"]
  | .oneOfType => ["type_validator", "options"]
  | .shape => ["fields"]
  | .array => ["item"]
  | .union | .intersection => ["validators"]
  | .bounded | .lengthBounded => ["inner", "minimum", "maximum"]
  | .exactLength => ["inner", "size"]

/-! ## Atoms -/

def Callee.text : Callee → String
  | .builtin name => "<built-in function " ++ name ++ ">"
  | .cls path => "<class '" ++ path ++ "'>"
  | .method name => "<method " ++ name ++ ">"

/-- A class as it is named in a choice, null standing for its class. -/
def Callee.choiceText : Callee → String
  | .cls path => if Callee.cls path = .ofNull then "None" else path
  | callee => callee.text

def Atom.repr : Atom → Except Fault String
  | .null => .ok "None"
  | .undefined => .ok "UNDEFINED"
  | .bool b => .ok (if b then "True" else "False")
  | .int n => integerText n
  | .float _ x => .ok x.text
  | .str s => .ok (quoted s)
  | .bytes _ data => .ok (quotedBytes data)
  | .decimal _ d => .ok ("Decimal('" ++ d.text ++ "')")
  | .range _ stop => do .ok ("range(0, " ++ (← integerText stop) ++ ")")
  | .function callee => .ok callee.text
  | .choice _ classes => .ok (" | ".intercalate (classes.map Callee.choiceText))

/-! ## Values -/

/-- Texts with a separator between any two. -/
def joined (separator : String) (texts : List String) : String := separator.intercalate texts

/-- A field of a record. -/
def fieldText (name text : String) : String := name ++ "=" ++ text

namespace Value

/-- A string and a decimal stand for themselves, other values for a text that is given. -/
def textOr (other : String) : Value → String
  | .atom (.str s) => s
  | .atom (.decimal _ d) => d.text
  | _ => other

mutual

def repr : Value → Except Fault String
  | .atom a => a.repr
  | .symbol _ description => do
    if ← description.truthy then
      .ok ("Symbol(" ++ textOr (← repr description) description ++ ")")
    else .ok "Symbol()"
  | .list _ xs => do .ok ("[" ++ joined ", " (← reprAll xs) ++ "]")
  | .tuple _ xs => do
    match ← reprAll xs with
    | [x] => .ok ("(" ++ x ++ ",)")
    | texts => .ok ("(" ++ joined ", " texts ++ ")")
  | .dict _ es => do .ok ("\x7b" ++ joined ", " (← reprEntries es) ++ "\x7d")
  | .mapping .. => .ok "<OddMapping>"
  | .object _ _ traits => traits.text.get
  | .schema _ form parts => do
    .ok (form.name ++ "(" ++ joined ", " (← reprFields form.fieldNames parts) ++ ")")

def reprAll : List Value → Except Fault (List String)
  | [] => .ok []
  | x :: xs => do
    let t ← repr x
    let ts ← reprAll xs
    .ok (t :: ts)

def reprEntries : List (Value × Value) → Except Fault (List String)
  | [] => .ok []
  | (k, v) :: es => do
    let s ← repr k
    let t ← repr v
    let ts ← reprEntries es
    .ok ((s ++ ": " ++ t) :: ts)

/-- The parts that have a name. -/
def reprFields (names : List String) : List Value → Except Fault (List String)
  | [] => .ok []
  | x :: xs =>
    match names with
    | [] => .ok []
    | name :: names => do
      let t ← repr x
      let ts ← reprFields names xs
      .ok (fieldText name t :: ts)

end

/-- The form of a value on its own. -/
def text : Value → Except Fault String
  | .atom (.str s) => .ok s
  | .atom (.decimal _ d) => .ok d.text
  | v => v.repr

/-! ## Messages -/

end Value

/-- `± m * 2 ^ e` is whole. -/
def Binary64.isWhole (m : Nat) (e : Int) : Bool := 0 ≤ e || m % Nat.pow 2 (-e).toNat == 0

/-- The whole number `± m * 2 ^ e`. -/
def Binary64.whole (negative : Bool) (m : Nat) (e : Int) : Int :=
  let n : Nat := m * Nat.pow 2 e.toNat / Nat.pow 2 (-e).toNat
  if negative then -(n : Int) else n

def Binary64.display (x : Binary64) : String :=
  match x.unpack with
  | .nan => "NaN"
  | .infinite negative => if negative then "-Infinity" else "Infinity"
  | .finite negative m e =>
    let n := whole negative m e
    if isWhole m e && n.natAbs < Nat.pow 10 21 then toString n else x.text

def Value.display : Value → Except Fault String
  | .null => .ok "null"
  | .undefined => .ok "undefined"
  | .bool b => .ok (if b then "true" else "false")
  | .atom (.float _ x) => .ok x.display
  | v => v.text

end Conform
