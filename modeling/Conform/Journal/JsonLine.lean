import Conform.Value.Call

/-! Events as lines of JSON. Keys are sorted, every character beyond ASCII is escaped by its
16-bit units, and what JSON cannot hold is written as a string, unless it offers a value to be
written in its place. -/

namespace Conform
set_option autoImplicit false

namespace JsonLine

/-! ## Strings -/

def unit (n : Nat) : List Char := '\\' :: 'u' :: Quoted.hex 4 n

def escape (c : Char) : List Char :=
  let n := c.toNat
  match c with
  | '"' => ['\\', '"']
  | '\\' => ['\\', '\\']
  | '\n' => ['\\', 'n']
  | '\r' => ['\\', 'r']
  | '\t' => ['\\', 't']
  | c =>
    if n = 8 then ['\\', 'b']
    else if n = 12 then ['\\', 'f']
    else if 32 ≤ n && n < 127 then [c]
    else if n < 0x10000 then unit n
    else unit (0xD800 + (n - 0x10000) / 0x400) ++ unit (0xDC00 + (n - 0x10000) % 0x400)

def string (s : String) : String := String.ofList ('"' :: (s.toList.flatMap escape ++ ['"']))

def float (x : Binary64) : String :=
  match x.unpack with
  | .nan => "NaN"
  | .infinite negative => if negative then "-Infinity" else "Infinity"
  | .finite .. => x.text

/-! ## Objects -/

/-- A key as a string; only scalars can be keys. -/
def key : Value → Except Fault String
  | .str s => .ok s
  | .null => .ok "null"
  | .bool b => .ok (if b then "true" else "false")
  | .int n => integerText n
  | .atom (.float _ x) => .ok (float x)
  | _ => .error .mismatch

/-- Puts a text into a sorted list, in the place of one with the same key. -/
def put (k text : String) : List (String × String) → List (String × String)
  | [] => [(k, text)]
  | e :: es =>
    if k = e.1 then (k, text) :: es
    else if k < e.1 then (k, text) :: e :: es
    else e :: put k text es

def sorted (es : List (String × String)) : List (String × String) :=
  es.foldl (fun acc e => put e.1 e.2 acc) []

def braces (es : List (String × String)) : String :=
  "\x7b" ++ joined ", " ((sorted es).map fun e => string e.1 ++ ": " ++ e.2) ++ "\x7d"

/-! ## Values -/

def atom : Atom → Except Fault String
  | .null => .ok "null"
  | .bool b => .ok (if b then "true" else "false")
  | .int n => integerText n
  | .float _ x => .ok (float x)
  | .str s => .ok (string s)
  | a => a.repr.map string

/-- The function by which an object offers a value in its place. -/
def offer : String := "__structlog__"

/-- What JSON cannot hold: the value that is offered, which has no parts, or the text. -/
def foreign (v : Value) : Except Fault String :=
  match v.attributeNamed offer with
  | .error .noMember => v.repr.map string
  | .error fault => .error fault
  | .ok f => do
    match ← f.callEmpty with
    | .atom a => atom a
    | .dict .. => .ok (braces [])
    | w => w.repr.map string

mutual

def render : Value → Except Fault String
  | .atom a => atom a
  | .list _ xs => do .ok ("[" ++ joined ", " (← renderItems xs) ++ "]")
  | .tuple _ xs => do .ok ("[" ++ joined ", " (← renderItems xs) ++ "]")
  | .dict _ es => do .ok (braces (← renderEntries es))
  | v => foreign v

def renderItems : List Value → Except Fault (List String)
  | [] => .ok []
  | x :: xs => do
    let t ← render x
    let ts ← renderItems xs
    .ok (t :: ts)

def renderEntries : List (Value × Value) → Except Fault (List (String × String))
  | [] => .ok []
  | (k, v) :: es => do
    let s ← key k
    let t ← render v
    let ts ← renderEntries es
    .ok ((s, t) :: ts)

end
end JsonLine
end Conform
